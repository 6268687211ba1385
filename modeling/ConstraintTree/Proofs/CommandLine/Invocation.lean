import ConstraintTree.Proofs.CommandLine.Scan

/-!
Invocations of the commands that work on a file, as a user means them: flags on either side of the verb,
the file behind it, and the wish for strictness, in any order. Exactly they are read as such commands, and
what is read is what their flags say.
-/
namespace ConstraintTree.CommandLine

/-- Behind a verb, two dashes may end the options. Then only files follow. -/
inductive Closing : List Part → List String → Prop where
  | nothing : Closing [] []
  | dashes (named : ∀ path ∈ paths, path ≠ "") : Closing (paths.map Part.file) ("--" :: paths)

/-- No option is given twice, there is one file at most, and a schema is not both given and declined. -/
structure Proper (parts : List Part) : Prop where
  once : (parts.map Part.choice?).Nodup
  agreed : .unqualified ∈ parts → parts.filterMap Part.schema? = []

def Command.said? (verb : Verb) (parts : List Part) : Option Command :=
  match verb, (parts.filterMap Part.file?).getLast? with
  | .render, some path => some (.render path (.strict ∈ parts))
  | .check, some path => some (.check path)
  | _, _ => none

/-- Arguments that give a command together with flags. -/
inductive Invocation : List Part → Command → List String → Prop where
  | intro {before after last : List Part} (ahead : Written none before front)
      (behind : Written (some verb) after back) (closing : Closing last stop)
      (properAhead : Proper before) (properBehind : Proper (after ++ last))
      (said : Command.said? verb (after ++ last) = some command) :
      Invocation ((before ++ (after ++ last)).filter Part.isFlag) command
        (front ++ verb.name :: (back ++ stop))

end ConstraintTree.CommandLine

namespace ConstraintTree

open CommandLine

/-- The dialect that flags ask for. The last schema counts, unless none is wanted. -/
def Dialect.said (flags : List Part) : Dialect where
  schema :=
    if .unqualified ∈ flags then none
    else some ((flags.filterMap Part.schema?).getLast?.getD "MDSYS")
  notEqual := if .bang ∈ flags then .bang else .standard

def CommandLine.Settings.said (flags : List Part) : Settings where
  dialect := Dialect.said flags
  debug := .debug ∈ flags

namespace CommandLine

/-! Files behind two dashes. -/

private theorem foldlM_place {given : Given} {past : List Part} (operative : verb.takesOperand = true)
    (told : given.Says past) (paths : List String) (named : ∀ path ∈ paths, path ≠ "")
    (once : ((past ++ paths.map Part.file).map Part.choice?).Nodup) :
    ∃ after, paths.foldlM (Given.place verb) given = .ok after ∧
      after.Says (past ++ paths.map Part.file) := by
  induction paths generalizing given past with
  | nil => exact ⟨given, rfl, by simpa using told⟩
  | cons path paths ih =>
    have new : (Part.file path).choice? ∉ past.map Part.choice? := by
      rw [List.map_append, List.nodup_append] at once
      exact fun member => once.2.2 _ member _ (by simp) rfl
    have nonempty : Part.file path ≠ .file "" := fun empty =>
      named path List.mem_cons_self (Part.file.inj empty)
    obtain ⟨taken, taking, saysNext⟩ := told.take_new nonempty new
    obtain ⟨after, placed, saysAfter⟩ := ih saysNext
      (fun other member => named other (List.mem_cons_of_mem path member)) (by simpa using once)
    refine ⟨after, ?_, by simpa using saysAfter⟩
    rw [List.foldlM_cons]
    exact bind_ok.mpr ⟨taken, (Given.place_eq_take operative given path).trans taking, placed⟩

private theorem of_foldlM_place {given after : Given} {past : List Part}
    (operative : verb.takesOperand = true)
    (told : given.Says past) (once : (past.map Part.choice?).Nodup) (paths : List String)
    (placed : paths.foldlM (Given.place verb) given = .ok after) :
    (∀ path ∈ paths, path ≠ "") ∧ after.Says (past ++ paths.map Part.file) ∧
      ((past ++ paths.map Part.file).map Part.choice?).Nodup := by
  induction paths generalizing given past with
  | nil =>
    obtain rfl := Except.ok.inj placed
    exact ⟨by simp, by simpa using told, by simpa using once⟩
  | cons path paths ih =>
    rw [List.foldlM_cons] at placed
    obtain ⟨taken, taking, placedThen⟩ := bind_ok.mp placed
    have named : path ≠ "" := by
      rintro rfl
      simp [Given.place] at taking
    rw [Given.place_eq_take operative] at taking
    obtain ⟨saysNext, onceNext⟩ :=
      told.of_take (fun empty => named (Part.file.inj empty)) once taking
    obtain ⟨others, saysAfter, onceAfter⟩ := ih saysNext onceNext placedThen
    exact ⟨List.forall_mem_cons.mpr ⟨named, others⟩, by simpa using saysAfter,
      by simpa using onceAfter⟩

/-! Both sides of the verb. -/

private theorem readAfter_written (operative : verb.takesOperand = true)
    (behind : Written (some verb) after back) (closing : Closing last stop)
    (once : ((after ++ last).map Part.choice?).Nodup) :
    ∃ given, readAfter verb (back ++ stop) = .ok given ∧ given.Says (after ++ last) := by
  have start : ({} : Reading).settle = .ok {} := rfl
  have onceAfter : (([] ++ after).map Part.choice?).Nodup := by
    rw [List.map_append, List.nodup_append] at once
    exact once.1
  obtain ⟨reading, given, settled, told, scanned⟩ :=
    scan_written behind start Given.says_nothing onceAfter
  cases closing with
  | nothing =>
    refine ⟨given, ?_, by simpa using told⟩
    rw [readAfter, scanned]
    exact bind_ok.mpr ⟨_, rfl, bind_ok.mpr ⟨given, settled, rfl⟩⟩
  | @dashes paths named =>
    obtain ⟨final, placed, saysFinal⟩ := foldlM_place operative told paths named once
    refine ⟨final, ?_, saysFinal⟩
    rw [readAfter, scanned]
    exact bind_ok.mpr ⟨_, rfl, bind_ok.mpr ⟨given, settled, placed⟩⟩

private theorem of_readAfter (operative : verb.takesOperand = true)
    (read : readAfter verb arguments = .ok given) : ∃ after last back stop,
      arguments = back ++ stop ∧ Written (some verb) after back ∧ Closing last stop ∧
        given.Says (after ++ last) ∧ ((after ++ last).map Part.choice?).Nodup := by
  have calm : some verb ≠ some .demo := by
    intro same
    obtain rfl := Option.some.inj same
    cases operative
  obtain ⟨⟨reading, rest⟩, scanned, readThen⟩ := bind_ok.mp read
  obtain ⟨middle, settled, placed⟩ := bind_ok.mp readThen
  obtain ⟨after, back, rfl, written, told, once⟩ :=
    of_scan calm arguments scanned settled rfl Given.says_nothing (by simp)
  rcases scan_rest _ scanned with rfl | ⟨token, paths, rfl, ended⟩
  · obtain rfl := Except.ok.inj placed
    exact ⟨after, [], back, [], rfl, written, .nothing, by simpa using told, by simpa using once⟩
  · obtain rfl := separator_of_advance ended
    obtain ⟨named, saysLast, onceLast⟩ := of_foldlM_place operative told once paths placed
    exact ⟨after, paths.map Part.file, back, "--" :: paths, rfl, written, .dashes named, saysLast,
      onceLast⟩

private theorem readArguments_written (ahead : Written none before front)
    (once : (before.map Part.choice?).Nodup) (read : readAfter verb back = .ok behind) :
    ∃ given, readArguments (front ++ verb.name :: back) = .ok (given, verb, behind) ∧
      given.Says before := by
  have start : ({} : Reading).settle = .ok {} := rfl
  obtain ⟨reading, given, settled, told, scanned⟩ :=
    scan_written ahead start Given.says_nothing once
  have stops : Reading.scan none reading (verb.name :: back) = .ok (reading, verb.name :: back) := by
    have word : Argument.ofText verb.name = .word verb.name := by cases verb <;> rfl
    rw [Reading.scan, word]
    simp only [Reading.advance, fill?_settled settled]
    rfl
  have known : Verb.ofName? verb.name = some verb := by cases verb <;> rfl
  refine ⟨given, ?_, told⟩
  rw [readArguments, scanned, stops]
  refine bind_ok.mpr ⟨_, rfl, ?_⟩
  simp only [known]
  exact bind_ok.mpr ⟨behind, read, bind_ok.mpr ⟨given, settled, rfl⟩⟩

private theorem of_readArguments (read : readArguments arguments = .ok (given, verb, behind)) :
    ∃ before front back, arguments = front ++ verb.name :: back ∧ Written none before front ∧
      given.Says before ∧ (before.map Part.choice?).Nodup ∧ readAfter verb back = .ok behind := by
  obtain ⟨⟨reading, rest⟩, scanned, readThen⟩ := bind_ok.mp read
  cases rest with
  | nil => cases readThen
  | cons word back =>
    cases known : Verb.ofName? word with
    | none => simp [known] at readThen
    | some found =>
      simp only [known] at readThen
      obtain ⟨after, readBack, settling⟩ := bind_ok.mp readThen
      obtain ⟨before, settled, same⟩ := bind_ok.mp settling
      obtain ⟨rfl, rfl, rfl⟩ : before = given ∧ found = verb ∧ after = behind := by
        simpa [pure, Except.pure] using same
      have calm : (none : Option Verb) ≠ some .demo := nofun
      obtain ⟨parts, front, rfl, written, told, once⟩ :=
        of_scan calm arguments scanned settled rfl Given.says_nothing (by simp)
      have named : word = found.name := by
        simpa [eq_comm] using List.find?_some known
      subst named
      exact ⟨parts, front, back, rfl, written, by simpa using told, by simpa using once, readBack⟩

/-! What the parts come to. -/

namespace Given.Says

variable {given : Given} {parts : List Part}

theorem mem_flags (told : given.Says parts) (choice : part.choice? = some (.flag flag)) :
    flag ∈ given.flags ↔ part ∈ parts := (told.flags flag).trans (Part.mem_choices choice)

theorem conflicts_eq_false (told : given.Says parts) : given.conflicts = false ↔
    (.unqualified ∈ parts → parts.filterMap Part.schema? = []) := by
  have declined : Flag.unqualified ∈ given.flags ↔ Part.unqualified ∈ parts := told.mem_flags rfl
  rw [Given.conflicts, told.schema, ← declined]
  cases parts.filterMap Part.schema? <;> simp

/-- The settings of both sides are those that the flags ask for. -/
theorem ofGiven_eq {before after : Given} {ahead behind : List Part} (saysBefore : before.Says ahead)
    (saysAfter : after.Says behind) :
    Settings.ofGiven before after = Settings.said ((ahead ++ behind).filter Part.isFlag) := by
  have raised (part : Part) (flag : Flag) (choice : part.choice? = some (.flag flag))
      (general : part.isFlag = true) : (before.flags.contains flag || after.flags.contains flag) =
        decide (part ∈ (ahead ++ behind).filter Part.isFlag) := by
    simp [saysBefore.mem_flags choice, saysAfter.mem_flags choice, general]
  have kept : ((ahead ++ behind).filter Part.isFlag).filterMap Part.schema? =
      ahead.filterMap Part.schema? ++ behind.filterMap Part.schema? := by
    rw [List.filterMap_filter, ← List.filterMap_append]
    congr 1
    funext part
    cases part <;> rfl
  have schema : ((after.schema? <|> before.schema?) <|> some "MDSYS") =
      some ((((ahead ++ behind).filter Part.isFlag).filterMap Part.schema?).getLast?.getD "MDSYS") := by
    rw [kept, List.getLast?_append, saysBefore.schema, saysAfter.schema]
    cases (behind.filterMap Part.schema?).getLast? <;>
      cases (ahead.filterMap Part.schema?).getLast? <;> rfl
  simp only [Settings.ofGiven, Settings.said, Dialect.said, raised .unqualified _ rfl rfl,
    raised .bang _ rfl rfl, raised .debug _ rfl rfl, schema, decide_eq_true_eq]

theorem command_iff (told : given.Says parts) (operative : verb.takesOperand = true) :
    Command.ofGiven verb given = .ok command ↔ Command.said? verb parts = some command := by
  have raised : Flag.strict ∈ given.flags ↔ Part.strict ∈ parts := told.mem_flags rfl
  have strict : given.flags.contains .strict = decide (.strict ∈ parts) := by simp [raised]
  rw [Command.ofGiven.eq_def, Command.said?.eq_def, told.operand, strict]
  cases verb <;> cases (parts.filterMap Part.file?).getLast? <;> simp_all [Verb.takesOperand]

end Given.Says

theorem parse_eq_ok : parse arguments = .ok (settings, command) ↔
    ∃ before verb after, readArguments arguments = .ok (before, verb, after) ∧
      before.conflicts = false ∧ after.conflicts = false ∧
        Command.ofGiven verb after = .ok command ∧ Settings.ofGiven before after = settings := by
  rw [parse, bind_ok]
  constructor
  · rintro ⟨⟨before, verb, after⟩, read, readThen⟩
    cases conflict : before.conflicts || after.conflicts with
    | true =>
      simp only [conflict] at readThen
      cases readThen
    | false =>
      simp only [conflict] at readThen
      obtain ⟨command, commanded, same⟩ := bind_ok.mp readThen
      obtain ⟨rfl, rfl⟩ := Prod.mk.inj (Except.ok.inj same)
      obtain ⟨left, right⟩ := Bool.or_eq_false_iff.mp conflict
      exact ⟨before, verb, after, read, left, right, commanded, rfl⟩
  · rintro ⟨before, verb, after, read, left, right, commanded, rfl⟩
    refine ⟨_, read, ?_⟩
    simp only [left, right, Bool.or_self]
    exact bind_ok.mpr ⟨command, commanded, rfl⟩

/-- An invocation is read as the command that it gives, with the settings that its flags ask for. -/
theorem parse_invocation (invocation : Invocation flags command arguments) :
    parse arguments = .ok (Settings.said flags, command) := by
  cases invocation with
  | @intro front verb back stop command before after last ahead behind closing properAhead
      properBehind said =>
    have operative : verb.takesOperand = true := by
      cases verb <;> first | rfl | simp [Command.said?] at said
    obtain ⟨given, read, told⟩ := readAfter_written operative behind closing properBehind.once
    obtain ⟨givenBefore, readAll, saysBefore⟩ := readArguments_written ahead properAhead.once read
    exact parse_eq_ok.mpr ⟨givenBefore, verb, given, readAll,
      saysBefore.conflicts_eq_false.mpr properAhead.agreed,
      told.conflicts_eq_false.mpr properBehind.agreed,
      (told.command_iff operative).mpr said, saysBefore.ofGiven_eq told⟩

/-- Arguments that are read as a command that works on a file are an invocation of it. -/
theorem invocation_of_parse (read : parse arguments = .ok (settings, command))
    (onFile : ∀ path, command ≠ .demo path) :
    ∃ flags, Invocation flags command arguments ∧ settings = Settings.said flags := by
  obtain ⟨givenBefore, verb, given, readAll, peaceful, peacefulAfter, commanded, rfl⟩ :=
    parse_eq_ok.mp read
  have operative : verb.takesOperand = true := by
    cases verb with
    | demo => exact absurd (Except.ok.inj commanded).symm (onFile _)
    | _ => rfl
  obtain ⟨before, front, back, rfl, ahead, saysBefore, once, readBack⟩ := of_readArguments readAll
  obtain ⟨after, last, back, stop, rfl, behind, closing, told, onceAfter⟩ :=
    of_readAfter operative readBack
  exact ⟨_, .intro ahead behind closing
    ⟨once, saysBefore.conflicts_eq_false.mp peaceful⟩
    ⟨onceAfter, told.conflicts_eq_false.mp peacefulAfter⟩
    ((told.command_iff operative).mp commanded), saysBefore.ofGiven_eq told⟩

/-- The arguments that are read as a command for a file are exactly its invocations. -/
theorem parse_iff (onFile : ∀ path, command ≠ .demo path) :
    parse arguments = .ok (settings, command) ↔
      ∃ flags, Invocation flags command arguments ∧ settings = Settings.said flags := by
  constructor
  · exact fun read => invocation_of_parse read onFile
  · rintro ⟨flags, invocation, rfl⟩
    exact parse_invocation invocation

private theorem said?_render : Command.said? verb parts = some (.render path strict) ↔
    verb = .render ∧ (parts.filterMap Part.file?).getLast? = some path ∧
      decide (.strict ∈ parts) = strict := by
  rw [Command.said?.eq_def]
  generalize (parts.filterMap Part.file?).getLast? = file
  cases verb <;> cases file <;> simp

/-- Strictness can be asked for behind the verb, and the flags stay the same. -/
theorem Invocation.strict (invocation : Invocation flags (.render path false) arguments) :
    ∃ front back, arguments = front ++ "render" :: back ∧
      Invocation flags (.render path true) (front ++ "render" :: "--strict" :: back) := by
  cases invocation with
  | @intro front verb back stop _ before after last ahead behind closing properAhead
      properBehind said =>
    obtain ⟨rfl, file, lenient⟩ := said?_render.mp said
    have fresh : .strict ∉ after ++ last := of_decide_eq_false lenient
    have proper : Proper ((.strict :: after) ++ last) := {
      once := List.nodup_cons.mpr ⟨mt (Part.mem_choices rfl).mp fresh, properBehind.once⟩
      agreed := fun declined => properBehind.agreed (by simpa using declined) }
    have strictly : Command.said? .render ((.strict :: after) ++ last) = some (.render path true) :=
      said?_render.mpr ⟨rfl, file, decide_eq_true List.mem_cons_self⟩
    have asked : Written (some .render) (.strict :: after) ("--strict" :: back) :=
      .more .strict rfl behind
    have same : (before ++ (.strict :: after ++ last)).filter Part.isFlag =
        (before ++ (after ++ last)).filter Part.isFlag := by
      simp [Part.isFlag]
    exact ⟨front, back ++ stop, rfl, same ▸ .intro ahead asked closing properAhead proper strictly⟩

end CommandLine
end ConstraintTree
