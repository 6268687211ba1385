import ConstraintTree.Proofs.CommandLine.Part

namespace ConstraintTree.CommandLine

/-! Arguments by their dashes. -/

private theorem ofText_word (word : IsWord text) : Argument.ofText text = .word text := by
  rcases word with rfl | plain
  · rfl
  · rw [Argument.ofText]
    split
    case h_4 => rfl
    all_goals simp_all

private theorem ofText_attached (name : String) :
    Argument.ofText ("--sdo-schema=" ++ name) = .long "sdo-schema" (some name) := by
  simp [Argument.ofText]

private theorem of_ofText_separator (read : Argument.ofText text = .separator) : text = "--" := by
  rw [Argument.ofText] at read
  split at read <;> cases read
  case h_1 shape => exact String.toList_inj.mp shape

private theorem of_ofText_word (read : Argument.ofText text = .word other) :
    text = other ∧ IsWord text := by
  rw [Argument.ofText] at read
  split at read <;> cases read
  case h_4 noSeparator noLong noShort =>
    refine ⟨rfl, ?_⟩
    cases shape : text.toList with
    | nil => exact .inr (by simp [shape])
    | cons first rest =>
      by_cases dash : first = '-'
      · subst dash
        cases rest with
        | nil => exact .inl (String.toList_inj.mp shape)
        | cons letter rest => exact absurd shape (noShort letter rest)
      · exact .inr (by simp [shape, dash])

private theorem of_ofText_short (read : Argument.ofText text = .short letters) :
    text = String.ofList ('-' :: letters) ∧ letters ≠ [] := by
  rw [Argument.ofText] at read
  split at read <;> cases read
  case h_3 shape => exact ⟨by rw [← shape, String.ofList_toList], by simp⟩

private theorem of_ofText_long (read : Argument.ofText text = .long name attached) :
    text = "--" ++ name ++ (attached.map ("=" ++ ·)).getD "" := by
  rw [Argument.ofText] at read
  split at read <;> cases read
  case h_2 rest _ shape =>
    have joined := List.takeWhile_append_dropWhile (p := fun char => char ≠ '=') (l := rest)
    have first := List.head?_dropWhile_not (fun char => char ≠ '=') rest
    apply String.toList_inj.mp
    generalize rest.takeWhile (fun char => char ≠ '=') = front at joined ⊢
    generalize rest.dropWhile (fun char => char ≠ '=') = back at joined first ⊢
    subst joined
    cases back with
    | nil => simp [shape]
    | cons char value =>
      obtain rfl : char = '=' := by simpa using first
      simp [shape]

theorem bind_ok {result : Except ε α} {next : α → Except ε β} :
    (result >>= next) = .ok last ↔ ∃ value, result = .ok value ∧ next value = .ok last := by
  cases result <;> simp [bind, Except.bind]

/-! Single steps of a reading. -/

section Steps

variable {reading next : Reading} {given : Given} {side : Option Verb}

private theorem raise_eq_ok : reading.raise flag = .ok next ↔ ∃ given, reading.settle = .ok given ∧
    ∃ taken, given.raise flag = .ok taken ∧ { given := taken } = next := by
  simp [Reading.raise, bind_ok, pure, Except.pure]

private theorem name_eq_ok : reading.name parameter attached = .ok next ↔
    ∃ given, reading.settle = .ok given ∧
      ((∃ value taken, attached = some value ∧ given.set parameter value = .ok taken ∧
        { given := taken } = next) ∨
        attached = none ∧ { given, held := some (parameter, none) } = next) := by
  cases attached <;> simp [Reading.name, bind_ok, pure, Except.pure]

theorem fill?_settled (settled : reading.settle = .ok given) (word : String) :
    reading.fill? word = none := by
  obtain ⟨before, held⟩ := reading
  rcases held with _ | ⟨parameter, _ | value⟩
  · rfl
  · cases settled
  · rfl

private theorem scan_advance (read : Argument.ofText token = argument)
    (advanced : reading.advance side argument = .ok (some next)) (rest : List String) :
    Reading.scan side reading (token :: rest) = Reading.scan side next rest := by
  subst read
  rw [Reading.scan, advanced]
  rfl

private theorem advance_flag (flag : Flag) (settled : reading.settle = .ok given)
    (raised : given.raise flag = .ok taken)
    (known : ((OptionSpelling.accepted side).find? fun spelling => spelling.name = name).map
      OptionSpelling.choice = some (.flag flag)) :
    reading.advance side (.long name none) = .ok (some { given := taken }) := by
  have read : reading.long (OptionSpelling.accepted side) name none = .ok { given := taken } := by
    rw [Reading.long, known]
    exact raise_eq_ok.mpr ⟨given, settled, taken, raised, rfl⟩
  exact bind_ok.mpr ⟨_, read, rfl⟩

/-- A spelled part is read as what it says. -/
theorem scan_spelled (spelled : Spelled part tokens) (fits : part.fits side = true)
    (settled : reading.settle = .ok given) (taken : given.take part = .ok after) :
    ∃ next : Reading, next.settle = .ok after ∧
      ∀ rest, Reading.scan side reading (tokens ++ rest) = Reading.scan side next rest := by
  cases spelled with
  | debug => exact ⟨_, rfl, scan_advance rfl (advance_flag .debug settled taken rfl)⟩
  | letter =>
    have raised : reading.raise .debug = .ok { given := after } :=
      raise_eq_ok.mpr ⟨given, settled, after, taken, rfl⟩
    have read : reading.short (OptionSpelling.accepted side) ['d'] = .ok { given := after } :=
      bind_ok.mpr ⟨_, raised, rfl⟩
    exact ⟨_, rfl, scan_advance rfl (bind_ok.mpr ⟨_, read, rfl⟩)⟩
  | unqualified => exact ⟨_, rfl, scan_advance rfl (advance_flag .unqualified settled taken rfl)⟩
  | bang => exact ⟨_, rfl, scan_advance rfl (advance_flag .bang settled taken rfl)⟩
  | strict =>
    obtain rfl : side = some .render := of_decide_eq_true fits
    exact ⟨_, rfl, scan_advance rfl (advance_flag .strict settled taken rfl)⟩
  | attached name =>
    have named : reading.name .schema (some name) = .ok { given := after } :=
      name_eq_ok.mpr ⟨given, settled, .inl ⟨name, after, rfl, taken, rfl⟩⟩
    exact ⟨_, rfl, scan_advance (ofText_attached name) (bind_ok.mpr ⟨_, named, rfl⟩)⟩
  | @apart name word =>
    let held : Reading := { given, held := some (.schema, none) }
    have named : reading.name .schema none = .ok held :=
      name_eq_ok.mpr ⟨given, settled, .inr ⟨rfl, rfl⟩⟩
    have opened : reading.advance side (.long "sdo-schema" none) = .ok (some held) :=
      bind_ok.mpr ⟨_, named, rfl⟩
    refine ⟨{ given, held := some (.schema, some name) }, taken, fun rest => ?_⟩
    exact (scan_advance rfl opened (name :: rest)).trans
      (scan_advance (ofText_word word) rfl rest)
  | @file path word named =>
    cases side with
    | none => cases fits
    | some verb =>
      have placed : given.place verb path = .ok after := (Given.place_eq_take fits given path).trans taken
      have advanced : reading.advance (some verb) (.word path) = .ok (some { given := after }) := by
        simp only [Reading.advance, fill?_settled settled]
        exact bind_ok.mpr ⟨given, settled, bind_ok.mpr ⟨after, placed, rfl⟩⟩
      exact ⟨_, rfl, scan_advance (ofText_word word) advanced⟩

/-- Parts that are new are read as what they say. -/
theorem scan_written {past : List Part} (written : Written side parts tokens)
    (settled : reading.settle = .ok given) (told : given.Says past)
    (once : ((past ++ parts).map Part.choice?).Nodup) :
    ∃ (last : Reading) (after : Given), last.settle = .ok after ∧ after.Says (past ++ parts) ∧
      ∀ rest, Reading.scan side reading (tokens ++ rest) = Reading.scan side last rest := by
  induction written generalizing reading given past with
  | nothing => exact ⟨reading, given, settled, by rwa [List.append_nil], fun rest => rfl⟩
  | @more part tokens parts further spelled fits written ih =>
    have new : part.choice? ∉ past.map Part.choice? := by
      rw [List.map_append, List.nodup_append] at once
      exact fun member => once.2.2 _ member _ (by simp) rfl
    obtain ⟨taken, taking, saysNext⟩ := told.take_new spelled.named new
    obtain ⟨next, settledNext, scanned⟩ := scan_spelled spelled fits settled taking
    obtain ⟨last, after, settledLast, saysLast, scannedThen⟩ :=
      ih settledNext saysNext (by simpa using once)
    refine ⟨last, after, settledLast, by simpa using saysLast, fun rest => ?_⟩
    rw [List.append_assoc, scanned, scannedThen]

/-! And only they are. -/

private theorem mem_accepted (calm : side ≠ some .demo)
    (member : spelling ∈ OptionSpelling.accepted side) :
    spelling = ⟨.flag .debug, "debug", some 'd'⟩ ∨
      spelling = ⟨.parameter .schema, "sdo-schema", none⟩ ∨
      spelling = ⟨.flag .unqualified, "no-sdo-schema", none⟩ ∨
      spelling = ⟨.flag .bang, "bang-not-equal", none⟩ ∨
      side = some .render ∧ spelling = ⟨.flag .strict, "strict", none⟩ ∨
      spelling.choice = .flag .help ∨ spelling.choice = .flag .version := by
  rcases List.mem_append.mp member with general | special
  · simp only [OptionSpelling.general, List.mem_cons, List.not_mem_nil, or_false] at general
    rcases general with rfl | rfl | rfl | rfl | rfl <;> simp
  · rcases side with _ | _ | _ | _
    case some.demo => exact absurd rfl calm
    all_goals simp_all [OptionSpelling.special]

private theorem not_raise_ending (ending : flag = .help ∨ flag = .version) :
    reading.raise flag ≠ .ok next := by
  intro raised
  obtain ⟨given, -, taken, failed, -⟩ := raise_eq_ok.mp raised
  rcases ending with rfl | rfl <;> cases failed

private theorem not_raise_again (raised : given.raise .debug = .ok taken) :
    taken.raise .debug ≠ .ok after := by
  intro again
  simp only [Given.raise] at raised again
  split at raised
  · cases raised
  · obtain rfl := Except.ok.inj raised
    simp at again

private theorem short_cons (calm : side ≠ some .demo)
    (read : reading.short (OptionSpelling.accepted side) (letter :: rest) = .ok next) :
    letter = 'd' ∧ ∃ middle, reading.raise .debug = .ok middle ∧
      middle.short (OptionSpelling.accepted side) rest = .ok next := by
  rw [Reading.short] at read
  cases found : (OptionSpelling.accepted side).find? fun spelling => spelling.letter = some letter with
  | none => simp [found] at read
  | some spelling =>
    have lettered := List.find?_some found
    have member := mem_accepted calm (List.mem_of_find?_eq_some found)
    rw [found, Option.map_some] at read
    rcases member with rfl | rfl | rfl | rfl | ⟨-, rfl⟩ | help | version
    · exact ⟨by simpa [eq_comm] using lettered, bind_ok.mp read⟩
    any_goals simp at lettered
    · rw [help] at read
      obtain ⟨middle, raised, -⟩ := bind_ok.mp read
      exact absurd raised (not_raise_ending (.inl rfl))
    · rw [version] at read
      obtain ⟨middle, raised, -⟩ := bind_ok.mp read
      exact absurd raised (not_raise_ending (.inr rfl))

/-- How an argument goes on from what has been settled: it is a part, or announces a schema. -/
inductive Reads (side : Option Verb) (given : Given) (token : String) : Reading → Prop where
  | part (spelled : Spelled part [token]) (fits : part.fits side = true)
      (taken : given.take part = .ok after) : Reads side given token { given := after }
  | schema (announced : token = "--sdo-schema") :
      Reads side given token { given, held := some (.schema, none) }

private theorem raise_of_bare {attached : Option String}
    (read : (if attached.isSome then .error .misuse else reading.raise flag) = .ok next) :
    reading.raise flag = .ok next := by
  cases attached with
  | some value => cases read
  | none => exact read

private theorem reads_flag {attached : Option String} (fits : part.fits side = true)
    (spelled : Spelled part ["--" ++ name])
    (settled : reading.settle = .ok given) (taking : given.take part = given.raise flag)
    (read : (if attached.isSome then .error .misuse else reading.raise flag) = .ok next) :
    Reads side given ("--" ++ name ++ (attached.map ("=" ++ ·)).getD "") next := by
  cases attached with
  | some value => cases read
  | none =>
    obtain ⟨before, settledBefore, taken, raised, rfl⟩ := raise_eq_ok.mp read
    obtain rfl := Except.ok.inj (settled.symm.trans settledBefore)
    show Reads side given ("--" ++ name ++ "") _
    rw [String.append_empty]
    exact .part spelled fits (taking.trans raised)

private theorem reads_long (calm : side ≠ some .demo) (settled : reading.settle = .ok given)
    (read : reading.long (OptionSpelling.accepted side) name attached = .ok next) :
    Reads side given ("--" ++ name ++ (attached.map ("=" ++ ·)).getD "") next := by
  rw [Reading.long] at read
  cases found : (OptionSpelling.accepted side).find? fun spelling => spelling.name = name with
  | none => simp [found] at read
  | some spelling =>
    have named : spelling.name = name := by simpa using List.find?_some found
    have member := mem_accepted calm (List.mem_of_find?_eq_some found)
    rw [found, Option.map_some] at read
    subst named
    rcases member with rfl | rfl | rfl | rfl | ⟨rfl, rfl⟩ | help | version
    · exact reads_flag rfl .debug settled rfl read
    · obtain ⟨before, settledBefore, outcome⟩ := name_eq_ok.mp read
      obtain rfl := Except.ok.inj (settled.symm.trans settledBefore)
      rcases outcome with ⟨value, taken, rfl, set, rfl⟩ | ⟨rfl, rfl⟩
      · show Reads side given ("--" ++ "sdo-schema" ++ ("=" ++ value)) _
        rw [← String.append_assoc]
        exact .part (.attached value) rfl set
      · exact .schema rfl
    · exact reads_flag rfl .unqualified settled rfl read
    · exact reads_flag rfl .bang settled rfl read
    · exact reads_flag rfl .strict settled rfl read
    · rw [help] at read
      exact absurd (raise_of_bare read) (not_raise_ending (.inl rfl))
    · rw [version] at read
      exact absurd (raise_of_bare read) (not_raise_ending (.inr rfl))

private theorem reads_short (calm : side ≠ some .demo) (settled : reading.settle = .ok given)
    (some : letters ≠ [])
    (read : reading.short (OptionSpelling.accepted side) letters = .ok next) :
    Reads side given (String.ofList ('-' :: letters)) next := by
  cases letters with
  | nil => exact absurd rfl some
  | cons letter rest =>
    obtain ⟨rfl, middle, raised, readThen⟩ := short_cons calm read
    obtain ⟨before, settledBefore, taken, raised, rfl⟩ := raise_eq_ok.mp raised
    obtain rfl := Except.ok.inj (settled.symm.trans settledBefore)
    cases rest with
    | nil =>
      obtain rfl := Except.ok.inj readThen
      exact .part .letter rfl raised
    | cons letter rest =>
      -- A second letter would raise the same flag again.
      obtain ⟨-, _, raisedAgain, -⟩ := short_cons calm readThen
      obtain ⟨again, settledAgain, _, repeated, -⟩ := raise_eq_ok.mp raisedAgain
      obtain rfl := Except.ok.inj settledAgain
      exact absurd repeated (not_raise_again raised)

private theorem reads_advance (calm : side ≠ some .demo) (settled : reading.settle = .ok given)
    (advanced : reading.advance side (Argument.ofText token) = .ok (some next)) :
    Reads side given token next := by
  cases read : Argument.ofText token with
  | separator => rw [read] at advanced; cases advanced
  | long name attached =>
    rw [read] at advanced
    obtain ⟨_, long, same⟩ := bind_ok.mp advanced
    obtain rfl := Option.some.inj (Except.ok.inj same)
    exact of_ofText_long read ▸ reads_long calm settled long
  | short letters =>
    rw [read] at advanced
    obtain ⟨_, short, same⟩ := bind_ok.mp advanced
    obtain rfl := Option.some.inj (Except.ok.inj same)
    obtain ⟨rfl, nonempty⟩ := of_ofText_short read
    exact reads_short calm settled nonempty short
  | word text =>
    obtain ⟨rfl, word⟩ := of_ofText_word read
    simp only [read, Reading.advance, fill?_settled settled] at advanced
    cases side with
    | none => cases advanced
    | some verb =>
      obtain ⟨before, settledBefore, placing⟩ := bind_ok.mp advanced
      obtain rfl := Except.ok.inj (settled.symm.trans settledBefore)
      obtain ⟨taken, placed, same⟩ := bind_ok.mp placing
      obtain rfl := Option.some.inj (Except.ok.inj same)
      have operative : verb.takesOperand = true := by cases verb <;> first | rfl | exact absurd rfl calm
      have named : token ≠ "" := by
        rintro rfl
        simp [Given.place] at placed
      exact .part (.file word named) operative
        ((Given.place_eq_take operative given token).symm.trans placed)

private theorem settle_of_long
    (read : reading.long (OptionSpelling.accepted side) name attached = .ok next) :
    ∃ given, reading.settle = .ok given := by
  rw [Reading.long] at read
  split at read
  · obtain ⟨given, settled, -⟩ := raise_eq_ok.mp (raise_of_bare read)
    exact ⟨given, settled⟩
  · obtain ⟨given, settled, -⟩ := name_eq_ok.mp read
    exact ⟨given, settled⟩
  · cases read

private theorem settle_of_short (some : letters ≠ [])
    (read : reading.short (OptionSpelling.accepted side) letters = .ok next) :
    ∃ given, reading.settle = .ok given := by
  cases letters with
  | nil => exact absurd rfl some
  | cons letter rest =>
    rw [Reading.short] at read
    split at read
    · obtain ⟨middle, raised, -⟩ := bind_ok.mp read
      obtain ⟨given, settled, -⟩ := raise_eq_ok.mp raised
      exact ⟨given, settled⟩
    · split at read
      all_goals
        obtain ⟨given, settled, -⟩ := name_eq_ok.mp read
        exact ⟨given, settled⟩
    · cases read

/-- A reading that goes on can be settled, unless it waits for a value. -/
theorem settle_of_advance (advanced : reading.advance side (Argument.ofText token) = .ok (some next)) :
    (∃ given, reading.settle = .ok given) ∨ ∃ parameter, reading.held = some (parameter, none) ∧
      IsWord token ∧ next = { reading with held := some (parameter, some token) } := by
  cases read : Argument.ofText token with
  | separator => rw [read] at advanced; cases advanced
  | long name attached =>
    rw [read] at advanced
    obtain ⟨_, long, -⟩ := bind_ok.mp advanced
    exact .inl (settle_of_long long)
  | short letters =>
    rw [read] at advanced
    obtain ⟨_, short, -⟩ := bind_ok.mp advanced
    exact .inl (settle_of_short (of_ofText_short read).2 short)
  | word text =>
    obtain ⟨rfl, word⟩ := of_ofText_word read
    obtain ⟨given, held⟩ := reading
    rcases held with _ | ⟨parameter, _ | value⟩
    · exact .inl ⟨given, rfl⟩
    · rw [read] at advanced
      obtain rfl := Option.some.inj (Except.ok.inj advanced)
      exact .inr ⟨parameter, rfl, word, rfl⟩
    · rw [read] at advanced
      cases side with
      | none => cases advanced
      | some verb =>
        obtain ⟨before, settled, -⟩ := bind_ok.mp advanced
        exact .inl ⟨before, settled⟩

private theorem settle_of_scan {tokens : List String}
    (scanned : Reading.scan side reading tokens = .ok (last, rest)) (settled : last.settle = .ok final)
    (ready : ∀ parameter, reading.held ≠ some (parameter, none)) :
    ∃ given, reading.settle = .ok given := by
  cases tokens with
  | nil =>
    obtain ⟨rfl, -⟩ := Prod.mk.inj (Except.ok.inj scanned)
    exact ⟨final, settled⟩
  | cons token tokens =>
    obtain ⟨next, advanced, scanned⟩ := bind_ok.mp scanned
    cases next with
    | none =>
      obtain ⟨rfl, -⟩ := Prod.mk.inj (Except.ok.inj scanned)
      exact ⟨final, settled⟩
    | some next =>
      rcases settle_of_advance advanced with settled | ⟨parameter, waiting, -⟩
      · exact settled
      · exact absurd waiting (ready parameter)

/-- The value of a schema that is announced follows at once. -/
theorem scan_announced {tokens : List String}
    (scanned : Reading.scan side { given, held := some (.schema, none) } tokens = .ok (last, rest))
    (settled : last.settle = .ok final) : ∃ name further taken, tokens = name :: further ∧
      IsWord name ∧ given.take (.schema name) = .ok taken ∧
        Reading.scan side { given, held := some (.schema, some name) } further = .ok (last, rest) := by
  cases tokens with
  | nil =>
    obtain ⟨rfl, -⟩ := Prod.mk.inj (Except.ok.inj scanned)
    cases settled
  | cons name further =>
    obtain ⟨next, advanced, scanned⟩ := bind_ok.mp scanned
    cases next with
    | none =>
      obtain ⟨rfl, -⟩ := Prod.mk.inj (Except.ok.inj scanned)
      cases settled
    | some next =>
      rcases settle_of_advance advanced with ⟨_, waiting⟩ | ⟨parameter, waiting, word, rfl⟩
      · cases waiting
      · obtain rfl : .schema = parameter := congrArg Prod.fst (Option.some.inj waiting)
        obtain ⟨taken, taking⟩ := settle_of_scan scanned settled nofun
        exact ⟨name, further, taken, rfl, word, taking, scanned⟩

end Steps

/-- What is read is parts, none of them twice. -/
theorem of_scan {reading last : Reading} {given final : Given} {past : List Part}
    (calm : side ≠ some .demo) (tokens : List String)
    (scanned : Reading.scan side reading tokens = .ok (last, rest)) (ended : last.settle = .ok final)
    (settled : reading.settle = .ok given) (told : given.Says past)
    (once : (past.map Part.choice?).Nodup) :
    ∃ parts front, tokens = front ++ rest ∧ Written side parts front ∧
      final.Says (past ++ parts) ∧ ((past ++ parts).map Part.choice?).Nodup := by
  match tokens with
  | [] =>
    obtain ⟨rfl, rfl⟩ := Prod.mk.inj (Except.ok.inj scanned)
    obtain rfl := Except.ok.inj (settled.symm.trans ended)
    exact ⟨[], [], rfl, .nothing, by simpa using told, by simpa using once⟩
  | token :: tokens =>
    obtain ⟨next, advanced, scannedThen⟩ := bind_ok.mp scanned
    cases next with
    | none =>
      obtain ⟨rfl, rfl⟩ := Prod.mk.inj (Except.ok.inj scannedThen)
      obtain rfl := Except.ok.inj (settled.symm.trans ended)
      exact ⟨[], [], rfl, .nothing, by simpa using told, by simpa using once⟩
    | some next =>
      cases reads_advance calm settled advanced with
      | part spelled fits taken =>
        obtain ⟨saysNext, onceNext⟩ := told.of_take spelled.named once taken
        obtain ⟨parts, front, rfl, written, saysLast, onceLast⟩ :=
          of_scan calm tokens scannedThen ended rfl saysNext onceNext
        exact ⟨_, _, by simp, .more spelled fits written,
          by simpa using saysLast, by simpa using onceLast⟩
      | schema announced =>
        obtain ⟨name, further, taken, rfl, word, taking, scannedLast⟩ :=
          scan_announced scannedThen ended
        obtain ⟨saysNext, onceNext⟩ := told.of_take (by simp) once taking
        obtain ⟨parts, front, rfl, written, saysLast, onceLast⟩ :=
          of_scan calm further scannedLast ended taking saysNext onceNext
        subst announced
        exact ⟨_, _, by simp, .more (.apart word) rfl written,
          by simpa using saysLast, by simpa using onceLast⟩
termination_by tokens.length

/-- Only a separator ends a reading behind a verb before the arguments end. -/
theorem scan_rest {reading last : Reading} (tokens : List String)
    (scanned : Reading.scan side reading tokens = .ok (last, rest)) : rest = [] ∨
      ∃ token further, rest = token :: further ∧
        last.advance side (Argument.ofText token) = .ok none := by
  induction tokens generalizing reading with
  | nil =>
    obtain ⟨-, rfl⟩ := Prod.mk.inj (Except.ok.inj scanned)
    exact .inl rfl
  | cons token tokens ih =>
    obtain ⟨next, advanced, scannedThen⟩ := bind_ok.mp scanned
    cases next with
    | none =>
      obtain ⟨rfl, rfl⟩ := Prod.mk.inj (Except.ok.inj scannedThen)
      exact .inr ⟨token, tokens, rfl, advanced⟩
    | some next => exact ih scannedThen

theorem separator_of_advance {reading : Reading}
    (ended : reading.advance (some verb) (Argument.ofText token) = .ok none) : token = "--" := by
  cases read : Argument.ofText token with
  | separator => exact of_ofText_separator read
  | long name attached =>
    rw [read] at ended
    obtain ⟨next, -, same⟩ := bind_ok.mp ended
    cases same
  | short letters =>
    rw [read] at ended
    obtain ⟨next, -, same⟩ := bind_ok.mp ended
    cases same
  | word text =>
    rw [read] at ended
    cases filled : reading.fill? text with
    | some next =>
      simp only [Reading.advance, filled] at ended
      cases ended
    | none =>
      simp only [Reading.advance, filled] at ended
      obtain ⟨given, -, placing⟩ := bind_ok.mp ended
      obtain ⟨taken, -, same⟩ := bind_ok.mp placing
      cases same

end ConstraintTree.CommandLine
