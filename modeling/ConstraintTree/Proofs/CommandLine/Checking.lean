import ConstraintTree.CommandLine.Execution
import ConstraintTree.Proofs.CommandLine.Invocation
import ConstraintTree.Proofs.GapWalk
import ConstraintTree.Proofs.Layout.Spacing
import ConstraintTree.Proofs.Snapshot.RoundTrip

/-!
Checks and renderings of the same file. A check lets a validator walk the trees and a rendering lays
them out, yet they find fault with the same trees: a check succeeds exactly when a strict rendering
does. A strict rendering prints what any rendering prints, also when it fails.
-/
namespace ConstraintTree

open CommandLine

def Disk.run (disk : Disk String) (surroundings : Surroundings) (arguments : List String) :
    Transcript :=
  (disk.serve none (execute surroundings arguments)).1

namespace CommandLine

def verdict : Rendering → String
  | .complete _ => "ok"
  | .incomplete _ missing => (TreeError.incomplete missing).message

/-- The line of a check for an item in its place, going by the rendering of the item. -/
def report (dialect : Dialect) (item : Item) (index : Nat) : String :=
  item.sort ++ " #" ++ toString index ++ ": " ++ verdict (item.render dialect)

/-- A line of a check that does not call its tree complete. -/
def reportsFailure (line : String) : Bool := !": ok".toList.isSuffixOf line.toList

/-! Lines of a check. -/

private theorem message_incomplete (missing : List Gap) :
    (TreeError.incomplete missing).message =
      "Incomplete tree: missing " ++ ", ".intercalate (missing.map Gap.description) := rfl

/-- Descriptions of gaps have neither the letter that ends the report on a complete tree nor a break
of lines. -/
theorem not_mem_message {char : Char} (strange : char = 'k' ∨ char = '\n') (missing : List Gap) :
    char ∉ (TreeError.incomplete missing).message.toList := by
  have described (gap : Gap) : char ∉ gap.description.toList := by
    rcases strange with rfl | rfl <;> cases gap <;> simp [Gap.description]
  intro member
  rw [message_incomplete, String.toList_append, String.toList_intercalate] at member
  rcases List.mem_append.mp member with opening | listed
  · rcases strange with rfl | rfl <;> simp at opening
  · rcases Lexeme.mem_intercalate listed with between | ⟨words, present, inside⟩
    · rcases strange with rfl | rfl <;> simp at between
    · simp only [List.map_map, List.mem_map] at present
      obtain ⟨gap, -, rfl⟩ := present
      exact described gap inside

/-- A check reports on a tree as its rendering tells, in whatever dialect. -/
theorem line_finding (dialect : Dialect) (item : Item) (index : Nat) :
    Finding.line ⟨item.sort, index, item.validate⟩ = report dialect item index := by
  rw [report, item.validate_eq, item.render_eq_ofGaps]
  cases item.gaps <;> rfl

theorem reportsFailure_report (dialect : Dialect) (item : Item) (index : Nat) :
    reportsFailure (report dialect item index) = !(item.render dialect).isComplete := by
  rw [report]
  generalize item.sort ++ " #" ++ toString index = front
  cases item.render dialect with
  | complete text =>
    have ends : ": ok".toList <:+ (front ++ ": " ++ verdict (.complete text)).toList := by
      refine ⟨front.toList, ?_⟩
      simp [verdict]
    rw [reportsFailure, List.isSuffixOf_iff_suffix.mpr ends]
    rfl
  | incomplete text missing =>
    have other : ¬ ": ok".toList <:+
        (front ++ ": " ++ verdict (.incomplete text missing)).toList := by
      rintro ⟨rest, same⟩
      have last := congrArg List.getLast? same
      rw [String.toList_append, List.getLast?_append, List.getLast?_append] at last
      cases ended : (verdict (.incomplete text missing)).toList.getLast? with
      | none => simp [verdict, message_incomplete] at ended
      | some char =>
        have letter : 'k' = char := by simpa [ended] using last
        exact not_mem_message (.inl rfl) missing (letter ▸ List.mem_of_getLast? ended)
    rw [reportsFailure, Bool.eq_false_iff.mpr fun ends => other (List.isSuffixOf_iff_suffix.mp ends)]
    rfl

/-- A report is a single line. -/
theorem unbroken_report (dialect : Dialect) (item : Item) (index : Nat) :
    '\n' ∉ (report dialect item index).toList := by
  have sort : '\n' ∉ item.sort.toList := by
    cases item <;> simp [Item.sort]
  have number : '\n' ∉ Nat.toDigits 10 index := by
    intro member
    have digit := Nat.isDigit_of_mem_toDigits (by decide) (by decide) member
    exact absurd digit (by decide)
  have said : '\n' ∉ (verdict (item.render dialect)).toList := by
    cases item.render dialect with
    | complete text => simp [verdict]
    | incomplete text missing => exact not_mem_message (.inr rfl) missing
  simp [report, sort, number, said]

/-! Outcomes of the commands. -/

theorem succeeds_renderSnapshot (dialect : Dialect) (strict : Bool) (snapshot : Snapshot) :
    (renderSnapshot dialect strict snapshot).succeeds = true ↔
      (strict = true → ∀ item ∈ snapshot.items, (item.render dialect).isComplete = true) := by
  have none_incomplete :
      (snapshot.items.map (Item.render dialect)).countP (fun rendering => !rendering.isComplete) = 0 ↔
        ∀ item ∈ snapshot.items, (item.render dialect).isComplete = true := by
    simp [List.countP_eq_zero]
  rw [← none_incomplete]
  cases strict with
  | false => simp [renderSnapshot, Outcome.succeeds]
  | true =>
    generalize counted : (snapshot.items.map (Item.render dialect)).countP _ = incomplete
    cases incomplete <;> simp [renderSnapshot, Outcome.succeeds, counted]

theorem printed_renderSnapshot (dialect : Dialect) (strict : Bool) (snapshot : Snapshot) :
    (renderSnapshot dialect strict snapshot).printed =
      snapshot.items.map fun item => (item.render dialect).text := by
  simp only [renderSnapshot, List.map_map]
  rfl

theorem printed_checkSnapshot (dialect : Dialect) (snapshot : Snapshot) :
    (checkSnapshot snapshot).printed =
      snapshot.items.zipIdx.map fun (item, index) => report dialect item index := by
  have printed : (checkSnapshot snapshot).printed = (findings snapshot).map Finding.line := by
    rw [checkSnapshot]
    exact (apply_ite Outcome.printed _ _ _).trans (ite_self _)
  rw [printed, findings, List.map_map]
  congr 1
  funext row
  exact line_finding dialect row.1 row.2

/-- Counting in numbered rows by the values alone. -/
theorem countP_zipIdx {numbered : α × Nat → Bool} {plain : α → Bool}
    (same : ∀ value index, numbered (value, index) = plain value) (values : List α) :
    values.zipIdx.countP numbered = values.countP plain := by
  conv => rhs; rw [← List.zipIdx_map_fst 0 values, List.countP_map]
  congr 1
  funext row
  exact same row.1 row.2

/-- A check fails for as many trees as have incomplete renderings. -/
theorem countP_findings (dialect : Dialect) (snapshot : Snapshot) :
    (findings snapshot).countP Finding.isFailure =
      (snapshot.items.map (Item.render dialect)).countP fun rendering => !rendering.isComplete := by
  have alike (item : Item) : (!item.validate.isOk) = !(item.render dialect).isComplete := by
    rw [item.validate_eq, item.isComplete_render]
    cases item.gaps <;> rfl
  rw [findings, List.countP_map, List.countP_map]
  exact countP_zipIdx (fun item _ => alike item) snapshot.items

theorem countP_reports (dialect : Dialect) (items : List Item) :
    (items.zipIdx.map fun (item, index) => report dialect item index).countP reportsFailure =
      (items.map (Item.render dialect)).countP fun rendering => !rendering.isComplete := by
  rw [List.countP_map, List.countP_map]
  exact countP_zipIdx (fun item index => reportsFailure_report dialect item index) items

theorem succeeds_checkSnapshot (dialect : Dialect) (snapshot : Snapshot) :
    (checkSnapshot snapshot).succeeds = true ↔
      ∀ item ∈ snapshot.items, (item.render dialect).isComplete = true := by
  have none_failed : (findings snapshot).countP Finding.isFailure = 0 ↔
      ∀ item ∈ snapshot.items, (item.render dialect).isComplete = true := by
    simp [countP_findings dialect, List.countP_eq_zero]
  rw [← none_failed]
  generalize counted : (findings snapshot).countP Finding.isFailure = failures
  cases failures <;> simp [checkSnapshot, Outcome.succeeds, counted]

theorem succeeds_withSnapshot (path : String) (next : Snapshot → Outcome)
    (result : Except TreeError Snapshot) :
    (withSnapshot path next result).succeeds = true ↔
      ∃ snapshot, result = .ok snapshot ∧ (next snapshot).succeeds = true := by
  cases result with
  | error error => simp [withSnapshot, Outcome.succeeds]
  | ok snapshot => simp [withSnapshot, Outcome.succeeds, Outcome.after]

private theorem printed_withSnapshot (path : String) (next : Snapshot → Outcome)
    (result : Except TreeError Snapshot) :
    (withSnapshot path next result).printed =
      match result with
      | .ok snapshot => (next snapshot).printed
      | .error _ => [] := by
  cases result <;> rfl

/-! Runs of the program on a file. -/

section Runs

variable {disk : Disk String} (held : disk.content path = some content) (surroundings : Surroundings)

include held

/-- A command that works on a snapshot decides what is left of the run. -/
theorem run_load {next : Except TreeError Snapshot → Outcome}
    (parsed : parse arguments = .ok (settings, command))
    (uses : command.run settings.dialect = (Snapshot.load path).map next) :
    ((disk.run surroundings arguments).code = 0 ↔
        (next (Snapshot.decode content)).succeeds = true) ∧
      (disk.run surroundings arguments).output = (next (Snapshot.decode content)).printed := by
  simp only [Disk.run, execute, parsed, uses, Snapshot.load, FileUse.map, Disk.serve, Disk.read,
    held, Snapshot.ofFile]
  cases (next (Snapshot.decode content)).succeeds <;> simp

theorem run_check (invocation : Invocation flags (.check path) arguments) (dialect : Dialect) :
    ((disk.run surroundings arguments).code = 0 ↔
        ∃ snapshot, Snapshot.decode content = .ok snapshot ∧
          ∀ item ∈ snapshot.items, (item.render dialect).isComplete = true) ∧
      (disk.run surroundings arguments).output =
        match Snapshot.decode content with
        | .ok snapshot => snapshot.items.zipIdx.map fun (item, index) => report dialect item index
        | .error _ => [] := by
  obtain ⟨code, output⟩ := run_load held surroundings (parse_invocation invocation) rfl
  rw [code, output, succeeds_withSnapshot, printed_withSnapshot]
  simp only [succeeds_checkSnapshot dialect, printed_checkSnapshot dialect, true_and]

theorem run_render (invocation : Invocation flags (.render path strict) arguments) :
    ((disk.run surroundings arguments).code = 0 ↔
        ∃ snapshot, Snapshot.decode content = .ok snapshot ∧
          (strict = true → ∀ item ∈ snapshot.items,
            (item.render (Dialect.said flags)).isComplete = true)) ∧
      (disk.run surroundings arguments).output =
        match Snapshot.decode content with
        | .ok snapshot => snapshot.items.map fun item => (item.render (Dialect.said flags)).text
        | .error _ => [] := by
  obtain ⟨code, output⟩ := run_load held surroundings (parse_invocation invocation) rfl
  rw [code, output, succeeds_withSnapshot, printed_withSnapshot]
  simp only [succeeds_renderSnapshot, printed_renderSnapshot]
  exact ⟨Iff.rfl, rfl⟩

end Runs

/-- How a check, a rendering and a strict rendering of one file relate to each other and to what the
file holds. -/
structure Concordant (dialect : Dialect) (content : Bytes) (checked rendered strictly : Transcript) :
    Prop where
  checks : checked.code = 0 ↔ strictly.code = 0
  complete : strictly.code = 0 ↔ ∃ snapshot, Snapshot.decode content = .ok snapshot ∧
    ∀ item ∈ snapshot.items, (item.render dialect).isComplete = true
  readable : rendered.code = 0 ↔ ∃ snapshot, Snapshot.decode content = .ok snapshot
  alike : strictly.output = rendered.output
  texts : ∀ snapshot, Snapshot.decode content = .ok snapshot → textOf rendered.output =
    String.join (snapshot.items.map fun item => (item.render dialect).text ++ "\n")
  reports : ∀ snapshot, Snapshot.decode content = .ok snapshot →
    checked.output = snapshot.items.zipIdx.map fun (item, index) => report dialect item index
  unbroken : ∀ line ∈ checked.output, '\n' ∉ line.toList
  failures : ∀ snapshot, Snapshot.decode content = .ok snapshot →
    checked.output.countP reportsFailure =
      (snapshot.items.map (Item.render dialect)).countP fun rendering => !rendering.isComplete
  silent : (∀ snapshot, Snapshot.decode content ≠ .ok snapshot) →
    checked.output = [] ∧ rendered.output = []

/-- A check and a strict rendering of the same file agree, whatever the flags and whatever the file
holds: both succeed exactly if it holds a snapshot of complete trees. Rendering alone needs just a
snapshot. The renderings are printed in the dialect that the flags ask for, one after another, also by
a strict run that fails for some of them; a check prints one line for each, and as many of them report
a failure as renderings are incomplete. Nothing is printed where there is no snapshot. All of this
holds of the rendering to whose arguments strictness is added, and of any strict one whose flags ask
for the same dialect. -/
theorem concordant_runs {disk : Disk String} (held : disk.content path = some content)
    (surroundings : Surroundings)
    (checking : Invocation checkFlags (.check path) checkArguments)
    (rendering : Invocation flags (.render path false) renderArguments)
    (strictly : Invocation strictFlags (.render path true) strictArguments)
    (alike : Dialect.said strictFlags = Dialect.said flags) :
    Concordant (Dialect.said flags) content (disk.run surroundings checkArguments)
        (disk.run surroundings renderArguments) (disk.run surroundings strictArguments) ∧
      ∃ front back, renderArguments = front ++ "render" :: back ∧
        Concordant (Dialect.said flags) content (disk.run surroundings checkArguments)
          (disk.run surroundings renderArguments)
          (disk.run surroundings (front ++ "render" :: "--strict" :: back)) := by
  suffices concordant : ∀ {asked arguments}, Invocation asked (.render path true) arguments →
      Dialect.said asked = Dialect.said flags →
        Concordant (Dialect.said flags) content (disk.run surroundings checkArguments)
          (disk.run surroundings renderArguments) (disk.run surroundings arguments) by
    obtain ⟨front, back, same, added⟩ := rendering.strict
    exact ⟨concordant strictly alike, front, back, same, concordant added rfl⟩
  intro asked arguments strictly alike
  obtain ⟨checkCode, checkOutput⟩ := run_check held surroundings checking (Dialect.said flags)
  obtain ⟨renderCode, renderOutput⟩ := run_render held surroundings rendering
  obtain ⟨strictCode, strictOutput⟩ := run_render held surroundings strictly
  rw [alike] at strictCode strictOutput
  have complete : (disk.run surroundings arguments).code = 0 ↔
      ∃ snapshot, Snapshot.decode content = .ok snapshot ∧
        ∀ item ∈ snapshot.items, (item.render (Dialect.said flags)).isComplete = true := by
    simpa using strictCode
  refine {
    checks := checkCode.trans complete.symm
    complete
    readable := by simpa using renderCode
    alike := strictOutput.trans renderOutput.symm
    texts := fun snapshot decoded => ?texts
    reports := fun snapshot decoded => by rw [checkOutput, decoded]
    unbroken := ?unbroken
    failures := fun snapshot decoded => ?failures
    silent := fun unreadable => ?silent }
  case texts => rw [renderOutput, decoded, textOf, List.map_map]; rfl
  case failures => rw [checkOutput, decoded]; exact countP_reports _ snapshot.items
  case unbroken =>
    intro line member
    rw [checkOutput] at member
    cases decoded : Snapshot.decode content with
    | error error => simp [decoded] at member
    | ok snapshot =>
      rw [decoded] at member
      obtain ⟨row, -, rfl⟩ := List.mem_map.mp member
      exact unbroken_report _ row.1 row.2
  case silent =>
    cases decoded : Snapshot.decode content with
    | error error => rw [checkOutput, renderOutput, decoded]; exact ⟨rfl, rfl⟩
    | ok snapshot => exact absurd decoded (unreadable snapshot)

/-- An inequality, a spatial constructor, and a junction of nothing, which is incomplete. -/
def mixture : Snapshot where
  items := [.expression (.binary .ne (.named "a") (.named "b")),
    .expression (.dimArray [sampleDimension "X" 0 0x3ff0000000000000]), .predicate (.all [])]

/-- It is in the only file. -/
def mixtureDisk : Disk String where
  content path := if path = "s" then some mixture.bytes else none

theorem decode_mixture : Snapshot.decode mixture.bytes = .ok mixture := by
  have left : (Expr.named "a").Storable := .column ⟨nofun, by decide⟩
  have right : (Expr.named "b").Storable := .column ⟨nofun, by decide⟩
  have storable : ∀ item ∈ mixture.items, item.Storable := by
    intro item member
    simp only [mixture, List.mem_cons, List.not_mem_nil, or_false] at member
    rcases member with rfl | rfl | rfl
    · exact .binary .ne left right
    · exact .dimArray (by decide) (by decide)
    · exact .junction .and (by decide) nofun
  have decoded := Snapshot.decode_shallow mixture rfl (by decide) storable [] (by simp [mixture])
    (by decide)
  rwa [List.append_nil] at decoded

/-- Under flags before and behind the verb, all of it is printed as they ask, strictly or not. -/
theorem concordant_runs_mixture :
    let run := mixtureDisk.run { log := fun _ => { shown := id } }
    let checked := run ["check", "s"]
    let rendered := run ["--sdo-schema", "GEO", "render", "s", "--bang-not-equal"]
    let strictly := run ["--bang-not-equal", "render", "--strict", "--sdo-schema=GEO", "s"]
    Concordant { schema := some "GEO", notEqual := .bang } mixture.bytes checked rendered strictly ∧
      rendered.code = 0 ∧ checked.code ≠ 0 ∧ rendered.output = strictly.output ∧
      (∃ front back, ["--sdo-schema", "GEO", "render", "s", "--bang-not-equal"] =
        front ++ "render" :: back ∧ (run (front ++ "render" :: "--strict" :: back)).code ≠ 0) ∧
      textOf rendered.output = "a != b\n" ++
        "GEO.SDO_DIM_ARRAY(GEO.SDO_DIM_ELEMENT('X', 0, 1, 0.05))\n" ++
          "(<operands are empty>)\n" := by
  intro run checked rendered strictly
  have word : IsWord "s" := .inr (by decide)
  have named : "s" ≠ "" := by decide
  have checking : Invocation [] (.check "s") ["check", "s"] := by
    have behind : Written (some .check) [.file "s"] ["s"] := .more (.file word named) rfl .nothing
    exact .intro .nothing behind .nothing ⟨by decide, by decide⟩ ⟨by decide, by decide⟩ rfl
  have rendering : Invocation [.schema "GEO", .bang] (.render "s" false)
      ["--sdo-schema", "GEO", "render", "s", "--bang-not-equal"] := by
    have ahead : Written none [.schema "GEO"] ["--sdo-schema", "GEO"] :=
      .more (.apart (.inr (by decide))) rfl .nothing
    have behind : Written (some .render) [.file "s", .bang] ["s", "--bang-not-equal"] :=
      .more (.file word named) rfl (.more .bang rfl .nothing)
    exact .intro ahead behind .nothing ⟨by decide, by decide⟩ ⟨by decide, by decide⟩ rfl
  have strict : Invocation [.bang, .schema "GEO"] (.render "s" true)
      ["--bang-not-equal", "render", "--strict", "--sdo-schema=GEO", "s"] := by
    have ahead : Written none [.bang] ["--bang-not-equal"] := .more .bang rfl .nothing
    have behind : Written (some .render) [.strict, .schema "GEO", .file "s"]
        ["--strict", "--sdo-schema=GEO", "s"] :=
      .more .strict rfl (.more (.attached "GEO") rfl (.more (.file word named) rfl .nothing))
    exact .intro ahead behind .nothing ⟨by decide, by decide⟩ ⟨by decide, by decide⟩ rfl
  have held : mixtureDisk.content "s" = some mixture.bytes := rfl
  obtain ⟨concordant, front, back, same, added⟩ :=
    concordant_runs held { log := fun _ => { shown := id } } checking rendering strict rfl
  have fails : checked.code ≠ 0 := by
    intro succeeds
    obtain ⟨snapshot, decoded, complete⟩ := concordant.complete.mp (concordant.checks.mp succeeds)
    obtain rfl : mixture = snapshot := Except.ok.inj (decode_mixture.symm.trans decoded)
    exact absurd (complete (.predicate (.all [])) (by simp [mixture])) (by decide)
  refine ⟨concordant, concordant.readable.mpr ⟨_, decode_mixture⟩, fails, concordant.alike.symm,
    ⟨front, back, same, mt added.checks.mpr fails⟩, ?_⟩
  rw [concordant.texts mixture decode_mixture]
  decide +kernel

end CommandLine
end ConstraintTree
