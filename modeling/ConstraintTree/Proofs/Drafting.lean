import ConstraintTree.Draft
import ConstraintTree.Proofs.GapWalk

namespace ConstraintTree

/-! What a row of edits leaves in a field. -/

/-- The last value among the edits that give one. -/
def lastGiven (given : ε → Option β) (edits : List ε) : Option β :=
  (edits.filterMap given).getLast?

/-- A field that an edit replaces or leaves alone holds the last value that it was given, and before
that what it held. -/
theorem get_foldl (apply : δ → ε → δ) (get : δ → Option β) (given : ε → Option β)
    (step : ∀ draft edit, get (apply draft edit) = (given edit).or (get draft)) (edits : List ε)
    (draft : δ) :
    get (edits.foldl apply draft) = (lastGiven given edits).or (get draft) := by
  induction edits generalizing draft with
  | nil => rfl
  | cons edit rest ih =>
    rw [List.foldl_cons, ih, step, lastGiven, lastGiven, ← Option.or_assoc]
    cases found : given edit with
    | none => simp [found]
    | some value =>
      rw [List.filterMap_cons_some found, List.getLast?_cons]
      cases (rest.filterMap given).getLast? <;> rfl

theorem isSome_lastGiven {given : ε → Option β} {edits : List ε} :
    (lastGiven given edits).isSome = true ↔ ∃ edit ∈ edits, (given edit).isSome = true := by
  rw [lastGiven, Option.isSome_iff_ne_none, ne_eq, List.getLast?_eq_none_iff,
    List.filterMap_eq_nil_iff]
  simp [Option.isSome_iff_ne_none]

/-- Edits of other fields do not matter. -/
theorem lastGiven_filter [DecidableEq φ] {field : ε → φ} {own : φ} {given : ε → Option β}
    (foreign : ∀ edit, field edit ≠ own → given edit = none) (edits : List ε) :
    lastGiven given (edits.filter (field · = own)) = lastGiven given edits := by
  have same : (fun edit => if decide (field edit = own) = true then given edit else none) = given := by
    funext edit
    by_cases mine : field edit = own
    · simp [mine]
    · simp [mine, foreign edit mine]
  rw [lastGiven, List.filterMap_filter, same, lastGiven]

/-- Edits of one field in the same order leave the same there, whatever stands between them. -/
theorem lastGiven_congr [DecidableEq φ] {field : ε → φ} {own : φ} {given : ε → Option β}
    (foreign : ∀ edit, field edit ≠ own → given edit = none) {edits others : List ε}
    (same : others.filter (field · = own) = edits.filter (field · = own)) :
    lastGiven given others = lastGiven given edits := by
  rw [← lastGiven_filter foreign others, same, lastGiven_filter foreign]

/-! The parts that a node requires. -/

/-- A part that a node requires: the gap that its absence leaves, and the gaps inside it if it is
there. -/
structure Slot where
  absent : Gap
  inside : Option (List Gap)

namespace Slot

/-- The gap of a part that is not there. -/
def missing (slot : Slot) : List Gap := if slot.inside.isNone then [slot.absent] else []

/-- All gaps of a part. -/
def gaps (slot : Slot) : List Gap := slot.inside.getD [slot.absent]

private theorem missing_sublist (slots : List Slot) :
    (slots.flatMap missing).Sublist (slots.flatMap gaps) := by
  induction slots with
  | nil => exact .refl _
  | cons slot rest ih =>
    rw [List.flatMap_cons, List.flatMap_cons]
    refine List.Sublist.append ?_ ih
    rcases slot with ⟨absent, _ | inside⟩
    · exact .refl _
    · exact List.nil_sublist inside

theorem missing_eq_gaps {slots : List Slot}
    (whole : ∀ slot ∈ slots, ∀ inside ∈ slot.inside, inside = []) :
    slots.flatMap missing = slots.flatMap gaps := by
  induction slots with
  | nil => rfl
  | cons slot rest ih =>
    rw [List.flatMap_cons, List.flatMap_cons, ih fun slot member => whole slot (.tail _ member)]
    congr 1
    rcases slot with ⟨absent, _ | inside⟩
    · rfl
    · exact (whole _ List.mem_cons_self inside rfl).symm

private theorem missing_eq_nil_iff {slots : List Slot} :
    slots.flatMap missing = [] ↔ ∀ slot ∈ slots, slot.inside.isSome = true := by
  rw [List.flatMap_eq_nil_iff]
  refine forall₂_congr fun slot _ => ?_
  rcases slot with ⟨absent, _ | inside⟩ <;> simp [missing]

end Slot

/-! Strict building of a node, beside the judgement of its tree. -/

theorem Item.missing_visit (item : Item) : (Validator.visit {} item).missing = item.gaps :=
  Validator.notes_visit item {}

theorem Item.validate_eq_ok_iff {item : Item} : item.validate = .ok () ↔ item.gaps = [] := by
  rw [validate_eq, TreeError.unlessMissing_eq_ok_iff]
  simp

/-- Strict building of a draft, as a validator and the renderings of the tree see it. The draft is
accepted when all required parts are `supplied`, and otherwise refused for those that are not; the
tree lacks nothing else as long as the parts are `sound` by themselves. -/
structure StrictlyBuilt {α : Type} (strict : Except TreeError α) (built : α) (item : Item)
    (missing : List Gap) (supplied sound : Prop) : Prop where
  accepted : strict = .ok built ↔ supplied
  refused : ¬supplied → strict = .error (.incomplete missing)
  /-- A validator notes the gaps of the draft in their order, perhaps among others. -/
  noted : missing.Sublist (Validator.visit {} item).missing
  /-- So does every rendering. -/
  reported : ∀ dialect, missing.Sublist (item.render dialect).missing
  exact : sound → missing = (Validator.visit {} item).missing ∧
    ∀ dialect, missing = (item.render dialect).missing
  validated : item.validate = .ok () → strict = .ok built

/-- What the parts of a node say of the draft and of the tree settles how both are judged. -/
theorem StrictlyBuilt.of_slots {α : Type} {supplied sound : Prop} (slots : List Slot) (built : α)
    {item : Item} (tree : item.gaps = slots.flatMap Slot.gaps)
    (filled : supplied ↔ ∀ slot ∈ slots, slot.inside.isSome = true)
    (whole : sound → ∀ slot ∈ slots, ∀ inside ∈ slot.inside, inside = []) :
    StrictlyBuilt (TreeError.unlessMissing (slots.flatMap Slot.missing) built) built item
      (slots.flatMap Slot.missing) supplied sound := by
  have sublist : (slots.flatMap Slot.missing).Sublist item.gaps := tree ▸ Slot.missing_sublist slots
  have complete : supplied ↔ slots.flatMap Slot.missing = [] :=
    filled.trans Slot.missing_eq_nil_iff.symm
  refine ⟨?_, ?_, ?_, ?_, ?_, ?_⟩
  · rw [TreeError.unlessMissing_eq_ok_iff, complete]
    simp
  · intro lacking
    exact TreeError.unlessMissing_eq_error_iff.mpr ⟨fun none => lacking (complete.mpr none), rfl⟩
  · rwa [item.missing_visit]
  · intro dialect
    rwa [item.missing_render]
  · intro each
    have same : slots.flatMap Slot.missing = item.gaps := tree ▸ Slot.missing_eq_gaps (whole each)
    refine ⟨same.trans item.missing_visit.symm, ?_⟩
    intro dialect
    exact same.trans (item.missing_render dialect).symm
  · intro validated
    rw [Item.validate_eq_ok_iff.mp validated] at sublist
    exact TreeError.unlessMissing_eq_ok_iff.mpr ⟨List.sublist_nil.mp sublist, rfl⟩

namespace BetweenDraft

/-- The fields of a draft. -/
inductive Field where
  | test | lower | upper | negated
  deriving DecidableEq, Repr

namespace Edit

def field : Edit → Field
  | .test _ => .test
  | .lower _ => .lower
  | .upper _ => .upper
  | .negated _ => .negated

def operand? (field : Field) : Edit → Option Expr
  | .test operand => if field = .test then some operand else none
  | .lower operand => if field = .lower then some operand else none
  | .upper operand => if field = .upper then some operand else none
  | .negated _ => none

def negated? : Edit → Option Bool
  | .negated value => some value
  | _ => none

private theorem operand?_foreign {field : Field} (edit : Edit) (other : edit.field ≠ field) :
    edit.operand? field = none := by
  cases edit with
  | test | lower | upper => exact if_neg (Ne.symm other)
  | negated => rfl

private theorem negated?_foreign (edit : Edit) (other : edit.field ≠ .negated) :
    edit.negated? = none := by
  cases edit with
  | test | lower | upper => rfl
  | negated => exact absurd rfl other

private theorem isSome_operand? {field : Field} (required : field ≠ .negated) (edit : Edit) :
    (edit.operand? field).isSome = true ↔ edit.field = field := by
  cases edit <;> cases field <;> simp_all [Edit.field, operand?]

end Edit

def after (edits : List Edit) : BetweenDraft := edits.foldl apply {}

def operand (draft : BetweenDraft) : Field → Option Expr
  | .test => draft.test
  | .lower => draft.lower
  | .upper => draft.upper
  | .negated => none

theorem operand_after (edits : List Edit) (field : Field) :
    (after edits).operand field = lastGiven (Edit.operand? field) edits := by
  have step (draft : BetweenDraft) (edit : Edit) :
      (apply draft edit).operand field = (edit.operand? field).or (draft.operand field) := by
    cases edit <;> cases field <;> rfl
  rw [after, get_foldl apply (operand · field) (Edit.operand? field) step]
  cases field <;> exact Option.or_none

private theorem negated_after (edits : List Edit) :
    (after edits).negated = (lastGiven Edit.negated? edits).getD false := by
  have step (draft : BetweenDraft) (edit : Edit) :
      some (apply draft edit).negated = edit.negated?.or (some draft.negated) := by
    cases edit <;> rfl
  have given := get_foldl apply (fun draft => some draft.negated) Edit.negated? step edits {}
  rw [Option.or_some] at given
  exact Option.some.inj given

/-- Each field holds what it was given last. -/
theorem after_eq (edits : List Edit) :
    after edits =
      { test := lastGiven (Edit.operand? .test) edits
        lower := lastGiven (Edit.operand? .lower) edits
        upper := lastGiven (Edit.operand? .upper) edits
        negated := (lastGiven Edit.negated? edits).getD false } := by
  rw [← operand_after, ← operand_after, ← operand_after, ← negated_after]
  rfl

/-- Only what each field was given last matters, so edits of different fields can change places. -/
theorem after_congr {edits others : List Edit}
    (same : ∀ field, others.filter (·.field = field) = edits.filter (·.field = field)) :
    after others = after edits := by
  have operand (field : Field) :
      lastGiven (Edit.operand? field) others = lastGiven (Edit.operand? field) edits :=
    lastGiven_congr Edit.operand?_foreign (same field)
  have negated : lastGiven Edit.negated? others = lastGiven Edit.negated? edits :=
    lastGiven_congr Edit.negated?_foreign (same .negated)
  rw [after_eq, after_eq, operand, operand, operand, negated]

/-- The parts that a range test requires. -/
def slots (draft : BetweenDraft) : List Slot :=
  [⟨.betweenTest, draft.test.map Expr.gaps⟩, ⟨.betweenBegin, draft.lower.map Expr.gaps⟩,
    ⟨.betweenEnd, draft.upper.map Expr.gaps⟩]

theorem missing_eq_slots (draft : BetweenDraft) :
    draft.missing = draft.slots.flatMap Slot.missing := by
  rcases draft with ⟨_ | _, _ | _, _ | _, _⟩ <;> rfl

theorem gaps_build (draft : BetweenDraft) : draft.build.gaps = draft.slots.flatMap Slot.gaps := by
  rcases draft with ⟨test, lower, upper, negated⟩
  cases test <;> cases lower <;> cases upper <;>
    simp [build, Expr.gaps, Expr.gapsOr, slots, Slot.gaps]

/-- All operands are there exactly if each of their fields was set some time. -/
theorem supplied_iff (edits : List Edit) :
    (∀ field, field ≠ .negated → ∃ edit ∈ edits, edit.field = field) ↔
      ∀ slot ∈ (after edits).slots, slot.inside.isSome = true := by
  have given (field : Field) (required : field ≠ .negated) :
      (∃ edit ∈ edits, edit.field = field) ↔ ((after edits).operand field).isSome = true := by
    simp only [operand_after, isSome_lastGiven, Edit.isSome_operand? required]
  simp only [slots, List.forall_mem_cons, Option.isSome_map]
  constructor
  · intro supplied
    exact ⟨(given .test nofun).mp (supplied .test nofun),
      (given .lower nofun).mp (supplied .lower nofun),
      (given .upper nofun).mp (supplied .upper nofun), nofun⟩
  · rintro ⟨test, lower, upper, -⟩ field required
    apply (given field required).mpr
    cases field with
    | test => exact test
    | lower => exact lower
    | upper => exact upper
    | negated => exact absurd rfl required

/-- Operands that validate have no gaps inside. -/
theorem slots_whole {draft : BetweenDraft}
    (sound : ∀ field, ∀ expr ∈ draft.operand field, expr.validate = .ok ()) :
    ∀ slot ∈ draft.slots, ∀ inside ∈ slot.inside, inside = [] := by
  have whole (field : Field) : ∀ inside ∈ (draft.operand field).map Expr.gaps, inside = [] := by
    intro inside member
    obtain ⟨expr, held, rfl⟩ := Option.map_eq_some_iff.mp member
    have validates : (Item.expression expr).validate = .ok () := sound field expr held
    exact Item.validate_eq_ok_iff.mp validates
  simp only [slots, List.forall_mem_cons]
  exact ⟨whole .test, whole .lower, whole .upper, nofun⟩

theorem strictlyBuilt_after (edits : List Edit) :
    StrictlyBuilt (after edits).buildStrict (after edits).build (.expression (after edits).build)
      (after edits).missing
      (∀ field, field ≠ .negated → ∃ edit ∈ edits, edit.field = field)
      (∀ field, ∀ expr ∈ (after edits).operand field, expr.validate = .ok ()) := by
  rw [buildStrict, missing_eq_slots]
  exact .of_slots _ _ (gaps_build _) (supplied_iff edits) slots_whole

end BetweenDraft

namespace QuantificationDraft

inductive Field where
  | bound | condition
  deriving DecidableEq, Repr

namespace Edit

def field : Edit → Field
  | .bound _ => .bound
  | .condition _ => .condition

def bound? : Edit → Option String
  | .bound name => some name
  | .condition _ => none

def condition? : Edit → Option Predicate
  | .bound _ => none
  | .condition body => some body

private theorem bound?_foreign (edit : Edit) (other : edit.field ≠ .bound) : edit.bound? = none := by
  cases edit with
  | bound => exact absurd rfl other
  | condition => rfl

private theorem condition?_foreign (edit : Edit) (other : edit.field ≠ .condition) :
    edit.condition? = none := by
  cases edit with
  | bound => rfl
  | condition => exact absurd rfl other

private theorem isSome_bound? (edit : Edit) : edit.bound?.isSome = true ↔ edit.field = .bound := by
  cases edit <;> simp [bound?, field]

private theorem isSome_condition? (edit : Edit) :
    edit.condition?.isSome = true ↔ edit.field = .condition := by
  cases edit <;> simp [condition?, field]

end Edit

def after (quantifier : Quantifier) (edits : List Edit) : QuantificationDraft :=
  edits.foldl apply { quantifier }

variable (quantifier : Quantifier)

private theorem bound_after (edits : List Edit) :
    (after quantifier edits).bound = lastGiven Edit.bound? edits := by
  have step (draft : QuantificationDraft) (edit : Edit) :
      (apply draft edit).bound = edit.bound?.or draft.bound := by
    cases edit <;> rfl
  rw [after, get_foldl apply bound Edit.bound? step]
  exact Option.or_none

private theorem condition_after (edits : List Edit) :
    (after quantifier edits).condition = lastGiven Edit.condition? edits := by
  have step (draft : QuantificationDraft) (edit : Edit) :
      (apply draft edit).condition = edit.condition?.or draft.condition := by
    cases edit <;> rfl
  rw [after, get_foldl apply condition Edit.condition? step]
  exact Option.or_none

private theorem quantifier_foldl (edits : List Edit) (draft : QuantificationDraft) :
    (edits.foldl apply draft).quantifier = draft.quantifier := by
  induction edits generalizing draft with
  | nil => rfl
  | cons edit rest ih =>
    rw [List.foldl_cons, ih]
    cases edit <;> rfl

theorem after_eq (edits : List Edit) :
    after quantifier edits =
      { quantifier
        bound := lastGiven Edit.bound? edits
        condition := lastGiven Edit.condition? edits } := by
  rw [← bound_after quantifier, ← condition_after quantifier]
  have kept : (after quantifier edits).quantifier = quantifier := quantifier_foldl edits _
  exact congrArg (QuantificationDraft.mk · _ _) kept

theorem after_congr {edits others : List Edit}
    (same : ∀ field, others.filter (·.field = field) = edits.filter (·.field = field)) :
    after quantifier others = after quantifier edits := by
  have bound : lastGiven Edit.bound? others = lastGiven Edit.bound? edits :=
    lastGiven_congr Edit.bound?_foreign (same .bound)
  have condition : lastGiven Edit.condition? others = lastGiven Edit.condition? edits :=
    lastGiven_congr Edit.condition?_foreign (same .condition)
  rw [after_eq, after_eq, bound, condition]

/-- The parts that a quantification requires. -/
def slots (draft : QuantificationDraft) : List Slot :=
  [⟨.quantifiedVariable, draft.bound.map fun _ => []⟩,
    ⟨.quantifiedCondition, draft.condition.map Predicate.gaps⟩]

theorem missing_eq_slots (draft : QuantificationDraft) :
    draft.missing = draft.slots.flatMap Slot.missing := by
  rcases draft with ⟨_, _ | _, _ | _⟩ <;> rfl

theorem gaps_build (draft : QuantificationDraft) :
    draft.build.gaps = draft.slots.flatMap Slot.gaps := by
  rcases draft with ⟨quantifier, bound, condition⟩
  cases bound <;> cases condition <;>
    simp [build, Predicate.gaps, Predicate.gapsOrCondition, slots, Slot.gaps]

/-- Both parts are there exactly if each was set some time. -/
theorem supplied_iff (edits : List Edit) :
    (∀ field, ∃ edit ∈ edits, edit.field = field) ↔
      ∀ slot ∈ (after quantifier edits).slots, slot.inside.isSome = true := by
  have bound : (∃ edit ∈ edits, edit.field = .bound) ↔
      (after quantifier edits).bound.isSome = true := by
    simp only [bound_after, isSome_lastGiven, Edit.isSome_bound?]
  have condition : (∃ edit ∈ edits, edit.field = .condition) ↔
      (after quantifier edits).condition.isSome = true := by
    simp only [condition_after, isSome_lastGiven, Edit.isSome_condition?]
  simp only [slots, List.forall_mem_cons, Option.isSome_map]
  constructor
  · intro supplied
    exact ⟨bound.mp (supplied .bound), condition.mp (supplied .condition), nofun⟩
  · rintro ⟨inBound, inCondition, -⟩ field
    cases field with
    | bound => exact bound.mpr inBound
    | condition => exact condition.mpr inCondition

/-- A name has no gaps inside, and neither has a condition that validates. -/
theorem slots_whole {draft : QuantificationDraft}
    (sound : ∀ body ∈ draft.condition, (Item.predicate body).validate = .ok ()) :
    ∀ slot ∈ draft.slots, ∀ inside ∈ slot.inside, inside = [] := by
  simp only [slots, List.forall_mem_cons]
  refine ⟨?_, ?_, nofun⟩
  · intro inside member
    obtain ⟨name, -, rfl⟩ := Option.map_eq_some_iff.mp member
    rfl
  · intro inside member
    obtain ⟨body, held, rfl⟩ := Option.map_eq_some_iff.mp member
    exact Item.validate_eq_ok_iff.mp (sound body held)

theorem strictlyBuilt_after (edits : List Edit) :
    StrictlyBuilt (after quantifier edits).buildStrict (after quantifier edits).build
      (.predicate (after quantifier edits).build) (after quantifier edits).missing
      (∀ field, ∃ edit ∈ edits, edit.field = field)
      (∀ body ∈ (after quantifier edits).condition, (Item.predicate body).validate = .ok ()) := by
  rw [buildStrict, missing_eq_slots]
  exact .of_slots _ _ (gaps_build _) (supplied_iff quantifier edits) slots_whole

end QuantificationDraft

namespace DimArrayDraft

def after (calls : List (List DimElement)) : DimArrayDraft := calls.foldl add {}

private theorem elements_foldl (calls : List (List DimElement)) (draft : DimArrayDraft) :
    (calls.foldl add draft).elements = draft.elements ++ calls.flatten := by
  induction calls generalizing draft with
  | nil => simp
  | cons more rest ih => simp [ih, add]

/-- The elements stand in the order of the additions. -/
theorem after_eq (calls : List (List DimElement)) : after calls = { elements := calls.flatten } :=
  congrArg DimArrayDraft.mk (elements_foldl calls {})

theorem missing_eq_gaps (draft : DimArrayDraft) : draft.missing = draft.build.gaps := by
  have each (elements : List DimElement) :
      (elements.filter (!·.isFinite)).map (fun _ => Gap.finiteNumber) =
        elements.flatMap DimElement.gaps := by
    induction elements with
    | nil => rfl
    | cons element rest ih =>
      rw [List.flatMap_cons, ← ih, DimElement.gaps]
      cases finite : element.isFinite <;> simp [finite]
  rw [missing, build, Expr.gaps, each]

theorem buildStrict_eq (draft : DimArrayDraft) :
    draft.buildStrict = TreeError.unlessMissing draft.build.gaps draft.build := by
  rw [buildStrict, missing_eq_gaps]

theorem buildStrict_eq_ok_iff (draft : DimArrayDraft) :
    draft.buildStrict = .ok draft.build ↔ draft.build.validate = .ok () := by
  have judged : draft.build.validate = TreeError.unlessMissing draft.build.gaps () :=
    (Item.expression draft.build).validate_eq
  rw [buildStrict_eq, judged, TreeError.unlessMissing_eq_ok_iff, TreeError.unlessMissing_eq_ok_iff]
  simp

private theorem buildStrict_refused {draft : DimArrayDraft} (refused : draft.build.validate ≠ .ok ()) :
    draft.buildStrict =
      .error (.incomplete (Validator.visitExpr {} draft.build).missing) := by
  have noted : (Validator.visitExpr {} draft.build).missing = draft.build.gaps :=
    (Item.expression draft.build).missing_visit
  rw [noted, buildStrict_eq, TreeError.unlessMissing_eq_error_iff]
  refine ⟨fun none => refused (draft.buildStrict_eq_ok_iff.mp ?_), rfl⟩
  exact draft.buildStrict_eq.trans (TreeError.unlessMissing_eq_ok_iff.mpr ⟨none, rfl⟩)

end DimArrayDraft

/-- Strict building and validating agree on every draft, however it was filled.

An array of dimensions holds its elements in the order in which they were added. Strict building, of
the draft or of the elements at once, accepts it exactly if it validates, and otherwise refuses it
for all that a validator notes.

A range test and a quantification hold what each field was given last, so edits of different fields
can change places, and strict building judges them by their own parts. -/
theorem strict_building :
    (∀ calls : List (List DimElement),
      let draft := DimArrayDraft.after calls
      draft.build = .dimArray calls.flatten ∧
        Expr.dimArrayStrict calls.flatten = draft.buildStrict ∧
        (draft.buildStrict = .ok draft.build ↔ draft.build.validate = .ok ()) ∧
        (draft.build.validate ≠ .ok () → draft.buildStrict =
          .error (.incomplete (Validator.visitExpr {} draft.build).missing))) ∧
    (∀ edits : List BetweenDraft.Edit,
      let draft := BetweenDraft.after edits
      draft.build = .between (lastGiven (BetweenDraft.Edit.operand? .test) edits)
          (lastGiven (BetweenDraft.Edit.operand? .lower) edits)
          (lastGiven (BetweenDraft.Edit.operand? .upper) edits)
          ((lastGiven BetweenDraft.Edit.negated? edits).getD false) ∧
        (∀ others : List BetweenDraft.Edit,
          (∀ field, others.filter (·.field = field) = edits.filter (·.field = field)) →
            (BetweenDraft.after others).build = draft.build) ∧
        StrictlyBuilt draft.buildStrict draft.build (.expression draft.build) draft.missing
          (∀ field, field ≠ .negated → ∃ edit ∈ edits, edit.field = field)
          (∀ field, ∀ expr ∈ draft.operand field, expr.validate = .ok ())) ∧
    ∀ (quantifier : Quantifier) (edits : List QuantificationDraft.Edit),
      let draft := QuantificationDraft.after quantifier edits
      draft.build = .quantification quantifier (lastGiven QuantificationDraft.Edit.bound? edits)
          (lastGiven QuantificationDraft.Edit.condition? edits) ∧
        (∀ others : List QuantificationDraft.Edit,
          (∀ field, others.filter (·.field = field) = edits.filter (·.field = field)) →
            (QuantificationDraft.after quantifier others).build = draft.build) ∧
        StrictlyBuilt draft.buildStrict draft.build (.predicate draft.build) draft.missing
          (∀ field, ∃ edit ∈ edits, edit.field = field)
          (∀ body ∈ draft.condition, (Item.predicate body).validate = .ok ()) := by
  refine ⟨?_, ?_, ?_⟩
  · intro calls draft
    refine ⟨?_, ?_, draft.buildStrict_eq_ok_iff, DimArrayDraft.buildStrict_refused⟩
    · exact congrArg DimArrayDraft.build (DimArrayDraft.after_eq calls)
    · exact congrArg DimArrayDraft.buildStrict (DimArrayDraft.after_eq calls).symm
  · intro edits draft
    refine ⟨?_, ?_, BetweenDraft.strictlyBuilt_after edits⟩
    · exact congrArg BetweenDraft.build (BetweenDraft.after_eq edits)
    · intro others same
      exact congrArg BetweenDraft.build (BetweenDraft.after_congr same)
  · intro quantifier edits draft
    refine ⟨?_, ?_, QuantificationDraft.strictlyBuilt_after quantifier edits⟩
    · exact congrArg QuantificationDraft.build (QuantificationDraft.after_eq quantifier edits)
    · intro others same
      exact congrArg QuantificationDraft.build (QuantificationDraft.after_congr quantifier same)

/-- A range test without its lower bound is refused for that bound alone, whatever the number above
is, and the order of its edits does not matter; a quantification set twice is accepted. -/
theorem strict_building_swapped :
    (BetweenDraft.after [.test (.named "x"), .upper (.number ⟨0x7FF8000000000000⟩)]).build =
        (BetweenDraft.after [.upper (.number ⟨0x7FF8000000000000⟩), .test (.named "x")]).build ∧
      (BetweenDraft.after [.upper (.number ⟨0x7FF8000000000000⟩), .test (.named "x")]).buildStrict =
        .error (.incomplete [.betweenBegin]) ∧
      (QuantificationDraft.after .universal
          [.bound "y", .condition (.atom "isValid" [.named "x"]), .bound "x"]).buildStrict =
        .ok (.quantification .universal (some "x") (some (.atom "isValid" [.named "x"]))) := by
  obtain ⟨-, range, quantification⟩ := strict_building
  obtain ⟨-, swapped, range⟩ := range [.upper (.number ⟨0x7FF8000000000000⟩), .test (.named "x")]
  obtain ⟨-, -, quantification⟩ := quantification .universal
    [.bound "y", .condition (.atom "isValid" [.named "x"]), .bound "x"]
  refine ⟨swapped _ ?_, range.refused ?_, quantification.accepted.mpr ?_⟩
  · intro field
    cases field <;> rfl
  · intro supplied
    obtain ⟨edit, member, lower⟩ := supplied .lower nofun
    simp only [List.mem_cons, List.not_mem_nil, or_false] at member
    rcases member with rfl | rfl <;> cases lower
  · intro field
    cases field with
    | bound => exact ⟨.bound "x", by simp, rfl⟩
    | condition => exact ⟨.condition (.atom "isValid" [.named "x"]), by simp, rfl⟩

end ConstraintTree
