import ConstraintTree.Proofs.Snapshot.Passage

/-!
How many nested nodes reading allows. Each node takes the four bytes of its variant before its children
are read, so a reader that is allowed a node for every four bytes is never stopped by this: allowed
more, it would find the same value or the same fault in the same place. Reading therefore ends on every
input, of its own accord.
-/
namespace ConstraintTree.Reader

/-- No byte comes back. -/
def Shortens (before after : Cursor σ) : Prop := after.rest.length ≤ before.rest.length

private theorem shortens_take (count : Nat) (missing : DecodeError) :
    Moves (Shortens (σ := σ)) (take count missing) := by
  intro before
  simp only [take]
  cases found : Bytes.split? count before.rest with
  | none => exact Nat.le_refl _
  | some parts =>
    obtain ⟨same, -⟩ := Bytes.eq_append_of_split? found
    change parts.2.length ≤ before.rest.length
    rw [same, List.length_append]
    exact Nat.le_add_left _ _

theorem passage_shortens (nesting : Nesting σ) : Passage nesting Shortens where
  refl _ := Nat.le_refl _
  trans _ _ _ first second := Nat.le_trans second first
  take := shortens_take
  field := by
    intro α child moves before
    cases opened : nesting.enter before.nesting with
    | error limit =>
      rw [stop_refused child opened]
      exact Nat.le_refl _
    | ok inside =>
      rw [stop_field child opened]
      exact moves { before with nesting := inside }

/-- A variant takes four bytes, and fails on the spot where there are fewer. -/
theorem variant_cases [Listed α] (before : Cursor σ) :
    (variant : Reader σ α) before = .error .endOfInput before ∧ before.rest.length < 4 ∨
      (stop ((variant : Reader σ α) before)).rest.length + 4 = before.rest.length := by
  cases found : Bytes.split? 4 before.rest with
  | none =>
    have failed : (nat 4 : Reader σ Nat) before = .error .endOfInput before :=
      bind_of_error (by simp only [take, found])
    exact .inl ⟨bind_of_error failed, Bytes.split?_eq_none_iff.mp found⟩
  | some parts =>
    obtain ⟨front, back⟩ := parts
    have counted : (nat 4 : Reader σ Nat) before = .ok (Bytes.toNat front) { before with rest := back } :=
      bind_of_ok (by simp only [take, found])
    obtain ⟨same, size⟩ := Bytes.eq_append_of_split? found
    right
    rw [variant, bind_of_ok counted, same, List.length_append, size, Nat.add_comm]
    cases (Listed.values : List α)[Bytes.toNat front]? <;> rfl

/-- Where fewer bytes than that are left, the second reader does what the first one does. -/
structure AlikeBelow (size : Nat) (first second : Reader σ α) : Prop where
  shortens : Moves Shortens first
  alike : ∀ before, before.rest.length < size → second before = first before

namespace AlikeBelow

variable {size : Nat}

theorem same {reader : Reader σ α} (shortens : Moves Shortens reader) :
    AlikeBelow size reader reader := ⟨shortens, fun _ _ => rfl⟩

theorem bind {first second : Reader σ α} {next next' : α → Reader σ β}
    (here : AlikeBelow size first second)
    (goesOn : ∀ value, AlikeBelow size (next value) (next' value)) :
    AlikeBelow size (first >>= next) (second >>= next') := by
  constructor
  · intro before
    have shorter := here.shortens before
    cases found : first before with
    | ok value after =>
      rw [found] at shorter
      rw [bind_of_ok found]
      exact Nat.le_trans ((goesOn value).shortens after) shorter
    | error fault after =>
      rw [found] at shorter
      rw [bind_of_error found]
      exact shorter
  · intro before small
    have shorter := here.shortens before
    have alike := here.alike before small
    cases found : first before with
    | ok value after =>
      rw [found] at alike shorter
      rw [bind_of_ok found, bind_of_ok alike]
      exact (goesOn value).alike after (Nat.lt_of_le_of_lt shorter small)
    | error fault after =>
      rw [found] at alike
      rw [bind_of_error found, bind_of_error alike]

theorem last {first second : Reader σ α} (here : AlikeBelow size first second) (finish : α → β) :
    AlikeBelow size (first >>= fun value => pure (finish value))
      (second >>= fun value => pure (finish value)) :=
  here.bind fun _ => .same fun _ => Nat.le_refl _

/-- Behind a variant there are four bytes less. -/
theorem behindVariant [Listed κ] {next next' : κ → Reader σ α} (nesting : Nesting σ)
    (goesOn : ∀ kind, AlikeBelow size (next kind) (next' kind)) :
    AlikeBelow (size + 4) (variant >>= next) (variant >>= next') := by
  constructor
  · exact (passage_shortens nesting).bind (passage_shortens nesting).variant
      fun kind => (goesOn kind).shortens
  · intro before small
    cases found : (variant : Reader σ κ) before with
    | error fault after => rw [bind_of_error found, bind_of_error found]
    | ok kind after =>
      rw [bind_of_ok found, bind_of_ok found]
      rcases variant_cases (α := κ) before with ⟨failed, -⟩ | shorter
      · rw [found] at failed
        cases failed
      · rw [found] at shorter
        exact (goesOn kind).alike after (by simp only [stop] at shorter; omega)

/-- Where not even a variant is left, no node can be read. -/
theorem exhausted [Listed κ] (next : κ → Reader σ α) :
    AlikeBelow 4 (throw .endOfInput) (variant >>= next) := by
  constructor
  · exact fun _ => Nat.le_refl _
  · intro before small
    rcases variant_cases (α := κ) before with ⟨failed, -⟩ | shorter
    · rw [bind_of_error failed]
      rfl
    · omega

theorem option {first second : Reader σ α} (nesting : Nesting σ)
    (here : AlikeBelow size first second) :
    AlikeBelow size (Reader.option first) (Reader.option second) := by
  refine .bind (.same (passage_shortens nesting).byte) fun found => ?_
  split
  · exact .same ((passage_shortens nesting).pure none)
  · exact here.last some
  · exact .same ((passage_shortens nesting).throw _)

theorem many {first second : Reader σ α} (here : AlikeBelow size first second) (count : Nat) :
    AlikeBelow size (Reader.many first count) (Reader.many second count) := by
  induction count with
  | zero => exact .same fun _ => Nat.le_refl _
  | succ count ih => exact here.bind fun head => ih.last _

theorem list {first second : Reader σ α} (nesting : Nesting σ)
    (here : AlikeBelow size first second) :
    AlikeBelow size (Reader.list first) (Reader.list second) :=
  .bind (.same ((passage_shortens nesting).nat 8)) fun count => here.many count

theorem field {first second : Reader σ α} (nesting : Nesting σ)
    (here : AlikeBelow size first second) :
    AlikeBelow size (Reader.field nesting first) (Reader.field nesting second) where
  shortens := (passage_shortens nesting).field here.shortens
  alike before small := by
    unfold Reader.field
    cases nesting.enter before.nesting with
    | error limit => rfl
    | ok inside =>
      dsimp only
      rw [here.alike { before with nesting := inside } small]

/-! Trees, however many more nodes are allowed. -/

variable (nesting : Nesting σ)

theorem expr {nodes nodes' : Nat} (more : nodes ≤ nodes') :
    AlikeBelow (4 * (nodes + 1)) (Expr.read nesting nodes) (Expr.read nesting nodes') := by
  have passage := passage_shortens nesting
  induction nodes generalizing nodes' with
  | zero =>
    cases nodes' with
    | zero => exact .same (passage.throw _)
    | succ left => exact .exhausted _
  | succ nodes ih =>
    obtain ⟨left, rfl⟩ : ∃ left, nodes' = left + 1 := ⟨nodes' - 1, by omega⟩
    have fewer := ih (Nat.le_of_succ_le_succ more)
    have child := fewer.field nesting
    have operand := (fewer.option nesting).field nesting
    have listed := (fewer.list nesting).field nesting
    refine behindVariant nesting fun kind => ?_
    cases kind with
    | column => exact .same (passage.last passage.column _)
    | literal => exact .same (passage.last passage.literal _)
    | binary =>
      exact .bind (.same passage.variant) fun _ => child.bind fun _ => child.last _
    | unary => exact .bind (.same passage.variant) fun _ => child.last _
    | call => exact .bind (.same passage.text) fun _ => listed.last _
    | between =>
      exact operand.bind fun _ => operand.bind fun _ => operand.bind fun _ =>
        .same (passage.last passage.flag _)
    | inList =>
      exact child.bind fun _ => listed.bind fun _ => .same (passage.last passage.flag _)
    | dimArray => exact .same (passage.last (passage.list passage.dimElement) _)

theorem predicate {nodes nodes' : Nat} (more : nodes ≤ nodes') :
    AlikeBelow (4 * (nodes + 1)) (Predicate.read nesting nodes) (Predicate.read nesting nodes') := by
  have passage := passage_shortens nesting
  induction nodes generalizing nodes' with
  | zero =>
    cases nodes' with
    | zero => exact .same (passage.throw _)
    | succ left => exact .exhausted _
  | succ nodes ih =>
    obtain ⟨left, rfl⟩ : ∃ left, nodes' = left + 1 := ⟨nodes' - 1, by omega⟩
    have fewer := Nat.le_of_succ_le_succ more
    refine behindVariant nesting fun kind => ?_
    cases kind with
    | quantification =>
      exact .bind (.same passage.variant) fun _ =>
        .bind (.same (passage.option passage.text)) fun _ =>
          (((ih fewer).option nesting).field nesting).last _
    | atom =>
      exact .bind (.same passage.text) fun _ =>
        (((expr nesting fewer).list nesting).field nesting).last _
    | negation => exact ((ih fewer).field nesting).last _
    | junction =>
      exact .bind (.same passage.variant) fun _ => (((ih fewer).list nesting).field nesting).last _

theorem item {nodes nodes' : Nat} (more : nodes ≤ nodes') :
    AlikeBelow (4 * (nodes + 1)) (Item.read nesting nodes) (Item.read nesting nodes') := by
  refine .bind (.same (passage_shortens nesting).variant) fun kind => ?_
  cases kind with
  | expression => exact (expr nesting more).last _
  | predicate => exact (predicate nesting more).last _

theorem snapshot {nodes nodes' : Nat} (more : nodes ≤ nodes') :
    AlikeBelow (4 * (nodes + 1)) (Snapshot.read nesting nodes) (Snapshot.read nesting nodes') :=
  .bind (.same (passage_shortens nesting).version) fun _ => ((item nesting more).list nesting).last _

/-- A reader that is allowed a node for every four bytes does the same when it is allowed more. -/
theorem enough {reader : Nat → Reader σ α}
    (alike : ∀ nodes nodes', nodes ≤ nodes' → AlikeBelow (4 * (nodes + 1)) (reader nodes) (reader nodes'))
    (before : Cursor σ) (more : before.rest.length / 4 ≤ nodes) :
    reader nodes before = reader (before.rest.length / 4) before :=
  (alike _ _ more).alike before (by omega)

end AlikeBelow
end ConstraintTree.Reader
