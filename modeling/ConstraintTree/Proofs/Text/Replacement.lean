namespace ConstraintTree

/-- The second row is the first one with the replacement for each occurrence of the pattern. -/
inductive Replaces (pattern replacement : List Char) : List Char → List Char → Prop where
  | done : Replaces pattern replacement [] []
  | found (rest : Replaces pattern replacement source result) :
      Replaces pattern replacement (pattern ++ source) (replacement ++ result)
  | kept (other : ¬pattern <+: char :: source) (rest : Replaces pattern replacement source result) :
      Replaces pattern replacement (char :: source) (char :: result)

namespace Replaces

/-- A front in which the pattern begins nowhere is kept. -/
theorem front {pattern replacement front source result : List Char}
    (fresh : ∀ tail, tail <:+ front → tail ≠ [] → ¬pattern <+: tail ++ source)
    (rest : Replaces pattern replacement source result) :
    Replaces pattern replacement (front ++ source) (front ++ result) := by
  induction front with
  | nil => exact rest
  | cons char front ih =>
    have inRest := ih fun tail inside => fresh tail (inside.trans (List.suffix_cons char front))
    exact .kept (fresh (char :: front) (List.suffix_refl _) (List.cons_ne_nil _ _)) inRest

/-- A front without the first character of the pattern is kept. -/
theorem free {front : List Char} (absent : char ∉ front)
    (rest : Replaces (char :: pattern) replacement source result) :
    Replaces (char :: pattern) replacement (front ++ source) (front ++ result) := by
  refine rest.front fun tail inside nonempty begins => absent ?_
  cases tail with
  | nil => exact absurd rfl nonempty
  | cons first more =>
    obtain rfl := (List.cons_prefix_cons.mp begins).1
    exact inside.subset List.mem_cons_self

/-- A front that does not contain the pattern is kept, if what follows begins with none of its
characters: no occurrence reaches across. -/
theorem apart {front : List Char} (absent : ¬pattern <:+: front)
    (ends : ∀ char ∈ source.head?, char ∉ pattern) (rest : Replaces pattern replacement source result) :
    Replaces pattern replacement (front ++ source) (front ++ result) := by
  apply rest.front
  intro tail inside _ begins
  obtain within | ⟨more, rfl⟩ := List.prefix_or_prefix_of_prefix begins (List.prefix_append tail source)
  · exact absent (within.isInfix.trans inside.isInfix)
  · have across := (List.prefix_append_right_inj tail).mp begins
    cases more with
    | nil =>
      rw [List.append_nil] at absent
      exact absent inside.isInfix
    | cons char more =>
      obtain ⟨behind, rfl⟩ := across
      exact ends char rfl (by simp)

/-- A replacement of the same size keeps the size, in whatever is added up along a text. -/
theorem measure_eq (measure : List Char → Nat)
    (additive : ∀ first second, measure (first ++ second) = measure first + measure second)
    (replaces : Replaces pattern replacement source result)
    (same : measure replacement = measure pattern) : measure result = measure source := by
  induction replaces with
  | done => rfl
  | found rest ih => rw [additive, additive, same, ih]
  | @kept char source result other rest ih =>
    calc measure ([char] ++ result) = measure [char] + measure result := additive ..
      _ = measure [char] + measure source := by rw [ih]
      _ = measure ([char] ++ source) := (additive ..).symm

theorem length_eq (replaces : Replaces pattern replacement source result)
    (same : replacement.length = pattern.length) : result.length = source.length :=
  measure_eq List.length (fun _ _ => List.length_append) replaces same

theorem utf8ByteSize_eq (replaces : Replaces pattern replacement source result)
    (same : (String.ofList replacement).utf8ByteSize = (String.ofList pattern).utf8ByteSize) :
    (String.ofList result).utf8ByteSize = (String.ofList source).utf8ByteSize :=
  measure_eq (fun chars => (String.ofList chars).utf8ByteSize) (by simp) replaces same

/-- What is found and what is kept is settled from left to right. -/
theorem unique (nonempty : pattern ≠ []) (first : Replaces pattern replacement source result)
    (second : Replaces pattern replacement source result') : result = result' := by
  induction first generalizing result' with
  | done =>
    generalize same : ([] : List Char) = whole at second
    cases second with
    | done => rfl
    | found rest => exact absurd (List.append_eq_nil_iff.mp same.symm).1 nonempty
    | kept other rest => cases same
  | @found source result rest ih =>
    generalize same : pattern ++ source = whole at second
    cases second with
    | done => exact absurd (List.append_eq_nil_iff.mp same).1 nonempty
    | found rest' =>
      obtain rfl := List.append_cancel_left same
      rw [ih rest']
    | kept other rest' => exact absurd ⟨_, same⟩ other
  | @kept char source result other rest ih =>
    generalize same : char :: source = whole at second
    cases second with
    | done => cases same
    | found rest' => exact absurd ⟨_, same.symm⟩ other
    | kept other' rest' =>
      cases same
      rw [ih rest']

open String.Slice.Pattern String.Slice.Pattern.Model

/-- What a search leaves behind a place of a text is replaced from that place on. -/
theorem of_search {pattern : String} {slice : String.Slice} {place : slice.Pos}
    {steps : List (SearchStep slice)} (search : IsValidSearchFrom pattern place steps)
    (replacement : String) {front back : String} (splits : place.Splits front back) (before : String) :
    ∃ result, Replaces pattern.toList replacement.toList back.toList result ∧
      steps.foldl (fun
        | sofar, .matched .. => sofar ++ replacement.toSlice
        | sofar, .rejected start stop => sofar ++ slice.slice! start stop) before =
      before ++ String.ofList result := by
  induction search generalizing front back before with
  | endPos =>
    have nothing := splits.eq_endPos_iff.mp rfl
    subst nothing
    exact ⟨[], .done, by simp⟩
  | matched found _ ih =>
    obtain ⟨front', behind, start, stop⟩ := ForwardStringSearcher.isLongestMatchAt_iff_splits.mp found
    obtain ⟨rfl, rfl⟩ := splits.eq start
    obtain ⟨result, replaces, folded⟩ := ih stop (before ++ replacement)
    refine ⟨replacement.toList ++ result, ?_, ?_⟩
    · rw [String.toList_append]
      exact .found replaces
    · simp only [List.foldl_cons, String.appendSlice_eq, String.copy_toSlice] at folded ⊢
      rw [folded, String.ofList_append, String.ofList_toList, String.append_assoc]
  | @mismatched steps start stop below absent _ ih =>
    obtain ⟨middle, -, shape, rfl⟩ := (splits.lt_iff_exists_eq_append stop.splits).mp below
    have stopped := stop.splits
    rw [shape] at stopped
    obtain ⟨ordered, skipped⟩ := String.Slice.copy_slice_eq_iff_splits.mpr ⟨_, _, splits, stopped⟩
    rw [String.Slice.slice_eq_slice!] at skipped
    obtain ⟨result, replaces, folded⟩ := ih stopped (before ++ middle)
    refine ⟨middle.toList ++ result, ?_, ?_⟩
    · rw [String.toList_append]
      refine replaces.front fun tail inside nonempty begins => ?_
      obtain ⟨lead, whole⟩ := inside
      obtain ⟨more, spelled⟩ := begins
      have parts : middle = String.ofList lead ++ String.ofList tail := by
        rw [← String.ofList_append, whole, String.ofList_toList]
      have rest : String.ofList tail ++ (slice.sliceFrom stop).copy = pattern ++ String.ofList more := by
        rw [← String.toList_inj]
        simp [spelled]
      rw [parts, String.append_assoc] at splits
      rw [parts, ← String.append_assoc] at stopped
      have within := splits.splits_rotateRight
      refine absent _ ?_ ?_ (ForwardStringSearcher.matchesAt_iff_splits.mpr ⟨_, _, within.of_eq rfl rest⟩)
      · exact (splits.le_iff_exists_eq_append within).mpr ⟨_, rfl, rfl⟩
      · refine (within.lt_iff_exists_eq_append stopped).mpr ⟨_, ?_, rfl, rfl⟩
        simpa using nonempty
    · simp only [List.foldl_cons, String.appendSlice_eq, skipped] at folded ⊢
      rw [folded, String.ofList_append, String.ofList_toList, String.append_assoc]

theorem replace_eq {pattern replacement text other : String} (nonempty : pattern ≠ "")
    (replaces : Replaces pattern.toList replacement.toList text.toList other.toList) :
    text.replace pattern replacement = other := by
  have lawful := ForwardStringSearcher.lawfulToForwardSearcherModel nonempty
  have search := lawful.isValidSearchFrom_toList text.toSlice
  obtain ⟨result, found, folded⟩ := of_search search replacement text.toSlice.splits_startPos ""
  have spelled : pattern.toList ≠ [] := by simpa using nonempty
  rw [String.copy_toSlice] at found
  rw [String.replace, String.Slice.replace, ← Std.Iter.foldl_toList]
  refine folded.trans ?_
  rw [String.empty_append, found.unique spelled replaces, String.ofList_toList]

end Replaces
end ConstraintTree
