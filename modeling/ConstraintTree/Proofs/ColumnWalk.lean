import ConstraintTree.ColumnCollector
import ConstraintTree.Proofs.Layout.Leaves

namespace ConstraintTree

def Leaf.column? : Leaf → Option Column
  | .column reference => some reference
  | .literal _ | .name _ | .dimension _ | .missing _ => none

/-- The columns that a walk meets, as often as it meets them. -/
def Expr.mentions (expr : Expr) : List Column := expr.leaves.filterMap Leaf.column?

theorem Expr.mem_mentions {expr : Expr} {column : Column} :
    column ∈ expr.mentions ↔ .column column ∈ expr.leaves := by
  rw [mentions, List.mem_filterMap]
  constructor
  · rintro ⟨leaf, met, found⟩
    cases leaf with
    | column reference =>
      cases found
      exact met
    | literal | name | dimension | missing => cases found
  · exact fun met => ⟨_, met, rfl⟩

/-- Columns with the same owner, or both without one, and the same name. -/
def Column.same (left right : Column) : Bool := left.table == right.table && left.name == right.name

private theorem Column.same_eq_beq : Column.same = fun left right => left == right := by
  funext left right
  rw [Bool.eq_iff_iff, same, beq_iff_eq, Bool.and_eq_true, beq_iff_eq, beq_iff_eq,
    Column.mk.injEq]

namespace ColumnCollector

/-! What a collector does with a row of columns. -/

private theorem nodup_note {collector : ColumnCollector} (nodup : collector.columns.Nodup)
    (column : Column) :
    (collector.note column).columns.Nodup := by
  rw [note]
  split
  · exact nodup
  · next fresh =>
    rw [List.nodup_append]
    refine ⟨nodup, by simp, fun other member last single => ?_⟩
    rw [List.mem_singleton.mp single]
    rintro rfl
    exact fresh member

private theorem nodup_foldl_note {collector : ColumnCollector} (nodup : collector.columns.Nodup)
    (row : List Column) : (row.foldl note collector).columns.Nodup := by
  induction row generalizing collector with
  | nil => exact nodup
  | cons head rest ih => exact ih (nodup_note nodup head)

/-- A row adds the first occurrences of its columns that were not noted before. -/
theorem columns_foldl_note (row : List Column) (collector : ColumnCollector) :
    (row.foldl note collector).columns =
      collector.columns ++ (row.filter (· ∉ collector.columns)).eraseDups := by
  induction row generalizing collector with
  | nil => simp
  | cons head rest ih =>
    rw [List.foldl_cons, ih]
    by_cases known : head ∈ collector.columns
    · have unchanged : collector.note head = collector := if_pos known
      rw [unchanged, List.filter_cons_of_neg (by simpa using known)]
    · have added : (collector.note head).columns = collector.columns ++ [head] := by
        rw [note, if_neg known]
      have later : rest.filter (· ∉ collector.columns ++ [head]) =
          (rest.filter (· ∉ collector.columns)).filter fun column => !column == head := by
        rw [List.filter_filter]
        congr 1
        funext column
        rw [Bool.eq_iff_iff]
        simp [and_comm]
      rw [added, List.filter_cons_of_pos (by simpa using known), List.eraseDups_cons, later]
      simp

theorem columns_foldl_note_nil (row : List Column) : (row.foldl note {}).columns = row.eraseDups := by
  have all : row.filter (· ∉ ({} : ColumnCollector).columns) = row := by simp
  rw [columns_foldl_note, all, List.nil_append]

private theorem foldl_note_known {collector : ColumnCollector} {row : List Column}
    (known : ∀ column ∈ row, column ∈ collector.columns) : row.foldl note collector = collector := by
  induction row with
  | nil => rfl
  | cons head rest ih =>
    have unchanged : collector.note head = collector := if_pos (known head List.mem_cons_self)
    rw [List.foldl_cons, unchanged]
    exact ih fun column member => known column (List.mem_cons_of_mem _ member)

private theorem mem_foldl_note {row : List Column} {column : Column} :
    column ∈ (row.foldl note {}).columns ↔ column ∈ row := by
  rw [columns_foldl_note_nil, List.mem_eraseDups]

/-! What a collector notes. -/

/-- A visitor notes the columns of what it visits, in their order. -/
def Notes (visit : ColumnCollector → α → ColumnCollector) (mentions : α → List Column) (value : α) :
    Prop := ∀ collector, visit collector value = (mentions value).foldl note collector

theorem Notes.each {exprs : List Expr} (notes : ∀ expr ∈ exprs, Notes visit Expr.mentions expr) :
    Notes visitEach (List.flatMap Expr.mentions) exprs := by
  intro collector
  induction exprs generalizing collector with
  | nil => rfl
  | cons head rest ih =>
    have inRest := ih fun expr member => notes expr (List.mem_cons_of_mem _ member)
    rw [visitEach, inRest, notes head List.mem_cons_self, List.flatMap_cons, List.foldl_append]

theorem Notes.operand {operand : Option Expr}
    (notes : ∀ expr ∈ operand, Notes visit Expr.mentions expr) (absent : Gap) :
    Notes visitOperand (fun operand => (Expr.leavesOr absent operand).filterMap Leaf.column?)
      operand := by
  intro collector
  cases operand with
  | none => rfl
  | some expr => exact notes expr rfl collector

theorem notes_visit (expr : Expr) : Notes visit Expr.mentions expr := by
  induction expr using Expr.induct with
  | column reference =>
    intro collector
    rfl
  | literal value =>
    intro collector
    rfl
  | binary op left right inLeft inRight =>
    intro collector
    rw [visit, inRight, inLeft, ← List.foldl_append, Expr.mentions, Expr.mentions, Expr.mentions,
      ← List.filterMap_append, Expr.leaves]
  | unary op operand inOperand =>
    intro collector
    exact inOperand collector
  | call name args inArgs =>
    intro collector
    rw [visit, Notes.each inArgs, Expr.mentions, Expr.leaves, Expr.leavesEach_eq_flatMap,
      List.filterMap_cons_none rfl, List.filterMap_flatMap]
    rfl
  | between test lower upper negated inTest inLower inUpper =>
    intro collector
    rw [visit, Notes.operand inUpper .betweenEnd, Notes.operand inLower .betweenBegin,
      Notes.operand inTest .betweenTest, ← List.foldl_append, ← List.foldl_append, Expr.mentions,
      Expr.leaves, List.filterMap_append, List.filterMap_append, List.append_assoc]
  | inList tested choices negated inTested inChoices =>
    intro collector
    have listed : (if choices.isEmpty then [.missing .inListItems] else
          Expr.leavesEach choices).filterMap Leaf.column? = choices.flatMap Expr.mentions := by
      cases choices with
      | nil => rfl
      | cons head rest =>
        rw [Expr.leavesEach_eq_flatMap, if_neg (by simp), List.filterMap_flatMap]
        rfl
    rw [visit, Notes.each inChoices, inTested, ← List.foldl_append, ← listed, Expr.mentions,
      ← List.filterMap_append]
    rfl
  | dimArray elements =>
    intro collector
    have dimensionless : (Expr.dimArray elements).mentions = [] := by
      rw [Expr.mentions, Expr.leaves]
      split
      · rfl
      · simp [List.filterMap_map, Function.comp_def, Leaf.column?]
    rw [dimensionless]
    rfl

private theorem notes_visitEach (exprs : List Expr) :
    Notes visitEach (List.flatMap Expr.mentions) exprs :=
  Notes.each fun expr _ => notes_visit expr

/-- A collector that has visited any row of expressions holds the columns of their leaves from left to
right, every repetition dropped: each column that occurs, and none twice. What it holds is kept when
further expressions are visited, and visiting one of them again adds nothing. -/
theorem columns_visitEach (exprs : List Expr) :
    (visitEach {} exprs).columns = (exprs.flatMap Expr.mentions).eraseDupsBy Column.same ∧
      (visitEach {} exprs).columns.Nodup ∧
      (∀ column, column ∈ (visitEach {} exprs).columns ↔
        ∃ expr ∈ exprs, .column column ∈ expr.leaves) ∧
      (∀ more, (visitEach {} exprs).columns <+: (visitEach {} (exprs ++ more)).columns) ∧
      ∀ expr ∈ exprs, visit (visitEach {} exprs) expr = visitEach {} exprs := by
  have noted := notes_visitEach exprs {}
  have members (column : Column) : column ∈ (visitEach {} exprs).columns ↔
      ∃ expr ∈ exprs, .column column ∈ expr.leaves := by
    rw [noted, mem_foldl_note, List.mem_flatMap]
    simp only [Expr.mem_mentions]
  refine ⟨?_, ?_, members, fun more => ?_, fun expr visited => ?_⟩
  · rw [noted, columns_foldl_note_nil, Column.same_eq_beq, List.eraseDups]
  · rw [noted]
    exact nodup_foldl_note List.nodup_nil _
  · rw [notes_visitEach (exprs ++ more) {}, List.flatMap_append, List.foldl_append, ← noted,
      columns_foldl_note]
    exact List.prefix_append _ _
  · rw [notes_visit expr]
    refine foldl_note_known fun column mentioned => ?_
    exact (members column).mpr ⟨expr, visited, Expr.mem_mentions.mp mentioned⟩

/-- Columns that are spelled alike are kept apart. -/
example : (visitEach {} [.eq (.named "a.b") (.qualified "a" "b"), .named "a.b"]).columns =
    [{ name := "a.b" }, { table := some "a", name := "b" }] := by decide

end ColumnCollector

theorem Expr.columns_eq (expr : Expr) : expr.columns = expr.mentions.eraseDups := by
  rw [columns, ColumnCollector.notes_visit, ColumnCollector.columns_foldl_note_nil]

end ConstraintTree
