import ConstraintTree.Walk

/-!
The nodes of a tree, and where they stand in it. A node is named by the way that leads to it from the
root: at each step the index of a child among those that are there. In the order of these ways, which
puts every node before its children and each child before the next one, the nodes of a tree make one
list, in which no place occurs twice and none is left out.
-/
namespace ConstraintTree

def Item.kind : Item → NodeKind
  | .expression tree => .expression tree.kind
  | .predicate tree => .predicate tree.kind

/-- The child expressions in the order of their fields, absent ones left out. -/
def Expr.children : Expr → List Expr
  | .column _ | .literal _ | .dimArray _ => []
  | .binary _ left right => [left, right]
  | .unary _ operand => [operand]
  | .call _ args => args
  | .between test lower upper _ => test.toList ++ lower.toList ++ upper.toList
  | .inList tested choices _ => tested :: choices

/-- The children in the order of their fields, absent ones left out. -/
def Item.children : Item → List Item
  | .expression tree => tree.children.map .expression
  | .predicate (.quantification _ _ condition) => condition.toList.map .predicate
  | .predicate (.atom _ args) => args.map .expression
  | .predicate (.negation operand) => [.predicate operand]
  | .predicate (.junction _ operands) => operands.map .predicate

/-- Induction over trees of both sorts at once: from the children to the node. -/
@[elab_as_elim]
theorem Item.induct {motive : Item → Prop}
    (node : ∀ item, (∀ child ∈ item.children, motive child) → motive item) (item : Item) :
    motive item := by
  have ofExpr (expr : Expr) : motive (.expression expr) := by
    induction expr using Expr.induct with
    | column | literal | dimArray => exact node _ (by simp [children, Expr.children])
    | binary op left right inLeft inRight =>
      exact node _ (by simp [children, Expr.children, inLeft, inRight])
    | unary op operand inOperand => exact node _ (by simp [children, Expr.children, inOperand])
    | call name args inArgs => exact node _ (by simpa [children, Expr.children] using inArgs)
    | between test lower upper negated inTest inLower inUpper =>
      refine node _ fun child member => ?_
      simp only [children, Expr.children, List.map_append, List.mem_append, List.mem_map,
        Option.mem_toList] at member
      rcases member with (⟨expr, here, rfl⟩ | ⟨expr, here, rfl⟩) | ⟨expr, here, rfl⟩
      · exact inTest expr here
      · exact inLower expr here
      · exact inUpper expr here
    | inList tested choices negated inTested inChoices =>
      exact node _ (by simpa [children, Expr.children] using ⟨inTested, inChoices⟩)
  cases item with
  | expression expr => exact ofExpr expr
  | predicate predicate =>
    induction predicate using Predicate.induct with
    | quantification quantifier bound condition inCondition =>
      exact node _ (by simpa [children] using inCondition)
    | atom name args => exact node _ (by simp [children, ofExpr])
    | negation operand inOperand => exact node _ (by simp [children, inOperand])
    | junction op operands inOperands => exact node _ (by simpa [children] using inOperands)

/-! A value for each tree is put together from those for its children. -/

namespace Expr

mutual

def fold (combine : Item → List β → β) : Expr → β
  | .column reference => combine (.expression (.column reference)) []
  | .literal value => combine (.expression (.literal value)) []
  | .binary op left right =>
    combine (.expression (.binary op left right)) [fold combine left, fold combine right]
  | .unary op operand => combine (.expression (.unary op operand)) [fold combine operand]
  | .call name args => combine (.expression (.call name args)) (foldEach combine args)
  | .between test lower upper negated =>
    combine (.expression (.between test lower upper negated))
      (foldOperand combine test ++ foldOperand combine lower ++ foldOperand combine upper)
  | .inList tested choices negated =>
    combine (.expression (.inList tested choices negated))
      (fold combine tested :: foldEach combine choices)
  | .dimArray elements => combine (.expression (.dimArray elements)) []

def foldEach (combine : Item → List β → β) : List Expr → List β
  | [] => []
  | head :: rest => fold combine head :: foldEach combine rest

def foldOperand (combine : Item → List β → β) : Option Expr → List β
  | some operand => [fold combine operand]
  | none => []

end

theorem foldEach_eq_map (combine : Item → List β → β) (exprs : List Expr) :
    foldEach combine exprs = exprs.map (fold combine) := by
  induction exprs with
  | nil => rfl
  | cons head rest ih => rw [foldEach, ih, List.map_cons]

private theorem foldOperand_eq_map (combine : Item → List β → β) (operand : Option Expr) :
    foldOperand combine operand = operand.toList.map (fold combine) := by
  cases operand <;> rfl

theorem fold_eq (combine : Item → List β → β) (expr : Expr) :
    expr.fold combine = combine (.expression expr) (expr.children.map (fold combine)) := by
  cases expr with
  | column | literal | binary | unary | dimArray => rfl
  | call | inList => simp only [fold, foldEach_eq_map, children, List.map_cons]
  | between => simp only [fold, foldOperand_eq_map, children, List.map_append]

end Expr

namespace Predicate

mutual

def fold (combine : Item → List β → β) : Predicate → β
  | .quantification quantifier bound condition =>
    combine (.predicate (.quantification quantifier bound condition))
      (foldCondition combine condition)
  | .atom name args => combine (.predicate (.atom name args)) (args.map (Expr.fold combine))
  | .negation operand => combine (.predicate (.negation operand)) [fold combine operand]
  | .junction op operands => combine (.predicate (.junction op operands)) (foldEach combine operands)

def foldEach (combine : Item → List β → β) : List Predicate → List β
  | [] => []
  | head :: rest => fold combine head :: foldEach combine rest

def foldCondition (combine : Item → List β → β) : Option Predicate → List β
  | some condition => [fold combine condition]
  | none => []

end

theorem foldEach_eq_map (combine : Item → List β → β) (predicates : List Predicate) :
    foldEach combine predicates = predicates.map (fold combine) := by
  induction predicates with
  | nil => rfl
  | cons head rest ih => rw [foldEach, ih, List.map_cons]

end Predicate

namespace Item

def fold (combine : Item → List β → β) : Item → β
  | .expression tree => tree.fold combine
  | .predicate tree => tree.fold combine

theorem fold_eq (combine : Item → List β → β) (item : Item) :
    item.fold combine = combine item (item.children.map (fold combine)) := by
  cases item with
  | expression tree =>
    rw [fold, Expr.fold_eq, children, List.map_map]
    rfl
  | predicate tree =>
    cases tree with
    | quantification quantifier bound condition => cases condition <;> rfl
    | atom name args =>
      rw [fold, Predicate.fold, children, List.map_map]
      rfl
    | negation operand => rfl
    | junction op operands =>
      rw [fold, Predicate.fold, Predicate.foldEach_eq_map, children, List.map_map]
      rfl

end Item

/-! Sites of nodes. -/

/-- The indices of the children on the way from the root to a node. -/
abbrev Address := List Nat

/-- A node and where it stands. -/
structure Site where
  address : Address
  node : Item

/-- The same node, seen from one level above, where its root is the child of that index. -/
def Site.under (index : Nat) (site : Site) : Site := { site with address := index :: site.address }

/-- The sites in children that follow each other, the first of which has the given index. -/
def sitesFrom (index : Nat) : List (List Site) → List Site
  | [] => []
  | sites :: rest => sites.map (Site.under index) ++ sitesFrom (index + 1) rest

namespace Item

/-- All nodes of a tree, each before its children. -/
def sites (item : Item) : List Site :=
  item.fold fun node below => { address := [], node } :: sitesFrom 0 below

def nodes (item : Item) : List Item := item.sites.map Site.node

def kinds (item : Item) : List NodeKind := item.nodes.map kind

def at? (item : Item) : Address → Option Item
  | [] => some item
  | index :: rest =>
    match item.children[index]? with
    | some child => child.at? rest
    | none => none

theorem sites_eq (item : Item) :
    item.sites = { address := [], node := item } :: sitesFrom 0 (item.children.map sites) :=
  fold_eq _ item

end Item

private theorem node_sitesFrom (index : Nat) (below : List (List Site)) :
    (sitesFrom index below).map Site.node = below.flatMap fun sites => sites.map Site.node := by
  induction below generalizing index with
  | nil => rfl
  | cons sites rest ih =>
    rw [sitesFrom, List.map_append, ih, List.map_map, List.flatMap_cons]
    rfl

theorem mem_sitesFrom {index : Nat} {below : List (List Site)} {site : Site} :
    site ∈ sitesFrom index below ↔ ∃ offset sites, ∃ inner ∈ sites,
      below[offset]? = some sites ∧ site = Site.under (index + offset) inner := by
  induction below generalizing index with
  | nil => simp [sitesFrom]
  | cons sites rest ih =>
    rw [sitesFrom, List.mem_append, List.mem_map, ih]
    constructor
    · rintro (⟨inner, member, rfl⟩ | ⟨offset, others, inner, member, found, rfl⟩)
      · exact ⟨0, sites, inner, member, rfl, rfl⟩
      · exact ⟨offset + 1, others, inner, member, found, by rw [Nat.add_right_comm, Nat.add_assoc]⟩
    · rintro ⟨offset, others, inner, member, found, rfl⟩
      cases offset with
      | zero =>
        obtain rfl : sites = others := Option.some.inj found
        exact .inl ⟨inner, member, rfl⟩
      | succ offset =>
        exact .inr ⟨offset, others, inner, member, found, by rw [Nat.add_right_comm, Nat.add_assoc]⟩

/-- Sites in the order of their addresses: one that begins another comes before it, and where they
part, the lower index comes first. -/
def InOrder (sites : List Site) : Prop := sites.Pairwise fun first second => first.address < second.address

private theorem inOrder_sitesFrom {below : List (List Site)} (each : ∀ sites ∈ below, InOrder sites)
    (index : Nat) : InOrder (sitesFrom index below) := by
  induction below generalizing index with
  | nil => exact .nil
  | cons sites rest ih =>
    have inRest := ih (fun sites member => each sites (List.mem_cons_of_mem _ member)) (index + 1)
    refine List.pairwise_append.mpr ⟨?_, inRest, ?_⟩
    · refine List.pairwise_map.mpr ((each sites List.mem_cons_self).imp fun less => ?_)
      exact List.cons_lt_cons_iff.mpr (.inr ⟨rfl, less⟩)
    -- A later child has a higher index.
    · rintro first before second after
      obtain ⟨inner, -, rfl⟩ := List.mem_map.mp before
      obtain ⟨offset, -, other, -, -, rfl⟩ := mem_sitesFrom.mp after
      exact List.cons_lt_cons_iff.mpr (.inl (by omega))

namespace Item

theorem nodes_eq (item : Item) : item.nodes = item :: item.children.flatMap nodes := by
  rw [nodes, sites_eq, List.map_cons, node_sitesFrom, List.flatMap_map]
  rfl

/-- The sites of a tree are in order, so that none occurs twice. -/
theorem inOrder_sites (item : Item) : InOrder item.sites := by
  induction item using Item.induct with
  | node item inChildren =>
    rw [sites_eq]
    refine List.pairwise_cons.mpr ⟨?_, inOrder_sitesFrom ?_ 0⟩
    · intro site member
      obtain ⟨offset, -, inner, -, -, rfl⟩ := mem_sitesFrom.mp member
      exact List.nil_lt_cons _ _
    · simpa using inChildren

/-- The sites of a tree are all of its nodes. -/
theorem mem_sites {item : Item} {address : Address} {node : Item} :
    ⟨address, node⟩ ∈ item.sites ↔ item.at? address = some node := by
  induction item using Item.induct generalizing address with
  | node item inChildren =>
    rw [sites_eq, List.mem_cons, mem_sitesFrom]
    cases address with
    | nil => simp [at?, Site.under, eq_comm]
    | cons index rest =>
      rw [at?]
      constructor
      · rintro (same | ⟨offset, sites, inner, member, found, same⟩)
        · cases same
        · cases same
          rw [Nat.zero_add]
          rw [List.getElem?_map, Option.map_eq_some_iff] at found
          obtain ⟨child, found, rfl⟩ := found
          rw [found]
          exact (inChildren child (List.mem_of_getElem? found)).mp member
      · intro stands
        cases found : item.children[index]? with
        | none => simp [found] at stands
        | some child =>
          rw [found] at stands
          have member := (inChildren child (List.mem_of_getElem? found)).mpr stands
          exact .inr ⟨index, child.sites, _, member, by simp [found], by simp [Site.under]⟩

end Item
end ConstraintTree
