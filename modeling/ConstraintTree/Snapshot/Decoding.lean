import ConstraintTree.Snapshot.Encoding
import ConstraintTree.Snapshot.Reader

/-!
Reading of stored trees. The fields of a tree are read in the order in which they are written, and
the first fault ends the reading. Nesting is limited, so that no input makes reading go deep.
-/
namespace ConstraintTree

namespace Column

def read : Reader σ Column := do
  let table ← Reader.option Reader.text
  let name ← Reader.text
  return { table, name }

end Column

namespace Literal

def read : Reader σ Literal := do
  match ← Reader.variant with
  | LiteralKind.null => return .null
  | .boolean => return .boolean (← Reader.flag)
  | .integer => return .integer (UInt64.ofNat (← Reader.nat 8)).toInt64
  | .number => return .number (← Reader.number)
  | .text => return .text (← Reader.text)

end Literal

namespace DimElement

def read : Reader σ DimElement := do
  let name ← Reader.text
  let lower ← Reader.number
  let upper ← Reader.number
  let tolerance ← Reader.number
  return { name, lower, upper, tolerance }

end DimElement

namespace Expr

/-- Reads one expression. The second argument bounds how many nodes can be nested in what is left:
each takes at least its four bytes of variant, so a reader that runs out of nodes has run out of
input. -/
def read (nesting : Nesting σ) : Nat → Reader σ Expr
  | 0 => throw .endOfInput
  | nodes + 1 => do
    match ← Reader.variant with
    | ExprKind.column => return .column (← Column.read)
    | .literal => return .literal (← Literal.read)
    | .binary =>
      let op ← Reader.variant
      let left ← Reader.field nesting (read nesting nodes)
      let right ← Reader.field nesting (read nesting nodes)
      return .binary op left right
    | .unary =>
      let op ← Reader.variant
      let operand ← Reader.field nesting (read nesting nodes)
      return .unary op operand
    | .call =>
      let name ← Reader.text
      let args ← Reader.field nesting (Reader.list (read nesting nodes))
      return .call name args
    | .between =>
      let test ← Reader.field nesting (Reader.option (read nesting nodes))
      let lower ← Reader.field nesting (Reader.option (read nesting nodes))
      let upper ← Reader.field nesting (Reader.option (read nesting nodes))
      let negated ← Reader.flag
      return .between test lower upper negated
    | .inList =>
      let tested ← Reader.field nesting (read nesting nodes)
      let choices ← Reader.field nesting (Reader.list (read nesting nodes))
      let negated ← Reader.flag
      return .inList tested choices negated
    | .dimArray => return .dimArray (← Reader.list DimElement.read)

end Expr

namespace Predicate

/-- Reads one predicate. The second argument bounds the nested nodes, as for expressions. -/
def read (nesting : Nesting σ) : Nat → Reader σ Predicate
  | 0 => throw .endOfInput
  | nodes + 1 => do
    match ← Reader.variant with
    | PredicateKind.quantification =>
      let quantifier ← Reader.variant
      let bound ← Reader.option Reader.text
      let condition ← Reader.field nesting (Reader.option (read nesting nodes))
      return .quantification quantifier bound condition
    | .atom =>
      let name ← Reader.text
      let args ← Reader.field nesting (Reader.list (Expr.read nesting nodes))
      return .atom name args
    | .negation =>
      let operand ← Reader.field nesting (read nesting nodes)
      return .negation operand
    | .junction =>
      let op ← Reader.variant
      let operands ← Reader.field nesting (Reader.list (read nesting nodes))
      return .junction op operands

end Predicate

namespace Item

def read (nesting : Nesting σ) (nodes : Nat) : Reader σ Item := do
  match ← Reader.variant with
  | ItemKind.expression => return .expression (← Expr.read nesting nodes)
  | .predicate => return .predicate (← Predicate.read nesting nodes)

end Item

namespace Snapshot

/-- Deepest chain of nested child fields that is read. -/
def maxNesting : Nat := 128

def readVersion : Reader σ UInt32 := return UInt32.ofNat (← Reader.nat 4)

def read (nesting : Nesting σ) (nodes : Nat) : Reader σ Snapshot := do
  let formVersion ← readVersion
  let items ← Reader.list (Item.read nesting nodes)
  return { items, formVersion }

/-- Decodes a snapshot from a given state of the open fields, and gives the state afterwards too.
The version is checked before anything else is read; what follows the last item is ignored. -/
def decodeFrom (nesting : Nesting σ) (opened : σ) (bytes : Bytes) :
    Except TreeError Snapshot × σ :=
  match readVersion { rest := bytes, nesting := opened } with
  | .error fault after => (.error (.malformed fault), after.nesting)
  | .ok found after =>
    if found ≠ version then (.error (.unsupportedVersion found version), after.nesting)
    else
      match read nesting (bytes.length / 4) { rest := bytes, nesting := opened } with
      | .error fault after => (.error (.malformed fault), after.nesting)
      | .ok snapshot after =>
        if snapshot.items.isEmpty then (.error .emptySnapshot, after.nesting)
        else (.ok snapshot, after.nesting)

def decode (bytes : Bytes) : Except TreeError Snapshot :=
  (decodeFrom (Nesting.limited maxNesting) 0 bytes).1

/-- The snapshot in a file, of which the content or the reason for its absence is given. -/
def ofFile : Except FileFault Bytes → Except TreeError Snapshot
  | .error fault => .error (.file fault)
  | .ok bytes => decode bytes

end Snapshot
end ConstraintTree
