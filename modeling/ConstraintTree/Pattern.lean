import ConstraintTree.Pattern.Meaning
import ConstraintTree.Pattern.Memory
import ConstraintTree.Pattern.Opening
import ConstraintTree.Pattern.Reading
import ConstraintTree.Pattern.Route

namespace ConstraintTree

namespace Pattern

/-- Why a pattern is not searched for. -/
inductive Refusal where
  | malformed (fault : Fault)
  | tooLarge
  | anyScript
  deriving DecidableEq, Repr, Inhabited

def Refusal.message (text : String) : Refusal → String
  | .malformed fault => fault.report text
  | .tooLarge => s!"Compiled regex exceeds size limit of {sizeLimit} bytes."
  | .anyScript => "error building NFA"

/-- Why the machines for an expression cannot be built. -/
def Regular.obstacle? (sought : Regular) : Option Refusal :=
  if sought.forwards.isFull then some .tooLarge
  else if sought.hasAnyScript then some .anyScript
  else if sought.backwards.isFull then some .tooLarge
  else none

def Regular.check (sought : Regular) : Except Refusal Unit :=
  match sought.obstacle? with
  | some refusal => if sought.isListed then .ok () else .error refusal
  | none => .ok ()

def Regular.ofText (text : String) : Except Refusal Regular := do
  let tree ← (Tree.ofText text).mapError .malformed
  let (sought, _) ← (tree.meaning {}).mapError .malformed
  sought.check
  return sought

end Pattern
end ConstraintTree
