import ConstraintTree.Pattern.CharClass
import ConstraintTree.Pattern.Regular

namespace ConstraintTree.Pattern

def Literal.meaning (modes : Modes) (literal : Literal) : Except Fault Regular :=
  let char := literal.char
  let point := char.toNat
  if modes.unicode then
    if modes.ignoreCase then .error { cause := .caseUnknown, span := literal.span }
    else .ok (.word [char])
  else if literal.isByte ∧ 0x7f < point then
    .error { cause := .characterTorn, span := literal.span }
  else if modes.ignoreCase then .ok (.ofSet true (CharClass.foldAscii [(point, point)]))
  else .ok (.word [char])

def dotMeaning (modes : Modes) (span : Span) : Except Fault Regular :=
  let excluded : Runs :=
    if modes.dotAll then []
    else if modes.crlf then [(0xa, 0xa), (0xd, 0xd)]
    else [(0xa, 0xa)]
  if modes.unicode then .ok (.ofSet false (excluded.complement modes.last))
  else .error { cause := .characterTorn, span }

def Assertion.look (modes : Modes) : Assertion → Look
  | .lineStart =>
    if !modes.multiLine then .textStart else if modes.crlf then .crlfStart else .lineStart
  | .lineEnd => if !modes.multiLine then .textEnd else if modes.crlf then .crlfEnd else .lineEnd
  | .textStart => .textStart
  | .textEnd => .textEnd
  | kind =>
    if modes.unicode then .anyScript
    else
      match kind with
      | .wordBoundary => .wordBoundary
      | .noWordBoundary => .noWordBoundary
      | .wordStart => .wordStart
      | .wordEnd => .wordEnd
      | .wordStartHalf => .wordStartHalf
      | _ => .wordEndHalf

mutual

def Tree.meaning (modes : Modes) : Tree → Except Fault (Regular × Modes)
  | .empty _ => return (.empty, modes)
  | .flags _ changes => return (.empty, modes.apply changes)
  | .literal single => return (← single.meaning modes, modes)
  | .dot span => return (← dotMeaning modes span, modes)
  | .assertion _ kind => return (.look (kind.look modes), modes)
  | .property span name => throw (propertyFault modes span name)
  | .shorthand span kind negated =>
    return (.ofSet true (← kind.members modes span negated).runs, modes)
  | .bracketed span negated content => do
    let members ← content.addTo modes {}
    return (.ofSet (!modes.unicode) (← members.finish modes span negated).runs, modes)
  | .repetition _ least most marked body => do
    let (repeated, after) ← body.meaning modes
    return (repeated.times least most (marked == after.swapGreed), after)
  | .group _ captures changes body => do
    let (inner, _) ← body.meaning (modes.apply changes)
    return (if captures then .group inner else inner, modes)
  | .alternation _ branches => do
    let (meanings, after) ← Tree.meanings modes [] branches
    return (Regular.anyOf meanings, after)
  | .sequence _ items => do
    let (meanings, after) ← Tree.meanings modes [] items
    return (Regular.join meanings, after)

/-- The meanings of parts behind those that are known, of which the last one comes first. -/
def Tree.meanings (modes : Modes) (known : List Regular) :
    List Tree → Except Fault (List Regular × Modes)
  | [] => return (known.reverse, modes)
  | item :: rest => do
    let (meaning, after) ← item.meaning modes
    Tree.meanings after (meaning :: known) rest

end

end ConstraintTree.Pattern
