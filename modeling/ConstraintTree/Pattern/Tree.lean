import ConstraintTree.Pattern.Fault

namespace ConstraintTree.Pattern

inductive Flag where
  | ignoreCase
  | multiLine
  | dotAll
  | swapGreed
  | unicode
  | crlf
  | verbose
  deriving DecidableEq, Repr, Inhabited

def Flag.ofChar? : Char → Option Flag
  | 'i' => some .ignoreCase
  | 'm' => some .multiLine
  | 's' => some .dotAll
  | 'U' => some .swapGreed
  | 'u' => some .unicode
  | 'R' => some .crlf
  | 'x' => some .verbose
  | _ => none

abbrev FlagChanges := List (Flag × Bool)

/-- Zero-width conditions. -/
inductive Assertion where
  | lineStart
  | lineEnd
  | textStart
  | textEnd
  | wordBoundary
  | noWordBoundary
  | wordStart
  | wordEnd
  | wordStartHalf
  | wordEndHalf
  deriving DecidableEq, Repr, Inhabited

inductive Shorthand where
  | digit
  | space
  | word
  deriving DecidableEq, Repr, Inhabited

inductive NamedClass where
  | alnum
  | alpha
  | ascii
  | blank
  | cntrl
  | digit
  | graph
  | lower
  | print
  | punct
  | space
  | upper
  | word
  | xdigit
  deriving DecidableEq, Repr, Inhabited

def NamedClass.names : List (String × NamedClass) :=
  [("alnum", .alnum), ("alpha", .alpha), ("ascii", .ascii), ("blank", .blank), ("cntrl", .cntrl),
    ("digit", .digit), ("graph", .graph), ("lower", .lower), ("print", .print), ("punct", .punct),
    ("space", .space), ("upper", .upper), ("word", .word), ("xdigit", .xdigit)]

inductive SetOperation where
  | intersection
  | difference
  | symmetricDifference
  deriving DecidableEq, Repr, Inhabited

/-- A single character. One that is written as two hexadecimal digits may also mean a byte. -/
structure Literal where
  span : Span
  char : Char
  isByte : Bool := false
  deriving DecidableEq, Repr, Inhabited

inductive ClassSet where
  | empty (span : Span)
  | literal (literal : Literal)
  | range (span : Span) (first last : Literal)
  | named (span : Span) (kind : NamedClass) (negated : Bool)
  | property (span : Span) (name : String)
  | shorthand (span : Span) (kind : Shorthand) (negated : Bool)
  | bracketed (span : Span) (negated : Bool) (content : ClassSet)
  | union (span : Span) (items : List ClassSet)
  | operation (span : Span) (operation : SetOperation) (left right : ClassSet)
  deriving Repr, Inhabited

def ClassSet.span : ClassSet → Span
  | .empty span | .range span .. | .named span .. | .property span .. | .shorthand span ..
  | .bracketed span .. | .union span .. | .operation span .. => span
  | .literal single => single.span

inductive Tree where
  | empty (span : Span)
  | flags (span : Span) (changes : FlagChanges)
  | literal (literal : Literal)
  | dot (span : Span)
  | assertion (span : Span) (kind : Assertion)
  | property (span : Span) (name : String)
  | shorthand (span : Span) (kind : Shorthand) (negated : Bool)
  | bracketed (span : Span) (negated : Bool) (content : ClassSet)
  /-- A repetition may be marked to take as little as it can. -/
  | repetition (span : Span) (least : Nat) (most : Option Nat) (marked : Bool) (body : Tree)
  | group (span : Span) (captures : Bool) (changes : FlagChanges) (body : Tree)
  | alternation (span : Span) (branches : List Tree)
  | sequence (span : Span) (items : List Tree)
  deriving Repr, Inhabited

def Tree.span : Tree → Span
  | .empty span | .flags span _ | .dot span | .assertion span _ | .property span _
  | .shorthand span .. | .bracketed span .. | .repetition span .. | .group span ..
  | .alternation span _ | .sequence span _ => span
  | .literal single => single.span

mutual

/-- The first part, in the order of the text, that lies inside more than so many levels. -/
def ClassSet.beyond (levels : Nat) : ClassSet → Option Span
  | .bracketed span _ content =>
    match levels with
    | 0 => some span
    | levels + 1 => content.beyond levels
  | .union span items =>
    match levels with
    | 0 => some span
    | levels + 1 => ClassSet.beyondAll levels items
  | .operation span _ left right =>
    match levels with
    | 0 => some span
    | levels + 1 => (left.beyond levels).or (right.beyond levels)
  | _ => none

def ClassSet.beyondAll (levels : Nat) : List ClassSet → Option Span
  | [] => none
  | item :: rest =>
    match item.beyond levels with
    | some span => some span
    | none => ClassSet.beyondAll levels rest

end

mutual

/-- The first part, in the order of the text, that lies inside more than so many levels. -/
def Tree.beyond (levels : Nat) : Tree → Option Span
  | .bracketed span _ content =>
    match levels with
    | 0 => some span
    | levels + 1 => content.beyond levels
  | .repetition span _ _ _ body =>
    match levels with
    | 0 => some span
    | levels + 1 => body.beyond levels
  | .group span _ _ body =>
    match levels with
    | 0 => some span
    | levels + 1 => body.beyond levels
  | .alternation span branches =>
    match levels with
    | 0 => some span
    | levels + 1 => Tree.beyondAll levels branches
  | .sequence span items =>
    match levels with
    | 0 => some span
    | levels + 1 => Tree.beyondAll levels items
  | _ => none

def Tree.beyondAll (levels : Nat) : List Tree → Option Span
  | [] => none
  | item :: rest =>
    match item.beyond levels with
    | some span => some span
    | none => Tree.beyondAll levels rest

end

end ConstraintTree.Pattern
