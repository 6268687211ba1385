import ConstraintTree.Number.Shortest
import ConstraintTree.Gap
import ConstraintTree.Dialect
import ConstraintTree.Operator

/-!
Lexemes are the indivisible pieces of rendered text. A tree is laid out as a list of lexemes, spaces
and gaps included; a dialect spells each of them, and the text is the spellings in a row.
-/
namespace ConstraintTree

inductive Keyword where
  | null | true | false
  | and | or | not
  | like | is | between | in
  | forAll | thereIs
  deriving DecidableEq, Repr, Inhabited

namespace Keyword

def all : List Keyword :=
  [.null, .true, .false, .and, .or, .not, .like, .is, .between, .in, .forAll, .thereIs]

def spelling : Keyword → String
  | .null => "NULL"
  | .true => "TRUE"
  | .false => "FALSE"
  | .and => "AND"
  | .or => "OR"
  | .not => "NOT"
  | .like => "LIKE"
  | .is => "IS"
  | .between => "BETWEEN"
  | .in => "IN"
  | .forAll => "FORALL"
  | .thereIs => "EXISTS"

end Keyword

inductive Sign where
  | plus | minus | times | divide | modulo
  | equal | notEqual | less | lessEqual | greater | greaterEqual
  | concat
  deriving DecidableEq, Repr, Inhabited

def Sign.spelling (style : NotEqualStyle) : Sign → String
  | .plus => "+"
  | .minus => "-"
  | .times => "*"
  | .divide => "/"
  | .modulo => "%"
  | .equal => "="
  | .notEqual => style.spelling
  | .less => "<"
  | .lessEqual => "<="
  | .greater => ">"
  | .greaterEqual => ">="
  | .concat => "||"

/-- Constructors of spatial values, which belong to a schema. -/
inductive SpatialName where
  | dimArray | dimElement
  deriving DecidableEq, Repr, Inhabited

def SpatialName.spelling : SpatialName → String
  | .dimArray => "SDO_DIM_ARRAY"
  | .dimElement => "SDO_DIM_ELEMENT"

inductive Lexeme where
  | space
  | opening
  | closing
  | comma
  | dot
  /-- Stands between a quantified variable and its condition. -/
  | bar
  | keyword (word : Keyword)
  | sign (symbol : Sign)
  | spatial (constructor : SpatialName)
  /-- A name given by the tree, written as it is. -/
  | name (text : String)
  | integer (value : Int64)
  | number (value : Binary64)
  /-- A string literal with the given content. -/
  | quoted (content : String)
  /-- Stands where a part of the tree is missing. -/
  | gap (missing : Gap)
  deriving DecidableEq, Repr, Inhabited

namespace Lexeme

/-- Content of a string literal as written between its quotes: a quote is written twice. -/
def escapeQuotes : List Char → List Char
  | [] => []
  | '\'' :: rest => '\'' :: '\'' :: escapeQuotes rest
  | char :: rest => char :: escapeQuotes rest

def quote (content : String) : String :=
  String.ofList ('\'' :: escapeQuotes content.toList ++ ['\''])

def spelling (dialect : Dialect) : Lexeme → String
  | .space => " "
  | .opening => "("
  | .closing => ")"
  | .comma => ","
  | .dot => "."
  | .bar => "|"
  | .keyword word => word.spelling
  | .sign symbol => symbol.spelling dialect.notEqual
  | .spatial constructor => dialect.qualify constructor.spelling
  | .name text => text
  | .integer value => toString value.toInt
  | .number value => value.text
  | .quoted content => quote content
  | .gap missing => missing.placeholder

def gap? : Lexeme → Option Gap
  | .gap missing => some missing
  | _ => none

def text (dialect : Dialect) (lexemes : List Lexeme) : String :=
  String.join (lexemes.map (spelling dialect))

/-- Gaps of a row of lexemes, in the order of the text. -/
def gaps (lexemes : List Lexeme) : List Gap := lexemes.filterMap gap?

/-- The text begins with the given character. Empty spellings are looked through. -/
def startsWith (dialect : Dialect) (char : Char) : List Lexeme → Bool
  | [] => false
  | head :: rest =>
    match (head.spelling dialect).toList with
    | [] => startsWith dialect char rest
    | first :: _ => first == char

def parenthesized (body : List Lexeme) : List Lexeme := .opening :: body ++ [.closing]

/-- Parentheses around a body that binds too loosely for its place. -/
def parenthesizedIf (needed : Bool) (body : List Lexeme) : List Lexeme :=
  if needed then parenthesized body else body

def commaSeparated (bodies : List (List Lexeme)) : List Lexeme :=
  [Lexeme.comma, .space].intercalate bodies

/-- An optional `NOT ` in front of a test's keyword. -/
def negationMark (negated : Bool) : List Lexeme :=
  if negated then [.keyword .not, .space] else []

end Lexeme

/-- Lexeme of a binary operator. Inequality is one sign, whose spelling is left to the dialect. -/
def BinaryOp.lexeme : BinaryOp → Lexeme
  | .add => .sign .plus
  | .sub => .sign .minus
  | .mul => .sign .times
  | .div => .sign .divide
  | .mod => .sign .modulo
  | .eq => .sign .equal
  | .ne => .sign .notEqual
  | .lt => .sign .less
  | .le => .sign .lessEqual
  | .gt => .sign .greater
  | .ge => .sign .greaterEqual
  | .and => .keyword .and
  | .or => .keyword .or
  | .concat => .sign .concat
  | .like => .keyword .like

def UnaryOp.spelling : UnaryOp → String
  | .not => "NOT"
  | .minus => "-"
  | .isNull => "IS NULL"
  | .isNotNull => "IS NOT NULL"

def Quantifier.keyword : Quantifier → Keyword
  | .universal => .forAll
  | .existential => .thereIs

def Junction.keyword : Junction → Keyword
  | .and => .and
  | .or => .or

end ConstraintTree
