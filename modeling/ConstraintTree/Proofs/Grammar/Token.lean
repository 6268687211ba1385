import ConstraintTree.Lexeme

/-!
Text taken apart into tokens. The scanner reads one character after another and always takes the
longest token, so two words need a blank or a punctuation character between them. A quote inside a
string literal is written twice, and two minus signs in a row open a comment that ends with the line.
-/
namespace ConstraintTree

/-- A piece of text that stands for itself. Numerals carry no sign. -/
inductive Token where
  | opening
  | closing
  | comma
  | dot
  | keyword (word : Keyword)
  | sign (symbol : Sign)
  | name (text : String)
  | numeral (value : Nat)
  | quoted (content : String)
  deriving DecidableEq, Repr

/-- The words that name no column, table or function. -/
def Keyword.reserved : List Keyword :=
  [.null, .true, .false, .and, .or, .not, .like, .is, .in, .between]

def isWordChar (char : Char) : Bool := char.isAlphanum || char == '_'

/-- A letter and then any word characters, but not a reserved word. -/
def isIdentifier (text : String) : Bool :=
  (match text.toList with
    | [] => false
    | first :: rest => first.isAlpha && rest.all isWordChar) &&
  Keyword.reserved.all fun word => word.spelling != text

namespace Token

/-- A whole word is a keyword if it is reserved, and otherwise a name. -/
def ofWord (letters : List Char) : Token :=
  match Keyword.reserved.find? fun word => word.spelling.toList == letters with
  | some word => .keyword word
  | none => .name (String.ofList letters)

/-- Characters that are tokens by themselves, whatever follows. -/
def ofChar? : Char → Option Token
  | '(' => some .opening
  | ')' => some .closing
  | ',' => some .comma
  | '.' => some .dot
  | '+' => some (.sign .plus)
  | '*' => some (.sign .times)
  | '/' => some (.sign .divide)
  | '%' => some (.sign .modulo)
  | '=' => some (.sign .equal)
  | _ => none

/-- Characters with which a sign begins that may have a second one. -/
def opensSign (char : Char) : Bool := ['-', '<', '>', '!', '|'].contains char

/-- Signs of one character that others extend. -/
def shortSign? : Char → Option Sign
  | '-' => some .minus
  | '<' => some .less
  | '>' => some .greater
  | _ => none

def longSign? : Char → Char → Option Sign
  | '<', '=' => some .lessEqual
  | '<', '>' => some .notEqual
  | '!', '=' => some .notEqual
  | '>', '=' => some .greaterEqual
  | '|', '|' => some .concat
  | _, _ => none

end Token

/-- What the scanner has read of a token that may go on. -/
inductive Pending where
  | nothing
  | word (letters : List Char)
  | numeral (value : Nat)
  | sign (first : Char)
  | quoted (content : List Char)
  | quote (content : List Char)
  | comment
  deriving DecidableEq, Repr

namespace Pending

/-- The pending token if it ends here. An open string literal cannot. -/
def close : Pending → Option (List Token)
  | .nothing | .comment => some []
  | .word letters => some [.ofWord letters]
  | .numeral value => some [.numeral value]
  | .sign first => (Token.shortSign? first).map fun symbol => [.sign symbol]
  | .quoted _ => none
  | .quote content => some [.quoted (String.ofList content)]

/-- The value of a numeral with one more digit. -/
def shift (value : Nat) (digit : Char) : Nat := Nat.ofDigitChars 10 [digit] value

def start (char : Char) : Option (List Token × Pending) :=
  if char.isWhitespace then some ([], .nothing)
  else if char.isAlpha then some ([], .word [char])
  else if char.isDigit then some ([], .numeral (shift 0 char))
  else if char = '\'' then some ([], .quoted [])
  else if Token.opensSign char then some ([], .sign char)
  else (Token.ofChar? char).map fun token => ([token], .nothing)

def turn (pending : Pending) (char : Char) : Option (List Token × Pending) := do
  let ended ← pending.close
  let (tokens, next) ← start char
  return (ended ++ tokens, next)

/-- One character: the tokens that are whole with it, and what is pending then. -/
def step (pending : Pending) (char : Char) : Option (List Token × Pending) :=
  match pending with
  | .nothing => start char
  | .word letters =>
    if isWordChar char then some ([], .word (letters ++ [char])) else pending.turn char
  | .numeral value =>
    if char.isDigit then some ([], .numeral (shift value char)) else pending.turn char
  | .sign first =>
    if first = '-' ∧ char = '-' then some ([], .comment)
    else match Token.longSign? first char with
      | some symbol => some ([.sign symbol], .nothing)
      | none => pending.turn char
  | .quoted content =>
    some ([], if char = '\'' then .quote content else .quoted (content ++ [char]))
  | .quote content =>
    if char = '\'' then some ([], .quoted (content ++ ['\''])) else pending.turn char
  | .comment => some ([], if char = '\n' then .nothing else .comment)

/-- The tokens of the remaining characters. Fails on a character that no token has, and on a string
literal without an end. -/
def scan (pending : Pending) : List Char → Option (List Token)
  | [] => pending.close
  | char :: rest => do
    let (tokens, next) ← pending.step char
    return tokens ++ (← scan next rest)

end Pending

def Token.ofText? (text : String) : Option (List Token) := Pending.scan .nothing text.toList

end ConstraintTree
