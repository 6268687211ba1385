namespace ConstraintTree

inductive NotEqualStyle where
  | standard
  | bang
  deriving DecidableEq, Repr, Inhabited

def NotEqualStyle.spelling : NotEqualStyle → String
  | .standard => "<>"
  | .bang => "!="

structure Dialect where
  /-- Schema that owns the spatial constructors; without one they stand unqualified. -/
  schema : Option String := some "MDSYS"
  notEqual : NotEqualStyle := .standard
  deriving DecidableEq, Repr, Inhabited

def Dialect.qualify (dialect : Dialect) (name : String) : String :=
  match dialect.schema with
  | some schema => schema ++ "." ++ name
  | none => name

end ConstraintTree
