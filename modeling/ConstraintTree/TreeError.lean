import ConstraintTree.Gap

/-!
Errors of the strict paths: building, validating, storing and loading trees. Each constructor is a
cause; `message` is the one place where causes are worded.
-/
namespace ConstraintTree

/-- Where a byte string stops being UTF-8. -/
structure Utf8Fault where
  /-- Length of the valid text in front. -/
  start : Nat
  /-- Length of the refused sequence, absent when the bytes end inside a valid one. -/
  refused : Option Nat
  deriving DecidableEq, Repr, Inhabited

def Utf8Fault.message (fault : Utf8Fault) : String :=
  match fault.refused with
  | some length => s!"invalid utf-8 sequence of {length} bytes from index {fault.start}"
  | none => s!"incomplete utf-8 byte sequence from index {fault.start}"

inductive DecodeError where
  | endOfInput
  | endOfText
  | malformedText (fault : Utf8Fault)
  | unknownVariant (found count : Nat)
  | unknownPresence (found : UInt8)
  | unknownFlag (found : UInt8)
  | nestedTooDeep (limit : Nat)
  deriving DecidableEq, Repr, Inhabited

/-- The errors that more input might cure. -/
def DecodeError.isEndOfInput : DecodeError → Bool
  | .endOfInput | .endOfText => true
  | _ => false

theorem DecodeError.isEndOfInput_iff {fault : DecodeError} :
    fault.isEndOfInput = true ↔ fault = .endOfInput ∨ fault = .endOfText := by
  cases fault <;> simp [isEndOfInput]

def DecodeError.message : DecodeError → String
  | .endOfInput => "io error: unexpected end of file"
  | .endOfText => "io error: "
  | .malformedText fault => "string is not valid utf8: " ++ fault.message
  | .unknownVariant found count =>
    s!"invalid value: integer `{found}`, expected variant index 0 <= i < {count}"
  | .unknownPresence found => s!"tag for enum is not valid, found {found}"
  | .unknownFlag found => s!"invalid u8 while decoding bool, expected 0 or 1, found {found}"
  | .nestedTooDeep limit => s!"tree nested deeper than {limit} levels"

inductive FileFault where
  | notFound
  | notDirectory
  | isDirectory
  | nameTooLong
  /-- No name of a file can hold the null character. -/
  | nullInName
  /-- Any other reason, in the words and with the number of the file system. -/
  | other (reason : String) (code : Nat)
  deriving DecidableEq, Repr, Inhabited

def FileFault.message : FileFault → String
  | .notFound => "No such file or directory (os error 2)"
  | .notDirectory => "Not a directory (os error 20)"
  | .isDirectory => "Is a directory (os error 21)"
  | .nameTooLong => "File name too long (os error 36)"
  | .nullInName => "file name contained an unexpected NUL byte"
  | .other reason code => s!"{reason} (os error {code})"

inductive TreeError where
  | incomplete (missing : List Gap)
  | malformed (fault : DecodeError)
  | unsupportedVersion (found expected : UInt32)
  | emptySnapshot
  | file (fault : FileFault)
  deriving DecidableEq, Repr, Inhabited

namespace TreeError

def message : TreeError → String
  | .incomplete missing =>
    "Incomplete tree: missing " ++ ", ".intercalate (missing.map Gap.description)
  | .malformed fault => "Snapshot encoding error: " ++ fault.message
  | .unsupportedVersion found expected =>
    s!"Unsupported snapshot version {found} (expected {expected})"
  | .emptySnapshot => "Snapshot contains no items"
  | .file fault => "IO error: " ++ fault.message

/-- The gaps that an incomplete tree reports; other errors carry none. -/
def missing : TreeError → List Gap
  | .incomplete missing => missing
  | _ => []

/-- The messages from the error down to its innermost cause. -/
def chain (error : TreeError) : List String :=
  match error with
  | .malformed fault => [error.message, fault.message]
  | .file fault => [error.message, fault.message]
  | _ => [error.message]

/-- Success without gaps, and otherwise the error that names them. -/
def unlessMissing (missing : List Gap) (value : α) : Except TreeError α :=
  if missing.isEmpty then .ok value else .error (.incomplete missing)

end TreeError
end ConstraintTree
