import ConstraintTree.CommandLine.Run

namespace ConstraintTree.CommandLine

/-- A fault of the file system by its number, which some functions report negated. -/
def faultOfNumber (code : UInt32) (reason : String) : FileFault :=
  match min code.toNat (UInt32.size - code.toNat) with
  | 2 => .notFound
  | 20 => .notDirectory
  | 21 => .isDirectory
  | 36 => .nameTooLong
  | number => .other reason.capitalize number

/-- The fault that an error stands for. What has no number here is an input/output error. -/
def faultOfError (error : IO.Error) : FileFault :=
  match error with
  | .noFileOrDirectory .. => .notFound
  | .inappropriateType _ code reason | .permissionDenied _ code reason
  | .otherError code reason | .invalidArgument _ code reason
  | .resourceExhausted _ code reason => faultOfNumber code reason
  | _ => .other "Input/output error" 5

def attempt (action : IO α) : IO (Except FileFault α) := do
  try
    return .ok (← action)
  catch error =>
    return .error (faultOfError error)

def perform : FileUse String α → IO α
  | .none result => return result
  | .reading path next => do
    return next (← attempt do return (← IO.FS.readBinFile path).toList)
  | .writing path content next => do
    return next (← attempt (IO.FS.writeBinFile path content.toByteArray))

end ConstraintTree.CommandLine

open ConstraintTree.CommandLine in
def main (arguments : List String) : IO UInt32 := do
  let transcript ← perform (program arguments (← IO.getEnv "RUST_LOG"))
  (← IO.getStdout).putStr (textOf transcript.output)
  (← IO.getStderr).putStr (textOf transcript.messages)
  return UInt32.ofNat transcript.code
