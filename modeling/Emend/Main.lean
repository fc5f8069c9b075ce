import Emend.Program
import Std.Time.DateTime.Timestamp

/-!
# The command line

The program is called with the words of a command as its arguments. This module finds out
the circumstances of the call and carries out the report of `Program.run`, which does the
rest.
-/

namespace Emend

namespace Program

/-- What an error of the system says about a file. The number of the reason may come with
a minus sign. -/
def fileError (e : IO.Error) : FileError :=
  let ofCode (code : UInt32) (details : String) : FileError :=
    .ofCode code.toInt32.toInt.natAbs details
  match e with
  | .noFileOrDirectory _ code details => ofCode code details
  | .inappropriateType _ code details => ofCode code details
  | .permissionDenied _ code details => ofCode code details
  | .invalidArgument _ code details => ofCode code details
  | e => ⟨toString e, none⟩

/-- Read a file of the file system. -/
def readFromDisk (path : String) : IO (Except FileError String) := do
  try
    match String.fromUTF8? (← IO.FS.readBinFile path) with
    | some contents => return .ok contents
    | none => return .error .notText
  catch e => return .error (fileError e)

/-- A random number with the given number of bytes. -/
def randomNumber (bytes : USize) : IO Nat :=
  return (← IO.getRandomBytes bytes).data.foldl (fun n b => 256 * n + b.toNat) 0

/-- What the program is called with, for the given arguments. -/
def circumstances (arguments : List String) : IO Circumstances := do
  let now ← Std.Time.Timestamp.now
  let nanoseconds : Int := now.toNanosecondsSinceUnixEpoch.val
  let settings ← Config.variableNames.mapM fun name => return (name, ← IO.getEnv name)
  let workingDirectory ← try pure (some (← IO.currentDir).toString) catch _ => pure none
  match Timestamp.ofNanoseconds? nanoseconds with
  | none => throw (IO.userError "the clock is out of range")
  | some time =>
    return {
      arguments := arguments
      environment := fun name => (settings.lookup name).join
      workingDirectory := workingDirectory
      id := .ofTime (nanoseconds / 1000000).toNat (← randomNumber 2) (← randomNumber 8)
      now := time }

end Program

end Emend

/-- Interpret the arguments, print the interpretation and end with its exit code. -/
def main (arguments : List String) : IO UInt32 := do
  let circumstances ← Emend.Program.circumstances arguments
  let report ← Emend.Program.run Emend.Program.readFromDisk circumstances
  IO.print report.output
  IO.eprint report.errors
  return report.exitCode.toUInt32
