import Interlock.CommandLine.Run

/-! # The program

Connects the commands to the files, the clock and the streams of the machine.
-/

namespace Interlock

/-- The file error that an error of the machine stands for. -/
def machineFileError : IO.Error → FileError
  | .noFileOrDirectory .. => .notExist
  | .inappropriateType _ code _ => if code = 20 then .notDirectory else .isDirectory
  | .invalidArgument _ code _ => if code = 36 then .nameTooLong else .invalidName
  | .permissionDenied .. => .other "permission denied"
  | e => .other (toString e)

/-- The host that works on the machine. -/
def machineHost : CommandLine.Host IO where
  read path := do
    try
      return .ok (← IO.FS.readFile path)
    catch e =>
      let error := machineFileError e
      return .error ⟨if error = .isDirectory then .reading else .opening, path, error⟩
  write path content := do
    try
      match content with
      | .text s => IO.FS.writeFile path s
      | .profile => IO.FS.writeFile path ""
      return .ok ()
    catch e => return .error ⟨.opening, path, machineFileError e⟩
  print text := do
    try
      IO.print text
      return .ok ()
    catch e => return .error (toString e)
  -- What a profile holds does not matter, so there is nothing to record.
  profile _ := return .ok ()
  now := return Int64.ofNat (← IO.monoNanosNow)
  id := return String.ofList (Text.hexField .small 8 (← IO.rand 0 0xffffffff))

end Interlock

/-- Runs the command line, with the log and the error message on the error stream. -/
def main (arguments : List String) : IO UInt32 := do
  let program := Interlock.CommandLine.program Interlock.machineHost
  let outcome ← Interlock.CommandLine.FrontEnd.standard.execute program arguments
  for line in outcome.log do
    IO.eprintln line
  if let some failure := outcome.failure then
    IO.eprintln ("Error: " ++ failure.message)
  return outcome.exitCode.toUInt32
