import A64.Program

/-!
The command-line program: it reads the input that the arguments name, runs, and writes the outcome.
-/

namespace A64.Main

/-- The reason of a failed system call, with its number. -/
def reason : IO.Error → String
  | .noFileOrDirectory _ code details | .permissionDenied _ code details
  | .inappropriateType _ code details | .resourceExhausted _ code details
  | .invalidArgument _ code details | .noSuchThing _ code details
  | .hardwareFault code details | .otherError code details =>
    details ++ " (os error " ++ Numeral.decimal code.toNat ++ ")"
  | e => toString e

/-- Opens a file and reads it. -/
def openFile (path : String) : IO (Except String Input) := do
  match ← (IO.FS.Handle.mk path .read).toBaseIO with
  | .error e => return .error (reason e)
  | .ok handle =>
    match ← handle.readBinToEnd.toBaseIO with
    | .ok data => return .ok (.bytes data.toList)
    | .error e => return .ok (.unreadable (reason e))

/-- Reads the standard input. -/
partial def readStdin (stdin : IO.FS.Stream) (read : ByteArray) : IO ByteArray := do
  let part ← stdin.read 65536
  if part.isEmpty then return read else readStdin stdin (read ++ part)

/-- The input that the arguments name, already opened. -/
def inputs (args : List String) : IO (Input × Except String Input) := do
  match CommandLine.parse args with
  | .ok { words := [], input := some "-", .. } =>
    let data ← readStdin (← IO.getStdin) .empty
    return (.bytes data.toList, .ok (.bytes []))
  | .ok { words := [], input := some path, .. } => return (.bytes [], ← openFile path)
  | _ => return (.bytes [], .ok (.bytes []))

end A64.Main

/-- Disassembles what the arguments name. -/
def main (args : List String) : IO UInt32 := do
  let (stdin, file) ← A64.Main.inputs args
  let outcome := A64.Program.runArguments args stdin fun _ => file
  IO.print outcome.stdout
  if outcome.exitCode = 2 then IO.eprintln A64.Program.usage
  if let some text := outcome.stderr then IO.eprintln text
  return UInt32.ofNat outcome.exitCode
