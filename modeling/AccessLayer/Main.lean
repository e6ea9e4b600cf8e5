import AccessLayer.CommandLine.Command
import AccessLayer.Log

namespace AccessLayer

namespace Machine

/-- A failure of the machine as a fault. What has no fault of its own keeps the words of the
    system. -/
def fault : IO.Error → FileFault
  | .noFileOrDirectory .. => .notFound
  | .alreadyExists .. => .alreadyExists
  | .inappropriateType _ code _ => if code = 21 then .isFolder else .notFolder
  | .invalidArgument _ 36 _ => .nameTooLong
  | .permissionDenied _ code details => .other s!"{details} (os error {code})"
  | .otherError code details => .other s!"{details} (os error {code})"
  | e => .other (toString e)

/-- The result of an action that may fail. -/
def attempt {α : Type} (action : IO α) : IO (Except FileFault α) := do
  try
    return .ok (← action)
  catch e => return .error (fault e)

/-- Reads the first byte of a file, which fails for a folder. -/
def readByte (p : Path) : IO Unit := do
  let handle ← IO.FS.Handle.mk p.text .read
  discard (handle.read 1)

/-- The machine with a flag that is raised by nothing but the run itself. -/
def host (flag : IO.Ref Bool) : Host IO where
  entry? p := do
    match ← attempt (readByte p) with
    | .ok () => return some .file
    | .error .isFolder => return some .folder
    | .error _ => return none
  readText p := do
    match ← attempt (IO.FS.readBinFile p.text) with
    | .error f => return .error f
    | .ok bytes =>
      match String.fromUTF8? bytes with
      | some text => return .ok text
      | none => return .error .notText
  makeFolder p := attempt (IO.FS.createDir p.text)
  writeText p contents := attempt (IO.FS.writeFile p.text contents)
  isCancelled := flag.get
  cancel := flag.set true

/-- Carries out a command line on the files of the machine. Everything that it decides is decided
    elsewhere; here the files are reached and the outcome is printed. -/
def run (i : CommandLine.Invocation) : IO UInt32 := do
  let level ← IO.getEnv "DAOGEN_LOG_LEVEL"
  let format ← IO.getEnv "DAOGEN_LOG_FORMAT"
  let log := (LogSettings.ofEnvironment level format).verbose i.verbose
  if let some line := log.line? .debug ("carrying out " ++ i.command.name) then IO.eprintln line
  let outcome ← CommandLine.perform (host (← IO.mkRef false)) i.command
  IO.print outcome.output
  IO.eprint outcome.errorText
  return outcome.exitCode.toUInt32

end Machine

end AccessLayer

/-- Carries out the command line, or says why it does not. -/
def main (args : List String) : IO UInt32 := do
  match AccessLayer.CommandLine.parse args with
  | .ok i => AccessLayer.Machine.run i
  | .error e =>
    if e.exitCode = 0 then IO.print e.answer else IO.eprint e.answer
    return e.exitCode.toUInt32
