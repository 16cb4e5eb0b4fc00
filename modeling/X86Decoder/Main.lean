import X86Decoder.CommandLine.Command

/-!
# The program

Runs a command on the files of the machine.
-/

namespace X86Decoder

/-- The name of the program. -/
def programName : String := "x86dec"

/-- The number by which a machine tells that a file is a directory. -/
def isDirectoryCode : UInt32 := 21

/-- What stands at a path that could not be read, or why it could not. -/
def entryOfError (path : String) (error : IO.Error) : Except FileFault FileEntry :=
  let fault (cause : FileCause) : Except FileFault FileEntry := .error ⟨.opening, path, cause⟩
  match error with
  | .noFileOrDirectory _ _ _ => fault .notFound
  | .inappropriateType _ code _ =>
    if code = isDirectoryCode then .ok .directory else fault .notDirectory
  | .invalidArgument _ _ _ => fault .invalidArgument
  | error => fault (.other error.toString)

/-- Open files of the machine. -/
def openOnMachine : FileReader IO := fun path => do
  try
    let content ← IO.FS.readBinFile path
    return .ok (.file content.toList)
  catch error => return entryOfError path error

/-- Run a command and tell its exit code. -/
def runCommand (command : Command) (texts : List String) : IO UInt32 := do
  let stdout ← IO.getStdout
  let stderr ← IO.getStderr
  let log (text : String) : IO Unit :=
    stderr.putStrLn (programName ++ " " ++ command.name ++ ": " ++ text)
  match command.arguments texts with
  | .error fault =>
    if let some message := fault.message? then stderr.putStrLn message
    stderr.putStr (command.usage programName)
    return 2
  | .ok arguments =>
    let outcome ← command.run openOnMachine none arguments
    for notice in outcome.notices do
      log notice.text
    stdout.putStr outcome.output
    stdout.flush
    match outcome.failure with
    | none => return 0
    | some fault =>
      log (fault.message?.getD "invalid input")
      return 1

end X86Decoder

/-- Run the command that the first argument names. -/
def main (arguments : List String) : IO UInt32 := do
  match arguments with
  | name :: rest =>
    match X86Decoder.Command.ofName? name with
    | some command => X86Decoder.runCommand command rest
    | none =>
      (← IO.getStderr).putStr (X86Decoder.Command.overview X86Decoder.programName)
      return 2
  | [] =>
    (← IO.getStderr).putStr (X86Decoder.Command.overview X86Decoder.programName)
    return 2
