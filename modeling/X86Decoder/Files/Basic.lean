import X86Decoder.Text.Blank

/-!
# Files

What stands at a path, and why a file cannot be opened or read. Programs that use files ask for them
through a `FileReader`, so that they run on files in memory as well as on those of a machine.
-/

namespace X86Decoder

/-- What is done with a file. -/
inductive FileOperation where
  | opening
  | reading
deriving DecidableEq

/-- Why something cannot be done with a file. -/
inductive FileCause where
  | notFound
  | notDirectory
  | isDirectory
  | nameTooLong
  | invalidArgument
  | other (text : String)
deriving DecidableEq

/-- A failure to open or read a file. -/
structure FileFault where
  operation : FileOperation
  path : String
  cause : FileCause
deriving DecidableEq

/-- The word for what is done with a file. -/
def FileOperation.text : FileOperation → String
  | opening => "open"
  | reading => "read"

/-- A cause in words. -/
def FileCause.text : FileCause → String
  | notFound => "no such file or directory"
  | notDirectory => "not a directory"
  | isDirectory => "is a directory"
  | nameTooLong => "file name too long"
  | invalidArgument => "invalid argument"
  | other text => text

/-- What is said of a failure. -/
def FileFault.message (fault : FileFault) : String :=
  fault.operation.text ++ " " ++ fault.path ++ ": " ++ fault.cause.text

/-- What stands at a path. -/
inductive FileEntry where
  | file (content : List UInt8)
  | directory

/-- A way to open what stands at a path. -/
abbrev FileReader (m : Type → Type) := String → m (Except FileFault FileEntry)

/-- The content of what has been opened at a path. -/
def FileEntry.read (path : String) : FileEntry → Except FileFault (List UInt8)
  | file content => .ok content
  | directory => .error ⟨.reading, path, .isDirectory⟩

/-- Read a file as a whole. -/
def readFile {m : Type → Type} [Monad m] (files : FileReader m) (path : String) :
    m (Except FileFault (List UInt8)) := do
  return (← files path).bind (FileEntry.read path)

end X86Decoder
