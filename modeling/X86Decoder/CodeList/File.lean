import X86Decoder.CodeList
import X86Decoder.CodeList.Source
import X86Decoder.Files.Basic

/-!
# Source files from form tables

The source file that enumerates the codes of a table, from the file that holds the table.
-/

namespace X86Decoder

/-- Why there is no source file. -/
inductive CodeFileFault where
  | opening (fault : FileFault)
  | reading (fault : FileFault)
  | table (path : String) (fault : CodeListFault)
deriving DecidableEq

namespace CodeFileFault

/-- What is said of a table that cannot be read. -/
def readMessage (path reason : String) : String :=
  "failed to read " ++ path ++ ": " ++ reason

/-- What is said of a fault. -/
def message : CodeFileFault → String
  | opening fault => fault.message
  | reading fault => readMessage fault.path fault.message
  | table path fault => readMessage path fault.message

end CodeFileFault

/-- The source file for the table at a path, made by the named command. -/
def CodeList.generate {m : Type → Type} [Monad m] (files : FileReader m) (command path : String) :
    m (Except CodeFileFault String) := do
  match ← files path with
  | .error fault => return .error (.opening fault)
  | .ok entry =>
    match entry.read path with
    | .error fault => return .error (.reading fault)
    | .ok content =>
      match CodeList.parse content with
      | .error fault => return .error (.table path fault)
      | .ok codes => return .ok (CodeList.source command codes)

end X86Decoder
