import X86Decoder.Files.Basic
import X86Decoder.Path

/-!
# Files in memory

A tree of files below a working directory. A path is followed name by name, and every name but the
last has to lead to a directory. A path may leave the working directory. Outside it are only those
files and directories that every system has.
-/

namespace X86Decoder

/-- The files below a working directory, each with the names that lead to it. -/
structure FileTree where
  files : List (List String × List UInt8)

namespace FileTree

/-- The tree with the given files by path. -/
def ofPaths (files : List (String × List UInt8)) : FileTree :=
  ⟨files.map fun (path, content) => (Path.names path, content)⟩

/-- What stands at the end of the given names below the working directory. -/
def entry? (tree : FileTree) (names : List String) : Option FileEntry :=
  match tree.files.lookup names with
  | some content => some (.file content)
  | none =>
    if names.isEmpty ∨ tree.files.any (fun (path, _) => names.isPrefixOf path) then
      some .directory
    else none

/-- What every system has at the end of the given names below the root. -/
def standardEntry? : List String → Option FileEntry
  | [] | ["dev"] | ["tmp"] => some .directory
  | ["dev", "null"] => some (.file [])
  | _ => none

/-- The directory in which names start. -/
inductive Origin where
  | workingDirectory
  /-- A directory above the working directory. Nothing else is known of it. -/
  | above
  | root

/-- The directory above. -/
def Origin.parent : Origin → Origin
  | workingDirectory | above => above
  | root => root

/-- Where a path has led so far, and what stands there. -/
structure Place where
  origin : Origin
  /-- The names from the origin on, the last one first. -/
  names : List String := []
  entry : FileEntry := .directory

/-- What stands at the end of the given names from an origin on. -/
def entryFrom? (tree : FileTree) (names : List String) : Origin → Option FileEntry
  | .workingDirectory => tree.entry? names
  | .above => if names.isEmpty then some .directory else none
  | .root => standardEntry? names

/-- The greatest number of bytes of a name. -/
def nameLimit : Nat := 255

/-- The number of bytes that a path has to stay below. -/
def pathLimit : Nat := 4096

/-- Follow one name of a path. -/
def follow (tree : FileTree) (place : Place) (name : String) : Except FileCause Place :=
  match place.entry with
  | .file _ => .error .notDirectory
  | .directory =>
    if name == "" || name == "." then .ok place
    else if name == ".." then
      match place.names with
      | [] => .ok { origin := place.origin.parent }
      | _ :: above => .ok { place with names := above }
    else if nameLimit < name.utf8ByteSize then .error .nameTooLong
    else
      let names := name :: place.names
      match tree.entryFrom? names.reverse place.origin with
      | none => .error .notFound
      | some entry => .ok { place with names, entry }

/-- Find what stands at a path. -/
def find (tree : FileTree) (path : String) : Except FileCause FileEntry :=
  if path.toList.contains (Char.ofNat 0) then .error .invalidArgument
  else if path == "" then .error .notFound
  else if pathLimit ≤ path.utf8ByteSize then .error .nameTooLong
  else
    let start : Place :=
      { origin := if Path.isAbsolute path then .root else .workingDirectory }
    ((Text.split '/' path).foldlM tree.follow start).map Place.entry

/-- Open what stands at a path. -/
def open? (tree : FileTree) : FileReader Id := fun path =>
  (tree.find path).mapError fun cause => ⟨.opening, path, cause⟩

end FileTree

end X86Decoder
