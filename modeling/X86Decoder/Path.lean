import X86Decoder.Text.Blank

/-!
# Paths

A path is a text of names with slashes between them. `clean` writes it in the shortest way: no empty
names, no `.`, and `..` at the front only.
-/

namespace X86Decoder.Path

/-- Whether a path starts at the root. -/
def isAbsolute (path : String) : Bool :=
  path.toList.head? == some '/'

/-- The names of a path with one more name, the last name first. `..` takes away the name before it;
where there is none it is kept, except at the root. -/
def push (absolute : Bool) (names : List String) (name : String) : List String :=
  if name == "" || name == "." then names
  else if name == ".." then
    match names with
    | [] => if absolute then [] else [".."]
    | last :: others => if last == ".." then ".." :: names else others
  else name :: names

/-- The names of a path in the shortest way. -/
def names (path : String) : List String :=
  ((Text.split '/' path).foldl (push (isAbsolute path)) []).reverse

/-- A path in the shortest way. -/
def clean (path : String) : String :=
  let text := "/".intercalate (names path)
  if isAbsolute path then "/" ++ text else if text == "" then "." else text

/-- A path below a directory. -/
def join (directory path : String) : String :=
  if directory == "" then (if path == "" then "" else clean path)
  else clean (directory ++ "/" ++ path)

/-- The last name of a path. -/
def base (path : String) : String :=
  if path == "" then "."
  else
    match path.toList.reverse.dropWhile (· == '/') with
    | [] => "/"
    | cs => String.ofList (cs.takeWhile (· != '/')).reverse

/-- The directory that a path lies in. -/
def directory (path : String) : String :=
  clean (String.ofList (path.toList.reverse.dropWhile (· != '/')).reverse)

end X86Decoder.Path
