import X86Decoder.Source.Format

/-!
# The source file of codes

The source file that enumerates the codes of a table. It declares a constant for each code, after
one for no code, and lists their names. The file is formatted, for codes may have comments around
them.
-/

namespace X86Decoder.CodeList

/-- The comments at the top of the file, made by the given command. -/
def preamble (command : String) : List String :=
  ["// Copyright 2023 The Firefly Authors.",
   "//",
   "// Use of this source code is governed by a BSD 3-clause",
   "// license that can be found in the LICENSE file.",
   "",
   "// Code generated by " ++ command ++ ". DO NOT EDIT.",
   ""]

/-- The lines that declare the type of codes. -/
def typeLines : List String :=
  ["package x86",
   "",
   "// Code identifies a single instruction form,",
   "// such as Add_Eb_Gb. The zero value is INVALID.",
   "type Code uint16",
   ""]

/-- The lines that declare the constants. The last constant counts the others. -/
def constantLines (codes : List String) : List String :=
  ["const (", "\tINVALID Code = iota"] ++ codes.map ("\t" ++ ·) ++ ["", "\tnumCodes", ")", ""]

/-- The line of a name in the list of names. -/
def nameLine (name : String) : String :=
  "\t\"" ++ name ++ "\","

/-- The lines that list the names. -/
def nameLines (codes : List String) : List String :=
  ["var codeNames = [numCodes]string\x7b"] ++ ("INVALID" :: codes).map nameLine ++ ["\x7d"]

/-- The source file before it is formatted. -/
def draft (command : String) (codes : List String) : String :=
  String.join ((preamble command ++ typeLines ++ constantLines codes ++ nameLines codes).map
    (· ++ "\n"))

/-- The source file that enumerates codes, as the given command writes it. It stays as it is if it
cannot be formatted. -/
def source (command : String) (codes : List String) : String :=
  (Source.format? (draft command codes)).getD (draft command codes)

end X86Decoder.CodeList
