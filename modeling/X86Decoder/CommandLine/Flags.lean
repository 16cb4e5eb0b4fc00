import X86Decoder.Text.Blank
import X86Decoder.Text.Integer

/-!
# Flags

The arguments of a command start with flags, each a dash or two and a name. A value follows after an
equals sign or as the next argument; a switch needs none. The flags end at the first argument that
is not one, or after two dashes alone.
-/

namespace X86Decoder

/-- What values a flag takes, with the default value. -/
inductive CommandFlagKind where
  /-- On or off; off by default. -/
  | switch
  | text (default : String)
  | integer (default : Int)
  | natural (default : Nat)
deriving DecidableEq

/-- A flag of a command. -/
structure CommandFlag where
  name : String
  kind : CommandFlagKind
  /-- The word for its value. -/
  placeholder : String
  description : String

/-- Why arguments are not those of a command. -/
inductive UsageFault where
  | badForm (argument : String)
  | unknownFlag (name : String)
  | missingValue (name : String)
  | badSwitch (value name : String)
  | badNumber (value name : String) (fault : Text.IntegerFault)
  /-- Help was asked for. -/
  | help
  /-- The arguments after the flags are not as many as they should be. -/
  | arguments
deriving DecidableEq

namespace UsageFault

/-- What is said of a value that is no number of the kind wanted. -/
def numberMessage : Text.IntegerFault → String
  | .syntaxError => "parse error"
  | .outOfRange => "value out of range"

/-- What is said of a fault before the usage is shown, if anything. -/
def message? : UsageFault → Option String
  | badForm argument => some ("bad flag syntax: " ++ argument)
  | unknownFlag name => some ("flag provided but not defined: -" ++ name)
  | missingValue name => some ("flag needs an argument: -" ++ name)
  | badSwitch value name =>
    some ("invalid boolean value " ++ Text.quoted value ++ " for -" ++ name ++ ": parse error")
  | badNumber value name fault =>
    some ("invalid value " ++ Text.quoted value ++ " for flag -" ++ name ++ ": "
      ++ numberMessage fault)
  | help | arguments => none

end UsageFault

/-- Flags with the values they were given, and the arguments after them. -/
structure Arguments where
  flags : List (String × String)
  rest : List String

/-- How an argument is read where a flag may stand. -/
inductive ArgumentForm where
  /-- It is no flag. -/
  | plain
  /-- It ends the flags. -/
  | terminator
  | malformed
  | flag (name : String) (value : Option String)
deriving DecidableEq

/-- Read an argument where a flag may stand. -/
def ArgumentForm.ofString (argument : String) : ArgumentForm :=
  match argument.toList with
  | '-' :: '-' :: [] => terminator
  | '-' :: c :: cs =>
    match (if c == '-' then cs else c :: cs) with
    | [] => malformed
    | c :: cs =>
      if c == '-' || c == '=' then malformed
      else
        match Text.cut? '=' (String.ofList (c :: cs)) with
        | some (name, value) => flag name (some value)
        | none => flag (String.ofList (c :: cs)) none
  | _ => plain

namespace CommandFlag

/-- The words for on. -/
def onWords : List String :=
  ["1", "t", "T", "TRUE", "true", "True"]

/-- The words for off. -/
def offWords : List String :=
  ["0", "f", "F", "FALSE", "false", "False"]

/-- The value of a flag in the one way it is written, whatever way it was given. -/
def value (flag : CommandFlag) (text : String) : Except UsageFault String :=
  match flag.kind with
  | .switch =>
    if onWords.contains text then .ok "true"
    else if offWords.contains text then .ok "false"
    else .error (.badSwitch text flag.name)
  | .text _ => .ok text
  | .integer _ =>
    match Text.parseMarkedInt text with
    | .ok n => .ok (Text.signedDecimal n)
    | .error fault => .error (.badNumber text flag.name fault)
  | .natural _ =>
    match Text.parseMarkedNat text with
    | .ok n => .ok (Text.decimal n)
    | .error fault => .error (.badNumber text flag.name fault)

/-- The default value in words, if there is one to tell. -/
def defaultText (flag : CommandFlag) : String :=
  match flag.kind with
  | .switch => ""
  | .text "" => ""
  | .text value => " (default " ++ Text.quoted value ++ ")"
  | .integer n => if n = 0 then "" else " (default " ++ Text.signedDecimal n ++ ")"
  | .natural n => if n = 0 then "" else " (default " ++ Text.decimal n ++ ")"

/-- A flag as the usage shows it. -/
def usage (flag : CommandFlag) : String :=
  let name := "  -" ++ flag.name
    ++ (if flag.placeholder == "" then "" else " " ++ flag.placeholder)
  name ++ (if name.length ≤ 4 then "\t" else "\n    \t") ++ flag.description ++ flag.defaultText
    ++ "\n"

end CommandFlag

namespace Arguments

/-- The flags with a value for a name, in place of an earlier one. -/
def put (set : List (String × String)) (name value : String) : List (String × String) :=
  set.filter (fun (n, _) => n != name) ++ [(name, value)]

/-- Read arguments after flags that have been set. -/
def parseFrom (flags : List CommandFlag) (set : List (String × String)) :
    List String → Except UsageFault Arguments
  | [] => .ok ⟨set, []⟩
  | argument :: rest =>
    match ArgumentForm.ofString argument with
    | .plain => .ok ⟨set, argument :: rest⟩
    | .terminator => .ok ⟨set, rest⟩
    | .malformed => .error (.badForm argument)
    | .flag name given =>
      match flags.find? fun flag => flag.name == name with
      | none => .error (if name == "help" || name == "h" then .help else .unknownFlag name)
      | some flag =>
        match given with
        | some text =>
          match flag.value text with
          | .error fault => .error fault
          | .ok value => parseFrom flags (put set name value) rest
        | none =>
          if flag.kind = .switch then parseFrom flags (put set name "true") rest
          else
            match rest with
            | [] => .error (.missingValue name)
            | text :: rest =>
              match flag.value text with
              | .error fault => .error fault
              | .ok value => parseFrom flags (put set name value) rest

/-- Read the arguments of a command with the given flags. -/
def parse (flags : List CommandFlag) (arguments : List String) : Except UsageFault Arguments :=
  parseFrom flags [] arguments

/-- Whether a switch is on. -/
def isOn (arguments : Arguments) (name : String) : Bool :=
  arguments.flags.lookup name == some "true"

/-- The text that a flag was given. -/
def textOf (arguments : Arguments) (name : String) : String :=
  (arguments.flags.lookup name).getD ""

end Arguments

end X86Decoder
