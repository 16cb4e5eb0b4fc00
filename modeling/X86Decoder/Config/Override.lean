import X86Decoder.Config.Basic
import X86Decoder.Mode.Parser
import X86Decoder.Text.Integer

/-!
# Configuration from the command line

Values given on the command line replace those of a configuration.
-/

namespace X86Decoder

/-- Why a configuration cannot be overridden. -/
inductive OverrideFault where
  | mode (fault : ModeFault)
  | ip (text : String) (fault : Text.IntegerFault)
  /-- The value of the named flag is not an integer. -/
  | integer (flag text : String) (fault : Text.IntegerFault)
  | draft (fault : DraftFault)
deriving DecidableEq

namespace OverrideFault

/-- What is said of a fault. -/
def message : OverrideFault → String
  | mode fault => "invalid -mode: " ++ fault.message
  | ip text fault => "invalid -ip: " ++ Text.natMessage text fault
  | integer flag text fault => "invalid -" ++ flag ++ ": " ++ Text.intMessage text fault
  | draft fault => fault.message

end OverrideFault

namespace Config

/-- Replace the value that the named flag gives. -/
def Draft.set (name value : String) (draft : Draft) : Except OverrideFault Draft :=
  match name with
  | "format" => .ok { draft with format := value }
  | "ip" =>
    match Text.parseMarkedNat value with
    | .error fault => .error (.ip value fault)
    | .ok n => .ok { draft with ip := UInt64.ofNat n }
  | "max-errors" =>
    match Text.parseInt value with
    | .error fault => .error (.integer name value fault)
    | .ok n => .ok { draft with maxErrors := n }
  | "mode" =>
    match Mode.parse value with
    | .error fault => .error (.mode fault)
    | .ok mode => .ok { draft with modeBits := mode.bits }
  | "resync" => .ok { draft with resync := value }
  | "workers" =>
    match Text.parseInt value with
    | .error fault => .error (.integer name value fault)
    | .ok n => .ok { draft with workers := n }
  | _ => .ok draft

/-- Override a configuration by flags with their values. The flags are taken in the order of their
names, whatever order they are given in. -/
def override (config : Config) (flags : List (String × String)) : Except OverrideFault Config := do
  let sorted := flags.mergeSort fun a b => !decide (b.1 < a.1)
  let draft ← sorted.foldlM (fun draft (name, value) => draft.set name value) config.draft
  draft.check.mapError .draft

end Config

end X86Decoder
