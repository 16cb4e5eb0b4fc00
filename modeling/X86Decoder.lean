import X86Decoder.CodeList
import X86Decoder.CodeList.File
import X86Decoder.CommandLine.Command
import X86Decoder.Comparison
import X86Decoder.Config.File
import X86Decoder.Config.Override
import X86Decoder.Decoder
import X86Decoder.Files.Tree
import X86Decoder.Form.Row
import X86Decoder.HexInput
import X86Decoder.Listing
import X86Decoder.MachineCode
import X86Decoder.Main
import X86Decoder.Naming
import X86Decoder.Scan
import X86Decoder.Statistics.Report
import X86Decoder.Proofs.Reader
import X86Decoder.Proofs.SelfDelimiting.Basic
import X86Decoder.Proofs.SelfDelimiting.Decode
import X86Decoder.Proofs.Ensures
import X86Decoder.Proofs.Opcode
import X86Decoder.Proofs.Memory
import X86Decoder.Proofs.Operands
import X86Decoder.Proofs.Bits
import X86Decoder.Proofs.PrefixRun
import X86Decoder.Proofs.Quiet
import X86Decoder.Proofs.Word
import X86Decoder.Proofs.PositionIndependence
import X86Decoder.Proofs.ExtendedPrefix
import X86Decoder.Proofs.PlainPrefix
import X86Decoder.Proofs.Slot
import X86Decoder.Proofs.Specimen
import X86Decoder.Proofs.Sweep
import X86Decoder.Proofs.Progress
import X86Decoder.Proofs.Decodable
import X86Decoder.Proofs.Body
import X86Decoder.Proofs.Totality
import X86Decoder.Proofs.Consistency
import X86Decoder.Proofs.History
import X86Decoder.Proofs.Scan
import X86Decoder.Proofs.CodeList
import X86Decoder.Proofs.Lockstep
import X86Decoder.Proofs.RexBits
import X86Decoder.Proofs.Addressing
import X86Decoder.Proofs.EffectiveAddress
import X86Decoder.Proofs.Constants.Takes
import X86Decoder.Proofs.Constants.Frame
import X86Decoder.Proofs.Constants.Settle
import X86Decoder.Proofs.Constants.Order
import X86Decoder.Proofs.Constants.Tiling
import X86Decoder.Proofs.Constants.Value
import X86Decoder.Proofs.Constants.RelativeTarget
import X86Decoder.Proofs.Constants.Edit
import X86Decoder.Proofs.Constants.Patch
import X86Decoder.Proofs.Registers.Reach
import X86Decoder.Proofs.Registers.Operand
import X86Decoder.Proofs.Registers.Range
import X86Decoder.Proofs.Delay.Reader
import X86Decoder.Proofs.Delay.Instruction
import X86Decoder.Proofs.Delay.PrefixOrder
import X86Decoder.Proofs.DisplacementUnit
import X86Decoder.Proofs.Delay.VexForm
import X86Decoder.Proofs.Oblivious
import X86Decoder.Proofs.IgnoredW
import X86Decoder.Proofs.Failure
import X86Decoder.Proofs.Lookup
import X86Decoder.Proofs.Rounding
import X86Decoder.Proofs.Segment
import X86Decoder.Proofs.Accounting
import X86Decoder.Proofs.Comparison
import X86Decoder.Proofs.Region
import X86Decoder.Proofs.Words
import X86Decoder.Proofs.Spelling
import X86Decoder.Proofs.Jobs
import X86Decoder.Proofs.CodeName
import X86Decoder.Proofs.Report
import X86Decoder.Proofs.HexInput
import X86Decoder.Proofs.BitFields
