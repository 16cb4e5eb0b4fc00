import X86Decoder.Form.Table.Map0F00
import X86Decoder.Form.Table.Map0F20
import X86Decoder.Form.Table.Map0F3800
import X86Decoder.Form.Table.Map0F3820
import X86Decoder.Form.Table.Map0F3830
import X86Decoder.Form.Table.Map0F3840
import X86Decoder.Form.Table.Map0F3890
import X86Decoder.Form.Table.Map0F38A0
import X86Decoder.Form.Table.Map0F38B0
import X86Decoder.Form.Table.Map0F3A00
import X86Decoder.Form.Table.Map0F3A30
import X86Decoder.Form.Table.Map0F50
import X86Decoder.Form.Table.Map0F60
import X86Decoder.Form.Table.Map0F70
import X86Decoder.Form.Table.Map0F80
import X86Decoder.Form.Table.Map0FC0
import X86Decoder.Form.Table.Map0FD0
import X86Decoder.Form.Table.Map0FE0
import X86Decoder.Form.Table.Map0FF0
import X86Decoder.Form.Table.Primary00
import X86Decoder.Form.Table.Primary40
import X86Decoder.Form.Table.Primary80
import X86Decoder.Form.Table.PrimaryB0
import X86Decoder.Form.Table.PrimaryD0
import X86Decoder.Form.Table.PrimaryE0
import X86Decoder.Form.Table.Xop

/-!
# The form table

The rows of all forms, ordered by opcode map and opcode. There is one list for each sixteen opcodes,
with the forms under every encoding that uses the map. Within an opcode the first form that matches
wins.
-/

namespace X86Decoder.Table

/-- The rows of the table, in order, one list for each sixteen opcodes. -/
def sections : List (List Entry) :=
  [primary00, primary10, primary20, primary30, primary40, primary50, primary60, primary70,
   primary80, primary90, primaryA0, primaryB0, primaryC0, primaryD0, primaryE0, primaryF0,
   map0F00, map0F10, map0F20, map0F30, map0F40, map0F50, map0F60, map0F70, map0F80, map0F90,
   map0FA0, map0FB0, map0FC0, map0FD0, map0FE0, map0FF0, map0F3800, map0F3810, map0F3820,
   map0F3830, map0F3840, map0F3850, map0F3860, map0F3870, map0F3880, map0F3890, map0F38A0,
   map0F38B0, map0F38C0, map0F38D0, map0F38F0, map0F3A00, map0F3A10, map0F3A20, map0F3A30,
   map0F3A40, map0F3A50, map0F3A60, map0F3AC0, map0F3AD0, map0F3AF0, xop8RowA0, xop8RowC0,
   xop9Row00, xop9Row80, xop9Row90, xopARow10]

/-- The rows of the table, in order. -/
def entries : List Entry :=
  sections.flatten

end X86Decoder.Table
