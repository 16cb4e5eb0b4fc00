import X86Decoder.Text.Blank

/-!
# Lines

Text is read line by line. A line ends at a line feed, and one carriage return before it is
dropped. A line that does not fit the reader's buffer ends the reading.
-/

namespace X86Decoder.Text

/-- The size in bytes of the buffer of the line reader. -/
def lineLimit : Nat := 65536

/-- What is said when a line is too long. -/
def lineTooLong : String := "bufio.Scanner: token too long"

/-- A line without one carriage return at its end. -/
def dropReturn (line : List UInt8) : List UInt8 :=
  if line.getLast? = some 0x0d then line.dropLast else line

/-- The lines as they stand; nothing after the last line feed is no line. -/
def rawLines (bytes : List UInt8) : List (List UInt8) :=
  let parts := splitFrom 0x0a [] bytes
  if parts.getLast? = some [] then parts.dropLast else parts

/-- The lines of a text in bytes up to the first that is too long, and whether there is one. -/
def lines (bytes : List UInt8) : List (List UInt8) × Bool :=
  let all := rawLines bytes
  let fitting := all.takeWhile fun line => decide (line.length < lineLimit)
  (fitting.map dropReturn, fitting.length < all.length)

end X86Decoder.Text
