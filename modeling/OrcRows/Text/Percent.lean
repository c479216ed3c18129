import OrcRows.Text.CharClass
import OrcRows.Text.Utf8

/-!
# Percent escapes

A percent sign with two hexadecimal digits stands for a byte; any other percent sign stands for
itself. The bytes of each run of ASCII characters are read as UTF-8, malformed ones replaced.
-/

namespace OrcRows.Percent

/-- The byte of two hexadecimal digits. -/
def byteOf? (high low : Char) : Option UInt8 := do
  let high ← CharClass.hexValue? high
  let low ← CharClass.hexValue? low
  return UInt8.ofNat (high * 16 + low)

/-- Decodes the remaining characters; `run` holds the bytes of the run under way, last one first. -/
def decodeFrom (run : List UInt8) : List Char → List Char
  | [] => Utf8.decode run.reverse
  | '%' :: high :: low :: rest =>
    match byteOf? high low with
    | some byte => decodeFrom (byte :: run) rest
    | none => decodeFrom (0x25 :: run) (high :: low :: rest)
  | c :: rest =>
    if c.toNat < 0x80 then decodeFrom (UInt8.ofNat c.toNat :: run) rest
    else Utf8.decode run.reverse ++ c :: decodeFrom [] rest

/-- The characters that percent-escaped text stands for. -/
def decode (text : String) : String := String.ofList (decodeFrom [] text.toList)

end OrcRows.Percent
