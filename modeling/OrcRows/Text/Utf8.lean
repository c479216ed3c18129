/-!
# UTF-8 with replacement

Well-formed sequences are decoded; each maximal prefix of a well-formed sequence that is not
continued becomes one replacement character, and so does each byte that starts nothing. The decoder
is a machine over single bytes whose state is the sequence under way. The encoder is the standard
one.
-/

namespace OrcRows.Utf8

/-- The replacement character. -/
def replacement : Char := '\uFFFD'

/-- A sequence under way. -/
structure Pending where
  /-- How many bytes are still to come, at least one. -/
  missing : Nat
  /-- Value of the bits read so far. -/
  bits : Nat
  /-- Least value of the next byte. -/
  least : Nat
  /-- Greatest value of the next byte. -/
  greatest : Nat
  deriving DecidableEq, Repr

/-- What a first byte does: it emits characters and may leave a sequence under way. -/
def lead (byte : Nat) : List Char × Option Pending :=
  if byte < 0x80 then ([Char.ofNat byte], none)
  else if byte < 0xc2 then ([replacement], none)
  else if byte < 0xe0 then ([], some ⟨1, byte - 0xc0, 0x80, 0xbf⟩)
  else if byte < 0xf0 then
    ([], some ⟨2, byte - 0xe0, if byte = 0xe0 then 0xa0 else 0x80,
      if byte = 0xed then 0x9f else 0xbf⟩)
  else if byte < 0xf5 then
    ([], some ⟨3, byte - 0xf0, if byte = 0xf0 then 0x90 else 0x80,
      if byte = 0xf4 then 0x8f else 0xbf⟩)
  else ([replacement], none)

/-- Decodes the remaining bytes, with a sequence possibly under way. -/
def decodeFrom : Option Pending → List UInt8 → List Char
  | none, [] => []
  | some _, [] => [replacement]
  | none, byte :: rest =>
    let first := lead byte.toNat
    first.1 ++ decodeFrom first.2 rest
  | some pending, byte :: rest =>
    if pending.least ≤ byte.toNat ∧ byte.toNat ≤ pending.greatest then
      let bits := pending.bits * 64 + (byte.toNat - 0x80)
      if pending.missing ≤ 1 then Char.ofNat bits :: decodeFrom none rest
      else decodeFrom (some ⟨pending.missing - 1, bits, 0x80, 0xbf⟩) rest
    else
      let first := lead byte.toNat
      replacement :: (first.1 ++ decodeFrom first.2 rest)

/-- Decodes bytes, replacing what is malformed. -/
def decode (bytes : List UInt8) : List Char := decodeFrom none bytes

/-- The bytes of one character. -/
def encodeChar (c : Char) : List UInt8 :=
  let code := c.toNat
  let continued (shift : Nat) : UInt8 := UInt8.ofNat (0x80 + code / shift % 64)
  if code < 0x80 then [UInt8.ofNat code]
  else if code < 0x800 then [UInt8.ofNat (0xc0 + code / 64), continued 1]
  else if code < 0x10000 then [UInt8.ofNat (0xe0 + code / 4096), continued 64, continued 1]
  else [UInt8.ofNat (0xf0 + code / 262144), continued 4096, continued 64, continued 1]

/-- The bytes of a text. -/
def encode (text : List Char) : List UInt8 := text.flatMap encodeChar

/-- Bytes below 128 are the characters of that code. -/
theorem decode_ascii_cons {byte : UInt8} (ascii : byte.toNat < 0x80) (rest : List UInt8) :
    decode (byte :: rest) = Char.ofNat byte.toNat :: decode rest := by
  simp [decode, decodeFrom, lead, ascii]

end OrcRows.Utf8
