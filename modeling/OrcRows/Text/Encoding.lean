import OrcRows.Text.Utf8

/-!
# Text encodings

An encoding has a canonical name and a decoder, which replaces malformed input. Which labels are
known, and what the encoding of a label decodes, is up to a registry: it may well know encodings
that turn text into text or bytes into bytes, and so decode no bytes, and decoders that give up. The
registry that comes with the library has eleven encodings of text and nine others, each under many
labels, which are compared without regard to case and punctuation. A text is made of characters, so
decoders that let lone surrogates through are not among those described here.
-/

namespace OrcRows

/-- Order of the bytes of a code unit; `marked` means that a byte-order mark decides and that the
low byte comes first without one. -/
inductive ByteOrder where
  | marked
  | littleEndian
  | bigEndian
  deriving DecidableEq, Repr

/-- Why bytes have no characters. -/
inductive DecodeFault where
  /-- The encoding decodes no bytes. -/
  | noDecoder
  /-- The decoder gives up on the bytes. -/
  | undecodable
  deriving DecidableEq, Repr

/-- An encoding of text. -/
structure Encoding where
  /-- The canonical name. -/
  name : String
  /-- The characters of some bytes, with replacements for what is malformed. -/
  decode : List UInt8 → Except DecodeFault (List Char)

/-- UTF-8. -/
def Encoding.utf8 : Encoding := ⟨"utf-8", fun bytes => .ok (Utf8.decode bytes)⟩

/-- Every list of bytes that is not empty has characters in an encoding. -/
def Encoding.DecodesAll (encoding : Encoding) : Prop :=
  ∀ bytes ≠ [], ∃ chars, encoding.decode bytes = .ok chars

/-- UTF-8 decodes all bytes. -/
theorem Encoding.decodesAll_utf8 : utf8.DecodesAll := fun bytes _ => ⟨Utf8.decode bytes, rfl⟩

/-- The encodings that are known. -/
structure EncodingRegistry where
  /-- The canonical name of the encoding that a label names. -/
  canonical? : String → Option String
  /-- The decoder of the encoding of a canonical name. -/
  decoder : String → List UInt8 → Except DecodeFault (List Char)
  /-- A canonical name is a label of its encoding. -/
  canonical?_canonical {label name : String} :
    canonical? label = some name → canonical? name = some name
  /-- No label has a null character. -/
  unbroken {label name : String} : canonical? label = some name → '\x00' ∉ label.toList
  /-- UTF-8 is known under its canonical name. -/
  canonical?_utf8 : canonical? Encoding.utf8.name = some Encoding.utf8.name
  /-- What that name decodes is UTF-8. -/
  decoder_utf8 : decoder Encoding.utf8.name = Encoding.utf8.decode

namespace EncodingRegistry

variable {registry : EncodingRegistry} {label : String} {encoding : Encoding}

/-- The encoding of a label, if it is known. -/
def find? (registry : EncodingRegistry) (label : String) : Option Encoding :=
  (registry.canonical? label).map fun name => ⟨name, registry.decoder name⟩

/-- The encoding of a label is known under its own name too. -/
theorem find?_name (found : registry.find? label = some encoding) :
    registry.find? encoding.name = some encoding := by
  obtain ⟨name, known, rfl⟩ := Option.map_eq_some_iff.mp found
  exact Option.map_eq_some_iff.mpr ⟨name, registry.canonical?_canonical known, rfl⟩

/-- UTF-8 is found under its name. -/
theorem find?_utf8 (registry : EncodingRegistry) :
    registry.find? Encoding.utf8.name = some .utf8 := by
  rw [find?, registry.canonical?_utf8, Option.map_some, registry.decoder_utf8]

/-- A label that is found has no null character. -/
theorem unbroken_of_find? (found : registry.find? label = some encoding) :
    '\x00' ∉ label.toList := by
  obtain ⟨name, known, _⟩ := Option.map_eq_some_iff.mp found
  exact registry.unbroken known

end EncodingRegistry

/-- An encoding of the library's own registry. -/
inductive Codec where
  | utf8
  /-- UTF-8 behind an optional byte-order mark. -/
  | utf8Signed
  | ascii
  | latin1
  | windows1252
  | utf16 (order : ByteOrder)
  | utf32 (order : ByteOrder)
  /-- Rotation of the alphabet by thirteen letters, of text into text. -/
  | rotation
  /-- Hexadecimal digits, of bytes into bytes as the next five are too. -/
  | hex
  | base64
  | quotedPrintable
  | uuencoded
  | zlib
  | bzip2
  /-- Domain names, whose decoder replaces nothing. -/
  | idna
  /-- The encoding of no text at all. -/
  | undefined
  deriving DecidableEq, Repr

namespace Codec

/-- The canonical name. -/
def name : Codec → String
  | utf8 => "utf-8"
  | utf8Signed => "utf-8-sig"
  | ascii => "ascii"
  | latin1 => "iso8859-1"
  | windows1252 => "cp1252"
  | utf16 .marked => "utf-16"
  | utf16 .littleEndian => "utf-16-le"
  | utf16 .bigEndian => "utf-16-be"
  | utf32 .marked => "utf-32"
  | utf32 .littleEndian => "utf-32-le"
  | utf32 .bigEndian => "utf-32-be"
  | rotation => "rot-13"
  | hex => "hex"
  | base64 => "base64"
  | quotedPrintable => "quopri"
  | uuencoded => "uu"
  | zlib => "zlib"
  | bzip2 => "bz2"
  | idna => "idna"
  | undefined => "undefined"

/-- Whether a codec makes text of bytes. -/
def isTextual : Codec → Bool
  | rotation => false
  | hex => false
  | base64 => false
  | quotedPrintable => false
  | uuencoded => false
  | zlib => false
  | bzip2 => false
  | idna => false
  | undefined => false
  | _ => true

/-- A label in lower case with every run of punctuation between letters, digits and dots replaced by
one underscore; punctuation at either end is dropped. -/
def normalize (label : List Char) : List Char :=
  let rec go (gap started : Bool) : List Char → List Char
    | [] => []
    | c :: rest =>
      if c.isAlphanum || c == '.' then
        (if gap && started then ['_', c.toLower] else [c.toLower]) ++ go false true rest
      else go true started rest
  go false false label

/-- The encodings with their own normalized labels and with their aliases. -/
def labels : List (Codec × List String × List String) :=
  [(utf8, ["utf_8"], ["utf8", "utf", "u8", "utf8_ucs2", "utf8_ucs4", "cp65001"]),
   (utf8Signed, ["utf_8_sig"], []),
   (ascii, ["ascii"], ["us_ascii", "us", "646", "ansi_x3.4_1968", "ansi_x3_4_1968",
     "ansi_x3.4_1986", "cp367", "csascii", "ibm367", "iso646_us", "iso_646.irv_1991",
     "iso_ir_6"]),
   (latin1, ["latin_1", "iso8859_1"], ["latin1", "latin", "l1", "iso8859_1", "iso_8859_1",
     "iso8859", "8859", "iso_8859_1_1987", "iso_ir_100", "cp819", "ibm819", "csisolatin1"]),
   (windows1252, ["cp1252"], ["1252", "windows_1252"]),
   (utf16 .marked, ["utf_16"], ["utf16", "u16"]),
   (utf16 .littleEndian, ["utf_16_le"], ["utf_16le", "unicodelittleunmarked"]),
   (utf16 .bigEndian, ["utf_16_be"], ["utf_16be", "unicodebigunmarked"]),
   (utf32 .marked, ["utf_32"], ["utf32", "u32"]),
   (utf32 .littleEndian, ["utf_32_le"], ["utf_32le"]),
   (utf32 .bigEndian, ["utf_32_be"], ["utf_32be"]),
   (rotation, ["rot_13"], ["rot13"]),
   (hex, ["hex_codec"], ["hex"]),
   (base64, ["base64_codec"], ["base64", "base_64"]),
   (quotedPrintable, ["quopri_codec"], ["quopri", "quoted_printable", "quotedprintable"]),
   (uuencoded, ["uu_codec"], ["uu"]),
   (zlib, ["zlib_codec"], ["zip", "zlib"]),
   (bzip2, ["bz2_codec"], ["bz2"]),
   (idna, ["idna"], []),
   (undefined, ["undefined"], [])]

/-- The encoding of a label, if it is known. In an alias a dot may stand for an underscore. -/
def ofLabel? (label : String) : Option Codec :=
  let wanted := normalize label.toList
  let undotted := wanted.map fun c => if c == '.' then '_' else c
  let own := String.ofList wanted
  (labels.find? fun (_, ownLabels, aliases) =>
    ownLabels.contains own || aliases.contains own || aliases.contains (String.ofList undotted)).map
      (·.1)

/-- Every canonical name is a label of its encoding. -/
theorem ofLabel?_name (codec : Codec) : ofLabel? codec.name = some codec := by
  cases codec with
  | utf16 order => cases order <;> decide +kernel
  | utf32 order => cases order <;> decide +kernel
  | _ => decide +kernel

/-- A 16-bit code unit of two bytes. -/
def unit16 (order : ByteOrder) (first second : UInt8) : Nat :=
  match order with
  | .bigEndian => first.toNat * 256 + second.toNat
  | _ => second.toNat * 256 + first.toNat

/-- Decodes UTF-16 of a known byte order. A unit that pairs with nothing is replaced alone; an
incomplete end is replaced as a whole. -/
def decodeUtf16 (order : ByteOrder) : List UInt8 → List Char
  | [] => []
  | [_] => [Utf8.replacement]
  | first :: second :: rest =>
    let high := unit16 order first second
    if 0xd800 ≤ high ∧ high < 0xdc00 then
      match rest with
      | [] | [_] => [Utf8.replacement]
      | third :: fourth :: after =>
        let low := unit16 order third fourth
        if 0xdc00 ≤ low ∧ low < 0xe000 then
          Char.ofNat (0x10000 + (high - 0xd800) * 1024 + (low - 0xdc00)) ::
            decodeUtf16 order after
        else Utf8.replacement :: decodeUtf16 order (third :: fourth :: after)
    else if 0xdc00 ≤ high ∧ high < 0xe000 then Utf8.replacement :: decodeUtf16 order rest
    else Char.ofNat high :: decodeUtf16 order rest

/-- Decodes UTF-32 of a known byte order; what is no character, and an incomplete end, is
replaced. -/
def decodeUtf32 (order : ByteOrder) : List UInt8 → List Char
  | first :: second :: third :: fourth :: rest =>
    let code := match order with
      | .bigEndian =>
        ((first.toNat * 256 + second.toNat) * 256 + third.toNat) * 256 + fourth.toNat
      | _ => ((fourth.toNat * 256 + third.toNat) * 256 + second.toNat) * 256 + first.toNat
    (if code.isValidChar then Char.ofNat code else Utf8.replacement) :: decodeUtf32 order rest
  | [] => []
  | _ => [Utf8.replacement]

/-- The characters of the bytes `0x80 … 0x9f` in the Windows code page; a dot stands for the five
bytes without a character. -/
def windowsPage : List Char :=
  "€.‚ƒ„…†‡ˆ‰Š‹Œ.Ž..‘’“”•–—˜™š›œ.žŸ".toList

/-- One byte of the Windows code page. -/
def windowsChar (byte : UInt8) : Char :=
  if 0x80 ≤ byte.toNat ∧ byte.toNat < 0xa0 then
    match windowsPage[byte.toNat - 0x80]? with
    | some '.' | none => Utf8.replacement
    | some c => c
  else Char.ofNat byte.toNat

/-- The characters of some bytes; only a codec that makes text of bytes has any for them. -/
def decode (codec : Codec) (bytes : List UInt8) : Except DecodeFault (List Char) :=
  match codec, bytes with
  | utf8, _ => .ok (Utf8.decode bytes)
  | utf8Signed, 0xef :: 0xbb :: 0xbf :: rest => .ok (Utf8.decode rest)
  | utf8Signed, _ => .ok (Utf8.decode bytes)
  | ascii, _ =>
    .ok (bytes.map fun byte =>
      if byte.toNat < 0x80 then Char.ofNat byte.toNat else Utf8.replacement)
  | latin1, _ => .ok (bytes.map fun byte => Char.ofNat byte.toNat)
  | windows1252, _ => .ok (bytes.map windowsChar)
  | utf16 .marked, 0xff :: 0xfe :: rest => .ok (decodeUtf16 .littleEndian rest)
  | utf16 .marked, 0xfe :: 0xff :: rest => .ok (decodeUtf16 .bigEndian rest)
  | utf16 order, _ => .ok (decodeUtf16 order bytes)
  | utf32 .marked, 0xff :: 0xfe :: 0 :: 0 :: rest => .ok (decodeUtf32 .littleEndian rest)
  | utf32 .marked, 0 :: 0 :: 0xfe :: 0xff :: rest => .ok (decodeUtf32 .bigEndian rest)
  | utf32 order, _ => .ok (decodeUtf32 order bytes)
  | rotation, _ | hex, _ | base64, _ | quotedPrintable, _ | uuencoded, _ | zlib, _ | bzip2, _ =>
    .error .noDecoder
  | idna, _ | undefined, _ => .error .undecodable

/-- The encoding that a codec of the library is. -/
def encoding (codec : Codec) : Encoding := ⟨codec.name, codec.decode⟩

/-- A codec decodes all bytes exactly if it makes text of bytes. -/
theorem decodesAll_iff {codec : Codec} :
    codec.encoding.DecodesAll ↔ codec.isTextual = true := by
  constructor
  · intro all
    obtain ⟨chars, decoded⟩ := all [0] (by simp)
    cases codec <;> first | rfl | cases decoded
  · intro textual bytes _
    show ∃ chars, codec.decode bytes = .ok chars
    unfold decode
    split <;> first | exact ⟨_, rfl⟩ | exact absurd textual (by decide)

/-- The label of a canonical name, in which no null character can stand. -/
def canonical? (label : String) : Option String :=
  if '\x00' ∈ label.toList then none else (ofLabel? label).map name

/-- A label that has a canonical name has no null character, and names a codec. -/
theorem canonical?_eq_some_iff {label canonical : String} :
    canonical? label = some canonical ↔
      '\x00' ∉ label.toList ∧ ∃ codec, ofLabel? label = some codec ∧ codec.name = canonical := by
  rw [canonical?]
  split <;> simp_all

/-- A canonical name has itself as its canonical name. -/
theorem canonical?_name (codec : Codec) : canonical? codec.name = some codec.name := by
  refine canonical?_eq_some_iff.mpr ⟨?_, codec, ofLabel?_name codec, rfl⟩
  cases codec with
  | utf16 order => cases order <;> decide +kernel
  | utf32 order => cases order <;> decide +kernel
  | _ => decide +kernel

end Codec

/-- The registry that comes with the library. -/
def EncodingRegistry.standard : EncodingRegistry where
  canonical? := Codec.canonical?
  decoder name bytes :=
    match Codec.ofLabel? name with
    | some codec => codec.decode bytes
    | none => .error .noDecoder
  canonical?_canonical known := by
    obtain ⟨_, codec, _, rfl⟩ := Codec.canonical?_eq_some_iff.mp known
    exact codec.canonical?_name
  unbroken known := (Codec.canonical?_eq_some_iff.mp known).1
  canonical?_utf8 := Codec.utf8.canonical?_name
  decoder_utf8 := by
    have known : Codec.ofLabel? Encoding.utf8.name = some .utf8 := Codec.utf8.ofLabel?_name
    funext bytes
    rw [known]
    rfl

/-- What is found in the registry of the library is one of its codecs. -/
theorem EncodingRegistry.exists_codec {label : String} {encoding : Encoding}
    (found : standard.find? label = some encoding) :
    ∃ codec : Codec, encoding = codec.encoding := by
  obtain ⟨name, known, rfl⟩ := Option.map_eq_some_iff.mp found
  obtain ⟨_, codec, _, rfl⟩ := Codec.canonical?_eq_some_iff.mp known
  have decoder : standard.decoder codec.name = codec.decode := by
    funext bytes
    show (match Codec.ofLabel? codec.name with
      | some codec => codec.decode bytes
      | none => .error .noDecoder) = _
    rw [codec.ofLabel?_name]
  exact ⟨codec, congrArg (Encoding.mk codec.name) decoder⟩

end OrcRows
