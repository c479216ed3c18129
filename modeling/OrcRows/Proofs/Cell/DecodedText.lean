import OrcRows.Proofs.Cell.Images
import OrcRows.Proofs.Cell.LeafTyping
import OrcRows.Proofs.Cell.Steps
import OrcRows.Proofs.Options.Accepted

/-!
# Bytes as text under accepted options

A label is accepted if an encoding is found under it, whether that encoding decodes bytes or not.
Cells of text are what the decoder of the encoding makes of their bytes, and break down where it
makes nothing of them; so all of them can be read exactly if it decodes all bytes. Of the encodings
that come with the library those of text do, with replacements for what is malformed, and no others.
-/

namespace OrcRows

namespace Encoding

variable {encoding : Encoding} {bytes : List UInt8}

/-- Bytes that are decoded are text. -/
theorem textOf_of_decode {chars : List Char} (some : bytes ≠ [])
    (decoded : encoding.decode bytes = .ok chars) :
    encoding.textOf bytes = .ok (String.ofList chars) := by
  rw [textOf, if_neg (by simpa using some), decoded]

/-- Bytes that are not decoded break down by the fault of the decoder. -/
theorem textOf_of_fault {fault : DecodeFault} (some : bytes ≠ [])
    (failed : encoding.decode bytes = .error fault) :
    encoding.textOf bytes = .error (.broken fault.cause) := by
  rw [textOf, if_neg (by simpa using some), failed]

/-- All bytes are text exactly if the encoding decodes all bytes. -/
theorem decodesAll_iff :
    encoding.DecodesAll ↔ ∀ bytes, ∃ text, encoding.textOf bytes = .ok text := by
  refine ⟨fun all bytes => textOf_eq_ok all bytes, fun shown bytes some => ?_⟩
  obtain ⟨text, htext⟩ := shown bytes
  cases decoded : encoding.decode bytes with
  | ok chars => exact ⟨chars, rfl⟩
  | error fault =>
    rw [textOf_of_fault some decoded] at htext
    contradiction

end Encoding

/-- Text is presented as it is under every type. -/
theorem Value.present_of_text (policy : TextPolicy) (category : Category) (shown : String)
    (unified : Option UnifiedType) :
    (text shown).present policy category unified = .ok (text shown) := by
  cases unified with
  | none => rfl
  | some type =>
    cases type with
    | basic tag => cases tag <;> rfl
    | _ => rfl

/-- Whether cells of bytes are read as text: the column declares text and no bytes are kept because
they begin like an image, or text is what the column is given. -/
def TextPolicy.ReadsText (policy : TextPolicy) (category : Category)
    (unified : Option UnifiedType) : Prop :=
  category.leafTag? = some .string ∧ policy.keepsImages = false ∨
    category.isBytes = true ∧ unified = some (.basic .string)

namespace ColumnVector

/-- A cell of bytes that are read as text is the decoded text. -/
theorem cell_of_readsText {policy : TextPolicy} {flags : RowFlags} {values : List (List UInt8)}
    {declared : NativeType} {unified : Option UnifiedType} {row : Int} {bytes : List UInt8}
    (reads : policy.ReadsText declared.category unified) (there : flags.nullAt row = .ok false)
    (stored : Position.get? values (flags.index row) = some bytes) :
    (leaf flags (.bytes values)).cell policy declared unified row =
      (policy.encoding.textOf bytes).map .text := by
  rw [cell_leaf there]
  rcases reads with ⟨text, plain⟩ | ⟨_, rfl⟩
  · have notBinary : declared.category ≠ .binary := by
      intro binary
      rw [binary] at text
      contradiction
    have decoded : bytesValue policy declared.category bytes =
        (policy.encoding.textOf bytes).map .text := by
      rw [bytesValue, if_neg (by simp [notBinary, plain])]
    rw [leafCell, LeafCells.value]
    simp only [stored, Outcome.ofOption_some, Outcome.ok_bind, decoded]
    cases policy.encoding.textOf bytes with
    | error fault => rfl
    | ok shown => exact Value.present_of_text policy declared.category shown unified
  · exact leafCell_text policy stored

end ColumnVector

section Accepted

variable {rules : OptionRules} {raw : RawOptions} {options : ReaderOptions}
  {declared : NativeType} {unified : Option UnifiedType}

/-- Accepted options have the encoding that is found under the label given for it, and UTF-8 if none
is given. Under them every cell of bytes that is read as text is the text of the characters that the
decoder of the encoding makes of its bytes; it breaks down if the decoder makes none of them, unless
there are no bytes. So all such cells can be read exactly if the encoding decodes all bytes; of the
encodings that come with the library, those of text do. -/
theorem text_decoded_of_accepted (accepted : ReaderOptions.ofRaw rules raw = .ok options)
    (reads : options.textPolicy.ReadsText declared.category unified) :
    ((ReaderOptions.given? raw ("textEncoding", "text_encoding") = none ∧
        options.encoding = .utf8) ∨
      ∃ value label, ReaderOptions.given? raw ("textEncoding", "text_encoding") = some value ∧
        rules.text value = .ok label ∧ rules.encodings.find? label = some options.encoding) ∧
    (∀ flags values row bytes, RowFlags.nullAt flags row = .ok false →
      Position.get? values (flags.index row) = some bytes →
      ((bytes = [] → (ColumnVector.leaf flags (.bytes values)).cell options.textPolicy declared
          unified row = .ok (.text "")) ∧
        (∀ chars, bytes ≠ [] → options.encoding.decode bytes = .ok chars →
          (ColumnVector.leaf flags (.bytes values)).cell options.textPolicy declared unified row =
            .ok (.text (String.ofList chars))) ∧
        ∀ fault, bytes ≠ [] → options.encoding.decode bytes = .error fault →
          (ColumnVector.leaf flags (.bytes values)).cell options.textPolicy declared unified row =
            .error (.broken fault.cause))) ∧
    ((∀ flags values row bytes, RowFlags.nullAt flags row = .ok false →
      Position.get? values (flags.index row) = some bytes →
      ∃ text, (ColumnVector.leaf flags (.bytes values)).cell options.textPolicy declared unified
        row = .ok (.text text)) ↔ options.encoding.DecodesAll) ∧
    (rules.encodings = .standard → ∃ codec : Codec, options.encoding = codec.encoding ∧
      (options.encoding.DecodesAll ↔ codec.isTextual = true)) := by
  have hcell : ∀ flags values row bytes, RowFlags.nullAt flags row = .ok false →
      Position.get? values (flags.index row) = some bytes →
      (ColumnVector.leaf flags (.bytes values)).cell options.textPolicy declared unified row =
        (options.encoding.textOf bytes).map .text :=
    fun _ _ _ _ there stored => ColumnVector.cell_of_readsText reads there stored
  have hencoding := ReaderOptions.encoding_of_accepted accepted
  refine ⟨hencoding, fun flags values row bytes there stored => ?_,
    ⟨fun shown => ?_, fun all flags values row bytes there stored => ?_⟩, fun known => ?_⟩
  · rw [hcell flags values row bytes there stored]
    refine ⟨?_, fun chars some decoded => ?_, fun fault some failed => ?_⟩
    · rintro rfl
      rfl
    · rw [Encoding.textOf_of_decode some decoded]
      rfl
    · rw [Encoding.textOf_of_fault some failed]
      rfl
  · -- Any bytes can be those of a column of one row.
    refine Encoding.decodesAll_iff.mpr fun bytes => ?_
    obtain ⟨text, read⟩ := shown ⟨[], true, false⟩ [bytes] 0 bytes rfl rfl
    rw [hcell _ _ _ bytes rfl rfl] at read
    cases htext : options.encoding.textOf bytes with
    | ok shown => exact ⟨shown, rfl⟩
    | error fault =>
      rw [htext] at read
      contradiction
  · obtain ⟨text, htext⟩ := Encoding.decodesAll_iff.mp all bytes
    exact ⟨text, by rw [hcell flags values row bytes there stored, htext]; rfl⟩
  · have found := ReaderOptions.find?_encoding accepted
    rw [known] at found
    obtain ⟨codec, same⟩ := EncodingRegistry.exists_codec found
    exact ⟨codec, same, by rw [same, Codec.decodesAll_iff]⟩

end Accepted

/-- A column of text in one row, with bytes that are no UTF-8. -/
def menuVector : ColumnVector := .leaf ⟨[], true, false⟩ (.bytes [[0x63, 0x61, 0x66, 0xe9]])

/-- The last byte of the row is replaced in UTF-8, and is a letter under a label of Latin-1. -/
theorem text_decoded_of_accepted_menu :
    (ReaderOptions.ofRaw .standard [] = .ok ReaderOptions.standard ∧
      menuVector.cell ReaderOptions.standard.textPolicy (.primitive .binary)
        (some (.basic .string)) 0 = .ok (.text "caf\uFFFD")) ∧
    ∃ options,
      ReaderOptions.ofRaw .standard [("textEncoding", .text "Latin_1")] = .ok options ∧
      menuVector.cell options.textPolicy (.primitive .varchar) none 0 = .ok (.text "café") := by
  have there : RowFlags.nullAt ⟨[], true, false⟩ 0 = .ok false := rfl
  have stored : Position.get? [[(0x63 : UInt8), 0x61, 0x66, 0xe9]]
    (RowFlags.index ⟨[], true, false⟩ 0) = some [0x63, 0x61, 0x66, 0xe9] := rfl
  constructor
  · have accepted : ReaderOptions.ofRaw .standard [] = .ok ReaderOptions.standard := rfl
    have reads : ReaderOptions.standard.textPolicy.ReadsText
      (NativeType.primitive .binary).category (some (.basic .string)) := .inr ⟨rfl, rfl⟩
    obtain ⟨_, cells, _⟩ := text_decoded_of_accepted accepted reads
    obtain ⟨_, decoded, _⟩ := cells _ _ _ _ there stored
    exact ⟨accepted, decoded _ (by simp) rfl⟩
  · have accepted : ReaderOptions.ofRaw .standard [("textEncoding", .text "Latin_1")] =
      .ok { ReaderOptions.standard with encoding := Codec.latin1.encoding } := rfl
    have reads : TextPolicy.ReadsText ⟨Codec.latin1.encoding, false⟩
      (NativeType.primitive .varchar).category none := .inl ⟨rfl, rfl⟩
    obtain ⟨_, cells, _⟩ := text_decoded_of_accepted accepted reads
    obtain ⟨_, decoded, _⟩ := cells _ _ _ _ there stored
    exact ⟨_, accepted, decoded _ (by simp) rfl⟩

/-- The letter rotation is accepted as an encoding of text, and a row of text breaks down under
it. -/
theorem rotated_text_breaks_down :
    ReaderOptions.ofRaw .standard [("textEncoding", .text "rot13")] =
        .ok { ReaderOptions.standard with encoding := Codec.rotation.encoding } ∧
      menuVector.cell ⟨Codec.rotation.encoding, false⟩ (.primitive .string)
        (some (.basic .string)) 0 = .error (.broken .noDecoder) :=
  ⟨rfl, rfl⟩

end OrcRows
