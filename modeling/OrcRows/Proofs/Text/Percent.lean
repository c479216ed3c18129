import OrcRows.Proofs.Text.Utf8
import OrcRows.Text.Percent

/-!
# Text survives its percent escapes

A text may be written with escapes for the bytes of any of its characters, in digits of either case;
only the percent sign has to be escaped. Characters that stand for themselves and escaped ones may
alternate, so the bytes of a run are those of the characters read since its beginning.
-/

namespace OrcRows.Percent

/-- Bytes written as escapes: each is a percent sign and its two hexadecimal digits. -/
inductive Escapes : List UInt8 → List Char → Prop
  | nil : Escapes [] []
  | cons {byte : UInt8} {bytes : List UInt8} {high low : Char} {written : List Char}
      (first : CharClass.hexValue? high = some (byte.toNat / 16))
      (second : CharClass.hexValue? low = some (byte.toNat % 16))
      (rest : Escapes bytes written) : Escapes (byte :: bytes) ('%' :: high :: low :: written)

/-- Ways to write a text: each character stands for itself, unless it is the percent sign, or the
bytes of the character are escaped. -/
inductive Writes : List Char → List Char → Prop
  | nil : Writes [] []
  | plain {c : Char} {text written : List Char} (other : c ≠ '%') (rest : Writes text written) :
      Writes (c :: text) (c :: written)
  | escaped {c : Char} {text escape written : List Char}
      (bytes : Escapes (Utf8.encodeChar c) escape) (rest : Writes text written) :
      Writes (c :: text) (escape ++ written)

/-- A text without percent signs is written as it is. -/
theorem Writes.of_not_mem {text : List Char} (h : '%' ∉ text) : Writes text text := by
  induction text with
  | nil => exact .nil
  | cons c text ih =>
    rw [List.mem_cons, not_or] at h
    exact .plain (Ne.symm h.1) (ih h.2)

/-- Texts are written one behind the other. -/
theorem Writes.append {first second written later : List Char} (h : Writes first written)
    (h' : Writes second later) : Writes (first ++ second) (written ++ later) := by
  induction h with
  | nil => exact h'
  | plain other _ ih => exact .plain other ih
  | escaped bytes _ ih =>
    rw [List.append_assoc]
    exact .escaped bytes ih

/-- Escapes put their bytes into the run under way. -/
theorem Escapes.decodeFrom {bytes : List UInt8} {escape : List Char} (h : Escapes bytes escape)
    (run : List UInt8) (written : List Char) :
    Percent.decodeFrom run (escape ++ written) =
      Percent.decodeFrom (bytes.reverse ++ run) written := by
  induction h generalizing run with
  | nil => rfl
  | @cons byte bytes high low escape first second _ ih =>
    have digits : byteOf? high low = some byte := by
      have whole : byte.toNat / 16 * 16 + byte.toNat % 16 = byte.toNat := by omega
      rw [byteOf?, first, second]
      exact congrArg some ((congrArg UInt8.ofNat whole).trans UInt8.ofNat_toNat)
    simp only [List.cons_append]
    rw [Percent.decodeFrom, digits, List.reverse_cons, List.append_assoc]
    exact ih (byte :: run)

/-- A character other than the percent sign ends the run under way, or its byte goes on with it. -/
theorem decodeFrom_plain {c : Char} (other : c ≠ '%') (run : List UInt8) (written : List Char) :
    decodeFrom run (c :: written) =
      if c.toNat < 0x80 then decodeFrom (UInt8.ofNat c.toNat :: run) written
      else Utf8.decode run.reverse ++ c :: decodeFrom [] written := by
  rw [decodeFrom]
  rintro high low rest rfl
  exact absurd rfl other

/-- One more character adds its bytes to those of a text. -/
theorem encode_append_singleton (text : List Char) (c : Char) :
    Utf8.encode (text ++ [c]) = Utf8.encode text ++ Utf8.encodeChar c := by
  rw [Utf8.encode, List.flatMap_append, List.flatMap_singleton, ← Utf8.encode]

/-- What is written is read back behind the characters of the run under way. -/
theorem Writes.decodeFrom {text written : List Char} (h : Writes text written)
    {run : List UInt8} {front : List Char} (held : run.reverse = Utf8.encode front) :
    Percent.decodeFrom run written = front ++ text := by
  induction h generalizing run front with
  | nil => rw [Percent.decodeFrom, held, Utf8.decode_encode, List.append_nil]
  | @plain c text written other _ ih =>
    rw [decodeFrom_plain other]
    split
    next ascii =>
      have longer : (UInt8.ofNat c.toNat :: run).reverse = Utf8.encode (front ++ [c]) := by
        rw [List.reverse_cons, held, encode_append_singleton, Utf8.encodeChar, if_pos ascii]
      rw [ih longer, List.append_assoc, List.singleton_append]
    next =>
      have anew : Percent.decodeFrom [] written = [] ++ text := ih rfl
      rw [held, Utf8.decode_encode, anew, List.nil_append]
  | @escaped c text escape written bytes _ ih =>
    have longer : ((Utf8.encodeChar c).reverse ++ run).reverse = Utf8.encode (front ++ [c]) := by
      rw [List.reverse_append, List.reverse_reverse, held, encode_append_singleton]
    rw [bytes.decodeFrom, ih longer, List.append_assoc, List.singleton_append]

/-- A text is what its writing stands for. -/
theorem Writes.decode {text written : List Char} (h : Writes text written) :
    Percent.decode (String.ofList written) = String.ofList text := by
  have read : Percent.decodeFrom [] written = [] ++ text := h.decodeFrom rfl
  rw [Percent.decode, String.toList_ofList, read, List.nil_append]

end OrcRows.Percent
