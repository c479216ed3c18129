import Mathlib.Data.List.DropRight
import OrcRows.Sniff

/-!
# What makes a file recognized

A file is in the format if it begins with the magic, or if the magic stands in front of its last
byte and that byte leaves room for it. A window of four bytes sees all that matters at the end, so
the width of the window makes no difference, and neither does anything but the first three and the
last four bytes.
-/

namespace OrcRows.Sniff

/-- Contents that carry the magic at their beginning, or in front of a last byte that is a length
with room for it. -/
def Bears (contents : List UInt8) : Prop :=
  magic <+: contents ∨ ∃ last : UInt8, magic ++ [last] <:+ contents ∧ 4 ≤ last.toNat

/-- The first three and the last four bytes tell whether contents bear the magic. -/
theorem bears_iff (contents : List UInt8) :
    Bears contents ↔ contents.take 3 = magic ∨
      ∃ last : UInt8, contents.rtake 4 = magic ++ [last] ∧ 4 ≤ last.toNat := by
  have front : magic <+: contents ↔ contents.take 3 = magic :=
    List.prefix_iff_eq_take.trans eq_comm
  have back (last : UInt8) : magic ++ [last] <:+ contents ↔ contents.rtake 4 = magic ++ [last] :=
    List.suffix_iff_eq_drop.trans eq_comm
  simp only [Bears, front, back]

/-- The end of a file carries the magic if the magic and a length with room for it end it. -/
theorem tailHasMagic_iff (tail : List UInt8) :
    tailHasMagic tail = true ↔ ∃ last : UInt8, magic ++ [last] <:+ tail ∧ 4 ≤ last.toNat := by
  have flipped (last : UInt8) :
      magic ++ [last] <:+ tail ↔ [last, 0x43, 0x52, 0x4f] <+: tail.reverse :=
    List.reverse_prefix.symm
  simp only [flipped, tailHasMagic]
  split
  case h_1 last c b a rest ends =>
    simp only [ends, List.cons_prefix_cons, List.nil_prefix, Bool.and_eq_true, decide_eq_true_eq,
      beq_iff_eq, magic, List.cons.injEq]
    constructor
    · rintro ⟨room, rfl, rfl, rfl, _⟩
      exact ⟨last, ⟨rfl, rfl, rfl, rfl, trivial⟩, room⟩
    · rintro ⟨_, ⟨rfl, rfl, rfl, rfl, _⟩, room⟩
      exact ⟨room, rfl, rfl, rfl, trivial⟩
  case h_2 short =>
    constructor
    · exact fun carried => absurd carried Bool.false_ne_true
    · rintro ⟨last, ⟨rest, split⟩, _⟩
      exact absurd split.symm (short last _ _ _ rest)

/-- Through a window of four bytes or more, contents are recognized exactly if they bear the
magic. -/
theorem recognizes_iff {window : Int} (wide : 4 ≤ window) (contents : List UInt8) :
    recognizes window contents = true ↔ Bears contents := by
  obtain ⟨size, hsize⟩ : ∃ size, size = (min (contents.length : Int) window).toNat := ⟨_, rfl⟩
  have seen (last : UInt8) : magic ++ [last] <:+ contents.drop (contents.length - size) ↔
      magic ++ [last] <:+ contents := by
    refine ⟨fun ended => ended.trans (List.drop_suffix _ _), fun ended => ?_⟩
    have long : 4 ≤ contents.length := ended.length_le
    refine List.suffix_of_suffix_length_le ended (List.drop_suffix _ _) ?_
    rw [List.length_drop]
    change 4 ≤ _
    omega
  rw [recognizes, ← hsize]
  split
  case isTrue empty =>
    obtain rfl : contents = [] := List.length_eq_zero_iff.mp (by omega)
    simp [Bears, magic]
  case isFalse =>
    rw [Bool.or_eq_true, tailHasMagic_iff, beq_iff_eq, or_comm, Bears, List.prefix_iff_eq_take,
      eq_comm]
    simp only [seen]
    rfl

/-- A file that can be read is told apart by the bytes it bears: the verdict is the same through
every window of four bytes or more, and the same for every file with the same three bytes at its
beginning and the same four at its end. -/
theorem isRecognized_of_read {storage : Storage} {handle : Handle} {contents : List UInt8}
    (readable : storage.read handle = .ok contents) :
    ∃ verdict : Bool, (verdict = true ↔ Bears contents) ∧
      (∀ window, 4 ≤ window → isRecognized storage handle window = .ok verdict) ∧
      ∀ (storage' : Storage) (handle' : Handle) (contents' : List UInt8),
        storage'.read handle' = .ok contents' → contents'.take 3 = contents.take 3 →
        contents'.rtake 4 = contents.rtake 4 →
        ∀ window, 4 ≤ window → isRecognized storage' handle' window = .ok verdict := by
  refine ⟨recognizes 4 contents, recognizes_iff (Int.le_refl 4) contents, fun window wide => ?_, ?_⟩
  · rw [isRecognized, readable]
    exact congrArg Except.ok
      (Bool.eq_iff_iff.mpr ((recognizes_iff wide _).trans (recognizes_iff (Int.le_refl 4) _).symm))
  · intro storage' handle' contents' readable' front back window wide
    rw [isRecognized, readable']
    refine congrArg Except.ok (Bool.eq_iff_iff.mpr ((recognizes_iff wide _).trans ?_))
    rw [recognizes_iff (Int.le_refl 4), bears_iff, bears_iff, front, back]

/-- A file of five bytes, of which the last four are the magic and a length. -/
def shortStorage : Storage := ⟨"/", [("/short", [0x00, 0x4f, 0x52, 0x43, 0x04])]⟩

/-- A longer file with the same bytes at its beginning and at its end. -/
def longStorage : Storage :=
  ⟨"/", [("/long", [0x00, 0x4f, 0x52, 0xff, 0xff, 0xff, 0x4f, 0x52, 0x43, 0x04])]⟩

/-- Both files are recognized, one through the least window and the other through a wide one. -/
theorem isRecognized_of_read_short :
    shortStorage.read ⟨"/short", "", "/short", false, .none⟩ =
        .ok [0x00, 0x4f, 0x52, 0x43, 0x04] ∧
      Bears [0x00, 0x4f, 0x52, 0x43, 0x04] ∧
      isRecognized shortStorage ⟨"/short", "", "/short", false, .none⟩ 4 = .ok true ∧
      isRecognized longStorage ⟨"/long", "", "/long", false, .none⟩ standardWindow =
        .ok true := by
  have readable : shortStorage.read ⟨"/short", "", "/short", false, .none⟩ =
      .ok [0x00, 0x4f, 0x52, 0x43, 0x04] := rfl
  have bears : Bears [0x00, 0x4f, 0x52, 0x43, 0x04] := .inr ⟨0x04, by decide, by decide⟩
  have readableToo : longStorage.read ⟨"/long", "", "/long", false, .none⟩ =
      .ok [0x00, 0x4f, 0x52, 0xff, 0xff, 0xff, 0x4f, 0x52, 0x43, 0x04] := rfl
  obtain ⟨verdict, told, seen, shared⟩ := isRecognized_of_read readable
  obtain rfl : verdict = true := told.mpr bears
  exact ⟨readable, bears, seen 4 (by decide), shared _ _ _ readableToo rfl rfl _ (by decide)⟩

end OrcRows.Sniff
