import OrcRows.Location.Storage

/-!
# Recognizing the format

A file in the format ends with a postscript whose length is its last byte and whose end is the
magic; old files carry the magic at their beginning only. No more than a window at the end of the
file is inspected, then its first three bytes.
-/

namespace OrcRows.Sniff

/-- The magic of the format. -/
def magic : List UInt8 := [0x4f, 0x52, 0x43]

/-- The number of bytes inspected at the end of a file. -/
def standardWindow : Int := 16384

/-- Whether the end of a file carries the magic in front of its last byte, which has to be a length
that leaves room for it. -/
def tailHasMagic (tail : List UInt8) : Bool :=
  match tail.reverse with
  | last :: c :: b :: a :: _ => 4 ≤ last.toNat && [a, b, c] == magic
  | _ => false

/-- Whether contents are in the format, seen through a window at their end. -/
def recognizes (window : Int) (contents : List UInt8) : Bool :=
  let size := (min (contents.length : Int) window).toNat
  if size = 0 then false
  else tailHasMagic (contents.drop (contents.length - size)) || contents.take 3 == magic

/-- Whether the file of a handle is in the format; a file that cannot be read is reported. -/
def isRecognized (storage : Storage) (handle : Handle) (window : Int) : Outcome Bool :=
  match storage.read handle with
  | .ok contents => .ok (recognizes window contents)
  | .error (.broken .unreadable) => .error (.report .fileTypeInvalid "check orc file failed"
      [("path", .text handle.uri)])
  | .error fault => .error fault

end OrcRows.Sniff
