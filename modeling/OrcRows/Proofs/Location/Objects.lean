import OrcRows.Location.Storage
import OrcRows.Proofs.Location.Parts
import OrcRows.Proofs.Outcome

/-!
# Locations of objects in the store

A location names an object by bucket and key. The key is taken for a path, so it ends at the first
question mark or number sign, and the store is asked for the object of the shorter key. Any other
key is handed to the store as it is.
-/

namespace OrcRows

open FileSystem

/-- A character of a bucket's name: a letter or a digit of any script, a dot or a hyphen. -/
def isBucketChar (c : Char) : Bool := CharClass.isAlphanumeric c || c == '.' || c == '-'

/-- The name of a bucket is a host that can be accepted. -/
theorem isSoundHost_bucket {bucket : List Char} (named : ∀ c ∈ bucket, isBucketChar c = true) :
    Uri.isSoundHost bucket = true := by
  have disguised : ∀ code ∈ Uri.disguises, isBucketChar (Char.ofNat code) = false := by
    decide +kernel
  refine Uri.isSoundHost_of_plain ?_ ?_ fun c member listed => ?_
  · exact fun member => absurd (named _ member) (by decide)
  · exact fun member => absurd (named _ member) (by decide)
  · have other := disguised c.toNat listed
    rw [Char.ofNat_toNat, named c member] at other
    cases other

variable {bucket key : String}

/-- The parts of the location of an object. -/
theorem Uri.ofText?_object (named : ∀ c ∈ bucket.toList, isBucketChar c = true)
    (printable : ∀ c ∈ key.toList, CharClass.isPrintable c = true) :
    ofText? ("s3://" ++ bucket ++ "/" ++ key) =
      some ⟨"s3", bucket, String.ofList ('/' :: bare key.toList)⟩ := by
  have split : ("s3://" ++ bucket ++ "/" ++ key).toList =
      "s3".toList ++ ("://".toList ++ (bucket.toList ++ '/' :: key.toList)) := by
    simp [String.toList_append]
  have plain : ∀ c ∈ bucket.toList ++ '/' :: key.toList, c ≠ '\t' ∧ c ≠ '\r' ∧ c ≠ '\n' := by
    intro c member
    rw [List.mem_append, List.mem_cons] at member
    obtain member | rfl | member := member
    · have bucketChar := named c member
      refine ⟨?_, ?_, ?_⟩ <;> rintro rfl <;> exact absurd bucketChar (by decide)
    · decide
    · have shown := printable c member
      refine ⟨?_, ?_, ?_⟩ <;> rintro rfl <;> exact absurd shown (by decide)
  have inner : ∀ c ∈ bucket.toList, endsHost c = false := by
    intro c member
    have bucketChar := named c member
    rw [endsHost, Bool.or_eq_false_iff, Bool.or_eq_false_iff]
    refine ⟨⟨?_, ?_⟩, ?_⟩ <;> rw [beq_eq_false_iff_ne] <;> rintro rfl <;>
      exact absurd bucketChar (by decide)
  have cut : bare ('/' :: key.toList) = '/' :: bare key.toList := List.takeWhile_cons_of_pos rfl
  rw [ofText?_eq_some split (by decide) (by decide) (by decide) plain inner
    (isSoundHost_bucket named) rfl, cut, String.ofList_toList]
  rfl

namespace FileSystem

/-- An object store has settings if its service has no address of its own, or one that is a
location. -/
theorem exists_storeSettings {access : StoreAccess}
    (located : ∀ endpoint, access.endpoint = some endpoint → (Uri.ofText? endpoint).isSome) :
    ∃ settings, storeSettings access = .ok settings := by
  rw [storeSettings]
  cases given : access.endpoint with
  | none => exact ⟨_, rfl⟩
  | some endpoint =>
    obtain ⟨parts, split⟩ := Option.isSome_iff_exists.mp (located endpoint given)
    simp only [endpointSettings, split, Outcome.ofOption_some, Outcome.ok_bind]
    split <;> exact ⟨_, rfl⟩

end FileSystem

/-- The handle of an object has the scheme of the store, and for its path the bucket and the key up
to the first question mark or number sign. The file system is asked for that path, so it is asked
for the named object exactly if neither occurs in the key. -/
theorem Handle.ofUri_object (environment : List (String × String)) (directory : String)
    (named : ∀ c ∈ bucket.toList, isBucketChar c = true)
    (printable : ∀ c ∈ key.toList, CharClass.isPrintable c = true) :
    ∃ handle, Handle.ofUri environment ("s3://" ++ bucket ++ "/" ++ key) = .ok handle ∧
      handle.scheme = "s3" ∧
      handle.path = bucket ++ "/" ++ String.ofList (Uri.bare key.toList) ∧
      (handle.path = bucket ++ "/" ++ key ↔ '?' ∉ key.toList ∧ '#' ∉ key.toList) ∧
      ((∀ endpoint, (StoreAccess.ofEnvironment environment).endpoint = some endpoint →
        (Uri.ofText? endpoint).isSome) →
        ∃ settings, FileSystem.ofHandle directory handle =
          .ok (.objectStore settings handle.path)) := by
  have parts := Uri.ofText?_object named printable
  have scheme : schemeOf ⟨"s3", bucket, String.ofList ('/' :: Uri.bare key.toList)⟩ = "s3" :=
    if_neg (show ¬ "s3".length = 1 by decide)
  have path : bucket ++ String.ofList ('/' :: Uri.bare key.toList) =
      bucket ++ "/" ++ String.ofList (Uri.bare key.toList) :=
    String.toList_injective (by simp [String.toList_append])
  refine ⟨⟨"s3://" ++ bucket ++ "/" ++ key, "s3",
    bucket ++ "/" ++ String.ofList (Uri.bare key.toList),
    hasExtension ("s3://" ++ bucket ++ "/" ++ key), .ofEnvironment environment⟩,
    ?_, rfl, rfl, ?_, fun located => ?_⟩
  · rw [ofUri, parts, Outcome.ofOption_some, Outcome.ok_bind]
    simp only [scheme, path]
    rfl
  · rw [← Uri.bare_eq_self_iff]
    simp [← String.toList_inj, String.toList_append]
  · obtain ⟨settings, known⟩ := FileSystem.exists_storeSettings located
    refine ⟨settings, ?_⟩
    rw [FileSystem.ofHandle, if_pos rfl, known, Outcome.ok_bind]
    rfl

/-- A key with a question mark loses its end, and the store is asked for another object. -/
theorem questioned_key_cut :
    (∀ c ∈ "bucket".toList, isBucketChar c = true) ∧
      (∀ c ∈ "a?b.orc".toList, CharClass.isPrintable c = true) ∧
      ∃ handle, Handle.ofUri [] "s3://bucket/a?b.orc" = .ok handle ∧ handle.path = "bucket/a" ∧
        FileSystem.ofHandle "/" handle = .ok (.objectStore [] "bucket/a") :=
  ⟨forall_mem_of_all rfl, forall_mem_of_all rfl, _, rfl, rfl, rfl⟩

/-- A key with a letter beyond ASCII, a blank and a semicolon is handed on as it is. -/
theorem Handle.ofUri_object_part :
    (∀ c ∈ "my-bucket".toList, isBucketChar c = true) ∧
      (∀ c ∈ "año 1/part;0.orc".toList, CharClass.isPrintable c = true) ∧
      ∃ handle settings,
        Handle.ofUri [("AWS_ENDPOINT_URL", "http://minio:9000")]
          ("s3://" ++ "my-bucket" ++ "/" ++ "año 1/part;0.orc") = .ok handle ∧
        FileSystem.ofHandle "/" handle =
          .ok (.objectStore settings ("my-bucket" ++ "/" ++ "año 1/part;0.orc")) := by
  have named : ∀ c ∈ "my-bucket".toList, isBucketChar c = true := forall_mem_of_all rfl
  have printable : ∀ c ∈ "año 1/part;0.orc".toList, CharClass.isPrintable c = true :=
    forall_mem_of_all rfl
  obtain ⟨handle, made, _, _, whole, served⟩ := Handle.ofUri_object
    [("AWS_ENDPOINT_URL", "http://minio:9000")] "/" named printable
  have located : ∀ endpoint,
      (StoreAccess.ofEnvironment [("AWS_ENDPOINT_URL", "http://minio:9000")]).endpoint =
        some endpoint → (Uri.ofText? endpoint).isSome := by
    intro endpoint given
    obtain rfl : "http://minio:9000" = endpoint := Option.some.inj given
    rfl
  obtain ⟨settings, found⟩ := served located
  rw [whole.mpr (by decide)] at found
  exact ⟨named, printable, handle, settings, made, found⟩

end OrcRows
