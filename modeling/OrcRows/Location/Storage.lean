import OrcRows.Location.Handle

/-!
# File systems and the files in them

A handle is served by the object store, by the local disk or by whatever else its scheme names. On
the disk, paths are absolute and free of empty, single-dot and double-dot segments. Storage holds
the files that can be read; anything else is unreadable or rejected.
-/

namespace OrcRows

/-- What serves the file of a handle. -/
inductive FileSystem where
  /-- The object store with named settings, and a path in it. -/
  | objectStore (settings : List (String × String)) (path : String)
  /-- The local disk and an absolute path. -/
  | disk (path : String)
  /-- A file system to be found by the location. -/
  | other (uri : String)
  deriving DecidableEq, Repr

namespace FileSystem

/-- The segments of an absolute path after those of another; empty ones and single dots vanish, and
double dots take one segment back. -/
def resolve (base : List (List Char)) : List (List Char) → List (List Char)
  | [] => base
  | segment :: rest =>
    if segment = [] ∨ segment = ['.'] then resolve base rest
    else if segment = ['.', '.'] then resolve base.dropLast rest
    else resolve (base ++ [segment]) rest

/-- The absolute form of a path, seen from a directory. Two slashes at the front, and no more, are
kept. -/
def absolutePath (directory path : String) : String :=
  let path := if path.toList.head? = some '/' then path else directory ++ "/" ++ path
  let slashes := (path.toList.takeWhile (· = '/')).length
  let root := if slashes = 2 then "//" else "/"
  let segments := resolve [] (Pieces.cut (· == '/') path.toList)
  root ++ "/".intercalate (segments.map String.ofList)

/-- The settings of an object store whose service has an address of its own: host and scheme of the
address, or all of it if it lacks either. -/
def endpointSettings (endpoint : String) : Outcome (List (String × String)) := do
  let parts ← Outcome.ofOption .badValue (Uri.ofText? endpoint)
  if parts.scheme ≠ "" ∧ parts.host ≠ "" then
    return [("endpoint_override", parts.host), ("scheme", parts.scheme)]
  else return [("endpoint_override", endpoint)]

/-- The settings of an object store. -/
def storeSettings (access : StoreAccess) : Outcome (List (String × String)) := do
  let endpoint ← match access.endpoint with
    | some endpoint => endpointSettings endpoint
    | none => pure []
  let named := [("access_key", access.accessKey), ("secret_key", access.secretKey),
    ("session_token", access.sessionToken), ("region", access.region)]
  return (named.filterMap fun (name, value) => value.map (name, ·)) ++ endpoint

/-- What serves the file of a handle, seen from a directory. -/
def ofHandle (directory : String) (handle : Handle) : Outcome FileSystem :=
  if handle.scheme = "s3" then do
    let settings ← storeSettings handle.access
    return .objectStore settings handle.path
  else if handle.isRemote then .ok (.other handle.uri)
  else .ok (.disk (absolutePath directory handle.path))

end FileSystem

/-- The files that can be read. -/
structure Storage where
  /-- The directory from which paths are seen. -/
  directory : String
  /-- Absolute paths of files with their contents. -/
  files : List (String × List UInt8)

namespace Storage

/-- The schemes of file systems that are reached over a network, which is not there. -/
def networkSchemes : List String := ["hdfs", "viewfs", "gs", "gcs", "abfs", "abfss"]

/-- Whether a location begins with the scheme of a file system on a network. -/
def isOnNetwork (uri : String) : Bool :=
  networkSchemes.any fun scheme => uri.startsWith (scheme ++ ":")

/-- The contents of the file of a handle. A location of an unknown scheme is rejected, and so is a
path with a null character in it. -/
def read (storage : Storage) (handle : Handle) : Outcome (List UInt8) := do
  match ← FileSystem.ofHandle storage.directory handle with
  | .disk path =>
    if path.toList.contains '\x00' then .error (.broken .malformedTable)
    else Outcome.ofOption .unreadable (storage.files.lookup path)
  | .objectStore _ _ => .error (.broken .unreadable)
  | .other uri => .error (.broken (if isOnNetwork uri then .unreadable else .malformedTable))

/-- Storage with one file, its path seen from the directory. -/
def ofFile (directory path : String) (contents : Option (List UInt8)) : Storage :=
  let path := FileSystem.absolutePath directory path
  ⟨directory, (contents.map (path, ·)).toList⟩

end Storage

end OrcRows
