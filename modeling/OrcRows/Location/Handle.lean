import OrcRows.Location.Uri
import OrcRows.Report
import OrcRows.Text.Percent

/-!
# Handles of files

A handle says where a file lives: the location as it was given, its scheme, and the path that the
file system of the scheme understands. Handles of the object store carry the access settings found
in the environment.
-/

namespace OrcRows

/-- Settings for access to the object store. -/
structure StoreAccess where
  /-- Identifier of the access key. -/
  accessKey : Option String
  /-- The secret that goes with the key. -/
  secretKey : Option String
  /-- Token of a temporary session. -/
  sessionToken : Option String
  /-- Region of the store. -/
  region : Option String
  /-- Address of the service, if it is not the usual one. -/
  endpoint : Option String
  deriving DecidableEq, Repr

namespace StoreAccess

/-- No settings. -/
def none : StoreAccess := ⟨.none, .none, .none, .none, .none⟩

/-- The variables of an environment that hold settings. -/
def variableNames : List String :=
  ["AWS_ACCESS_KEY_ID", "AWS_SECRET_ACCESS_KEY", "AWS_SESSION_TOKEN", "AWS_REGION",
   "AWS_DEFAULT_REGION", "AWS_ENDPOINT_URL"]

/-- The settings of an environment. A variable without text counts as missing, and the region has a
second variable to fall back on. -/
def ofEnvironment (environment : List (String × String)) : StoreAccess :=
  let setting (name : String) : Option String :=
    (environment.lookup name).filter fun value => value ≠ ""
  ⟨setting "AWS_ACCESS_KEY_ID", setting "AWS_SECRET_ACCESS_KEY", setting "AWS_SESSION_TOKEN",
    (setting "AWS_REGION").or (setting "AWS_DEFAULT_REGION"), setting "AWS_ENDPOINT_URL"⟩

/-- The settings that are there, with their names. -/
def settings (access : StoreAccess) : List (String × String) :=
  [("s3_access_key_id", access.accessKey), ("s3_secret_access_key", access.secretKey),
   ("s3_session_token", access.sessionToken), ("s3_region", access.region),
   ("s3_endpoint", access.endpoint)].filterMap fun (name, value) => value.map (name, ·)

end StoreAccess

/-- Where a file lives. -/
structure Handle where
  /-- The location as it was given. -/
  uri : String
  /-- The scheme in lower case; empty for a plain path. -/
  scheme : String
  /-- The path within the file system of the scheme. -/
  path : String
  /-- The name ends like that of a file in the format. -/
  namesFormat : Bool
  /-- Settings for access to the object store. -/
  access : StoreAccess

namespace Handle

/-- Whether a name ends in the extension of the format, in any case. -/
def hasExtension (name : String) : Bool :=
  let ending := (name.toList.reverse.take 4).map Char.toLower
  ending == ['c', 'r', 'o', '.']

/-- The scheme of a location; a single letter is a drive and no scheme. -/
def schemeOf (uri : Uri) : String := if uri.scheme.length = 1 then "" else uri.scheme

/-- The handle of a location. The object store takes host and path together, file locations are
decoded, and any other location is its own path. -/
def ofUri (environment : List (String × String)) (uri : String) : Outcome Handle := do
  let parts ← Outcome.ofOption .badValue (Uri.ofText? uri)
  let scheme := schemeOf parts
  let isStore := scheme == "s3"
  let path :=
    if isStore then parts.host ++ parts.path
    else if scheme = "file" then Percent.decode parts.path
    else uri
  return ⟨uri, scheme, path, hasExtension uri,
    if isStore then .ofEnvironment environment else .none⟩

/-- Whether a file is reached over the network. -/
def isRemote (handle : Handle) : Bool := !(handle.scheme == "" || handle.scheme == "file")

/-- The best guess at the format from the name. -/
def format (handle : Handle) : String := if handle.namesFormat then "orc" else "unknown"

/-- A handle keeps the location as it was given. -/
theorem uri_of_ofUri {environment : List (String × String)} {uri : String} {handle : Handle}
    (made : ofUri environment uri = .ok handle) : handle.uri = uri := by
  unfold ofUri at made
  cases parts : Uri.ofText? uri with
  | none => rw [parts] at made; simp [Outcome.ofOption, bind, Except.bind] at made
  | some parts' =>
    rw [parts] at made
    simp only [Outcome.ofOption, bind, Except.bind, pure, Except.pure] at made
    injection made with equal
    rw [← equal]

end Handle

end OrcRows
