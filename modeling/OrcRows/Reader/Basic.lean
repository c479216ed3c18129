import OrcRows.Reader.Site

/-!
# Readers

A reader is made for a handle, opened, asked for batches and released. The table reader takes hold
of the file when it is opened and lets it go on every failure; the reader of scripts holds a
resource from the beginning. A reader that was open once keeps its declared type and is never opened
again, so batches asked of it after its release are a breakdown.
-/

namespace OrcRows

/-- What an open reader holds. -/
inductive Holding where
  | table (table : Table)
  | script (script : Script)

/-- A reader of one file. -/
structure Reader where
  /-- The kind of the reader. -/
  kind : ReaderKind
  /-- The file. -/
  handle : Handle
  /-- The declared type, once the reader was open. -/
  schema : Option NativeType
  /-- What the reader holds, if it holds a resource. -/
  holding : Option Holding

namespace Reader

/-- The name under which a reader is registered. -/
def name (reader : Reader) : String :=
  match reader.kind with
  | .table => Registry.standardName
  | .script => Registry.scriptName

/-- Makes a reader. -/
def make (kind : ReaderKind) (handle : Handle) (site : Site) : Reader × Site :=
  match kind with
  | .table => (⟨kind, handle, none, none⟩, site.countBuilt)
  | .script => (⟨kind, handle, none, some (.script site.source.asScript)⟩,
      site.countBuilt.countAcquired)

/-- The fault of a file that cannot be opened. -/
def openingFault (handle : Handle) (cause : Breakdown) : Fault :=
  readerFault "create orc reader for this file failed" [("path", .text handle.uri)] cause

/-- The declared type of a table that can be opened. -/
def tableSchema (handle : Handle) (table : Table) : Outcome NativeType :=
  match table.refusal with
  | some cause => .error (openingFault handle cause)
  | none => NativeType.ofTable table.fields

/-- Opens a table reader. The file is let go if the table cannot be opened or has no declared
type. -/
def openTable (reader : Reader) (site : Site) : Outcome (Reader × NativeType) × Site :=
  match site.storage.read reader.handle with
  | .error (.broken cause) => (.error (openingFault reader.handle cause), site)
  | .error fault => (.error fault, site)
  | .ok _ =>
    let table := site.source.asTable
    match tableSchema reader.handle table with
    | .error fault => (.error fault, site.countAcquired.countReleased)
    | .ok schema => (.ok (⟨reader.kind, reader.handle, some schema, some (.table table)⟩, schema),
        site.countAcquired)

/-- Opens a reader of scripts. -/
def openScript (reader : Reader) (site : Site) : Outcome (Reader × NativeType) :=
  let script := site.source.asScript
  match script.refusal with
  | some fault => .error fault
  | none => .ok (⟨reader.kind, reader.handle, some script.schema,
      reader.holding.map fun _ => .script script⟩, script.schema)

/-- Opens a reader and gives its declared type; a reader that was open before does nothing more. -/
def acquire (reader : Reader) (site : Site) : Outcome (Reader × NativeType) × Site :=
  match reader.schema, reader.kind with
  | some schema, _ => (.ok (reader, schema), site)
  | none, .table => reader.openTable site
  | none, .script => (reader.openScript site, site)

/-- Lets go of what a reader holds; a second release does nothing. -/
def release (reader : Reader) (site : Site) : Reader × Site :=
  match reader.holding with
  | none => (reader, site)
  | some _ => (⟨reader.kind, reader.handle, reader.schema, none⟩, site.countReleased)

/-- What a reader that was opened serves to a projection; one that holds nothing is not open. -/
def feed (reader : Reader) (names : List String) : Outcome Feed :=
  match reader.holding with
  | none => .error (.broken .notOpen)
  | some (.table table) => .ok (table.feed reader.handle.uri names)
  | some (.script script) => .ok (script.batches.map fun batch => batch.map some)

end Reader

/-- A place in the batches of a reader. -/
inductive BatchCursor where
  /-- Nothing was asked for; the reader is opened first. -/
  | fresh (names : List String)
  /-- What is still to come. -/
  | serving (feed : Feed)
  /-- The end, or a fault, was reached. -/
  | ended

namespace BatchCursor

/-- The next batch of a feed, while the reader holds it. -/
def pull (holds : Bool) : Feed → Outcome (Option Batch) × BatchCursor
  | [] => (.ok none, .ended)
  | served :: rest =>
    if holds then
      match served with
      | .error fault => (.error fault, .ended)
      | .ok none => pull holds rest
      | .ok (some batch) => (.ok (some batch), .serving rest)
    else (.error (.broken .notOpen), .ended)

/-- The next batch, none at the end. -/
def next (cursor : BatchCursor) (reader : Reader) (site : Site) :
    Outcome (Option Batch) × BatchCursor × Reader × Site :=
  match cursor with
  | ended => (.ok none, ended, reader, site)
  | serving feed =>
    let (outcome, cursor) := pull reader.holding.isSome feed
    (outcome, cursor, reader, site)
  | fresh names =>
    match reader.acquire site with
    | (.error fault, site) => (.error fault, ended, reader, site)
    | (.ok (reader, _), site) =>
      match reader.feed names with
      | .error fault => (.error fault, ended, reader, site)
      | .ok feed =>
        let (outcome, cursor) := pull true feed
        (outcome, cursor, reader, site)

end BatchCursor

end OrcRows
