import OrcRows.Mapping
import OrcRows.Options.ReaderOptions
import OrcRows.Session.Stream
import OrcRows.Sniff

/-!
# Sessions

A session answers questions about one file: whether it is in the format, what types it declares,
under which schema its rows are read, and the rows themselves. Declared type, schema and partition
values are found at most once; a failure is found anew every time. Everything that can fail before
the first row is settled when a stream is asked for.
-/

namespace OrcRows

/-- What is asked of a file. -/
structure ReadRequest where
  /-- The file. -/
  handle : Handle
  /-- The options of the read. -/
  options : ReaderOptions
  /-- The types that the caller asks for. -/
  target : Option Schema
  /-- Partition values that the caller gives. -/
  partitions : Option PartitionMap
  /-- The name of the reader, if the caller asks for one. -/
  readerName : Option String

/-- A session about one file. -/
structure Session where
  /-- What is asked. -/
  request : ReadRequest
  /-- Where it is asked. -/
  site : Site
  /-- The declared type, once it is known. -/
  native : Option NativeType
  /-- The schema of the file's columns, once it is known. -/
  columns : Option Schema
  /-- Names and values of the partitions, once they are known. -/
  partitions : Option (List String × PartitionMap)

/-- What a question leads to. -/
abbrev Answer (α : Type) := Outcome α × Session

/-- Goes on with the value of an answer. -/
def Answer.andThen {α β : Type} (answer : Answer α) (next : α → Session → Answer β) : Answer β :=
  match answer with
  | (.ok value, session) => next value session
  | (.error fault, session) => (.error fault, session)

namespace Session

/-- A session in which nothing was asked. -/
def start (site : Site) (request : ReadRequest) : Session := ⟨request, site, none, none, none⟩

/-- The location of the file. -/
def uri (session : Session) : String := session.request.handle.uri

/-- The location of the file as a fact. -/
def pathFact (session : Session) : List (String × Value) := [("path", .text session.uri)]

/-- The session with another site. -/
def withSite (session : Session) (site : Site) : Session :=
  ⟨session.request, site, session.native, session.columns, session.partitions⟩

/-- Whether the file is in the format. -/
def detect (session : Session) : Outcome Bool :=
  Sniff.isRecognized session.site.storage session.request.handle Sniff.standardWindow

/-- Makes a reader, opens it for its declared type and releases it. -/
def probe (session : Session) (kind : ReaderKind) : Outcome NativeType × Site :=
  let (reader, site) := Reader.make kind session.request.handle session.site
  match reader.acquire site with
  | (.error fault, site) =>
    (.error (fault.addContext session.pathFact), (reader.release site).2)
  | (.ok (reader, native), site) => (.ok native, (reader.release site).2)

/-- The declared type of the file. -/
def nativeSchema (session : Session) : Answer NativeType :=
  match session.native with
  | some native => (.ok native, session)
  | none =>
    match session.site.registry.pick session.request.readerName with
    | .error fault => (.error fault, session)
    | .ok name =>
      match session.probe (Registry.kindOf name) with
      | (.error fault, site) => (.error fault, session.withSite site)
      | (.ok native, site) => (.ok native, { session.withSite site with native := some native })

/-- The schema of the selected columns, without partitions. -/
def fileSchema (session : Session) : Answer Schema :=
  match session.columns with
  | some schema => (.ok schema, session)
  | none =>
    session.nativeSchema.andThen fun native session =>
      let inferred := native.inferSchema session.request.target session.request.options.selected
      match inferred.addContext session.pathFact with
      | .error fault => (.error fault, session)
      | .ok schema => (.ok schema, { session with columns := some schema })

/-- Names and values of the partitions: those that the caller gives, else those of the path if they
are to be merged. -/
def resolvePartitions (session : Session) : Answer (List String × PartitionMap) :=
  match session.partitions, session.request.partitions with
  | some partitions, _ => (.ok partitions, session)
  | none, some given =>
    let partitions := (given.names, given)
    (.ok partitions, { session with partitions := some partitions })
  | none, none =>
    let options := session.request.options
    if options.mergesPartitions then
      let (notices, outcome) := Partition.ofPath session.uri options.definitions
      let session := session.withSite (session.site.note notices)
      match outcome with
      | .error fault => (.error fault, session)
      | .ok values =>
        let partitions := (options.partitionNames, values)
        (.ok partitions, { session with partitions := some partitions })
    else (.ok ([], []), { session with partitions := some ([], []) })

/-- The schema of rows, partitions included. -/
def schema (session : Session) : Answer Schema :=
  session.resolvePartitions.andThen fun partitions session =>
    session.fileSchema.andThen fun columns session =>
      (columns.withPartitions partitions.1, session)

/-- The columns of a read: each has the type of its first column of that name in the file. -/
def planColumns (native : NativeType) (columns : Schema) : Outcome (List PlanColumn) :=
  columns.fields.mapM fun (name, type) => do
    let declared ← Outcome.ofOption .badValue (native.column? name)
    return ⟨name, ← declared, type⟩

/-- A stream of the rows of the file. -/
def rows (session : Session) (tableId : Option String) : Answer Stream :=
  match session.detect with
  | .error fault => (.error fault, session)
  | .ok false => (.error (.report .fileTypeInvalid
      "this file is not an orc file, please check the format of this file" session.pathFact),
      session)
  | .ok true =>
    session.fileSchema.andThen fun columns session =>
      session.schema.andThen fun _ session =>
        session.resolvePartitions.andThen fun partitions session =>
          session.nativeSchema.andThen fun native session =>
            let request := session.request
            ((planColumns native columns).map fun planned =>
              let plan : ReadPlan := ⟨session.uri, request.options.textPolicy, planned,
                partitions.2.values partitions.1, tableId⟩
              ⟨plan, request.handle, request.readerName, .fresh⟩, session)

/-- Hands all rows of the file to a sink and counts them; a fault of the sink ends the read. Either
way the stream is closed. -/
def readInto {State : Type} (session : Session) (tableId : Option String)
    (sink : State → Value → Outcome State) (start : State) : State × Answer Nat :=
  match session.rows tableId with
  | (.error fault, session) => (start, .error fault, session)
  | (.ok stream, session) =>
    let poured := stream.pour sink (stream.rowBound session.site + 1) start 0 session.site
    let (_, site) := poured.stream.close poured.site
    (poured.state, poured.outcome, session.withSite site)

/-- All rows of the file and their number; the rows before a fault are told even if there is
one. -/
def readAll (session : Session) (tableId : Option String) : List Value × Answer Nat :=
  let (rows, answer) := session.readInto tableId (fun rows row => .ok (row :: rows)) []
  (rows.reverse, answer)

end Session

end OrcRows
