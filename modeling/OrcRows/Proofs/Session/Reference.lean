import OrcRows.Session.Stream
import OrcRows.Proofs.Cell.Reports

/-!
# The rows that a stream has to give

The batches that a reader serves are laid end to end: each row of each batch is an item, a batch of
the wrong width and a fault of the reader are items of their own. `ReadPlan.Gives` says what an item
gives, cell by cell and without any stream; `answers` says what requests are told of what items
give, and `consume` what a sink makes of it.
-/

namespace OrcRows

/-- An item of what a reader serves: a row of a batch, or a fault in place of rows. -/
inductive FeedItem where
  /-- A row of a batch, given by its index. -/
  | row (batch : Batch) (index : Nat)
  /-- A fault of the reader, or of a batch. -/
  | fault (fault : Fault)

namespace ReadPlan

/-- The location of the file as a fact. -/
def pathFact (plan : ReadPlan) : List (String × Value) := [("path", .text plan.uri)]

/-- The items of what a reader serves at one time: none of a batch of the wrong width is a row. -/
def itemsOf (plan : ReadPlan) : Outcome (Option Batch) → List FeedItem
  | .error fault => [.fault fault]
  | .ok none => []
  | .ok (some batch) =>
    if batch.columns.length = plan.columns.length then
      (List.range' 0 batch.size).map (.row batch)
    else [.fault (.report .illegalArgument "batch column count does not match schema"
      [("path", .text plan.uri), ("columns", .int batch.columns.length),
       ("expected", .int plan.columns.length)])]

/-- The cell of a column in a row, under the type of the column; nothing for a missing vector. -/
def cellOf (plan : ReadPlan) (index : Nat) (column : PlanColumn) :
    Option ColumnVector → Outcome Value
  | none => .ok .null
  | some vector => vector.cell plan.policy column.declared (some column.type) index

/-- A fault of a cell with its place: a report says the column, the number of rows before and the
file behind what it says already. -/
def located (plan : ReadPlan) (name : String) (emitted : Nat) : Fault → Fault
  | .broken cause => .broken cause
  | .reported report => .reported ⟨report.kind, report.message, report.context ++
      [("column", .text name), ("file_row", .int emitted), ("path", .text plan.uri)]⟩

/-- What an item gives after a number of rows: a row of all its cells and the partition values, the
located fault of the first cell that has one, or a fault that says the file. -/
inductive Gives (plan : ReadPlan) (emitted : Nat) : FeedItem → Outcome Value → Prop
  | row {batch : Batch} {index : Nat} {cells : List Value}
      (width : cells.length = plan.columns.length)
      (decoded : ∀ (place : Nat) (column : PlanColumn) (vector : Option ColumnVector),
        plan.columns[place]? = some column → batch.columns[place]? = some vector →
        ∃ cell, cells[place]? = some cell ∧ plan.cellOf index column vector = .ok cell) :
      Gives plan emitted (.row batch index)
        (.ok (.row (cells ++ plan.tail.map Value.ofText) plan.tableId))
  | cell {batch : Batch} {index place : Nat} {column : PlanColumn} {vector : Option ColumnVector}
      {fault : Fault} (planned : plan.columns[place]? = some column)
      (served : batch.columns[place]? = some vector)
      (failing : plan.cellOf index column vector = .error fault)
      (before : ∀ (earlier : Nat) (column : PlanColumn) (vector : Option ColumnVector),
        earlier < place → plan.columns[earlier]? = some column →
        batch.columns[earlier]? = some vector →
        ∃ cell, plan.cellOf index column vector = .ok cell) :
      Gives plan emitted (.row batch index) (.error (plan.located column.name emitted fault))
  | fault {fault : Fault} :
      Gives plan emitted (.fault fault) (.error (fault.addContext plan.pathFact))

end ReadPlan

/-- What a number of requests are told of outcomes: each row in turn, then the first fault or the
end, and the end from then on. -/
def answers : Nat → List (Outcome Value) → List (Outcome (Option Value))
  | 0, _ => []
  | count + 1, [] => .ok none :: answers count []
  | count + 1, .ok row :: rest => .ok (some row) :: answers count rest
  | count + 1, .error fault :: _ => .error fault :: answers count []

/-- What a sink makes of outcomes: it takes each row in turn, up to the end, to the first fault or
until it fails itself; without a fault the rows are counted. -/
def consume {State : Type} (sink : State → Value → Outcome State) :
    State → Nat → List (Outcome Value) → State × Outcome Nat
  | state, taken, [] => (state, .ok taken)
  | state, _, .error fault :: _ => (state, .error fault)
  | state, taken, .ok row :: rest =>
    match sink state row with
    | .error fault => (state, .error fault)
    | .ok state => consume sink state (taken + 1) rest

/-- What a new reader of a kind serves at a site, or why it cannot be opened. -/
def Site.serves (site : Site) (kind : ReaderKind) (handle : Handle) (names : List String) :
    Outcome Feed :=
  match kind with
  | .script =>
    match site.source.asScript.refusal with
    | some fault => .error fault
    | none => .ok (site.source.asScript.batches.map fun batch => batch.map some)
  | .table =>
    match site.storage.read handle with
    | .error (.broken cause) => .error (Reader.openingFault handle cause)
    | .error fault => .error fault
    | .ok _ =>
      (Reader.tableSchema handle site.source.asTable).map
        fun _ => site.source.asTable.feed handle.uri names

namespace Stream

/-- The items of all that a stream's reader serves, or why there is no such reader. -/
def items (stream : Stream) (site : Site) : Outcome (List FeedItem) :=
  (site.registry.pick stream.readerName).map fun name =>
    match site.serves (Registry.kindOf name) stream.handle stream.plan.names with
    | .error fault => [.fault fault]
    | .ok feed => feed.flatMap stream.plan.itemsOf

/-- Outcomes are the reference of a stream if each of its items gives the one at its place. -/
def Expects (stream : Stream) (site : Site) (expected : List (Outcome Value)) : Prop :=
  match stream.items site with
  | .error fault => expected = [.error fault]
  | .ok items => expected.length = items.length ∧
      ∀ (place : Nat) (item : FeedItem), items[place]? = some item →
        ∃ outcome, expected[place]? = some outcome ∧ stream.plan.Gives place item outcome

/-- What requests of a stream lead to, each made at a site of its own: anything may happen at the
site in between. -/
def calls : List Site → Stream → List (Outcome (Option Value))
  | [], _ => []
  | site :: sites, stream =>
    (stream.next site).outcome :: calls sites (stream.next site).stream

end Stream

end OrcRows
