import OrcRows.Reader.Basic
import OrcRows.Session.Plan

/-!
# Streams of rows

A stream gives the rows of a plan one at a time. Its reader is made when the first row is asked for
and released at the end, on a fault, and when the stream is closed; after that the stream only says
that it is over. A report that ends a stream is noted before the location is added to it.
-/

namespace OrcRows

/-- How far a stream has come. -/
inductive Progress where
  /-- No row was asked for. -/
  | fresh
  /-- The reader is open, and a number of rows was given. -/
  | running (reader : Reader) (remainder : Remainder) (emitted : Nat)
  /-- Nothing more will come. -/
  | ended

/-- A stream of rows. -/
structure Stream where
  /-- What the stream reads. -/
  plan : ReadPlan
  /-- The file. -/
  handle : Handle
  /-- The name of the reader, if one was asked for. -/
  readerName : Option String
  /-- How far the stream has come. -/
  progress : Progress

/-- What a request of a stream leads to: a row, the end or a fault; the stream and the site after
it. -/
structure StreamStep where
  /-- A row, nothing at the end, or a fault. -/
  outcome : Outcome (Option Value)
  /-- The stream after the request. -/
  stream : Stream
  /-- The site after the request. -/
  site : Site

namespace Stream

/-- The stream with another progress. -/
def withProgress (stream : Stream) (progress : Progress) : Stream :=
  ⟨stream.plan, stream.handle, stream.readerName, progress⟩

/-- Ends a stream that a fault has reached: the reader is released, and a report is noted and told
the location. -/
def fail (stream : Stream) (reader : Reader) (emitted : Nat) (fault : Fault) (site : Site) :
    StreamStep :=
  let site := (reader.release site).2
  match fault with
  | .broken cause => ⟨.error (.broken cause), stream.withProgress .ended, site⟩
  | .reported report =>
    ⟨.error (.reported (report.addContext [("path", .text stream.plan.uri)])),
      stream.withProgress .ended, site.note [.readAborted stream.plan.uri emitted report]⟩

/-- Gives the next row of what is left. -/
def advance (stream : Stream) (reader : Reader) (remainder : Remainder) (emitted : Nat)
    (site : Site) : StreamStep :=
  match stream.plan.pull emitted remainder with
  | .error fault => stream.fail reader emitted fault site
  | .ok none => ⟨.ok none, stream.withProgress .ended, (reader.release site).2⟩
  | .ok (some (row, rest)) =>
    ⟨.ok (some row), stream.withProgress (.running reader rest (emitted + 1)), site⟩

/-- Makes and opens the reader of a stream and gives the first row. -/
def begin (stream : Stream) (site : Site) : StreamStep :=
  match site.registry.pick stream.readerName with
  | .error fault => ⟨.error fault, stream.withProgress .ended, site⟩
  | .ok name =>
    let (reader, site) := Reader.make (Registry.kindOf name) stream.handle site
    match reader.acquire site with
    | (.error fault, site) => stream.fail reader 0 fault site
    | (.ok (reader, _), site) =>
      match reader.feed stream.plan.names with
      | .error fault => stream.fail reader 0 fault site
      | .ok feed => stream.advance reader (.ofFeed feed) 0 site

/-- Asks for the next row. -/
def next (stream : Stream) (site : Site) : StreamStep :=
  match stream.progress with
  | .ended => ⟨.ok none, stream, site⟩
  | .running reader remainder emitted => stream.advance reader remainder emitted site
  | .fresh => stream.begin site

/-- Closes a stream; its reader is released. -/
def close (stream : Stream) (site : Site) : Stream × Site :=
  match stream.progress with
  | .running reader _ _ => (stream.withProgress .ended, (reader.release site).2)
  | _ => (stream.withProgress .ended, site)

/-- The rows that requests have given, how the last of them ended, and what is left. -/
structure Taken where
  /-- The rows in order. -/
  rows : List Value
  /-- Whether a fault has ended the stream. -/
  outcome : Outcome Unit
  /-- The stream after the requests. -/
  stream : Stream
  /-- The site after the requests. -/
  site : Site

/-- Asks for rows, a number of times at most, until the stream ends. -/
def take : Nat → Stream → Site → Taken
  | 0, stream, site => ⟨[], .ok (), stream, site⟩
  | limit + 1, stream, site =>
    let step := stream.next site
    match step.outcome with
    | .error fault => ⟨[], .error fault, step.stream, step.site⟩
    | .ok none => ⟨[], .ok (), step.stream, step.site⟩
    | .ok (some row) =>
      let rest := take limit step.stream step.site
      ⟨row :: rest.rows, rest.outcome, rest.stream, rest.site⟩

/-- A number of rows that no stream at a site exceeds. -/
def rowBound (stream : Stream) (site : Site) : Nat :=
  match stream.progress with
  | .ended => 0
  | .running _ remainder _ => remainder.rows
  | .fresh =>
    match site.source with
    | .table table => Feed.rows (table.feed stream.handle.uri stream.plan.names)
    | .script script => Feed.rows (script.batches.map fun batch => batch.map some)

/-- Asks for rows until the stream ends. -/
def drain (stream : Stream) (site : Site) : Taken :=
  take (stream.rowBound site + 1) stream site

/-- What a sink has made of rows, how the last request or the sink ended, and what is left. -/
structure Poured (State : Type) where
  /-- What the sink has made of the rows it took. -/
  state : State
  /-- The number of rows that the sink took, unless a fault has ended the pouring. -/
  outcome : Outcome Nat
  /-- The stream after the requests. -/
  stream : Stream
  /-- The site after the requests. -/
  site : Site

/-- Hands rows to a sink, a number of times at most, until the stream ends or the sink fails;
`taken` rows were handed over before. -/
def pour {State : Type} (sink : State → Value → Outcome State) :
    Nat → State → Nat → Stream → Site → Poured State
  | 0, state, taken, stream, site => ⟨state, .ok taken, stream, site⟩
  | limit + 1, state, taken, stream, site =>
    let step := stream.next site
    match step.outcome with
    | .error fault => ⟨state, .error fault, step.stream, step.site⟩
    | .ok none => ⟨state, .ok taken, step.stream, step.site⟩
    | .ok (some row) =>
      match sink state row with
      | .error fault => ⟨state, .error fault, step.stream, step.site⟩
      | .ok state => pour sink limit state (taken + 1) step.stream step.site

/-- No more rows come than are asked for. -/
theorem length_rows_take_le (limit : Nat) (stream : Stream) (site : Site) :
    (take limit stream site).rows.length ≤ limit := by
  induction limit generalizing stream site with
  | zero => simp [take]
  | succ limit ih =>
    simp only [take]
    split
    · simp
    · simp
    · have rest := ih (stream.next site).stream (stream.next site).site
      simp only [List.length_cons]
      omega

end Stream

end OrcRows
