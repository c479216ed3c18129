import OrcRows.Value

/-!
# Reports and faults

An operation that ends without a value ends with a fault. A report is a fault that the library
raises itself: a kind, a message and a context of named facts, in the order in which they became
known. Any other fault is a breakdown, known by its cause alone. Context grows on the way up and
never changes what it already says.
-/

namespace OrcRows

/-- The kind of a report. -/
inductive ReportKind where
  /-- The file is not in the format, or could not be inspected. -/
  | fileTypeInvalid
  /-- A selected column is absent from the file. -/
  | schemaColumnMissing
  /-- There is no unified type or no decoder. -/
  | unsupportedDataType
  /-- Parts that do not fit together. -/
  | illegalArgument
  /-- The reader could not be made or could not read. -/
  | readerOperationFailed
  /-- The options are unusable. -/
  | configInvalid
  deriving DecidableEq, Repr

namespace ReportKind

/-- The stable identifier of a kind. -/
def name : ReportKind → String
  | fileTypeInvalid => "file_type_invalid"
  | schemaColumnMissing => "schema_column_missing"
  | unsupportedDataType => "unsupported_data_type"
  | illegalArgument => "illegal_argument"
  | readerOperationFailed => "reader_operation_failed"
  | configInvalid => "config_invalid"

/-- The heading of a kind in the journal. -/
def heading : ReportKind → String
  | fileTypeInvalid => "FileTypeInvalidError"
  | schemaColumnMissing => "SchemaColumnMissingError"
  | unsupportedDataType => "UnsupportedDataTypeError"
  | illegalArgument => "IllegalArgumentError"
  | readerOperationFailed => "ReaderOperationFailedError"
  | configInvalid => "ConfigError"

end ReportKind

/-- A fault raised by the library. -/
structure Report where
  /-- What went wrong. -/
  kind : ReportKind
  /-- One sentence for a reader. -/
  message : String
  /-- Named facts in the order in which they became known. -/
  context : List (String × Value)

namespace Report

/-- Whether a fact of this name is known. -/
def knows (report : Report) (name : String) : Bool := report.context.any (·.1 == name)

/-- Adds one fact, unless it is void or its name is known. -/
def addFact (report : Report) (fact : String × Value) : Report :=
  match fact.2 with
  | .null => report
  | _ =>
    if report.knows fact.1 then report
    else ⟨report.kind, report.message, report.context ++ [fact]⟩

/-- Adds facts in order; what is known stays. -/
def addContext (report : Report) (facts : List (String × Value)) : Report :=
  facts.foldl addFact report

/-- A report with a context. -/
def of (kind : ReportKind) (message : String) (facts : List (String × Value)) : Report :=
  addContext ⟨kind, message, []⟩ facts

/-- Sets a field of a record: in place if it is there, else at the end. -/
def setField (fields : List (String × Value)) (field : String × Value) : List (String × Value) :=
  if fields.any (·.1 == field.1) then
    fields.map fun present => if present.1 == field.1 then field else present
  else fields ++ [field]

/-- The message, followed by the context in parentheses unless there is none. -/
def text (report : Report) : String :=
  if report.context.isEmpty then report.message
  else
    let details := report.context.map fun fact => fact.1 ++ "=" ++ fact.2.quoted
    report.message ++ " (" ++ ", ".intercalate details ++ ")"

/-- The line shown on a terminal. -/
def terminalLine (report : Report) : String := "[" ++ report.kind.name ++ "] " ++ report.text

/-- The report as a record: kind, message, then the context, which may replace either. -/
def toRecord (report : Report) : List (String × Value) :=
  report.context.foldl setField
    [("kind", .text report.kind.name), ("message", .text report.message)]

/-- Adding context changes neither kind nor message. -/
theorem addContext_kind_message (report : Report) (facts : List (String × Value)) :
    (report.addContext facts).kind = report.kind ∧
      (report.addContext facts).message = report.message := by
  induction facts generalizing report with
  | nil => exact ⟨rfl, rfl⟩
  | cons fact rest ih =>
    have step : (report.addFact fact).kind = report.kind ∧
        (report.addFact fact).message = report.message := by
      unfold addFact
      repeat' split
      all_goals exact ⟨rfl, rfl⟩
    have tail := ih (report.addFact fact)
    exact ⟨tail.1.trans step.1, tail.2.trans step.2⟩

/-- What a report knows it keeps, in place. -/
theorem context_addFact_prefix (report : Report) (fact : String × Value) :
    ∃ more, (report.addFact fact).context = report.context ++ more := by
  unfold addFact
  repeat' split
  · exact ⟨[], by simp⟩
  · exact ⟨[], by simp⟩
  · exact ⟨[fact], rfl⟩

end Report

/-- The cause of a fault that is not a report. -/
inductive Breakdown where
  /-- A position that designates nothing. -/
  | outOfRange
  /-- An integer beyond the range of floating-point numbers. -/
  | tooLarge
  /-- A decimal without a result. -/
  | notDecimal
  /-- A decimal beyond the greatest. -/
  | decimalOverflow
  /-- A value of the wrong kind. -/
  | illTyped
  /-- A value that cannot be accepted. -/
  | badValue
  /-- A key that is not there. -/
  | missingKey
  /-- A file that cannot be read. -/
  | unreadable
  /-- Data, or a location, that the table library rejects. -/
  | malformedTable
  /-- A reader that holds no table. -/
  | notOpen
  /-- An encoding that decodes no bytes. -/
  | noDecoder
  /-- Bytes that a decoder gives up on. -/
  | undecodable
  /-- A partition definition that is not one. -/
  | invalidDefinition
  /-- A pattern whose groups are nested too deeply. -/
  | tooDeep
  deriving DecidableEq, Repr

namespace Breakdown

/-- Causes for which a reader answers with a report of its own: the file or its contents cannot be
read. -/
def isReadFailure : Breakdown → Bool
  | unreadable => true
  | malformedTable => true
  | _ => false

end Breakdown

/-- Why an operation ended without a value. -/
inductive Fault where
  | reported (report : Report)
  | broken (cause : Breakdown)

namespace Fault

/-- Adds context to a report; a breakdown carries none. -/
def addContext (facts : List (String × Value)) : Fault → Fault
  | reported report => reported (report.addContext facts)
  | broken cause => broken cause

/-- A fault with a report of the given kind. -/
def report (kind : ReportKind) (message : String) (facts : List (String × Value)) : Fault :=
  reported (.of kind message facts)

/-- Whether two faults are of one kind, whatever their messages say. -/
def sameKind : Fault → Fault → Bool
  | reported a, reported b => a.kind == b.kind
  | broken a, broken b => a == b
  | _, _ => false

end Fault

/-- The result of an operation that may end with a fault. -/
abbrev Outcome := Except Fault

/-- The value, or a breakdown if there is none. -/
def Outcome.ofOption {α : Type} (cause : Breakdown) : Option α → Outcome α
  | some value => .ok value
  | none => .error (.broken cause)

/-- An outcome whose report, if it ends with one, carries more context. -/
def Outcome.addContext {α : Type} (facts : List (String × Value)) : Outcome α → Outcome α
  | .ok value => .ok value
  | .error fault => .error (fault.addContext facts)

/-- A report of facts given by a caller. The message has a place of its own and cannot be a fact;
the last fact of a name counts. -/
def Report.ofFacts (kind : ReportKind) (message : String) (facts : List (String × Value)) :
    Outcome Report :=
  if facts.any fun fact => fact.1 == "message" || fact.1 == "self" then .error (.broken .illTyped)
  else .ok (.of kind message (facts.foldl Report.setField []))

/-- The report with more facts given by a caller. The last fact of a name counts, and what is known
stays. -/
def Report.addFacts (report : Report) (facts : List (String × Value)) : Outcome Report :=
  if facts.any fun fact => fact.1 == "self" then .error (.broken .illTyped)
  else .ok (report.addContext (facts.foldl Report.setField []))

/-- A value that is to be shown; an inconsistent type of a union cannot be. -/
def Value.shown (value : Value) : Outcome Value :=
  if value.typesHaveText then .ok value else .error (.broken .outOfRange)

end OrcRows
