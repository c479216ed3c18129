import OrcRows.Command.Arguments
import OrcRows.Command.Conclusion
import OrcRows.JsonForm
import OrcRows.Session.Basic

/-!
# Running commands

A command asks one or two sessions about the file of its path. Options are checked before anything
is read. Rows are printed as they come, one JSON object a line, so those before a fault are printed
too.
-/

namespace OrcRows

/-- Where a command runs. -/
structure Workplace where
  /-- The site of its reads. -/
  site : Site
  /-- The variables of the environment. -/
  environment : List (String × String)
  /-- How options are read. -/
  rules : OptionRules

namespace Command

/-- The line that shows the version. -/
def versionLine : String := "orcbridge 0.3.0"

/-- The columns in a text: the pieces between commas without space around them, empty ones left out.
An empty text selects none in particular. -/
def splitColumns (text : String) : Option (List String) :=
  if text = "" then none
  else
    let pieces := (Pieces.cut (· == ',') text.toList).map (CharClass.trim CharClass.isSpace)
    some ((pieces.filter fun piece => !piece.isEmpty).map String.ofList)

/-- The options of a read from the command line. -/
def rawOptions (choice : ColumnChoice) (encoding : String) : RawOptions :=
  let selected := match choice.columns.bind splitColumns with
    | some names => Schema.nameList names
    | none => .null
  [("text_encoding", .text encoding), ("selected_columns", selected)] ++
    if choice.partitions.isEmpty then []
    else [("merge_partitions", .bool true),
      ("partition_definitions", Schema.nameList choice.partitions)]

/-- The session of a path at a workplace. -/
def session (workplace : Workplace) (path : String) (options : ReaderOptions) :
    Outcome Session := do
  let handle ← Handle.ofUri workplace.environment path
  return .start workplace.site ⟨handle, options, none, none, none⟩

/-- Says whether a file is in the format. -/
def runSniff (workplace : Workplace) (path : String) : Outcome Conclusion := do
  let asking ← session workplace path .standard
  if ← asking.detect then return .success [path ++ ": ORC"]
  else return ⟨1, [path ++ ": not an ORC file"], [], "", none⟩

/-- A schema as a JSON text of names and types. -/
def schemaText (schema : Schema) : String :=
  (JsonForm.array (schema.describe.map fun field =>
    .object [("name", .text field.1), ("type", .text field.2)])).indented 0

/-- A schema as a listing of numbered names and types. -/
def schemaListing (path : String) (schema : Schema) : Listing :=
  ⟨path, ["#", "name", "type"],
    schema.describe.mapIdx fun place field => [toString place, field.1, field.2]⟩

/-- Shows the schema of a file. -/
def runSchema (workplace : Workplace) (path : String) (options : ReaderOptions) (asJson : Bool) :
    Outcome Conclusion := do
  let asking ← session workplace path options
  let found ← asking.schema.1
  if asJson then return .success [schemaText found]
  else return ⟨0, [], [schemaListing path found], "", none⟩

/-- The line of a row: a JSON object of the names of a schema. -/
def rowLine (schema : Schema) : Value → String
  | .row fields _ => (JsonForm.ofRow schema.names fields).compact
  | value => (JsonForm.ofValue value).compact

/-- Prints the first rows of a file. One more row than is printed is asked for, and a fault there
still counts. -/
def runHead (workplace : Workplace) (path : String) (limit : Nat) (options : ReaderOptions) :
    Outcome Conclusion := do
  let reading ← session workplace path options
  let (stream, reading) ← match reading.rows none with
    | (outcome, reading) => outcome.map (·, reading)
  let asking ← session { workplace with site := reading.site } path options
  let (found, asking) ← match asking.schema with
    | (outcome, asking) => outcome.map (·, asking)
  let read := stream.take (limit + 1) asking.site
  let lines := (read.rows.take limit).map (rowLine found)
  match read.outcome with
  | .ok () => return .success lines
  | .error fault => return .failure lines fault

/-- Runs a part of a command with the options of the command line. -/
def withOptions (workplace : Workplace) (choice : ColumnChoice) (encoding : String)
    (go : ReaderOptions → Outcome Conclusion) : Conclusion :=
  match ReaderOptions.ofRaw workplace.rules (rawOptions choice encoding) with
  | .ok options => .ofOutcome (go options)
  | .error (.problems _) => .unusable
  | .error (.broken cause) => .failure [] (.broken cause)

/-- Runs a command. -/
def run (workplace : Workplace) : Command → Conclusion
  | idle => .success []
  | help => .success []
  | version => .success [versionLine]
  | sniff path => .ofOutcome (runSniff workplace path)
  | schema path choice asJson =>
    withOptions workplace choice "utf-8" fun options => runSchema workplace path options asJson
  | head path limit choice encoding =>
    withOptions workplace choice encoding fun options => runHead workplace path limit options

/-- Runs the words of a command line. -/
def runWords (workplace : Workplace) (words : List String) : Conclusion :=
  match ofWords? words with
  | some command => command.run workplace
  | none => .misuse

end Command

end OrcRows
