import OrcRows.Number.Integer

/-!
# Command lines

A command line names a command and gives it a path and options. Words that begin with a dash and go
on are options, up to a double dash; an option that takes a value has it in the same word or in the
next one, whatever that looks like. A line that does not follow the rules has no reading.
-/

namespace OrcRows

/-- What an option says. -/
inductive Setting where
  | help
  | version
  | asJson
  | columns (text : String)
  | partition (name : String)
  | rows (text : String)
  | encoding (label : String)
  deriving DecidableEq, Repr

/-- How an option is written. -/
inductive OptionForm where
  /-- The option alone says everything. -/
  | plain (setting : Setting)
  /-- The option is followed by a value. -/
  | valued (setting : String → Setting)

/-- What one word of a line contributes. -/
inductive WordUse where
  /-- A setting that is complete. -/
  | setting (setting : Setting)
  /-- A setting whose value is the next word. -/
  | awaitsValue (setting : String → Setting)

/-- Options with their spellings. -/
abbrev OptionTable := List (String × OptionForm)

namespace OptionTable

/-- Whether a word is an option and not an operand: a dash alone is none. -/
def isOption (word : String) : Bool :=
  match word.toList with
  | '-' :: _ :: _ => true
  | _ => false

/-- A word of a double dash and a name, which may have a value behind an equals sign. -/
def useLong (table : OptionTable) (word : List Char) : Option WordUse :=
  let name := word.takeWhile (· ≠ '=')
  match table.lookup (String.ofList name), word.drop name.length with
  | some (.plain setting), [] => some (.setting setting)
  | some (.valued setting), [] => some (.awaitsValue setting)
  | some (.valued setting), _ :: value => some (.setting (setting (String.ofList value)))
  | _, _ => none

/-- A word of a dash and a letter, which may have a value right behind it. -/
def useShort (table : OptionTable) (word : List Char) : Option WordUse :=
  match table.lookup (String.ofList (word.take 2)), word.drop 2 with
  | some (.plain setting), [] => some (.setting setting)
  | some (.valued setting), [] => some (.awaitsValue setting)
  | some (.valued setting), value => some (.setting (setting (String.ofList value)))
  | _, _ => none

/-- What a word that is an option contributes. -/
def use (table : OptionTable) (word : String) : Option WordUse :=
  match word.toList with
  | '-' :: '-' :: rest => table.useLong ('-' :: '-' :: rest)
  | word => table.useShort word

/-- Settings and operands of words. Options may follow operands only if they are `mixed`; else the
first operand ends them. -/
def sort (table : OptionTable) (mixed : Bool) : List String → Option (List Setting × List String)
  | [] => some ([], [])
  | word :: rest =>
    if word = "--" then some ([], rest)
    else if isOption word then
      match table.use word with
      | none => none
      | some (.setting setting) =>
        (table.sort mixed rest).map fun (settings, operands) => (setting :: settings, operands)
      | some (.awaitsValue setting) =>
        match rest with
        | [] => none
        | value :: rest =>
          (table.sort mixed rest).map fun (settings, operands) =>
            (setting value :: settings, operands)
    else if mixed then
      (table.sort mixed rest).map fun (settings, operands) => (settings, word :: operands)
    else some ([], word :: rest)

end OptionTable

/-- The columns of a read: those selected, and the partitions to be merged. -/
structure ColumnChoice where
  /-- The selected columns, as one text. -/
  columns : Option String
  /-- The names of the partitions. -/
  partitions : List String
  deriving DecidableEq, Repr

/-- What is asked on a command line. -/
inductive Command where
  /-- Nothing. -/
  | idle
  /-- Help. -/
  | help
  /-- The version of the program. -/
  | version
  /-- Whether a file is in the format. -/
  | sniff (path : String)
  /-- The schema of a file. -/
  | schema (path : String) (choice : ColumnChoice) (asJson : Bool)
  /-- The first rows of a file. -/
  | head (path : String) (limit : Nat) (choice : ColumnChoice) (encoding : String)
  deriving DecidableEq, Repr

namespace Command

/-- Options that every command has. -/
def commonOptions : OptionTable := [("--help", .plain .help)]

/-- Options in front of a command. -/
def leadingOptions : OptionTable := ("--version", .plain .version) :: commonOptions

/-- Options of a read. -/
def readOptions : OptionTable :=
  [("--columns", .valued .columns), ("-c", .valued .columns),
   ("--partition", .valued .partition), ("-p", .valued .partition)] ++ commonOptions

/-- Options of the command for schemas. -/
def schemaOptions : OptionTable := ("--json", .plain .asJson) :: readOptions

/-- Options of the command for rows. -/
def headOptions : OptionTable :=
  [("--rows", .valued .rows), ("-n", .valued .rows), ("--encoding", .valued .encoding)] ++
    readOptions

/-- The last value that settings give, if any does. -/
def last? (read : Setting → Option String) (settings : List Setting) : Option String :=
  (settings.filterMap read).getLast?

/-- The choice of columns that settings make. -/
def choiceOf (settings : List Setting) : ColumnChoice where
  columns := last? (fun setting => match setting with
    | .columns text => some text
    | _ => none) settings
  partitions := settings.filterMap fun setting => match setting with
    | .partition name => some name
    | _ => none

/-- The number of rows that settings ask for, ten unless they say otherwise; not below zero. -/
def limitOf? (settings : List Setting) : Option Nat :=
  match last? (fun setting => match setting with
    | .rows text => some text
    | _ => none) settings with
  | none => some 10
  | some text =>
    match Integer.ofText? text with
    | some (.ofNat limit) => some limit
    | _ => none

/-- The encoding that settings ask for. -/
def encodingOf (settings : List Setting) : String :=
  (last? (fun setting => match setting with
    | .encoding label => some label
    | _ => none) settings).getD "utf-8"

/-- A command of settings and one path; a request for help outweighs everything else. -/
def ofPath? (settings : List Setting) (operands : List String)
    (make : String → Option Command) : Option Command :=
  if settings.contains .help then some help
  else
    match operands with
    | [path] => make path
    | _ => none

/-- The command of a name and the words behind it. -/
def ofName? (name : String) (words : List String) : Option Command :=
  match name with
  | "sniff" => do
    let (settings, operands) ← commonOptions.sort true words
    ofPath? settings operands fun path => some (sniff path)
  | "schema" => do
    let (settings, operands) ← schemaOptions.sort true words
    ofPath? settings operands fun path =>
      some (schema path (choiceOf settings) (settings.contains .asJson))
  | "head" => do
    let (settings, operands) ← headOptions.sort true words
    ofPath? settings operands fun path =>
      (limitOf? settings).map fun limit =>
        head path limit (choiceOf settings) (encodingOf settings)
  | _ => none

/-- The path that a command looks at. -/
def path? : Command → Option String
  | idle | help | version => none
  | sniff path => some path
  | schema path _ _ => some path
  | head path _ _ _ => some path

/-- The names of the commands. -/
def commandNames : List String := ["sniff", "schema", "head"]

/-- The command of the words of a line. The version is shown without looking at the words behind
the name of a command. -/
def ofWords? (words : List String) : Option Command := do
  let (settings, operands) ← leadingOptions.sort false words
  if settings.contains .help then some help
  else
    match operands with
    | [] => some (if settings.contains .version then version else idle)
    | name :: rest =>
      if settings.contains .version then
        if commandNames.contains name then some version else none
      else ofName? name rest

end Command

end OrcRows
