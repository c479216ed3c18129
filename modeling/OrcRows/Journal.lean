import OrcRows.Report

/-!
# The journal

Names of journals lie under one root. Notices are warnings: a partition that is not found in a path,
and a read that a report has ended. A report is noted with its heading, unless the journal is
verbose and carries a trace instead.
-/

namespace OrcRows

/-- A warning. -/
inductive Notice where
  /-- No directory of a path gives a value to a partition. -/
  | partitionMissing (name path : String)
  /-- A report has ended a read after a number of rows. -/
  | readAborted (uri : String) (rows : Nat) (report : Report)

namespace Journal

/-- The name of the root. -/
def root : String := "orcbridge"

/-- The name of a journal under the root. -/
def nameUnderRoot (name : Option String) : String :=
  match name with
  | none => root
  | some name =>
    if name = "" ∨ name = root then root
    else if name.startsWith (root ++ ".") then name
    else root ++ "." ++ name

/-- Whether a setting asks for a verbose journal. -/
def isVerbose (setting : Option String) : Bool :=
  let word := String.ofList ((setting.getD "").toList.map CharClass.lower)
  ["1", "true", "yes"].contains word

/-- The handlers of the root. -/
def handlers (verbose : Bool) : List String := [if verbose then "StreamHandler" else "NullHandler"]

/-- The level of the root. -/
def level (verbose : Bool) : Nat := if verbose then 10 else 0

/-- The level at which a fault is noted. -/
def warning : String := "WARNING"

/-- The line that notes a fault. -/
def faultLine (verbose : Bool) (message heading text : String) : String :=
  if verbose then message ++ ": " ++ text else message ++ ": " ++ heading ++ ": " ++ text

end Journal

/-- The line of a notice. -/
def Notice.text : Notice → String
  | partitionMissing name path =>
    "partition " ++ Quoted.text name ++ " not found in path " ++ path
  | readAborted uri rows report =>
    Journal.faultLine false ("read of " ++ uri ++ " aborted after " ++ toString rows ++ " rows")
      report.kind.heading report.text

end OrcRows
