import OrcRows.Report

/-!
# Conclusions of commands

A command prints lines or shows a listing, and ends with an exit code. Reports have exit codes by
their kind; a breakdown is left uncaught.
-/

namespace OrcRows

/-- A listing in columns. -/
structure Listing where
  /-- The title above the listing. -/
  title : String
  /-- The headings of the columns. -/
  headers : List String
  /-- The rows of cells. -/
  cells : List (List String)
  deriving DecidableEq, Repr

namespace Listing

/-- The columns of a listing, headings first. -/
def columns (listing : Listing) : List (List String) :=
  listing.headers.mapIdx fun place header =>
    header :: listing.cells.map fun row => row[place]?.getD ""

/-- A text filled up with spaces. -/
def fill (width : Nat) (text : String) : String :=
  text ++ String.ofList (List.replicate (width - text.length) ' ')

/-- The lines of a listing: the title, then its rows with every cell as wide as its column. -/
def lines (listing : Listing) : List String :=
  let widths := listing.columns.map fun column => (column.map String.length).foldl max 0
  let line (row : List String) : String :=
    "  ".intercalate ((widths.zip row).map fun (width, cell) => fill width cell)
  listing.title :: line listing.headers :: listing.cells.map line

end Listing

/-- How a command ends. -/
structure Conclusion where
  /-- The exit code. -/
  exitCode : Nat
  /-- The lines that were printed. -/
  printed : List String
  /-- The listings that were shown. -/
  listings : List Listing
  /-- What was printed about a report, to its last character. -/
  complaint : String
  /-- The cause that was left uncaught, if any. -/
  uncaught : Option Breakdown
  deriving DecidableEq, Repr

namespace Conclusion

/-- The exit code of a report. -/
def codeOf : ReportKind → Nat
  | .configInvalid => 2
  | .fileTypeInvalid => 1
  | _ => 3

/-- No report ends a command as if it had done what it was asked to do. -/
theorem codeOf_ne_zero (kind : ReportKind) : codeOf kind ≠ 0 := by
  cases kind <;> decide

/-- A command that did what it was asked to do. -/
def success (printed : List String) : Conclusion := ⟨0, printed, [], "", none⟩

/-- A command line without a reading. -/
def misuse : Conclusion := ⟨2, [], [], "", none⟩

/-- A command with unusable options. -/
def unusable : Conclusion :=
  ⟨codeOf .configInvalid, [], [], "[" ++ ReportKind.configInvalid.name ++ "]", none⟩

/-- A command that a fault has ended after some lines. -/
def failure (printed : List String) : Fault → Conclusion
  | .reported report => ⟨codeOf report.kind, printed, [], report.terminalLine ++ "\n", none⟩
  | .broken cause => ⟨1, printed, [], "", some cause⟩

/-- The end of a command whose outcome tells its conclusion. -/
def ofOutcome : Outcome Conclusion → Conclusion
  | .ok conclusion => conclusion
  | .error fault => failure [] fault

/-- All that was printed, apart from listings. -/
def text (conclusion : Conclusion) : String :=
  String.join (conclusion.printed.map (· ++ "\n"))

end Conclusion

end OrcRows
