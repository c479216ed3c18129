import OrcRows.Journal
import OrcRows.Location.Storage
import OrcRows.Reader.Source

/-!
# Where reads take place

A site has storage, a source behind its file, a registry of readers, a ledger of the readers made so
far and a journal of notices. Registered names are unique, and the registry picks the table reader
unless another one is named.
-/

namespace OrcRows

/-- The kind of a reader. -/
inductive ReaderKind where
  /-- The reader of tables. -/
  | table
  /-- The reader of scripts. -/
  | script
  deriving DecidableEq, Repr

/-- The registered readers. -/
structure Registry where
  /-- Names in order of registration. -/
  names : List String
  /-- No name is registered twice. -/
  distinct : names.Nodup

namespace Registry

/-- The name of the reader that is picked by default. -/
def standardName : String := "arrow-orc"

/-- The name of the reader of scripts. -/
def scriptName : String := "scripted"

/-- The readers that are registered from the start. -/
def standard : Registry := ⟨[standardName, scriptName], by decide⟩

/-- Registers one more name; a registered name is refused. -/
def register (registry : Registry) (name : String) : Outcome Registry :=
  if fresh : name ∈ registry.names then .error (.broken .badValue)
  else .ok ⟨registry.names ++ [name], by
    rw [List.nodup_append]
    refine ⟨registry.distinct, by simp, ?_⟩
    intro a member b last same
    simp only [List.mem_singleton] at last
    exact fresh (last ▸ same ▸ member)⟩

/-- The name that a request picks; no name, or one without text, picks the default. -/
def pick (registry : Registry) (name : Option String) : Outcome String :=
  let wanted := match name with
    | none => standardName
    | some name => if name = "" then standardName else name
  if registry.names.contains wanted then .ok wanted
  else .error (.report .illegalArgument "no reader registered under this name"
    [("reader", .text wanted), ("known", .list (registry.names.map .text))])

/-- The kind of reader that a name stands for. -/
def kindOf (name : String) : ReaderKind := if name = scriptName then .script else .table

end Registry

/-- Counts of readers. -/
structure Ledger where
  /-- Readers made. -/
  built : Nat
  /-- Resources that readers have taken hold of. -/
  acquired : Nat
  /-- Resources that readers have let go. -/
  released : Nat
  deriving DecidableEq, Repr

/-- The number of resources that are held. -/
def Ledger.held (ledger : Ledger) : Nat := ledger.acquired - ledger.released

/-- The place where reads take place. -/
structure Site where
  /-- The files. -/
  storage : Storage
  /-- What readers find in the file. -/
  source : Source
  /-- The registered readers. -/
  registry : Registry
  /-- The readers so far. -/
  ledger : Ledger
  /-- The notices so far. -/
  notices : List Notice

namespace Site

/-- A site where nothing has taken place. -/
def start (storage : Storage) (source : Source) : Site :=
  ⟨storage, source, .standard, ⟨0, 0, 0⟩, []⟩

/-- Counts a reader that is made. -/
def countBuilt (site : Site) : Site :=
  { site with ledger := { site.ledger with built := site.ledger.built + 1 } }

/-- Counts a resource that is taken hold of. -/
def countAcquired (site : Site) : Site :=
  { site with ledger := { site.ledger with acquired := site.ledger.acquired + 1 } }

/-- Counts a resource that is let go. -/
def countReleased (site : Site) : Site :=
  { site with ledger := { site.ledger with released := site.ledger.released + 1 } }

/-- Adds notices to the journal. -/
def note (site : Site) (notices : List Notice) : Site :=
  { site with notices := site.notices ++ notices }

end Site

end OrcRows
