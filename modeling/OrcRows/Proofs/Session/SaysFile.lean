import OrcRows.Proofs.TypeReports
import OrcRows.Reader.Source

/-!
# Reports that say the file

Reports are made where nothing is known of the file, and are told its location on the way up. A
report that says no file yet is told it; one that says a file keeps what it says.
-/

namespace OrcRows

/-- A fact that is looked up in vain is not known. -/
theorem Report.knows_eq_false_iff {report : Report} {name : String} :
    report.knows name = false ↔ report.context.lookup name = none := by
  rw [knows, List.any_eq_false, List.lookup_eq_none_iff]
  refine forall₂_congr fun fact _ => ?_
  rw [beq_iff_eq, bne_iff_ne, ne_comm]

/-- What a report says it goes on saying. -/
theorem Report.lookup_addContext {report : Report} {name : String} {value : Value}
    (h : report.context.lookup name = some value) (facts : List (String × Value)) :
    (report.addContext facts).context.lookup name = some value := by
  induction facts generalizing report with
  | nil => exact h
  | cons fact rest ih =>
    obtain ⟨more, hmore⟩ := context_addFact_prefix report fact
    apply ih
    rw [hmore, List.lookup_append, h]
    rfl

namespace Fault

variable {uri : String} {fault : Fault}

/-- A fault that, if it is a report, says the file. -/
def SaysFile (uri : String) : Fault → Prop
  | .reported report => report.context.lookup "path" = some (.text uri)
  | .broken _ => True

/-- A fault that, if it is a report, says no other file. -/
def AdmitsFile (uri : String) : Fault → Prop
  | .reported report => report.context.lookup "path" = none ∨
      report.context.lookup "path" = some (.text uri)
  | .broken _ => True

/-- A fault that says the file says no other. -/
theorem SaysFile.admitsFile (h : fault.SaysFile uri) : fault.AdmitsFile uri := by
  cases fault with
  | reported report => exact .inr h
  | broken cause => trivial

/-- A report that names facts of other names says no file. -/
theorem Mentions.admitsFile {names : List String} (h : fault.Mentions names)
    (hn : "path" ∉ names) : fault.AdmitsFile uri := by
  cases fault with
  | broken cause => trivial
  | reported report =>
    refine .inl (List.lookup_eq_none_iff.mpr fun fact hf => ?_)
    rw [bne_iff_ne]
    intro same
    exact hn (same ▸ h fact hf)

/-- Added facts are named as well. -/
theorem Mentions.addContext {names : List String} (h : fault.Mentions names)
    {facts : List (String × Value)} (hf : ∀ fact ∈ facts, fact.1 ∈ names) :
    (fault.addContext facts).Mentions names := by
  cases fault with
  | broken cause => trivial
  | reported report =>
    intro fact hfact
    rcases Report.mem_context_addContext hfact with known | added
    · exact h fact known
    · exact hf fact added

/-- More names may be named. -/
theorem Mentions.mono {names more : List String} (h : fault.Mentions names) (hs : names ⊆ more) :
    fault.Mentions more := by
  cases fault with
  | broken cause => trivial
  | reported report => exact fun fact hf => hs (h fact hf)

/-- A report that is made with the file at the front says it. -/
theorem saysFile_report {kind : ReportKind} {message : String} {facts : List (String × Value)} :
    (Fault.report kind message (("path", .text uri) :: facts)).SaysFile uri := by
  have told : ((⟨kind, message, []⟩ : Report).addFact ("path", .text uri)).context.lookup "path" =
      some (.text uri) := by rfl
  exact Report.lookup_addContext told facts

/-- A fault of a reader that is made with the file at the front says it. -/
theorem saysFile_readerFault {message : String} {facts : List (String × Value)}
    {cause : Breakdown} :
    (readerFault message (("path", .text uri) :: facts) cause).SaysFile uri := by
  rw [readerFault]
  split
  · exact saysFile_report
  · trivial

/-- A fault that says no other file is told the file. -/
theorem AdmitsFile.saysFile (h : fault.AdmitsFile uri) :
    (fault.addContext [("path", .text uri)]).SaysFile uri := by
  cases fault with
  | broken cause => trivial
  | reported report =>
    rcases h with unknown | known
    · have fresh : report.knows "path" = false := Report.knows_eq_false_iff.mpr unknown
      have told : (report.addFact ("path", .text uri)).context =
          report.context ++ [("path", .text uri)] := by
        simp [Report.addFact, fresh]
      show (report.addFact ("path", .text uri)).context.lookup "path" = some (.text uri)
      rw [told, List.lookup_append, unknown]
      rfl
    · exact Report.lookup_addContext known _

/-- A fault that says another file goes on saying that one. -/
theorem addContext_of_not_admitsFile (h : ¬ fault.AdmitsFile uri) :
    fault.addContext [("path", .text uri)] = fault := by
  cases fault with
  | broken cause => rfl
  | reported report =>
    have known : report.knows "path" = true := by
      rw [← Bool.not_eq_false, Report.knows_eq_false_iff]
      exact fun unknown => h (.inl unknown)
    have same : report.addFact ("path", .text uri) = report := by
      simp [Report.addFact, known]
    exact congrArg Fault.reported same

end Fault

end OrcRows
