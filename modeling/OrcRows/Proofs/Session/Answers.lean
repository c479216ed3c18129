import OrcRows.Session.Basic
import OrcRows.Proofs.Outcome

/-!
# What a session comes to know

A session finds declared type, schema and partition values at most once. What it knows it answers
again without any work, and what it answers it knows. A stream is made from these answers alone.
-/

namespace OrcRows

/-- A value is gone on with. -/
theorem Answer.ok_andThen {α β : Type} (value : α) (session : Session)
    (next : α → Session → Answer β) :
    Answer.andThen (.ok value, session) next = next value session :=
  rfl

/-- An answer without a fault that goes on had a value to go on with. -/
theorem Answer.andThen_eq_ok {α β : Type} {answer : Answer α} {next : α → Session → Answer β}
    {result : β} {session : Session} (h : answer.andThen next = (.ok result, session)) :
    ∃ value between, answer = (.ok value, between) ∧
      next value between = (.ok result, session) := by
  obtain ⟨outcome, between⟩ := answer
  cases outcome with
  | ok value => exact ⟨value, between, rfl, h⟩
  | error fault => cases h

namespace Session

variable {session session' : Session}

/-- A known declared type is answered as it is. -/
theorem nativeSchema_of_known {native : NativeType} (h : session.native = some native) :
    session.nativeSchema = (.ok native, session) := by
  rw [nativeSchema, h]

/-- A known schema of the columns is answered as it is. -/
theorem fileSchema_of_known {columns : Schema} (h : session.columns = some columns) :
    session.fileSchema = (.ok columns, session) := by
  rw [fileSchema, h]

/-- Known partitions are answered as they are. -/
theorem resolvePartitions_of_known {partitions : List String × PartitionMap}
    (h : session.partitions = some partitions) :
    session.resolvePartitions = (.ok partitions, session) := by
  rw [resolvePartitions, h]

/-- A declared type that is answered is known, and nothing else changes but the site. -/
theorem nativeSchema_eq_ok {native : NativeType}
    (h : session.nativeSchema = (.ok native, session')) :
    session'.native = some native ∧ session'.request = session.request ∧
      session'.columns = session.columns ∧ session'.partitions = session.partitions := by
  rw [nativeSchema] at h
  split at h
  case h_1 known hn =>
    cases h
    exact ⟨hn, rfl, rfl, rfl⟩
  case h_2 =>
    split at h
    · cases h
    · split at h
      · cases h
      · cases h
        exact ⟨rfl, rfl, rfl, rfl⟩

/-- A schema of the columns that is answered is known, and partitions do not change. -/
theorem fileSchema_eq_ok {columns : Schema} (h : session.fileSchema = (.ok columns, session')) :
    session'.columns = some columns ∧ session'.request = session.request ∧
      session'.partitions = session.partitions := by
  rw [fileSchema] at h
  split at h
  case h_1 known hc =>
    cases h
    exact ⟨hc, rfl, rfl⟩
  case h_2 =>
    obtain ⟨native, between, hn, h⟩ := Answer.andThen_eq_ok h
    obtain ⟨_, hrequest, _, hpartitions⟩ := nativeSchema_eq_ok hn
    simp only at h
    split at h
    · cases h
    · cases h
      exact ⟨rfl, hrequest, hpartitions⟩

/-- Partitions that are answered are known, and types do not change. -/
theorem resolvePartitions_eq_ok {partitions : List String × PartitionMap}
    (h : session.resolvePartitions = (.ok partitions, session')) :
    session'.partitions = some partitions ∧ session'.request = session.request ∧
      session'.columns = session.columns ∧ session'.native = session.native := by
  rw [resolvePartitions] at h
  split at h
  case h_1 known given hp =>
    cases h
    exact ⟨hp, rfl, rfl, rfl⟩
  case h_2 =>
    cases h
    exact ⟨rfl, rfl, rfl, rfl⟩
  case h_3 =>
    simp only at h
    split at h
    · split at h
      · cases h
      · cases h
        exact ⟨rfl, rfl, rfl, rfl⟩
    · cases h
      exact ⟨rfl, rfl, rfl, rfl⟩

/-- What a stream of rows is made from: the schema of the columns, the names and values of the
partitions, and the declared type of each column. -/
structure Resolves (session : Session) (stream : Stream) (tableId : Option String)
    (columns : Schema) (partitions : List String × PartitionMap) (native : NativeType)
    (planned : List PlanColumn) : Prop where
  /-- The schema of the columns is known. -/
  columns_known : session.columns = some columns
  /-- The partitions are known. -/
  partitions_known : session.partitions = some partitions
  /-- The declared type is known. -/
  native_known : session.native = some native
  /-- The schema of rows is that of the columns with the partitions behind. -/
  schema_known : ∃ schema, columns.withPartitions partitions.1 = .ok schema
  /-- The columns are planned. -/
  planned_known : planColumns native columns = .ok planned
  /-- The stream reads the planned columns. -/
  stream_eq : stream = ⟨⟨session.uri, session.request.options.textPolicy, planned,
    partitions.2.values partitions.1, tableId⟩, session.request.handle, session.request.readerName,
    .fresh⟩

/-- A stream that is answered is made from what the session knows then. -/
theorem rows_eq_ok {tableId : Option String} {stream : Stream}
    (h : session.rows tableId = (.ok stream, session')) :
    session.detect = .ok true ∧ session'.request = session.request ∧
      ∃ columns partitions native planned,
        session'.Resolves stream tableId columns partitions native planned := by
  rw [rows] at h
  split at h
  case h_1 => cases h
  case h_2 => cases h
  case h_3 detected =>
    obtain ⟨columns, first, hc, h⟩ := Answer.andThen_eq_ok h
    obtain ⟨schema, second, hs, h⟩ := Answer.andThen_eq_ok h
    obtain ⟨hcolumns, hrequest, _⟩ := fileSchema_eq_ok hc
    obtain ⟨partitions, between, hr, hs⟩ := Answer.andThen_eq_ok hs
    obtain ⟨hpartitions, hrequest', hsame, _⟩ := resolvePartitions_eq_ok hr
    have hknown := hsame.trans hcolumns
    rw [fileSchema_of_known hknown] at hs
    obtain ⟨hschema, rfl⟩ := Prod.mk.inj hs
    obtain ⟨again, third, hp, h⟩ := Answer.andThen_eq_ok h
    rw [resolvePartitions_of_known hpartitions] at hp
    cases hp
    obtain ⟨native, last, hn, h⟩ := Answer.andThen_eq_ok h
    obtain ⟨hnative, hrequest'', hcolumns', hpartitions'⟩ := nativeSchema_eq_ok hn
    obtain ⟨hmade, rfl⟩ := Prod.mk.inj h
    cases hplan : planColumns native columns with
    | error fault =>
      rw [hplan] at hmade
      cases hmade
    | ok planned =>
      rw [hplan] at hmade
      injection hmade with hstream
      have hsameRequest := hrequest''.trans (hrequest'.trans hrequest)
      refine ⟨detected, hsameRequest, columns, partitions, native, planned, ?_⟩
      exact ⟨hcolumns'.trans hknown, hpartitions'.trans hpartitions, hnative,
        ⟨schema, hschema⟩, hplan, hstream.symm⟩

end Session

end OrcRows
