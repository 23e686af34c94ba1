import CitPhysicalXR.Runtime.Confinement

/-! Retention: what the store holds once it has been pruned, and which of the removals are
reported. -/
namespace CitPhysicalXR.Runtime
open Foundation

/-- As many of the newest recordings as may stay, of those that are not older than the limit. -/
structure RetentionPolicy.Retains (policy : RetentionPolicy) (now : Instant)
    (found kept : List Recording) : Prop where
  fresh : ∀ recording ∈ kept, recording ∈ found ∧ now - policy.maxAge ≤ recording.startedAt
  nodup : kept.Nodup
  count : kept.length = min policy.maxRecordings
    (found.countP fun recording => decide (now - policy.maxAge ≤ recording.startedAt))
  newest : ∀ recording ∈ kept, ∀ other ∈ found, now - policy.maxAge ≤ other.startedAt →
    other ∉ kept → other.startedAt ≤ recording.startedAt

/-- Each recording that is gone has its id on the list once, and no other id is on it. -/
def Removes (found kept : List Recording) (removed : List String) : Prop :=
  removed.Nodup ∧ ∀ recordingId, recordingId ∈ removed ↔
    recordingId ∈ found.map Recording.recordingId ∧ recordingId ∉ kept.map Recording.recordingId

namespace Classroom
variable (s : Classroom) (recording : Recording) (actorId : String) (now : Instant)
  (diskFails : Bool)

/-- The store of `stop_recording` when its file has been written, or could not be. -/
def written : Table Recording.recordingId :=
  if diskFails then s.store.stored else s.store.stored.upsert recording

/-- The removals that `stop_recording` audits. -/
def auditedRemovals (after : Classroom) : List AuditContext :=
  ((after.audit.drop s.audit.length).filter fun entry =>
    decide (entry.action = .retentionPruned)).map (·.context)

/-- What a removal is audited with; without one there is no entry. -/
def removalContexts (removed : List String) : List AuditContext :=
  if removed = [] then []
  else [redact [("count", .int removed.length),
    ("result", .str (String.intercalate "," removed))]]

structure RetentionExact : Prop where
  saved : s.store.policy.Retains now (s.store.stored.upsert recording).rows
    (s.store.save recording now).stored.rows
  pruned : s.store.policy.Retains now s.store.stored.rows (s.store.prune now).1.stored.rows
  reported : Removes s.store.stored.rows (s.store.prune now).1.stored.rows (s.store.prune now).2
  stopped : diskFails = false → s.store.policy.Retains now (s.store.stored.upsert recording).rows
    (s.stopRecording recording actorId now diskFails).store.stored.rows
  audited : ∃ removed, Removes (s.written recording diskFails).rows
    (s.stopRecording recording actorId now diskFails).store.stored.rows removed ∧
    s.auditedRemovals (s.stopRecording recording actorId now diskFails) = removalContexts removed

end Classroom

namespace RecordingStore
variable (store : RecordingStore) (now : Instant)

theorem listed_pairwise : store.listed.Pairwise Recording.listsBefore := by
  have htotal : Std.Total Recording.listsBefore := by
    refine ⟨?_⟩
    intro first second
    rcases lt_trichotomy first.startedAt second.startedAt with hlt | heq | hgt
    · exact .inr (.inl hlt)
    · rcases String.le_total first.fileName second.fileName with hle | hle
      · exact .inl (.inr ⟨heq.symm, hle⟩)
      · exact .inr (.inr ⟨heq, hle⟩)
    · exact .inl (.inl hgt)
  have htrans : IsTrans Recording Recording.listsBefore := by
    refine ⟨?_⟩
    intro first second third h h'
    rcases h with hlt | ⟨heq, hle⟩
    · rcases h' with hlt' | ⟨heq', _⟩
      · exact .inl (hlt'.trans hlt)
      · exact .inl (heq' ▸ hlt)
    · rcases h' with hlt' | ⟨heq', hle'⟩
      · exact .inl (heq ▸ hlt')
      · exact .inr ⟨heq'.trans heq, String.le_trans hle hle'⟩
  exact List.pairwise_insertionSort _ _

/-- The recordings within the age limit, the newest first. -/
def survivors : List Recording := store.listed.filter fun recording => !store.isStale now recording

theorem survivors_nodup : (store.survivors now).Nodup := by
  refine List.Nodup.filter _ ((List.perm_insertionSort _ _).nodup_iff.mpr ?_)
  exact List.Nodup.of_map _ store.stored.unique

theorem prune_perm : (store.prune now).1.stored.rows.Perm
    ((store.survivors now).take store.policy.maxRecordings) := by
  have hnodup := store.survivors_nodup now
  refine (List.perm_ext_iff_of_nodup (List.Nodup.of_map _ (store.prune now).1.stored.unique)
    (hnodup.sublist (List.take_sublist ..))).mpr ?_
  intro recording
  rw [Table.mem_rows, mem_prune, ← mem_listed, doomed]
  rw [← List.take_append_drop store.policy.maxRecordings (store.survivors now),
    List.nodup_append] at hnodup
  constructor
  · rintro ⟨hmem, hkept⟩
    rw [List.mem_append, not_or] at hkept
    have hfresh : recording ∈ store.survivors now := by
      refine List.mem_filter.mpr ⟨hmem, ?_⟩
      rw [Bool.not_eq_true']
      exact Bool.eq_false_iff.mpr fun hstale => hkept.1 (List.mem_filter.mpr ⟨hmem, hstale⟩)
    rw [← List.take_append_drop store.policy.maxRecordings (store.survivors now)] at hfresh
    rcases List.mem_append.mp hfresh with htake | hdrop
    · exact htake
    · exact absurd hdrop hkept.2
  · intro htake
    have hmem := List.mem_filter.mp (List.mem_of_mem_take htake)
    refine ⟨hmem.1, ?_⟩
    rw [List.mem_append, not_or]
    refine ⟨?_, fun hdrop => hnodup.2.2 _ htake _ hdrop rfl⟩
    intro hstale
    have hstale := (List.mem_filter.mp hstale).2
    rw [hstale] at hmem
    exact absurd hmem.2 (by decide)

theorem isStale_eq_false {recording : Recording} : store.isStale now recording = false ↔
    now - store.policy.maxAge ≤ recording.startedAt := by
  simp [isStale]

theorem prune_retains : store.policy.Retains now store.stored.rows
    (store.prune now).1.stored.rows := by
  have hperm := store.prune_perm now
  have hfresh {recording : Recording} (h : recording ∈ store.survivors now) :
      recording ∈ store.stored.rows ∧ now - store.policy.maxAge ≤ recording.startedAt := by
    obtain ⟨hmem, hstale⟩ := List.mem_filter.mp h
    rw [Bool.not_eq_true', isStale_eq_false] at hstale
    exact ⟨mem_listed.mp hmem, hstale⟩
  refine ⟨?_, List.Nodup.of_map _ (store.prune now).1.stored.unique, ?_, ?_⟩
  · intro recording hmem
    exact hfresh (List.mem_of_mem_take (hperm.mem_iff.mp hmem))
  · have hlisted : store.listed.Perm store.stored.rows := List.perm_insertionSort _ _
    rw [hperm.length_eq, List.length_take, survivors, ← List.countP_eq_length_filter,
      hlisted.countP_eq]
    congr 1
    refine List.countP_congr fun recording _ => ?_
    rw [Bool.not_eq_true', isStale_eq_false, decide_eq_true_iff]
  · intro recording hmem other hother hage hgone
    have htake := hperm.mem_iff.mp hmem
    have hdrop : other ∈ (store.survivors now).drop store.policy.maxRecordings := by
      have hsurvives : other ∈ store.survivors now := by
        refine List.mem_filter.mpr ⟨mem_listed.mpr hother, ?_⟩
        rw [Bool.not_eq_true', isStale_eq_false]
        exact hage
      rw [← List.take_append_drop store.policy.maxRecordings (store.survivors now)] at hsurvives
      rcases List.mem_append.mp hsurvives with h | h
      · exact absurd (hperm.mem_iff.mpr h) hgone
      · exact h
    have hsorted : (store.survivors now).Pairwise Recording.listsBefore :=
      store.listed_pairwise.sublist List.filter_sublist
    rw [← List.take_append_drop store.policy.maxRecordings (store.survivors now),
      List.pairwise_append] at hsorted
    rcases hsorted.2.2 recording htake other hdrop with hlt | ⟨heq, _⟩
    · exact hlt.le
    · exact heq.le

theorem doomed_nodup : (store.doomed now).Nodup := by
  have hlisted : store.listed.Nodup :=
    (List.perm_insertionSort _ _).nodup_iff.mpr (List.Nodup.of_map _ store.stored.unique)
  refine List.nodup_append.mpr ⟨hlisted.filter _,
    (store.survivors_nodup now).sublist (List.drop_sublist ..), ?_⟩
  rintro stale hstale fresh hfresh rfl
  have hsurvives := (List.mem_filter.mp (List.mem_of_mem_drop hfresh)).2
  rw [(List.mem_filter.mp hstale).2] at hsurvives
  cases hsurvives

theorem prune_removes : Removes store.stored.rows (store.prune now).1.stored.rows
    (store.prune now).2 := by
  refine ⟨List.Nodup.map_on ?_ (store.doomed_nodup now), ?_⟩
  · intro first hfirst second hsecond hid
    exact Table.eq_of_key_eq (t := store.stored) (mem_doomed hfirst) (mem_doomed hsecond) hid
  · intro recordingId
    simp only [prune, List.mem_map]
    constructor
    · rintro ⟨recording, hdoomed, rfl⟩
      refine ⟨⟨recording, mem_doomed hdoomed, rfl⟩, ?_⟩
      rintro ⟨other, hkept, hid⟩
      obtain ⟨hmem, hother⟩ := mem_prune.mp hkept
      exact hother (Table.eq_of_key_eq (t := store.stored) hmem (mem_doomed hdoomed) hid ▸ hdoomed)
    · rintro ⟨⟨recording, hmem, rfl⟩, hgone⟩
      refine ⟨recording, ?_, rfl⟩
      by_contra hkept
      exact hgone ⟨recording, mem_prune.mpr ⟨hmem, hkept⟩, rfl⟩

/-- Nothing is past a limit. -/
theorem doomed_eq_nil : store.doomed now = [] ↔
    (∀ recording ∈ store.stored, now - store.policy.maxAge ≤ recording.startedAt) ∧
      store.stored.rows.length ≤ store.policy.maxRecordings := by
  have hlisted : store.listed.Perm store.stored.rows := List.perm_insertionSort _ _
  have hfresh : store.listed.filter (store.isStale now) = [] ↔
      ∀ recording ∈ store.stored, now - store.policy.maxAge ≤ recording.startedAt := by
    rw [List.filter_eq_nil_iff]
    simp only [Bool.not_eq_true, mem_listed, isStale_eq_false]
  rw [doomed, List.append_eq_nil_iff, hfresh, List.drop_eq_nil_iff]
  refine and_congr_right ?_
  intro hall
  rw [List.filter_eq_self.mpr, hlisted.length_eq]
  intro recording hmem
  rw [Bool.not_eq_true', isStale_eq_false]
  exact hall recording (mem_listed.mp hmem)

theorem prune_rows (h : store.doomed now = []) :
    (store.prune now).1.stored.rows = store.stored.rows := by
  simp [prune, h, Table.filterRows]

end RecordingStore

theorem removes_nil {found kept : List Recording} :
    Removes found kept [] ↔
      ∀ recording ∈ found, recording.recordingId ∈ kept.map Recording.recordingId := by
  constructor
  · intro h recording hmem
    by_contra hgone
    exact List.not_mem_nil ((h.2 _).mpr ⟨List.mem_map_of_mem hmem, hgone⟩)
  · intro h
    refine ⟨List.nodup_nil, ?_⟩
    intro recordingId
    refine iff_of_false List.not_mem_nil ?_
    rintro ⟨hfound, hgone⟩
    obtain ⟨recording, hmem, rfl⟩ := List.mem_map.mp hfound
    exact hgone (h recording hmem)

namespace Classroom
variable {s : Classroom} {recording : Recording} {actorId : String} {now : Instant}
  {diskFails : Bool}

theorem stopRecording_pruned : (if diskFails then (s.store, [])
    else (s.store.save recording now).prune now).2 = [] := by
  cases diskFails with
  | true => rfl
  | false => exact s.store.prune_save recording now

theorem stopRecording_store : (s.stopRecording recording actorId now diskFails).store =
    (if diskFails then (s.store, []) else (s.store.save recording now).prune now).1 := by
  have hpruned := @stopRecording_pruned s recording now diskFails
  simp only [stopRecording]
  rw [if_pos hpruned]
  rfl

theorem auditedRemovals_stop :
    s.auditedRemovals (s.stopRecording recording actorId now diskFails) = [] := by
  have hpruned := @stopRecording_pruned s recording now diskFails
  simp only [stopRecording]
  rw [if_pos hpruned]
  simp [auditedRemovals, record]

theorem stopRecording_rows : (s.stopRecording recording actorId now false).store.stored.rows =
    (s.store.save recording now).stored.rows := by
  rw [stopRecording_store]
  exact RecordingStore.prune_rows _ _ RecordingStore.doomed_prune

/-- The removals of a stop go unreported exactly when there are some. -/
theorem audited_iff : (∃ removed, Removes (s.written recording diskFails).rows
    (s.stopRecording recording actorId now diskFails).store.stored.rows removed ∧
      s.auditedRemovals (s.stopRecording recording actorId now diskFails) =
        removalContexts removed) ↔
    diskFails = true ∨ ({ s.store with stored := s.store.stored.upsert recording } :
      RecordingStore).doomed now = [] := by
  have hnone : (∃ removed, Removes (s.written recording diskFails).rows
      (s.stopRecording recording actorId now diskFails).store.stored.rows removed ∧
        s.auditedRemovals (s.stopRecording recording actorId now diskFails) =
          removalContexts removed) ↔
      Removes (s.written recording diskFails).rows
        (s.stopRecording recording actorId now diskFails).store.stored.rows [] := by
    rw [auditedRemovals_stop]
    constructor
    · rintro ⟨removed, hremoves, hnone⟩
      unfold removalContexts at hnone
      split at hnone
      · rename_i hempty
        exact hempty ▸ hremoves
      · cases hnone
    · intro hremoves
      exact ⟨[], hremoves, rfl⟩
  rw [hnone, removes_nil]
  cases diskFails with
  | true =>
    refine iff_of_true ?_ (.inl rfl)
    intro kept hkept
    rw [stopRecording_store]
    exact List.mem_map_of_mem hkept
  | false =>
    rw [stopRecording_rows]
    simp only [written, Bool.false_eq_true, false_or, if_false]
    constructor
    · intro hkept
      refine List.eq_nil_iff_forall_not_mem.mpr ?_
      intro other hdoomed
      have hmem := RecordingStore.mem_doomed hdoomed
      obtain ⟨same, hsame, hid⟩ := List.mem_map.mp (hkept other hmem)
      obtain ⟨hstored, hother⟩ := RecordingStore.mem_prune.mp hsame
      exact hother (Table.eq_of_key_eq hstored hmem hid ▸ hdoomed)
    · intro hnothing other hmem
      exact List.mem_map_of_mem
        (RecordingStore.mem_prune.mpr ⟨hmem, hnothing ▸ List.not_mem_nil⟩)

/-- The limits are held to and the removals are reported exactly when the file of a recording could
not be written, or the store is within its limits once it has been. -/
theorem retention_exact_iff (s : Classroom) (recording : Recording) (actorId : String)
    (now : Instant) (diskFails : Bool) :
    s.RetentionExact recording actorId now diskFails ↔
      diskFails = true ∨
        (∀ kept ∈ s.store.stored.upsert recording,
          now - s.store.policy.maxAge ≤ kept.startedAt) ∧
        (s.store.stored.upsert recording).rows.length ≤ s.store.policy.maxRecordings := by
  have hwithin := RecordingStore.doomed_eq_nil
    { s.store with stored := s.store.stored.upsert recording } now
  constructor
  · intro h
    rcases audited_iff.mp h.audited with hfails | hnothing
    · exact .inl hfails
    · exact .inr (hwithin.mp hnothing)
  · intro h
    have hsaved := RecordingStore.prune_retains
      { s.store with stored := s.store.stored.upsert recording } now
    refine ⟨hsaved, s.store.prune_retains now, s.store.prune_removes now, ?_, ?_⟩
    · rintro rfl
      rw [stopRecording_rows]
      exact hsaved
    · refine audited_iff.mpr ?_
      rcases h with hfails | hlimits
      · exact .inl hfails
      · exact .inr (hwithin.mpr hlimits)

def smallRoom : Classroom where
  authority := { instructorPasscode := "3f9a1c20" }
  store := {
    stored := Table.empty.upsert ⟨"recording-1", "lesson-1", 0, []⟩
    policy := { maxRecordings := 1 } }

/-- The second recording takes the place of the first, and the audit does not say so. -/
theorem removal_unreported :
    ¬smallRoom.RetentionExact ⟨"recording-2", "lesson-1", seconds 1, []⟩ "system" (seconds 2)
      false := by
  intro h
  obtain ⟨removed, hremoves, haudited⟩ := h.audited
  have hgone : "recording-1" ∈ removed := (hremoves.2 "recording-1").mpr (by decide)
  have hsilent : smallRoom.auditedRemovals (smallRoom.stopRecording
      ⟨"recording-2", "lesson-1", seconds 1, []⟩ "system" (seconds 2) false) = [] :=
    auditedRemovals_stop
  rw [hsilent] at haudited
  unfold removalContexts at haudited
  split at haudited
  · rename_i hempty
    rw [hempty] at hgone
    cases hgone
  · cases haudited

end Classroom

end CitPhysicalXR.Runtime
