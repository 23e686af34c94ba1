import CitPhysicalXR.Projects.ProjectStore

/-! What a save leaves on disk wherever it is cut short, and the owner of a project over all saves. -/
namespace CitPhysicalXR.Projects
open Foundation

variable {t : ProjectDirectory} {ownerId : String} {environment : StoreEnvironment}

theorem readOwner_congr {s : ProjectDirectory} {id : String}
    (h : t.files (.project .owner id) = s.files (.project .owner id)) :
    t.readOwner id = s.readOwner id := by
  unfold ProjectDirectory.readOwner
  rw [h]

theorem readOwner_none {s : ProjectDirectory} {id : String}
    (h : s.files (.project .owner id) = none) : s.readOwner id = none := by
  unfold ProjectDirectory.readOwner
  rw [h]

theorem readOwner_ownerText {s : ProjectDirectory} {id : String}
    (h : s.files (.project .owner id) = some (ownerText ownerId)) (hnamed : ownerId ≠ "") :
    s.readOwner id = some ownerId := by
  unfold ProjectDirectory.readOwner
  rw [h]
  simp [ownerText, JsonObject.get?, hnamed]

theorem get_congr {s : ProjectDirectory} {validator : SchemaValidator} {id : String}
    (h : t.files (.project .document id) = s.files (.project .document id)) :
    t.get validator id = s.get validator id := by
  unfold ProjectDirectory.get ProjectDirectory.readDocument
  rw [h]

structure SameProjects (s t : ProjectDirectory) : Prop where
  documents : ∀ id, t.files (.project .document id) = s.files (.project .document id)
  owners : ∀ id, t.files (.project .owner id) = s.files (.project .owner id)
  saves : t.saves = s.saves

namespace SameProjects
variable {s t u : ProjectDirectory}

theorem refl (s : ProjectDirectory) : SameProjects s s := ⟨fun _ => rfl, fun _ => rfl, rfl⟩

theorem put {name : FileName} {text : Option FileText} (h : SameProjects s t) :
    SameProjects (s.put name text) (t.put name text) where
  documents id := by
    simp only [ProjectDirectory.put, Function.update_apply, h.documents]
  owners id := by
    simp only [ProjectDirectory.put, Function.update_apply, h.owners]
  saves := h.saves

theorem put_other {name : FileName} {text : Option FileText} (h : SameProjects s t)
    (hdocument : ∀ id, name ≠ .project .document id) (howner : ∀ id, name ≠ .project .owner id) :
    SameProjects s (t.put name text) where
  documents id := by
    rw [← h.documents]
    exact Function.update_of_ne (hdocument id).symm _ _
  owners id := by
    rw [← h.owners]
    exact Function.update_of_ne (howner id).symm _ _
  saves := h.saves

theorem put_temporary {file : ProjectFile} {id random : String} {text : Option FileText}
    (h : SameProjects s t) : SameProjects s (t.put (.temporary file id random) text) :=
  h.put_other (by simp) (by simp)

theorem put_backup {id : String} {text : Option FileText} (h : SameProjects s t) :
    SameProjects s (t.put (.project .backup id) text) :=
  h.put_other (by simp) (by simp)

theorem rename {file : ProjectFile} {id random : String} {text : FileText} (h : SameProjects s t)
    (htext : t.files (.temporary file id random) = some text) :
    SameProjects (s.put (.project file id) (some text))
      (t.rename (.temporary file id random) (.project file id)) := by
  unfold ProjectDirectory.rename
  rw [htext]
  exact h.put.put_temporary

theorem readOwner (h : SameProjects s t) (id : String) : t.readOwner id = s.readOwner id :=
  readOwner_congr (h.owners id)

theorem get (h : SameProjects s t) (validator : SchemaValidator) (id : String) :
    t.get validator id = s.get validator id :=
  get_congr (h.documents id)

theorem firstSaver (h : SameProjects s t) (id : String) : t.firstSaver id = s.firstSaver id := by
  unfold ProjectDirectory.firstSaver
  rw [h.saves]

end SameProjects

section
variable (environment : StoreEnvironment)

/-- The file is written beside its place and moved there. -/
def writesFile (file : ProjectFile) : Bool :=
  decide (environment.fate (.createTemporary file) = .done) &&
    decide (environment.fate (.writeTemporary file) = .done) &&
    decide (environment.fate (.replace file) = .done)

def writesBackup (s : ProjectDirectory) (projectId : String) : Bool :=
  (s.files (.project .document projectId)).isNone ||
    (decide (environment.fate .readDocument = .done) &&
      decide (environment.fate .clearBackup = .done) &&
      decide (environment.fate .writeBackup = .done))

def placesDocument (s : ProjectDirectory) (projectId : String) : Bool :=
  decide (environment.fate .makeRoot = .done) && writesBackup environment s projectId &&
    writesFile environment .document

/-- The save finds an owner, or writes one. -/
def claimsOwner (s : ProjectDirectory) (projectId : String) : Bool :=
  decide (environment.fate .readOwner = .done) &&
    ((s.readOwner projectId).isSome || writesFile environment .owner)

variable {environment} {s : ProjectDirectory} {projectId : String}

theorem triple_osCall {which : StoreCall} {f : ProjectDirectory → ProjectDirectory}
    {P : ProjectDirectory → Prop} {Q : Unit → ProjectDirectory → Prop}
    {E : Halt ProjectStoreError → ProjectDirectory → Prop}
    (hdone : ∀ t, environment.fate which = .done → P t → Q () (f t))
    (hhalt : ∀ t halt, environment.fate which ≠ .done → P t → E halt t) :
    Effect.Triple P (osCall environment which f) Q E :=
  OsCall.triple_call hdone hhalt

theorem triple_get {P : ProjectDirectory → Prop}
    {E : Halt ProjectStoreError → ProjectDirectory → Prop} :
    Effect.Triple P (get : StoreM ProjectDirectory) (fun t u => P u ∧ t = u) E :=
  fun _ ht => ⟨ht, rfl⟩

theorem triple_atomicWrite {file : ProjectFile} {text : FileText}
    {placed : ProjectDirectory → ProjectDirectory}
    (hplaced : ∀ {t u}, SameProjects t u → SameProjects (placed t) (placed u)) :
    Effect.Triple (SameProjects s) (atomicWrite environment file projectId text placed)
      (fun _ t => writesFile environment file = true ∧
        SameProjects (placed (s.put (.project file projectId) (some text))) t)
      (fun _ t => writesFile environment file = false ∧ SameProjects s t) := by
  let temporary := FileName.temporary file projectId (environment.random file)
  unfold atomicWrite
  refine Effect.Triple.bind
    (Q := fun _ t => environment.fate (.createTemporary file) = .done ∧ SameProjects s t) ?_ ?_
  · refine triple_osCall ?_ ?_
    · intro t hdone ht
      exact ⟨hdone, ht.put_temporary⟩
    · intro t _ hhalt ht
      exact ⟨by simp [writesFile, hhalt], ht⟩
  · intro _
    refine OsCall.triple_onError ?_ ?_
    · refine Effect.Triple.bind
        (Q := fun _ t => environment.fate (.createTemporary file) = .done ∧
          environment.fate (.writeTemporary file) = .done ∧ SameProjects s t ∧
          t.files temporary = some text) ?_ ?_
      · refine triple_osCall ?_ ?_
        · rintro t hdone ⟨hcreated, ht⟩
          exact ⟨hcreated, hdone, ht.put_temporary, Function.update_self ..⟩
        · rintro t _ hhalt ⟨_, ht⟩
          exact ⟨by simp [writesFile, hhalt], ht⟩
      · intro _
        refine triple_osCall ?_ ?_
        · rintro t hdone ⟨hcreated, hwritten, ht, htext⟩
          exact ⟨by simp [writesFile, hcreated, hwritten, hdone], hplaced (ht.rename htext)⟩
        · rintro t _ hhalt ⟨_, _, ht, _⟩
          exact ⟨by simp [writesFile, hhalt], ht⟩
    · refine triple_osCall ?_ ?_
      · rintro t _ ⟨hfails, ht⟩
        exact ⟨hfails, ht.put_temporary⟩
      · exact fun t _ _ ht => ht

theorem triple_writeBackup :
    Effect.Triple (SameProjects s) (writeBackup environment projectId)
      (fun _ t => writesBackup environment s projectId = true ∧ SameProjects s t)
      (fun _ t => writesBackup environment s projectId = false ∧ SameProjects s t) := by
  unfold writeBackup
  refine Effect.Triple.bind triple_get ?_
  intro found
  split
  · rename_i hexists
    have hdocument {t : ProjectDirectory} (ht : SameProjects s t ∧ found = t) :
        (s.files (.project .document projectId)).isNone = false := by
      obtain ⟨hsame, rfl⟩ := ht
      rw [← hsame.documents]
      cases hfile : found.files (.project .document projectId) with
      | none => simp [hfile] at hexists
      | some => rfl
    refine Effect.Triple.bind (Q := fun _ t => SameProjects s t ∧
      (s.files (.project .document projectId)).isNone = false ∧
      environment.fate .readDocument = .done) ?_ ?_
    · refine triple_osCall ?_ ?_
      · intro t hdone ht
        exact ⟨ht.1, hdocument ht, hdone⟩
      · intro t _ hhalt ht
        exact ⟨by simp [writesBackup, hdocument ht, hhalt], ht.1⟩
    · intro _
      refine Effect.Triple.bind (Q := fun _ t => SameProjects s t ∧
        (s.files (.project .document projectId)).isNone = false ∧
        environment.fate .readDocument = .done ∧ environment.fate .clearBackup = .done) ?_ ?_
      · refine triple_osCall ?_ ?_
        · rintro t hdone ⟨ht, hsome, hread⟩
          exact ⟨ht.put_backup, hsome, hread, hdone⟩
        · rintro t _ hhalt ⟨ht, hsome, _⟩
          exact ⟨by simp [writesBackup, hsome, hhalt], ht⟩
      · intro _
        refine triple_osCall ?_ ?_
        · rintro t hdone ⟨ht, _, hread, hclear⟩
          exact ⟨by simp [writesBackup, hread, hclear, hdone], ht.put_backup⟩
        · rintro t _ hhalt ⟨ht, hsome, _⟩
          exact ⟨by simp [writesBackup, hsome, hhalt], ht⟩
  · rename_i habsent
    refine Effect.Triple.pure ?_
    rintro t ⟨ht, rfl⟩
    refine ⟨?_, ht⟩
    rw [Bool.not_eq_true, Option.isSome_eq_false_iff, ht.documents] at habsent
    simp [writesBackup, habsent]

def withOwner (s : ProjectDirectory) (projectId ownerId : String) : ProjectDirectory :=
  if (s.readOwner projectId).isNone then
    s.put (.project .owner projectId) (some (ownerText ownerId))
  else s

theorem triple_claimOwner {ownerId : String} :
    Effect.Triple (SameProjects s) (claimOwner environment projectId ownerId)
      (fun _ t => claimsOwner environment s projectId = true ∧
        SameProjects (withOwner s projectId ownerId) t)
      (fun _ t => claimsOwner environment s projectId = false ∧ SameProjects s t) := by
  unfold claimOwner
  refine Effect.Triple.bind
    (Q := fun _ t => environment.fate .readOwner = .done ∧ SameProjects s t) ?_ ?_
  · refine triple_osCall ?_ ?_
    · exact fun t hdone ht => ⟨hdone, ht⟩
    · intro t _ hhalt ht
      exact ⟨by simp [claimsOwner, hhalt], ht⟩
  · intro _
    refine Effect.Triple.bind triple_get ?_
    intro found
    split
    · rename_i hnone
      rintro t ⟨⟨hdone, ht⟩, rfl⟩
      rw [ht.readOwner] at hnone
      have hsome : (s.readOwner projectId).isSome = false := by
        rwa [Option.isSome_eq_false_iff]
      refine Effect.Triple.conseq (triple_atomicWrite (s := s) id) (fun _ h => h) ?_ ?_ _ ht
      · rintro _ u ⟨hwrites, hu⟩
        refine ⟨by simp [claimsOwner, hdone, hwrites], ?_⟩
        unfold withOwner
        rw [if_pos hnone]
        exact hu
      · rintro _ u ⟨hwrites, hu⟩
        exact ⟨by simp [claimsOwner, hsome, hwrites], hu⟩
    · rename_i hsome
      refine Effect.Triple.pure ?_
      rintro t ⟨⟨hdone, ht⟩, rfl⟩
      rw [ht.readOwner] at hsome
      refine ⟨?_, ?_⟩
      · rw [Bool.not_eq_true, Option.isNone_eq_false_iff] at hsome
        simp [claimsOwner, hdone, hsome]
      · unfold withOwner
        rwa [if_neg hsome]

def withDocument (s : ProjectDirectory) (projectId ownerId : String) (stored : JsonObject) :
    ProjectDirectory :=
  { s.put (.project .document projectId) (some (.object stored)) with
    saves := s.saves ++ [⟨projectId, ownerId, stored⟩] }

/-- What a save leaves: the old projects, those with the new document, or those with the new
document and an owner. -/
inductive SaveEffect (environment : StoreEnvironment) (s : ProjectDirectory)
    (projectId ownerId : String) (stored : JsonObject) (t : ProjectDirectory) : Prop
  | unplaced (hplaces : placesDocument environment s projectId = false) (ht : SameProjects s t)
  | placed (hplaces : placesDocument environment s projectId = true)
      (hclaims : claimsOwner environment s projectId = false)
      (ht : SameProjects (withDocument s projectId ownerId stored) t)
  | claimed (hplaces : placesDocument environment s projectId = true)
      (hclaims : claimsOwner environment s projectId = true)
      (ht : SameProjects (withOwner (withDocument s projectId ownerId stored) projectId ownerId) t)

theorem readOwner_withDocument (s : ProjectDirectory) (projectId ownerId : String)
    (stored : JsonObject) (id : String) :
    (withDocument s projectId ownerId stored).readOwner id = s.readOwner id := by
  refine readOwner_congr ?_
  simp [withDocument, ProjectDirectory.put]

theorem save_effect {validator : SchemaValidator} {document stored : JsonObject}
    {ownerId : String} {time : Instant}
    (haccept : accept validator document time = .ok (stored, projectId)) :
    SaveEffect environment s projectId ownerId stored
      (Effect.final (save validator environment document ownerId time s)) := by
  have hclaims : claimsOwner environment (withDocument s projectId ownerId stored) projectId =
      claimsOwner environment s projectId := by
    unfold claimsOwner
    rw [readOwner_withDocument]
  have htriple : Effect.Triple (SameProjects s)
      (save validator environment document ownerId time)
      (fun _ => SaveEffect environment s projectId ownerId stored)
      (fun _ => SaveEffect environment s projectId ownerId stored) := by
    unfold save
    refine Effect.Triple.bind
      (Q := fun accepted t => accepted = (stored, projectId) ∧ SameProjects s t) ?_ ?_
    · intro t ht
      unfold raise
      rw [haccept]
      exact ⟨rfl, ht⟩
    rintro accepted t ⟨rfl, ht⟩
    refine Effect.Triple.bind (P := SameProjects s)
      (Q := fun _ t => environment.fate .makeRoot = .done ∧ SameProjects s t) ?_ ?_ t ht
    · refine triple_osCall ?_ ?_
      · intro t hdone ht
        exact ⟨hdone, ht.documents, ht.owners, ht.saves⟩
      · intro t _ hhalt ht
        exact .unplaced (by simp [placesDocument, hhalt]) ht
    intro _
    rintro t ⟨hroot, ht⟩
    refine Effect.Triple.bind (triple_writeBackup.conseq (fun _ h => h) (fun _ _ h => h) ?_) ?_ t ht
    · rintro _ t ⟨hbackup, ht⟩
      exact .unplaced (by simp [placesDocument, hbackup]) ht
    intro _
    rintro t ⟨hbackup, ht⟩
    have hwithDocument {t u : ProjectDirectory} (h : SameProjects t u) :
        SameProjects { t with saves := t.saves ++ [⟨projectId, ownerId, stored⟩] }
          { u with saves := u.saves ++ [⟨projectId, ownerId, stored⟩] } :=
      ⟨h.documents, h.owners, by rw [h.saves]⟩
    refine Effect.Triple.bind ((triple_atomicWrite hwithDocument).conseq (fun _ h => h)
      (fun _ _ h => h) ?_) ?_ t ht
    · rintro _ t ⟨hwrites, ht⟩
      exact .unplaced (by simp [placesDocument, hwrites]) ht
    intro _
    rintro t ⟨hwrites, ht⟩
    have hplaces : placesDocument environment s projectId = true := by
      simp [placesDocument, hroot, hbackup, hwrites]
    refine Effect.Triple.bind (triple_claimOwner.conseq (fun _ h => h) (fun _ _ h => h) ?_) ?_ t ht
    · rintro _ t ⟨hfails, ht⟩
      exact .placed hplaces (hclaims ▸ hfails) ht
    intro _
    refine Effect.Triple.pure ?_
    rintro t ⟨hdone, ht⟩
    exact .claimed hplaces (hclaims ▸ hdone) ht
  exact htriple.final (SameProjects.refl s)

end

/-- The document is whole and the owner is recorded: a save that puts the document of a project
without an owner in its place is not cut before the owner of its own is written. -/
def ProjectDirectory.mayEnd (validator : SchemaValidator) (s : ProjectDirectory) :
    StoreEvent → Bool
  | .save document ownerId time environment =>
    match accept validator document time with
    | .error _ => true
    | .ok (_, projectId) =>
      (s.readOwner projectId).isSome || !placesDocument environment s projectId ||
        (decide (ownerId ≠ "") && claimsOwner environment s projectId)
  | .delete _ => true

def HasFirstOwners (s : ProjectDirectory) : Prop := ∀ id, s.readOwner id = s.firstSaver id

theorem readOwner_withOwner (s : ProjectDirectory) {projectId : String}
    (hnone : s.readOwner projectId = none) (howner : ownerId ≠ "") (id : String) :
    (withOwner s projectId ownerId).readOwner id =
      if id = projectId then some ownerId else s.readOwner id := by
  have hwith : withOwner s projectId ownerId =
      s.put (.project .owner projectId) (some (ownerText ownerId)) := by
    unfold withOwner
    rw [if_pos (by rw [hnone]; rfl)]
  rw [hwith]
  split
  · rename_i hid
    refine readOwner_ownerText ?_ howner
    simp [ProjectDirectory.put, hid]
  · rename_i hid
    refine readOwner_congr ?_
    simp [ProjectDirectory.put, hid]

theorem firstSaver_withDocument (s : ProjectDirectory) (projectId ownerId : String)
    (stored : JsonObject) (id : String) :
    (withDocument s projectId ownerId stored).firstSaver id =
      (s.firstSaver id).or (if id = projectId then some ownerId else none) := by
  unfold ProjectDirectory.firstSaver withDocument
  simp only [List.find?_append, Option.map_or]
  congr 1
  by_cases hid : id = projectId
  · simp [hid]
  · simp [hid, Ne.symm hid]

theorem firstSaver_withOwner (s : ProjectDirectory) (projectId ownerId id : String) :
    (withOwner s projectId ownerId).firstSaver id = s.firstSaver id := by
  unfold withOwner ProjectDirectory.put ProjectDirectory.firstSaver
  split <;> rfl

variable {validator : SchemaValidator} {s s' : ProjectDirectory} {e : StoreEvent}

theorem HasFirstOwners.save (h : HasFirstOwners s)
    {projectId : String} {stored : JsonObject}
    (heffect : SaveEffect environment s projectId ownerId stored s')
    (hmay : (s.readOwner projectId).isSome = true ∨ placesDocument environment s projectId = false ∨
      (ownerId ≠ "" ∧ claimsOwner environment s projectId = true)) : HasFirstOwners s' := by
  -- a project that has an owner already keeps it
  have hkept {t : ProjectDirectory} (howner : (s.readOwner projectId).isSome = true)
      (ht : ∀ id, t.readOwner id = s.readOwner id)
      (hfirst : ∀ id, t.firstSaver id = (withDocument s projectId ownerId stored).firstSaver id) :
      HasFirstOwners t := by
    intro id
    rw [ht, hfirst, firstSaver_withDocument, ← h id]
    by_cases hid : id = projectId
    · obtain ⟨owner, howner⟩ := Option.isSome_iff_exists.mp howner
      rw [hid, howner]
      rfl
    · rw [if_neg hid, Option.or_none]
  cases heffect with
  | unplaced hplaces ht =>
    intro id
    rw [ht.readOwner, ht.firstSaver, h id]
  | placed hplaces hclaims ht =>
    have howner : (s.readOwner projectId).isSome = true := by
      simpa [hplaces, hclaims] using hmay
    refine hkept howner (fun id => ?_) ht.firstSaver
    rw [ht.readOwner, readOwner_withDocument]
  | claimed hplaces hclaims ht =>
    cases howner : s.readOwner projectId with
    | some owner =>
      refine hkept (by rw [howner]; rfl) (fun id => ?_) (fun id => ?_)
      · rw [ht.readOwner]
        unfold withOwner
        rw [readOwner_withDocument, howner, if_neg (by simp), readOwner_withDocument]
      · rw [ht.firstSaver, firstSaver_withOwner]
    | none =>
      have hnamed : ownerId ≠ "" := by
        simp [howner, hplaces] at hmay
        exact hmay.1
      intro id
      rw [ht.readOwner, readOwner_withOwner _ (by rw [readOwner_withDocument, howner]) hnamed,
        ht.firstSaver, firstSaver_withOwner, firstSaver_withDocument, readOwner_withDocument,
        ← h id]
      by_cases hid : id = projectId
      · rw [if_pos hid, hid, howner, if_pos rfl]
        rfl
      · rw [if_neg hid, if_neg hid, Option.or_none]

theorem HasFirstOwners.delete (h : HasFirstOwners s) (projectId : String) :
    HasFirstOwners (s.delete projectId) := by
  intro id
  have howner : (s.delete projectId).files (.project .owner id) =
      if id = projectId then none else s.files (.project .owner id) := by
    simp [ProjectDirectory.delete, ProjectDirectory.put, Function.update_apply]
  by_cases hid : id = projectId
  · rw [if_pos hid] at howner
    rw [readOwner_none howner]
    unfold ProjectDirectory.firstSaver ProjectDirectory.delete
    simp [List.find?_filter, hid]
  · rw [if_neg hid] at howner
    rw [readOwner_congr howner, h id]
    unfold ProjectDirectory.firstSaver ProjectDirectory.delete
    simp only [List.find?_filter]
    congr 1
    refine List.find?_congr ?_
    intro save _
    by_cases hsave : save.projectId = id
    · simp [hsave, hid]
    · simp [hsave]

theorem accept_spec {document stored : JsonObject} {time : Instant} {projectId : String}
    (h : accept validator document time = .ok (stored, projectId)) :
    checkProjectId projectId = .ok () ∧ validator stored = [] := by
  unfold accept at h
  obtain ⟨hvalid, h⟩ := seq_eq_ok.mp h
  have hempty := raiseIf_eq_ok.mp hvalid
  split at h
  · obtain ⟨hid, h⟩ := seq_eq_ok.mp h
    cases h
    exact ⟨hid, not_not.mp hempty⟩
  · cases h

theorem get_placed {stored : JsonObject} {projectId : String}
    (hid : checkProjectId projectId = .ok ()) (hvalid : validator stored = [])
    (hfile : t.files (.project .document projectId) = some (.object stored)) :
    t.get validator projectId = .ok stored := by
  refine seq_eq_ok.mpr ⟨hid, ?_⟩
  unfold ProjectDirectory.readDocument
  rw [hfile]
  exact seq_eq_ok.mpr ⟨raiseIf_eq_ok.mpr (by simp [hvalid]), rfl⟩

theorem SaveEffect.get {projectId : String}
    {stored : JsonObject} (h : SaveEffect environment s projectId ownerId stored s')
    (hid : checkProjectId projectId = .ok ()) (hvalid : validator stored = []) (id : String) :
    s'.get validator id = s.get validator id ∨
      (id = projectId ∧ s'.get validator id = .ok stored) := by
  have hnew {t : ProjectDirectory} (hfile : t.files (.project .document id) =
      if id = projectId then some (.object stored) else s.files (.project .document id)) :
      t.get validator id = s.get validator id ∨
        (id = projectId ∧ t.get validator id = .ok stored) := by
    split at hfile
    · rename_i hsame
      subst hsame
      exact .inr ⟨rfl, get_placed hid hvalid hfile⟩
    · exact .inl (get_congr hfile)
  have hdocument : (withDocument s projectId ownerId stored).files (.project .document id) =
      if id = projectId then some (.object stored) else s.files (.project .document id) := by
    simp [withDocument, ProjectDirectory.put, Function.update_apply]
  have howner : (withOwner (withDocument s projectId ownerId stored) projectId ownerId).files
      (.project .document id) =
        (withDocument s projectId ownerId stored).files (.project .document id) := by
    unfold withOwner ProjectDirectory.put
    split <;> simp
  cases h with
  | unplaced _ ht => exact .inl (ht.get validator id)
  | placed _ _ ht => exact hnew ((ht.documents id).trans hdocument)
  | claimed _ _ ht => exact hnew (((ht.documents id).trans howner).trans hdocument)

theorem SaveEffect.firstSaver {projectId : String}
    {stored : JsonObject} (h : SaveEffect environment s projectId ownerId stored s')
    {id owner : String} (howner : s.firstSaver id = some owner) : s'.firstSaver id = some owner := by
  have hkept : (withDocument s projectId ownerId stored).firstSaver id = some owner := by
    rw [firstSaver_withDocument, howner, Option.some_or]
  cases h with
  | unplaced _ ht => rw [ht.firstSaver, howner]
  | placed _ _ ht => rw [ht.firstSaver, hkept]
  | claimed _ _ ht => rw [ht.firstSaver, firstSaver_withOwner, hkept]

/-- What a step keeps: after a save, wherever it stopped, a project is the complete previous or the
complete new document; the owner of a project is the identity that saved it first, and no save
changes it. -/
structure KeepsProjects (validator : SchemaValidator) (s : ProjectDirectory) (e : StoreEvent)
    (s' : ProjectDirectory) : Prop where
  whole : ∀ document ownerId time environment, e = .save document ownerId time environment →
    ∀ id, s'.get validator id = s.get validator id ∨
      ∃ stored, accept validator document time = .ok (stored, id) ∧
        s'.get validator id = .ok stored
  first : ∀ id, s'.readOwner id = s'.firstSaver id
  fixed : ∀ document ownerId time environment, e = .save document ownerId time environment →
    ∀ id owner, s.readOwner id = some owner → s'.readOwner id = some owner

theorem keepsProjects_step (h : HasFirstOwners s) (hmay : s.mayEnd validator e = true) :
    KeepsProjects validator s e (storeStep validator s e).1 := by
  cases e with
  | delete projectId =>
    have hafter : HasFirstOwners (storeStep validator s (.delete projectId)).1 := by
      unfold storeStep
      simp only
      split
      · exact h
      · exact h.delete projectId
    exact ⟨by simp, hafter, by simp⟩
  | save document ownerId time environment =>
    cases haccept : accept validator document time with
    | error error =>
      have hsame : (storeStep validator s (.save document ownerId time environment)).1 = s := by
        simp [storeStep, save, raise, haccept, bind, EStateM.bind, Effect.final]
      rw [hsame]
      exact ⟨fun _ _ _ _ _ _ => .inl rfl, h, fun _ _ _ _ _ _ _ howner => howner⟩
    | ok accepted =>
      obtain ⟨stored, projectId⟩ := accepted
      have heffect : SaveEffect environment s projectId ownerId stored
          (storeStep validator s (.save document ownerId time environment)).1 :=
        save_effect haccept
      obtain ⟨hid, hvalid⟩ := accept_spec haccept
      have hafter := h.save heffect (by
        simp only [ProjectDirectory.mayEnd, haccept] at hmay
        simpa [or_assoc] using hmay)
      refine ⟨?_, hafter, ?_⟩
      · rintro _ _ _ _ ⟨⟩ id
        obtain hsame | ⟨rfl, hnew⟩ := heffect.get hid hvalid id
        · exact .inl hsame
        · exact .inr ⟨stored, haccept, hnew⟩
      · rintro _ _ _ _ _ id owner howner
        rw [h id] at howner
        rw [hafter id]
        exact heffect.firstSaver howner

/-- When no first save of a project is cut between its document and its owner, every save is atomic
and every project keeps its first owner. -/
theorem save_crash_atomic {out : List StoreOutput}
    (h : ((projectStore validator).restrict fun s e => s.mayEnd validator e = true).Reachable s)
    (hstep : ((projectStore validator).restrict fun s e => s.mayEnd validator e = true).Step s e s'
      out) : KeepsProjects validator s e s' := by
  have hfirst : HasFirstOwners s := by
    refine Machine.Reachable.invariant ?_ ?_ h
    · rintro _ rfl
      exact fun _ => rfl
    · rintro s e s' out hs ⟨hmay, rfl, _⟩
      exact (keepsProjects_step hs hmay).first
  obtain ⟨hmay, rfl, _⟩ := hstep
  exact keepsProjects_step hfirst hmay

namespace ProjectLesson

def projectId : String := "11111111-2222-3333-4444-555555555555"

def document (name : String) : JsonObject :=
  ⟨[("projectId", .str projectId), ("name", .str name)], by simp⟩

def schema : SchemaValidator := fun document =>
  if (document.get? "projectId").isSome then []
  else [⟨[], "'projectId' is a required property"⟩]

def stopsAt (which : Option StoreCall) : StoreEnvironment where
  fate call := if which = some call then .stops else .done
  random _ := "a1b2c3d4"

def save (name ownerId : String) (which : Option StoreCall) : StoreEvent :=
  .save (document name) ownerId 0 (stopsAt which)

/-- The first save stops when its document is in its place, and another student saves then. -/
def interrupted : ProjectDirectory :=
  (storeStep schema .empty (save "first" "ada" (some (.createTemporary .owner)))).1

def stored : ProjectDirectory := (storeStep schema .empty (save "first" "ada" none)).1

end ProjectLesson

/-- The project that ada saved first belongs to ben. -/
theorem owner_is_lost : ∃ s e s' out, (projectStore ProjectLesson.schema).Reachable s ∧
    (projectStore ProjectLesson.schema).Step s e s' out ∧
      ¬KeepsProjects ProjectLesson.schema s e s' := by
  let e := ProjectLesson.save "second" "ben" none
  have hfirst : (storeStep ProjectLesson.schema ProjectLesson.interrupted e).1.firstSaver
      ProjectLesson.projectId = some "ada" := by
    decide
  have howner : (storeStep ProjectLesson.schema ProjectLesson.interrupted e).1.readOwner
      ProjectLesson.projectId = some "ben" := by
    decide
  have hreachable : (projectStore ProjectLesson.schema).Reachable ProjectLesson.interrupted :=
    ⟨_, .empty, rfl, Machine.Steps.nil.snoc ⟨rfl, rfl⟩⟩
  refine ⟨_, e, _, _, hreachable, ⟨rfl, rfl⟩, ?_⟩
  intro hkeeps
  have hsame := hkeeps.first ProjectLesson.projectId
  rw [howner, hfirst] at hsame
  revert hsame
  decide

/-- A save that stops over a stored project keeps the first document and its owner. -/
theorem save_crash_atomic_stop : KeepsProjects ProjectLesson.schema ProjectLesson.stored
      (ProjectLesson.save "second" "ben" (some (.replace .document)))
      (storeStep ProjectLesson.schema ProjectLesson.stored
        (ProjectLesson.save "second" "ben" (some (.replace .document)))).1 ∧
    ProjectLesson.stored.readOwner ProjectLesson.projectId = some "ada" := by
  have hfirst : ProjectDirectory.mayEnd ProjectLesson.schema .empty
      (ProjectLesson.save "first" "ada" none) = true := by
    decide
  have hsecond : ProjectLesson.stored.mayEnd ProjectLesson.schema
      (ProjectLesson.save "second" "ben" (some (.replace .document))) = true := by
    decide
  refine ⟨?_, by decide⟩
  exact save_crash_atomic ⟨_, .empty, rfl, Machine.Steps.nil.snoc ⟨hfirst, rfl, rfl⟩⟩
    ⟨hsecond, rfl, rfl⟩

end CitPhysicalXR.Projects
