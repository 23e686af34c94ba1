import Mathlib
import CitPhysicalXR.Camera.ReceiptProcessor
import CitPhysicalXR.Foundation.PyText

/-! The files, the receipts and repeated uploads in every run of the camera ingress. -/
namespace CitPhysicalXR.Camera
open Foundation

variable {sha256 : Sha256} {s s' : CameraFolders}

/-- The names that are tried for a file, in their order. -/
def targetNames (receipt : CameraFtpReceipt) : ℕ → String
  | 0 => receipt.name
  | index + 1 => CameraFolders.candidate receipt index

/-- The name is free, or has the file. -/
def IsUsable (sha256 : Sha256) (s : CameraFolders) (receipt : CameraFtpReceipt) (name : String) :
    Prop :=
  s.destination.lookup name = none ∨ s.isMatch sha256 name receipt = true

/-- The first of the names that can be used. -/
def IsTarget (sha256 : Sha256) (s : CameraFolders) (receipt : CameraFtpReceipt) (target : String) :
    Prop :=
  ∃ index, targetNames receipt index = target ∧ IsUsable sha256 s receipt target ∧
    ∀ earlier < index, ¬IsUsable sha256 s receipt (targetNames receipt earlier)

theorem IsTarget.unique {receipt : CameraFtpReceipt} {target other : String}
    (h : IsTarget sha256 s receipt target) (h' : IsTarget sha256 s receipt other) :
    target = other := by
  obtain ⟨index, rfl, husable, hfirst⟩ := h
  obtain ⟨index', rfl, husable', hfirst'⟩ := h'
  rcases lt_trichotomy index index' with hlt | heq | hlt
  · exact absurd husable (hfirst' index hlt)
  · rw [heq]
  · exact absurd husable' (hfirst index' hlt)

theorem isUsable_iff {receipt : CameraFtpReceipt} {name : String} :
    ((s.destination.lookup name).isNone || s.isMatch sha256 name receipt) = true ↔
      IsUsable sha256 s receipt name := by
  unfold IsUsable
  rw [Bool.or_eq_true, Option.isNone_iff_eq_none]

theorem candidate_inj {receipt : CameraFtpReceipt} {first second : ℕ}
    (h : CameraFolders.candidate receipt first = CameraFolders.candidate receipt second) :
    first = second := by
  have hchars := congrArg String.toList h
  simp only [CameraFolders.candidate, String.toList_append, List.append_assoc,
    List.append_cancel_left_eq, List.append_cancel_right_eq] at hchars
  by_cases hfirst : first = 0 <;> by_cases hsecond : second = 0
  · rw [hfirst, hsecond]
  · simp [hfirst, hsecond] at hchars
  · simp [hfirst, hsecond] at hchars
  · rw [if_neg hfirst, if_neg hsecond, String.toList_append, String.toList_append] at hchars
    have hdigits : toString (first + 1) = toString (second + 1) :=
      String.toList_inj.mp (List.append_cancel_left hchars)
    have hread := congrArg TextRules.cpython.toInt? hdigits
    rw [TextRules.toInt?_toString, TextRules.toInt?_toString] at hread
    have hsame := Option.some.inj hread
    omega

/-- There is always a name to use: one of more candidates than there are files is free. -/
theorem chooseTarget_isSome (sha256 : Sha256) (s : CameraFolders) (receipt : CameraFtpReceipt) :
    (s.chooseTarget sha256 receipt).isSome = true := by
  unfold CameraFolders.chooseTarget
  rw [Option.isSome_map]
  split
  · rfl
  · by_contra hnone
    rw [Option.not_isSome_iff_eq_none] at hnone
    have htaken := List.find?_eq_none.mp hnone
    let names := (List.range (s.destination.length + 1)).map (CameraFolders.candidate receipt)
    have hnodup : names.Nodup := List.nodup_range.map fun _ _ => candidate_inj
    have hsub : names ⊆ s.destination.map Prod.fst := by
      intro name hname
      have hlookup := htaken name hname
      rw [Bool.or_eq_true, not_or, Option.isNone_iff_eq_none, List.lookup_eq_none_iff] at hlookup
      by_contra habsent
      refine hlookup.1 ?_
      intro entry hentry
      rw [bne_iff_ne]
      rintro rfl
      exact habsent (List.mem_map_of_mem hentry)
    have hlength := (hnodup.subperm hsub).length_le
    simp only [names, List.length_map, List.length_range] at hlength
    omega

theorem chooseTarget_spec {receipt : CameraFtpReceipt} {target : String} {outcome : Outcome}
    (h : s.chooseTarget sha256 receipt = some (target, outcome)) :
    IsTarget sha256 s receipt target ∧
      outcome = if s.isMatch sha256 target receipt then .already_verified else .copied := by
  unfold CameraFolders.chooseTarget at h
  obtain ⟨name, hname, hpair⟩ := Option.map_eq_some_iff.mp h
  cases hpair
  refine ⟨?_, rfl⟩
  split at hname
  · rename_i husable
    cases hname
    exact ⟨0, rfl, isUsable_iff.mp husable, by simp⟩
  · rename_i htaken
    unfold CameraFolders.collisionTarget at hname
    rw [List.find?_map] at hname
    obtain ⟨index, hfound, rfl⟩ := Option.map_eq_some_iff.mp hname
    obtain ⟨husable, _, hearlier⟩ := List.find?_range_eq_some.mp hfound
    refine ⟨index + 1, rfl, isUsable_iff.mp husable, ?_⟩
    intro earlier hlt
    rw [← isUsable_iff]
    cases earlier with
    | zero => exact htaken
    | succ earlier =>
      have hskipped := hearlier earlier (by omega)
      rw [Bool.not_eq_true'] at hskipped
      rw [Bool.not_eq_true]
      exact hskipped

theorem hasContent_iff {name digest : String} {sizeBytes : ℕ} :
    s.hasContent sha256 name sizeBytes digest = true ↔
      ∃ inode, s.destination.lookup name = some (.file inode) ∧
        (s.contents inode).length = sizeBytes ∧ sha256 (s.contents inode) = digest := by
  unfold CameraFolders.hasContent
  split
  · rename_i inode hentry
    simp [hentry]
  · rename_i hother
    simp only [Bool.false_eq_true, false_iff, not_exists, not_and]
    intro inode hentry
    exact absurd hentry (hother inode)

structure Grows (s s' : CameraFolders) : Prop where
  entries : ∀ name entry, s.destination.lookup name = some entry →
    s'.destination.lookup name = some entry
  contents : ∀ name inode, s.destination.lookup name = some (.file inode) →
    s'.contents inode = s.contents inode

namespace Grows

theorem hasContent (h : Grows s s') {name digest : String} {sizeBytes : ℕ}
    (hcontent : s.hasContent sha256 name sizeBytes digest = true) :
    s'.hasContent sha256 name sizeBytes digest = true := by
  obtain ⟨inode, hentry, hsize, hdigest⟩ := hasContent_iff.mp hcontent
  refine hasContent_iff.mpr ⟨inode, h.entries name _ hentry, ?_⟩
  rw [h.contents name inode hentry]
  exact ⟨hsize, hdigest⟩

/-- A name that is taken by another file stays taken by it. -/
theorem not_isUsable (h : Grows s s') {receipt : CameraFtpReceipt} {name : String}
    (htaken : ¬IsUsable sha256 s receipt name) : ¬IsUsable sha256 s' receipt name := by
  unfold IsUsable at htaken
  rw [not_or, ← ne_eq, Option.ne_none_iff_exists'] at htaken
  obtain ⟨⟨entry, hentry⟩, hother⟩ := htaken
  rintro (hfree | hmatch)
  · rw [h.entries name entry hentry] at hfree
    cases hfree
  · refine hother (hasContent_iff.mpr ?_)
    obtain ⟨inode, hfile, hsize, hdigest⟩ := hasContent_iff.mp hmatch
    rw [h.entries name entry hentry, Option.some.injEq] at hfile
    subst hfile
    rw [h.contents name inode hentry] at hsize hdigest
    exact ⟨inode, hentry, hsize, hdigest⟩

end Grows

/-- The file of the receipt is in the folder under the first name that it can have. -/
def IsSettled (sha256 : Sha256) (s : CameraFolders) (receipt : CameraFtpReceipt)
    (target : String) : Prop :=
  IsTarget sha256 s receipt target ∧ s.isMatch sha256 target receipt = true

theorem IsSettled.grows {receipt : CameraFtpReceipt} {target : String}
    (h : IsSettled sha256 s receipt target) (hgrows : Grows s s') :
    IsSettled sha256 s' receipt target := by
  obtain ⟨⟨index, hname, _, hfirst⟩, hmatch⟩ := h
  have hmatch' := hgrows.hasContent hmatch
  refine ⟨⟨index, hname, .inr hmatch', ?_⟩, hmatch'⟩
  intro earlier hlt
  exact hgrows.not_isUsable (hfirst earlier hlt)

theorem IsSettled.congr {receipt other : CameraFtpReceipt} {target : String}
    (h : IsSettled sha256 s receipt target) (hname : other.name = receipt.name)
    (hsize : other.sizeBytes = receipt.sizeBytes) (hdigest : other.sha256 = receipt.sha256) :
    IsSettled sha256 s other target := by
  obtain ⟨uploadId, name, sizeBytes, digest⟩ := receipt
  obtain ⟨uploadId', name', sizeBytes', digest'⟩ := other
  cases hname
  cases hsize
  cases hdigest
  have hnames : targetNames ⟨uploadId', name, sizeBytes, digest⟩ =
      targetNames ⟨uploadId, name, sizeBytes, digest⟩ := by
    funext index
    cases index <;> rfl
  obtain ⟨⟨index, htarget, husable, hfirst⟩, hmatch⟩ := h
  exact ⟨⟨index, by rw [hnames]; exact htarget, husable, by rw [hnames]; exact hfirst⟩, hmatch⟩

/-- The receipt whose part must not change: its size has been checked and it is not in its place. -/
def Phase.verifying : Phase → Option CameraFtpReceipt
  | .reading | .sizing _ | .summarizing .. | .acknowledging .. | .finishing .. => none
  | .opening receipt | .hashing receipt .. | .choosing receipt | .placing receipt .. => some receipt

/-- The file is in the folder, or it is the part that the worker verifies. -/
def CameraFolders.isFixed (s : CameraFolders) (inode : ℕ) : Bool :=
  (s.destination.any fun entry => decide (entry.2 = .file inode)) ||
    s.task.any fun task => task.phase.verifying.any fun receipt =>
      decide (s.parts receipt.uploadId = some inode)

/-- No upload writes to a part after its size has been checked, nor to the file it became. -/
def CameraFolders.mayWrite (s : CameraFolders) : CameraEvent → Bool
  | .openPart _ uploadId isResumed => isResumed || (s.parts uploadId).all (!s.isFixed ·)
  | .writePart handle _ _ => (s.uploads.lookup handle).all (!s.isFixed ·)
  | _ => true

/-- What the worker knows of its part and of the folder. -/
def Task.Holds (sha256 : Sha256) (s : CameraFolders) (task : Task) : Prop :=
  match task.phase with
  | .reading | .sizing _ => True
  | .opening receipt => ∃ inode, s.parts receipt.uploadId = some inode ∧
      (s.contents inode).length = receipt.sizeBytes
  | .hashing receipt inode read => s.parts receipt.uploadId = some inode ∧
      (s.contents inode).length = receipt.sizeBytes ∧ read <+: s.contents inode
  | .choosing receipt => ∃ inode, s.parts receipt.uploadId = some inode ∧
      (s.contents inode).length = receipt.sizeBytes ∧ sha256 (s.contents inode) = receipt.sha256
  | .placing receipt target outcome =>
    (∃ inode, s.parts receipt.uploadId = some inode ∧
      (s.contents inode).length = receipt.sizeBytes ∧ sha256 (s.contents inode) = receipt.sha256) ∧
      IsTarget sha256 s receipt target ∧
      outcome = if s.isMatch sha256 target receipt then .already_verified else .copied
  | .summarizing receipt target _ | .acknowledging receipt target _
  | .finishing receipt target _ => IsSettled sha256 s receipt target

/-- Every file that a receipt names is in the folder with its size and its hash, and files have their
inodes. -/
structure Sound (sha256 : Sha256) (s : CameraFolders) : Prop where
  files : ∀ name inode, s.destination.lookup name = some (.file inode) → inode < s.inodes
  parts : ∀ uploadId inode, s.parts uploadId = some inode → inode < s.inodes
  task : ∀ task, s.task = some task → task.Holds sha256 s
  acknowledgements : ∀ uploadId record, s.acknowledgements uploadId = some record →
    s.hasContent sha256 record.name record.sizeBytes record.sha256 = true
  summary : ∀ uploadId record, s.summary uploadId = some record →
    s.hasContent sha256 record.name record.sizeBytes record.sha256 = true

structure KeepsFolder (s s' : CameraFolders) : Prop where
  destination : s'.destination = s.destination
  contents : ∀ name inode, s.destination.lookup name = some (.file inode) →
    s'.contents inode = s.contents inode
  part : ∀ task ∈ s.task, ∀ receipt ∈ task.phase.verifying, ∀ inode,
    s.parts receipt.uploadId = some inode →
      s'.parts receipt.uploadId = some inode ∧ s'.contents inode = s.contents inode

namespace KeepsFolder

theorem grows (h : KeepsFolder s s') : Grows s s' where
  entries name entry hentry := by rwa [h.destination]
  contents := h.contents

theorem isMatch (h : KeepsFolder s s') (name : String) (receipt : CameraFtpReceipt) :
    s'.isMatch sha256 name receipt = s.isMatch sha256 name receipt := by
  unfold CameraFolders.isMatch CameraFolders.hasContent
  rw [h.destination]
  split
  · rename_i inode hentry
    rw [h.contents name inode hentry]
  · rfl

theorem isTarget (h : KeepsFolder s s') {receipt : CameraFtpReceipt} {target : String}
    (htarget : IsTarget sha256 s receipt target) : IsTarget sha256 s' receipt target := by
  have husable (name : String) :
      IsUsable sha256 s' receipt name ↔ IsUsable sha256 s receipt name := by
    unfold IsUsable
    rw [h.destination, h.isMatch]
  obtain ⟨index, hname, hfree, hfirst⟩ := htarget
  refine ⟨index, hname, (husable _).mpr hfree, ?_⟩
  intro earlier hlt
  rw [husable]
  exact hfirst earlier hlt

theorem holds (h : KeepsFolder s s') {task : Task} (htask : s.task = some task)
    (hholds : task.Holds sha256 s) : task.Holds sha256 s' := by
  obtain ⟨stem, phase⟩ := task
  have hpart := h.part _ htask
  cases phase with
  | reading => trivial
  | sizing receipt => trivial
  | opening receipt =>
    obtain ⟨inode, hinode, hsize⟩ := hholds
    obtain ⟨hinode', hcontent⟩ := hpart receipt rfl inode hinode
    exact ⟨inode, hinode', by rw [hcontent]; exact hsize⟩
  | hashing receipt inode read =>
    obtain ⟨hinode, hrest⟩ := hholds
    obtain ⟨hinode', hcontent⟩ := hpart receipt rfl inode hinode
    exact ⟨hinode', by rw [hcontent]; exact hrest⟩
  | choosing receipt =>
    obtain ⟨inode, hinode, hrest⟩ := hholds
    obtain ⟨hinode', hcontent⟩ := hpart receipt rfl inode hinode
    exact ⟨inode, hinode', by rw [hcontent]; exact hrest⟩
  | placing receipt target outcome =>
    obtain ⟨⟨inode, hinode, hrest⟩, htarget, houtcome⟩ := hholds
    obtain ⟨hinode', hcontent⟩ := hpart receipt rfl inode hinode
    refine ⟨⟨inode, hinode', by rw [hcontent]; exact hrest⟩, h.isTarget htarget, ?_⟩
    rw [h.isMatch]
    exact houtcome
  | summarizing receipt target outcome => exact IsSettled.grows hholds h.grows
  | acknowledging receipt target outcome => exact IsSettled.grows hholds h.grows
  | finishing receipt target outcome => exact IsSettled.grows hholds h.grows

end KeepsFolder

/-- The receipt whose part was or will be moved into the folder by this task. -/
def Phase.copies : Phase → Option CameraFtpReceipt
  | .placing receipt _ .copied | .summarizing receipt _ .copied | .acknowledging receipt _ .copied
  | .finishing receipt _ .copied => some receipt
  | _ => none

def CameraFtpFinalizedFile.receipt (file : CameraFtpFinalizedFile) : CameraFtpReceipt :=
  ⟨file.uploadId, file.name, file.sizeBytes, file.sha256⟩

structure StepSpec (sha256 : Sha256) (s s' : CameraFolders) (out : List CameraOutput) : Prop where
  sound : Sound sha256 s'
  grows : Grows s s'
  copies : ∀ task, s'.task = some task → ∀ receipt, task.phase.copies = some receipt →
    (∃ task, s.task = some task ∧ task.phase.copies = some receipt) ∨
      ∃ target, IsTarget sha256 s receipt target ∧ s.isMatch sha256 target receipt = false
  placed : ∀ receipt target, .placed receipt target ∈ out →
    ∃ task, s.task = some task ∧ task.phase.copies = some receipt
  finalized : ∀ file, .finalized file ∈ out → IsSettled sha256 s' file.receipt file.path ∧
    (file.outcome = .copied → ∃ task, s.task = some task ∧ task.phase.copies = some file.receipt)
  ends : ∀ file, .finalized file ∈ out → s'.task = none

namespace StepSpec
variable {out : List CameraOutput}

/-- A step that writes no receipt. -/
theorem of_grows (h : Sound sha256 s) (hgrows : Grows s s')
    (hfiles : ∀ name inode, s'.destination.lookup name = some (.file inode) → inode < s'.inodes)
    (hparts : ∀ uploadId inode, s'.parts uploadId = some inode → inode < s'.inodes)
    (htask : ∀ task, s'.task = some task → task.Holds sha256 s')
    (hacks : s'.acknowledgements = s.acknowledgements) (hsummary : s'.summary = s.summary)
    (hcopies : ∀ task, s'.task = some task → ∀ receipt, task.phase.copies = some receipt →
      (∃ task, s.task = some task ∧ task.phase.copies = some receipt) ∨
        ∃ target, IsTarget sha256 s receipt target ∧ s.isMatch sha256 target receipt = false) :
    StepSpec sha256 s s' [] where
  sound :=
    { files := hfiles
      parts := hparts
      task := htask
      acknowledgements := by
        rw [hacks]
        exact fun uploadId record hrecord =>
          hgrows.hasContent (h.acknowledgements uploadId record hrecord)
      summary := by
        rw [hsummary]
        exact fun uploadId record hrecord =>
          hgrows.hasContent (h.summary uploadId record hrecord) }
  grows := hgrows
  copies := hcopies
  placed := by simp
  finalized := by simp
  ends := by simp

theorem of_keeps (h : Sound sha256 s) (hkeeps : KeepsFolder s s') (hinodes : s.inodes ≤ s'.inodes)
    (hparts : ∀ uploadId inode, s'.parts uploadId = some inode → inode < s'.inodes)
    (htask : ∀ task, s'.task = some task → s.task = some task)
    (hacks : s'.acknowledgements = s.acknowledgements) (hsummary : s'.summary = s.summary) :
    StepSpec sha256 s s' [] := by
  refine of_grows h hkeeps.grows ?_ hparts ?_ hacks hsummary ?_
  · intro name inode hentry
    rw [hkeeps.destination] at hentry
    exact lt_of_lt_of_le (h.files name inode hentry) hinodes
  · intro task hnext
    exact hkeeps.holds (htask task hnext) (h.task task (htask task hnext))
  · intro task hnext receipt hcopies
    exact .inl ⟨task, htask task hnext, hcopies⟩

theorem of_drop (h : Sound sha256 s) : StepSpec sha256 s s.drop [] := by
  refine of_keeps h ⟨rfl, fun _ _ _ => rfl, fun _ _ _ _ _ hpart => ⟨hpart, rfl⟩⟩ (le_refl _) h.parts
    ?_ rfl rfl
  intro task htask
  cases htask

theorem of_setPhase (h : Sound sha256 s) {stem : String} {phase : Phase}
    (hholds : Task.Holds sha256 s ⟨stem, phase⟩)
    (hcopies : ∀ receipt, phase.copies = some receipt →
      (∃ task, s.task = some task ∧ task.phase.copies = some receipt) ∨
        ∃ target, IsTarget sha256 s receipt target ∧ s.isMatch sha256 target receipt = false) :
    StepSpec sha256 s (s.setPhase stem phase) [] := by
  refine of_grows h ⟨fun _ _ hentry => hentry, fun _ _ _ => rfl⟩ h.files h.parts ?_ rfl rfl ?_
  · rintro task ⟨⟩
    exact hholds
  · rintro task ⟨⟩ receipt hreceipt
    exact hcopies receipt hreceipt

end StepSpec

theorem isFixed_of_entry {name : String} {inode : ℕ}
    (h : s.destination.lookup name = some (.file inode)) : s.isFixed inode = true := by
  obtain ⟨before, after, hsplit, _⟩ := List.lookup_eq_some_iff.mp h
  unfold CameraFolders.isFixed
  rw [hsplit]
  simp

theorem isFixed_of_part {task : Task} {receipt : CameraFtpReceipt} {inode : ℕ}
    (htask : s.task = some task) (hreceipt : task.phase.verifying = some receipt)
    (hpart : s.parts receipt.uploadId = some inode) : s.isFixed inode = true := by
  unfold CameraFolders.isFixed
  rw [htask, Option.any_some, hreceipt, Option.any_some, decide_eq_true hpart, Bool.or_true]

/-- A file that is not fixed may be changed. -/
theorem keepsFolder_update {inode : ℕ} (content : List UInt8) (hfree : s.isFixed inode = false)
    (hdestination : s'.destination = s.destination) (hparts : s'.parts = s.parts)
    (hcontents : s'.contents = Function.update s.contents inode content) : KeepsFolder s s' where
  destination := hdestination
  contents name other hentry := by
    rw [hcontents]
    refine Function.update_of_ne ?_ _ _
    rintro rfl
    rw [isFixed_of_entry hentry] at hfree
    cases hfree
  part task htask receipt hreceipt other hpart := by
    rw [hparts, hcontents]
    refine ⟨hpart, Function.update_of_ne ?_ _ _⟩
    rintro rfl
    rw [isFixed_of_part htask hreceipt hpart] at hfree
    cases hfree

theorem stepSpec_openPart (h : Sound sha256 s) {handle : ℕ} {uploadId : String} {isResumed : Bool}
    (hmay : s.mayWrite (.openPart handle uploadId isResumed) = true) :
    StepSpec sha256 s (s.openPart handle uploadId isResumed) [] := by
  unfold CameraFolders.openPart
  split
  · rename_i hnone
    refine .of_keeps h ⟨rfl, ?_, ?_⟩ (Nat.le_succ _) ?_ (fun _ htask => htask) rfl rfl
    · intro name inode hentry
      exact Function.update_of_ne (h.files name inode hentry).ne _ _
    · intro task htask receipt hreceipt inode hpart
      have hother : receipt.uploadId ≠ uploadId := by
        rintro rfl
        rw [hnone] at hpart
        cases hpart
      refine ⟨?_, Function.update_of_ne (h.parts _ inode hpart).ne _ _⟩
      show Function.update s.parts uploadId (some s.inodes) receipt.uploadId = some inode
      rw [Function.update_of_ne hother]
      exact hpart
    · intro other inode hpart
      simp only [Function.update_apply] at hpart
      split at hpart
      · cases hpart
        exact Nat.lt_succ_self _
      · exact Nat.lt_succ_of_lt (h.parts other inode hpart)
  · rename_i inode hinode
    have hkeeps : KeepsFolder s { s with
        contents := if isResumed then s.contents else Function.update s.contents inode []
        uploads := (handle, inode) :: s.uploads } := by
      cases isResumed with
      | true => exact ⟨rfl, fun _ _ _ => rfl, fun _ _ _ _ _ hpart => ⟨hpart, rfl⟩⟩
      | false =>
        simp only [CameraFolders.mayWrite, hinode, Bool.false_or, Option.all_some,
          Bool.not_eq_true'] at hmay
        exact keepsFolder_update [] hmay rfl rfl rfl
    exact .of_keeps h hkeeps (le_refl _) h.parts (fun _ htask => htask) rfl rfl

theorem stepSpec_place (h : Sound sha256 s) {stem target : String} {receipt : CameraFtpReceipt}
    {outcome : Outcome} {out : List CameraOutput}
    (htask : s.task = some ⟨stem, .placing receipt target outcome⟩)
    (hplace : s.place stem receipt target outcome = (s', out)) : StepSpec sha256 s s' out := by
  obtain ⟨⟨inode, hinode, hsize, hdigest⟩, htarget, houtcome⟩ := h.task _ htask
  have hparts : ∀ uploadId other,
      Function.update s.parts receipt.uploadId none uploadId = some other → other < s.inodes := by
    intro uploadId other hother
    rw [Function.update_apply] at hother
    split at hother
    · cases hother
    · exact h.parts uploadId other hother
  unfold CameraFolders.place at hplace
  rw [hinode] at hplace
  cases outcome with
  | already_verified =>
    cases hplace
    have hmatch : s.isMatch sha256 target receipt = true := by
      by_contra hother
      rw [if_neg hother] at houtcome
      cases houtcome
    refine .of_grows h ⟨fun _ _ hentry => hentry, fun _ _ _ => rfl⟩ h.files hparts ?_ rfl rfl ?_
    · rintro task ⟨⟩
      exact ⟨htarget, hmatch⟩
    · rintro task ⟨⟩ other hother
      cases hother
  | copied =>
    obtain ⟨hnext, hout⟩ := Prod.mk.inj hplace
    have hother : s.isMatch sha256 target receipt = false := by
      by_contra hmatch
      rw [Bool.not_eq_false] at hmatch
      rw [if_pos hmatch] at houtcome
      cases houtcome
    obtain ⟨index, htargetName, husable, hfirst⟩ := htarget
    have hfree : s.destination.lookup target = none := by
      rcases husable with hfree | hmatch
      · exact hfree
      · rw [hother] at hmatch
        cases hmatch
    have hsame : s.destination.filter (·.1 ≠ target) = s.destination := by
      rw [List.filter_eq_self]
      intro entry hentry
      have hne := List.lookup_eq_none_iff.mp hfree entry hentry
      exact decide_eq_true (bne_iff_ne.mp hne).symm
    have hlookup (name : String) : s'.destination.lookup name =
        if name = target then some (.file inode) else s.destination.lookup name := by
      rw [← hnext]
      show List.lookup name ((target, Entry.file inode) :: s.destination.filter (·.1 ≠ target)) = _
      rw [hsame, List.lookup_cons]
      by_cases hname : name = target
      · rw [beq_iff_eq.mpr hname, if_pos hname]
      · rw [beq_eq_false_iff_ne.mpr hname, if_neg hname]
    have hcontents : s'.contents = s.contents := by rw [← hnext]; rfl
    have hinodes : s'.inodes = s.inodes := by rw [← hnext]; rfl
    have hmoved : s'.parts = Function.update s.parts receipt.uploadId none := by rw [← hnext]; rfl
    have htask' : s'.task = some ⟨stem, .summarizing receipt target .copied⟩ := by
      rw [← hnext]
      rfl
    have hgrows : Grows s s' := by
      refine ⟨?_, fun _ _ _ => by rw [hcontents]⟩
      intro name entry hentry
      rw [hlookup, if_neg, hentry]
      rintro rfl
      rw [hfree] at hentry
      cases hentry
    have hacks : s'.acknowledgements = s.acknowledgements := by rw [← hnext]; rfl
    have hsummary : s'.summary = s.summary := by rw [← hnext]; rfl
    have hbase : StepSpec sha256 s s' [] :=
      .of_grows h hgrows ?_ ?_ ?_ hacks hsummary ?_
    · rw [← hout]
      refine ⟨hbase.sound, hbase.grows, hbase.copies, ?_, by simp, by simp⟩
      intro placed name hplaced
      obtain ⟨rfl, rfl⟩ : placed = receipt ∧ name = target := by simpa using hplaced
      exact ⟨_, htask, rfl⟩
    · intro name other hentry
      rw [hinodes]
      rw [hlookup] at hentry
      split at hentry
      · cases hentry
        exact h.parts _ inode hinode
      · exact h.files name other hentry
    · rw [hmoved, hinodes]
      exact hparts
    · intro task hnext'
      rw [htask', Option.some.injEq] at hnext'
      subst hnext'
      have hmatch : s'.isMatch sha256 target receipt = true :=
        hasContent_iff.mpr ⟨inode, (hlookup target).trans (if_pos rfl), by rw [hcontents, hsize],
          by rw [hcontents, hdigest]⟩
      refine ⟨⟨index, htargetName, .inr hmatch, ?_⟩, hmatch⟩
      intro earlier hlt
      exact hgrows.not_isUsable (hfirst earlier hlt)
    · intro task hnext' other hcopies
      rw [htask', Option.some.injEq] at hnext'
      subst hnext'
      exact .inl ⟨_, htask, hcopies⟩

theorem hasContent_record {receipt : CameraFtpReceipt} {target : String} {outcome : Outcome}
    (h : IsSettled sha256 s receipt target)
    {records : String → Option TransferRecord} (hrecords : ∀ uploadId record,
      records uploadId = some record →
        s.hasContent sha256 record.name record.sizeBytes record.sha256 = true) :
    ∀ uploadId record, Function.update records receipt.uploadId
      (some (CameraFolders.record receipt target outcome)) uploadId = some record →
        s.hasContent sha256 record.name record.sizeBytes record.sha256 = true := by
  intro uploadId record hrecord
  rw [Function.update_apply] at hrecord
  split at hrecord
  · cases hrecord
    exact h.2
  · exact hrecords uploadId record hrecord

theorem stepSpec_advance (h : Sound sha256 s) {stem : String} {phase : Phase}
    {out : List CameraOutput} (htask : s.task = some ⟨stem, phase⟩)
    (hstep : s.advance sha256 stem phase = (s', out)) : StepSpec sha256 s s' out := by
  have hholds := h.task _ htask
  cases phase with
  | reading =>
    simp only [CameraFolders.advance] at hstep
    split at hstep
    · cases hstep
      exact .of_drop h
    · split at hstep
      · cases hstep
        exact .of_drop h
      · split at hstep
        · cases hstep
          exact .of_setPhase h trivial (by simp [Phase.copies])
        · cases hstep
          exact .of_drop h
  | sizing receipt =>
    simp only [CameraFolders.advance] at hstep
    split at hstep
    · cases hstep
      exact .of_drop h
    · rename_i inode hinode
      split at hstep
      · rename_i hsize
        cases hstep
        exact .of_setPhase h ⟨inode, hinode, hsize⟩ (by simp [Phase.copies])
      · cases hstep
        exact .of_drop h
  | opening receipt =>
    obtain ⟨inode, hinode, hsize⟩ := hholds
    simp only [CameraFolders.advance, hinode] at hstep
    cases hstep
    exact .of_setPhase h ⟨hinode, hsize, List.nil_prefix⟩ (by simp [Phase.copies])
  | hashing receipt inode read =>
    obtain ⟨hinode, hsize, rest, hrest⟩ := hholds
    have hdrop : (s.contents inode).drop read.length = rest := by
      rw [← hrest, List.drop_left]
    simp only [CameraFolders.advance, hdrop] at hstep
    split at hstep
    · cases hstep
      refine .of_setPhase h ⟨hinode, hsize, ?_⟩ (by simp [Phase.copies])
      rw [← hrest]
      exact (List.prefix_append_right_inj read).mpr (List.take_prefix _ _)
    · rename_i hend
      -- the whole part has been read
      have hread : s.contents inode = read := by
        rw [not_not, List.take_eq_nil_iff] at hend
        rcases hend with hzero | hnil
        · cases hzero
        · rw [← hrest, hnil, List.append_nil]
      split at hstep
      · rename_i hdigest
        cases hstep
        exact .of_setPhase h ⟨inode, hinode, hsize, by rw [hread]; exact hdigest⟩
          (by simp [Phase.copies])
      · cases hstep
        exact .of_drop h
  | choosing receipt =>
    simp only [CameraFolders.advance] at hstep
    split at hstep
    · rename_i hnone
      have hsome := chooseTarget_isSome sha256 s receipt
      rw [hnone] at hsome
      cases hsome
    · rename_i target outcome hchoice
      cases hstep
      obtain ⟨htarget, houtcome⟩ := chooseTarget_spec hchoice
      refine .of_setPhase h ⟨hholds, htarget, houtcome⟩ ?_
      intro other hcopies
      split at houtcome
      · subst houtcome
        cases hcopies
      · rename_i hother
        subst houtcome
        cases hcopies
        exact .inr ⟨target, htarget, by simpa using hother⟩
  | placing receipt target outcome => exact stepSpec_place h htask hstep
  | summarizing receipt target outcome =>
    cases hstep
    have hbase : StepSpec sha256 s (s.setPhase stem (.acknowledging receipt target outcome)) [] :=
      .of_setPhase h hholds fun _ hother => .inl ⟨_, htask, by cases outcome <;> exact hother⟩
    refine ⟨⟨h.files, h.parts, ?_, h.acknowledgements, ?_⟩, ⟨hbase.grows.1, hbase.grows.2⟩,
      hbase.copies, by simp, by simp, by simp⟩
    · rintro task ⟨⟩
      exact hholds
    · exact hasContent_record hholds h.summary
  | acknowledging receipt target outcome =>
    cases hstep
    have hbase : StepSpec sha256 s (s.setPhase stem (.finishing receipt target outcome)) [] :=
      .of_setPhase h hholds fun _ hother => .inl ⟨_, htask, by cases outcome <;> exact hother⟩
    refine ⟨⟨h.files, h.parts, ?_, ?_, h.summary⟩, ⟨hbase.grows.1, hbase.grows.2⟩,
      hbase.copies, by simp, by simp, by simp⟩
    · rintro task ⟨⟩
      exact hholds
    · exact hasContent_record hholds h.acknowledgements
  | finishing receipt target outcome =>
    simp only [CameraFolders.advance] at hstep
    split at hstep
    · cases hstep
      exact .of_drop h
    · cases hstep
      have hbase : StepSpec sha256 s s.drop [] := .of_drop h
      refine ⟨⟨h.files, h.parts, by rintro task ⟨⟩, h.acknowledgements, h.summary⟩,
        ⟨hbase.grows.1, hbase.grows.2⟩, by rintro task ⟨⟩, by simp, ?_, fun _ _ => rfl⟩
      intro file hfile
      obtain rfl : file = ⟨receipt.uploadId, receipt.name, target, receipt.sizeBytes,
          receipt.sha256, outcome⟩ := by simpa using hfile
      refine ⟨hholds, ?_⟩
      rintro rfl
      exact ⟨_, htask, rfl⟩

theorem stepSpec_step (h : Sound sha256 s) {e : CameraEvent} {out : List CameraOutput}
    (hmay : s.mayWrite e = true) (hstep : s.step sha256 e = some (s', out)) :
    StepSpec sha256 s s' out := by
  cases e with
  | openPart handle uploadId isResumed =>
    simp only [CameraFolders.step] at hstep
    split at hstep
    · cases hstep
    · cases hstep
      exact stepSpec_openPart h hmay
  | writePart handle position data =>
    simp only [CameraFolders.step] at hstep
    obtain ⟨inode, hinode, hpair⟩ := Option.map_eq_some_iff.mp hstep
    cases hpair
    simp only [CameraFolders.mayWrite, hinode, Option.all_some, Bool.not_eq_true'] at hmay
    exact .of_keeps h (keepsFolder_update _ hmay rfl rfl rfl) (le_refl _) h.parts
      (fun _ htask => htask) rfl rfl
  | closePart handle =>
    cases hstep
    exact .of_keeps h ⟨rfl, fun _ _ _ => rfl, fun _ _ _ _ _ hpart => ⟨hpart, rfl⟩⟩ (le_refl _)
      h.parts (fun _ htask => htask) rfl rfl
  | storeReceipt stem file =>
    cases hstep
    exact .of_keeps h ⟨rfl, fun _ _ _ => rfl, fun _ _ _ _ _ hpart => ⟨hpart, rfl⟩⟩ (le_refl _)
      h.parts (fun _ htask => htask) rfl rfl
  | begin stem =>
    simp only [CameraFolders.step] at hstep
    split at hstep
    · cases hstep
      exact .of_setPhase h trivial (by simp [Phase.copies])
    · cases hstep
  | work =>
    obtain ⟨task, htask, hnext⟩ := Option.map_eq_some_iff.mp hstep
    exact stepSpec_advance h htask hnext
  | fail =>
    cases hstep
    exact .of_drop h
  | crash =>
    cases hstep
    refine .of_keeps h ⟨rfl, fun _ _ _ => rfl, fun _ _ _ _ _ hpart => ⟨hpart, rfl⟩⟩ (le_refl _)
      h.parts ?_ rfl rfl
    rintro task ⟨⟩

/-- An upload of a file with the name, the size and the hash. -/
def CameraFtpFinalizedFile.IsOf (file : CameraFtpFinalizedFile) (receipt : CameraFtpReceipt) :
    Prop :=
  receipt.name = file.name ∧ receipt.sizeBytes = file.sizeBytes ∧ receipt.sha256 = file.sha256

/-- What holds of every step of a run: files in the folder are never overwritten, every receipt names
a file with its size and hash, and an upload of a file that was received before moves nothing and
gets the receipt of the first one. -/
structure KeepsTransfers (sha256 : Sha256) (before : List CameraOutput) (s s' : CameraFolders)
    (out : List CameraOutput) : Prop where
  kept : ∀ name inode, s.destination.lookup name = some (.file inode) →
    s'.destination.lookup name = some (.file inode) ∧ s'.contents inode = s.contents inode
  acknowledged : ∀ uploadId record, s'.acknowledgements uploadId = some record →
    s'.hasContent sha256 record.name record.sizeBytes record.sha256 = true
  summarized : ∀ uploadId record, s'.summary uploadId = some record →
    s'.hasContent sha256 record.name record.sizeBytes record.sha256 = true
  finalized : ∀ file, .finalized file ∈ out →
    s'.hasContent sha256 file.path file.sizeBytes file.sha256 = true
  repeated : ∀ done, .finalized done ∈ before →
    (∀ receipt target, .placed receipt target ∈ out → ¬done.IsOf receipt) ∧
      ∀ again, .finalized again ∈ out → done.IsOf again.receipt →
        again.path = done.path ∧ again.outcome = .already_verified

structure Received (sha256 : Sha256) (before : List CameraOutput) (s : CameraFolders) : Prop where
  sound : Sound sha256 s
  settled : ∀ done, .finalized done ∈ before → IsSettled sha256 s done.receipt done.path
  fresh : ∀ task, s.task = some task → ∀ receipt, task.phase.copies = some receipt →
    ∀ done, .finalized done ∈ before → ¬done.IsOf receipt

theorem Received.step {before out : List CameraOutput} (h : Received sha256 before s)
    (hspec : StepSpec sha256 s s' out) :
    Received sha256 (before ++ out) s' ∧ KeepsTransfers sha256 before s s' out := by
  have hsettled : ∀ done, .finalized done ∈ before ++ out →
      IsSettled sha256 s' done.receipt done.path := by
    intro done hdone
    rcases List.mem_append.mp hdone with hdone | hdone
    · exact (h.settled done hdone).grows hspec.grows
    · exact (hspec.finalized done hdone).1
  refine ⟨⟨hspec.sound, hsettled, ?_⟩, ?_⟩
  · intro task htask receipt hcopies done hdone
    rcases List.mem_append.mp hdone with hdone | hdone
    · rcases hspec.copies task htask receipt hcopies with ⟨last, hlast, hreceipt⟩ | hchosen
      · exact h.fresh last hlast receipt hreceipt done hdone
      · -- the file of an earlier receipt would have been found
        obtain ⟨target, htarget, hother⟩ := hchosen
        rintro ⟨hname, hsize, hdigest⟩
        obtain ⟨hfirst, hmatch⟩ := (h.settled done hdone).congr hname hsize hdigest
        rw [htarget.unique hfirst, hmatch] at hother
        cases hother
    · rw [hspec.ends done hdone] at htask
      cases htask
  · refine ⟨?_, hspec.sound.acknowledgements, hspec.sound.summary, ?_, ?_⟩
    · intro name inode hentry
      exact ⟨hspec.grows.entries name _ hentry, hspec.grows.contents name inode hentry⟩
    · intro file hfile
      exact (hspec.finalized file hfile).1.2
    · intro done hdone
      refine ⟨?_, ?_⟩
      · intro receipt target hplaced hsame
        obtain ⟨task, htask, hcopies⟩ := hspec.placed receipt target hplaced
        exact h.fresh task htask receipt hcopies done hdone hsame
      · intro again hagain hsame
        obtain ⟨hend, hcopied⟩ := hspec.finalized again hagain
        obtain ⟨hname, hsize, hdigest⟩ := hsame
        have hfirst := ((h.settled done hdone).grows hspec.grows).congr hname hsize hdigest
        refine ⟨hend.1.unique hfirst.1, ?_⟩
        cases houtcome : again.outcome with
        | already_verified => rfl
        | copied =>
          obtain ⟨task, htask, hcopies⟩ := hcopied houtcome
          exact absurd ⟨hname, hsize, hdigest⟩ (h.fresh task htask _ hcopies done hdone)

/-- When no upload writes to a file that the worker has sized or moved, every step of every run keeps
the files, the receipts and the repeated uploads. -/
theorem transfer_receipts {trace : List (CameraEvent × List CameraOutput)} {e : CameraEvent}
    {out : List CameraOutput}
    (h : ((cameraFtp sha256).restrict fun s e => s.mayWrite e = true).Run trace s)
    (hstep : ((cameraFtp sha256).restrict fun s e => s.mayWrite e = true).Step s e s' out) :
    KeepsTransfers sha256 (Machine.outputs trace) s s' out := by
  have hreceived : Received sha256 (Machine.outputs trace) s := by
    refine Machine.Run.induct (P := fun trace s => Received sha256 (Machine.outputs trace) s)
      ?_ ?_ h
    · rintro s ⟨hfiles, hparts, _, hacks, hsummary, _, htask⟩
      exact ⟨⟨hfiles, by simp [hparts], by simp [htask], by simp [hacks], by simp [hsummary]⟩,
        by simp, by simp [htask]⟩
    · rintro trace s e s' out _ hreceived ⟨hmay, hnext⟩
      rw [Machine.outputs_append, Machine.outputs_singleton]
      exact (hreceived.step (stepSpec_step hreceived.sound hmay hnext)).1
  obtain ⟨hmay, hnext⟩ := hstep
  exact (hreceived.step (stepSpec_step hreceived.sound hmay hnext)).2

namespace CameraLesson

/-- Two contents with two hashes. -/
def hash : Sha256 := fun data => String.ofList (List.replicate 64 (if data = [1] then 'a' else 'b'))

def uploadId : String := String.ofList (List.replicate 64 'c')

/-- A folder without files. -/
def empty : CameraFolders where
  contents _ := []
  inodes := 0
  destination := []
  parts _ := none
  receipts _ := none
  acknowledgements _ := none
  summary _ := none
  uploads := []
  task := none

def upload (handle : ℕ) (data : List UInt8) : List CameraEvent :=
  [.openPart handle uploadId false, .writePart handle 0 data, .closePart handle]

/-- A photo is uploaded, and the worker has read its part. -/
def verified : List CameraEvent :=
  upload 1 [1] ++
    [CameraEvent.storeReceipt uploadId ⟨200, some (uploadId, "photo.jpg", hash [1], 1)⟩,
      .begin uploadId, .work, .work, .work, .work, .work]

/-- The worker puts it in its place and finishes its receipt. -/
def finished : List CameraEvent := verified ++ [CameraEvent.work, .work, .work, .work, .work]

def isVerifiedAgain : CameraOutput → Bool
  | .finalized file => decide (file.outcome = .already_verified)
  | .placed .. => false

end CameraLesson

/-- The photo is uploaded again between the check and the move, and its receipt names another file. -/
theorem receipt_of_other_file : ∃ trace s e s' out, (cameraFtp CameraLesson.hash).Run trace s ∧
    (cameraFtp CameraLesson.hash).Step s e s' out ∧
      ¬KeepsTransfers CameraLesson.hash (Machine.outputs trace) s s' out := by
  have hexec : ((Machine.execute (CameraFolders.step CameraLesson.hash) (fun _ _ => True)
      CameraLesson.empty (CameraLesson.verified ++ CameraLesson.upload 2 [2] ++
        [CameraEvent.work, .work, .work] ++ [CameraEvent.work])).any fun last =>
          (last.1.acknowledgements CameraLesson.uploadId).any fun record =>
            !last.1.hasContent CameraLesson.hash record.name record.sizeBytes record.sha256) =
      true := by
    decide
  obtain ⟨last, hlast, hend⟩ := (Option.any_eq_true ..).mp hexec
  obtain ⟨current, next, hcurrent, -, hnext, rfl⟩ := Machine.execute_concat hlast
  have hrun := (Machine.run_of_execute (M := cameraFtp CameraLesson.hash)
    ⟨by simp [CameraLesson.empty], rfl, rfl, rfl, rfl, rfl, rfl⟩ id hcurrent).of_restrict
  refine ⟨_, _, .work, _, _, hrun, hnext, ?_⟩
  intro hkeeps
  obtain ⟨record, hrecord, hother⟩ := (Option.any_eq_true ..).mp hend
  rw [Bool.not_eq_true'] at hother
  have hfile := hkeeps.acknowledged CameraLesson.uploadId record hrecord
  rw [hother] at hfile
  cases hfile

/-- A photo is uploaded twice. -/
theorem transfer_receipts_twice : ∃ trace s s' out,
    ((cameraFtp CameraLesson.hash).restrict fun s e => s.mayWrite e = true).Run trace s ∧
      KeepsTransfers CameraLesson.hash (Machine.outputs trace) s s' out ∧
      (Machine.outputs trace).length = 2 ∧ out.any CameraLesson.isVerifiedAgain = true := by
  have hexec : ((Machine.execute (CameraFolders.step CameraLesson.hash)
      (fun s e => s.mayWrite e = true) CameraLesson.empty
      (CameraLesson.finished ++ CameraLesson.verified ++ [CameraEvent.work, .work, .work, .work] ++
        [CameraEvent.work])).any fun last =>
          decide ((Machine.outputs last.2.dropLast).length = 2) &&
            last.2.getLast?.any fun step => step.2.any CameraLesson.isVerifiedAgain) = true := by
    decide
  obtain ⟨last, hlast, hend⟩ := (Option.any_eq_true ..).mp hexec
  obtain ⟨current, next, hcurrent, hmay, hnext, rfl⟩ := Machine.execute_concat hlast
  rw [Bool.and_eq_true, decide_eq_true_eq, List.dropLast_concat, List.getLast?_concat,
    Option.any_some] at hend
  have hrun := Machine.run_of_execute (M := cameraFtp CameraLesson.hash)
    ⟨by simp [CameraLesson.empty], rfl, rfl, rfl, rfl, rfl, rfl⟩ id hcurrent
  exact ⟨_, _, _, _, hrun, transfer_receipts hrun ⟨hmay, hnext⟩, hend⟩

end CitPhysicalXR.Camera
