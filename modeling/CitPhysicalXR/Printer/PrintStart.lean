import CitPhysicalXR.Printer.PrinterService

/-! The start of a print: each is sent for a confirmation of its own, under the operation lock and
after the printer reported standby. -/
namespace CitPhysicalXR.Printer
open Foundation Fabric

def PrinterReport.confirmation? : PrinterReport → Option StartIntentRecord
  | .confirmed record => some record
  | _ => none

def PrinterReport.sent? : PrinterReport → Option StartRequest
  | .startSent request => some request
  | _ => none

/-- The start of the artifact failed, and must not be retried. -/
def PrinterReport.isUnknownOutcome (artifactId : String) : PrinterReport → Bool
  | .startFailed started (.outcomeUnknown ..) => started = artifactId
  | _ => false

abbrev PrinterTrace := List (PrinterEvent × List PrinterReport)

def confirmations (trace : PrinterTrace) : List StartIntentRecord :=
  (Machine.outputs trace).filterMap (·.confirmation?)

def sends (trace : PrinterTrace) : List StartRequest :=
  (Machine.outputs trace).filterMap (·.sent?)

/-- The call was the last one to get the operation lock. -/
def HoldsLock (before : PrinterTrace) (task : ℕ) : Prop :=
  ∃ pre out post, before = pre ++ (PrinterEvent.acquire task, out) :: post ∧
    ∀ entry ∈ post, ∀ other, entry.1 ≠ .acquire other

/-- A start request was confirmed for its actor and artifact, with a confirmation that is neither
used nor expired; standby was seen under the lock; and no start of the artifact has an unknown
outcome. -/
structure StartIsAllowed (before : PrinterTrace) (event : PrinterEvent) (request : StartRequest) :
    Prop where
  confirmed : request.intent ∈ confirmations before
  artifact : request.intent.artifactId = request.artifactId
  actor : request.intent.actorId = request.actorId
  unused : ∀ earlier ∈ sends before, earlier.intent.serial ≠ request.intent.serial
  unexpired : request.at_ < request.intent.expiresAt
  standby : ∃ task token clock, event = .observed task (.ok .standby) token clock ∧
    HoldsLock before task
  known : ∀ report ∈ Machine.outputs before,
    report.isUnknownOutcome request.artifactId = false

structure StartsAreAllowed (trace : PrinterTrace) : Prop where
  numbered : ((confirmations trace).map (·.serial)).Nodup
  allowed : ∀ before event out after, trace = before ++ (event, out) :: after →
    ∀ request, PrinterReport.startSent request ∈ out → StartIsAllowed before event request

theorem confirmations_snoc (trace : PrinterTrace) (e : PrinterEvent) (out : List PrinterReport) :
    confirmations (trace ++ [(e, out)]) = confirmations trace ++
      out.filterMap (·.confirmation?) := by
  simp [confirmations]

theorem sends_snoc (trace : PrinterTrace) (e : PrinterEvent) (out : List PrinterReport) :
    sends (trace ++ [(e, out)]) = sends trace ++ out.filterMap (·.sent?) := by
  simp [sends]

theorem mem_sent {out : List PrinterReport} {request : StartRequest} :
    PrinterReport.startSent request ∈ out ↔ request ∈ out.filterMap (·.sent?) := by
  rw [List.mem_filterMap]
  constructor
  · intro h
    exact ⟨_, h, rfl⟩
  · rintro ⟨report, h, hsent⟩
    cases report with
    | startSent sent =>
      obtain rfl := Option.some.inj hsent
      exact h
    | _ => cases hsent

/-- The calls that take the operation lock. -/
def PrinterCall.isLocking : PrinterCall → Bool
  | .upload _ | .start .. => true
  | .verifyIdle | .prepare .. => false

/-- No confirmation is issued and no start is sent. -/
def Silent (out : List PrinterReport) : Prop :=
  out.filterMap (·.confirmation?) = [] ∧ out.filterMap (·.sent?) = []

theorem silent_nil : Silent [] := ⟨rfl, rfl⟩

inductive StepEffect (s s' : CrealityPrinterService) (e : PrinterEvent) :
    List PrinterReport → Prop
  | kept {out : List PrinterReport} (hout : Silent out) (htasks : s'.tasks = s.tasks)
      (hintents : ∀ tokenHash, s'.startIntents tokenHash = none ∨
        s'.startIntents tokenHash = s.startIntents tokenHash)
      (hcount : s'.confirmations = s.confirmations) (hlock : s'.operationLock = s.operationLock) :
      StepEffect s s' e out
  | entered {task : ℕ} {call : PrinterCall} {phase : CallPhase} (hnew : s.tasks task = none)
      (hcall : ∀ artifactId actorId intent remoteName,
        call ≠ .start artifactId actorId intent remoteName)
      (hphase : call.isLocking = true → phase = .waiting)
      (hs' : s' = s.proceed task call phase) : StepEffect s s' e []
  | taken {task : ℕ} {tokenHash artifactId actorId remoteName : String}
      {intent : StartIntentRecord} (hnew : s.tasks task = none)
      (hintent : s.startIntents tokenHash = some intent)
      (hartifact : intent.artifactId = artifactId) (hactor : intent.actorId = actorId)
      (hs' : s' = { s with
        startIntents := Function.update s.startIntents tokenHash none }.proceed task
          (.start artifactId actorId intent remoteName) .waiting) : StepEffect s s' e []
  | acquired {task : ℕ} {call : PrinterCall} (he : e = .acquire task)
      (hfree : s.operationLock = none) (htask : s.tasks task = some ⟨call, .waiting⟩)
      (hs' : s' = { s with operationLock := some task }.proceed task call .observing) :
      StepEffect s s' e []
  | finished {out : List PrinterReport} (task : ℕ) (hout : Silent out)
      (htasks : s'.tasks = Function.update s.tasks task none)
      (hintents : s'.startIntents = s.startIntents)
      (hcount : s'.confirmations = s.confirmations)
      (hlock : s'.operationLock = if s.operationLock = some task then none else s.operationLock) :
      StepEffect s s' e out
  | confirmed (task : ℕ) {fresh : StartIntentRecord} {answer : PrinterReport}
      (hanswer : Silent [answer]) (hserial : fresh.serial = s.confirmations)
      (htasks : s'.tasks = Function.update s.tasks task none)
      (hintents : ∀ tokenHash intent, s'.startIntents tokenHash = some intent →
        tokenHash = fresh.tokenHash ∧ intent = fresh ∨ s.startIntents tokenHash = some intent)
      (hcount : s'.confirmations = s.confirmations + 1)
      (hlock : s'.operationLock = if s.operationLock = some task then none else s.operationLock) :
      StepEffect s s' e [.confirmed fresh, answer]
  | uploading {task : ℕ} {artifactId name checksum : String}
      (htask : s.tasks task = some ⟨.upload artifactId, .observing⟩)
      (hs' : s' = s.proceed task (.upload artifactId) .requesting) :
      StepEffect s s' e [.uploadSent name checksum]
  | sent {task : ℕ} {artifactId actorId remoteName token : String} {intent : StartIntentRecord}
      {clock : ℕ → Instant} {artifact : PrinterGcodeArtifact}
      (he : e = .observed task (.ok .standby) token clock)
      (htask : s.tasks task = some ⟨.start artifactId actorId intent remoteName, .observing⟩)
      (hs' : s' = (s.setGcode artifact).proceed task (.start artifactId actorId intent remoteName)
        .requesting) :
      StepEffect s s' e [.startSent ⟨artifactId, actorId, intent, remoteName, clock 0⟩]

namespace StepEffect
variable {config : PrinterConfiguration} {s s' : CrealityPrinterService} {e : PrinterEvent}
  {out : List PrinterReport}

theorem raised (error : PrinterError) : Silent [.raised error] := ⟨rfl, rfl⟩

theorem finish (s : CrealityPrinterService) (task : ℕ) (hout : Silent out) :
    StepEffect s (s.finish task) e out :=
  .finished task hout rfl rfl rfl rfl

theorem of_receive {task : ℕ} {now : Instant} {request : PrinterRequest}
    (hnew : s.tasks task = none) (h : s.receive config task now request = (s', out)) :
    StepEffect s s' e out := by
  have hsame {error : PrinterError} : StepEffect s s e [.raised error] :=
    .kept (raised error) rfl (fun _ => .inr rfl) rfl rfl
  cases request with
  | verifyIdle =>
    simp only [CrealityPrinterService.receive, CrealityPrinterService.verifyIdle] at h
    split at h
    · cases h
      exact hsame
    · cases h
      exact .entered hnew (by simp) (fun hlocking => by cases hlocking) rfl
  | uploadArtifact artifactId =>
    simp only [CrealityPrinterService.receive, CrealityPrinterService.uploadArtifact] at h
    split at h
    · cases h
      exact hsame
    · cases h
      exact .entered hnew (by simp) (fun _ => rfl) rfl
  | prepareStart artifactId actorId =>
    simp only [CrealityPrinterService.receive, CrealityPrinterService.prepareStart] at h
    split at h
    · cases h
      exact hsame
    · cases h
      exact .entered hnew (by simp) (fun hlocking => by cases hlocking) rfl
  | startArtifact artifactId actorId confirmationToken =>
    simp only [CrealityPrinterService.receive, CrealityPrinterService.startArtifact] at h
    split at h
    · cases h
      exact hsame
    · have hpopped {out : List PrinterReport} (hout : Silent out) : StepEffect s
          { s with
            startIntents := Function.update s.startIntents (hashStartToken config confirmationToken)
              none } e out := by
        refine .kept hout rfl ?_ rfl rfl
        intro tokenHash
        by_cases hhash : tokenHash = hashStartToken config confirmationToken
        · subst hhash
          exact .inl (Function.update_self ..)
        · exact .inr (Function.update_of_ne hhash ..)
      split at h
      · cases h
        exact hpopped (raised _)
      · rename_i intent hfilter
        obtain ⟨hintent, hvalid⟩ := Option.filter_eq_some_iff.mp hfilter
        simp only [Bool.and_eq_true, decide_eq_true_eq] at hvalid
        split at h
        · cases h
          exact hpopped (raised _)
        · cases h
          exact .taken hnew hintent hvalid.1.1 hvalid.1.2 rfl

theorem of_observe {task : ℕ} {call : PrinterCall} {status : Except PrinterError PrinterState}
    {token : String} {clock : ℕ → Instant} (htask : s.tasks task = some ⟨call, .observing⟩)
    (h : s.observe config task call status token clock = (s', out)) :
    StepEffect s s' (.observed task status token clock) out := by
  unfold CrealityPrinterService.observe at h
  split at h
  · cases h
    exact finish s task (raised _)
  · split at h
    · cases h
      exact finish s task (raised _)
    · rename_i state hstandby
      obtain rfl := not_not.mp hstandby
      cases call with
      | verifyIdle =>
        cases h
        exact .finished task ⟨rfl, rfl⟩ rfl rfl rfl rfl
      | prepare artifactId actorId =>
        cases h
        refine .confirmed task ?_ rfl rfl ?_ rfl rfl
        · split
          · exact ⟨rfl, rfl⟩
          · exact ⟨rfl, rfl⟩
        · intro tokenHash intent hintent
          have hupdated : Function.update (fun tokenHash => (s.startIntents tokenHash).filter
              fun intent => decide (clock 0 < intent.expiresAt)) (hashStartToken config token)
              (some _) tokenHash = some intent := hintent
          rw [Function.update_apply] at hupdated
          split at hupdated
          · rename_i hhash
            exact .inl ⟨hhash, (Option.some.inj hupdated).symm⟩
          · exact .inr (Option.filter_eq_some_iff.mp hupdated).1
      | upload artifactId =>
        simp only [CrealityPrinterService.sendUpload] at h
        split at h
        · cases h
          exact finish s task (raised _)
        · split at h
          · cases h
            exact finish s task (raised _)
          · cases h
            exact .uploading htask rfl
      | start artifactId actorId intent remoteName =>
        simp only [CrealityPrinterService.sendStart] at h
        split at h
        · cases h
          exact finish s task (raised _)
        · split at h
          · cases h
            exact .finished task (raised _) rfl rfl rfl rfl
          · cases h
            exact .sent rfl htask rfl

theorem of_step (h : s.step config e = some (s', out)) : StepEffect s s' e out := by
  cases e with
  | sliced artifact =>
    simp only [CrealityPrinterService.step] at h
    split at h
    · cases h
      exact .kept silent_nil rfl (fun _ => .inr rfl) rfl rfl
    · cases h
  | call task request now =>
    simp only [CrealityPrinterService.step] at h
    split at h
    · rename_i hnew
      exact of_receive (Option.isNone_iff_eq_none.mp hnew) (Option.some.inj h)
    · cases h
  | acquire task =>
    simp only [CrealityPrinterService.step] at h
    split at h
    · rename_i call hfree htask
      cases h
      exact .acquired rfl hfree htask rfl
    · cases h
  | observed task status token clock =>
    simp only [CrealityPrinterService.step] at h
    split at h
    · rename_i call htask
      exact of_observe htask (Option.some.inj h)
    · cases h
  | answered task answer now =>
    simp only [CrealityPrinterService.step] at h
    split at h
    · simp only [CrealityPrinterService.finishUpload, Option.some.injEq] at h
      split at h
      · cases h
        exact finish s task (raised _)
      · split at h
        · cases h
          exact finish s task (raised _)
        · cases h
          exact .finished task ⟨rfl, rfl⟩ rfl rfl rfl rfl
    · simp only [CrealityPrinterService.finishStart, Option.some.injEq] at h
      split at h
      · cases h
        exact finish s task ⟨rfl, rfl⟩
      · cases h
        exact finish s task ⟨rfl, rfl⟩
    · cases h

end StepEffect

theorem HoldsLock.snoc {before : PrinterTrace} {task : ℕ} (h : HoldsLock before task)
    {e : PrinterEvent} (he : ∀ other, e ≠ .acquire other) (out : List PrinterReport) :
    HoldsLock (before ++ [(e, out)]) task := by
  obtain ⟨pre, out', post, rfl, hpost⟩ := h
  refine ⟨pre, out', post ++ [(e, out)], by simp, ?_⟩
  intro entry hentry
  rcases List.mem_append.mp hentry with hold | hnew
  · exact hpost entry hold
  · obtain rfl := List.mem_singleton.mp hnew
    exact he

theorem lock_free {config : PrinterConfiguration} {s s' : CrealityPrinterService} {task : ℕ}
    {out : List PrinterReport} (h : s.step config (.acquire task) = some (s', out)) :
    s.operationLock = none := by
  simp only [CrealityPrinterService.step] at h
  split at h
  · assumption
  · cases h

/-- The operation lock is with the call that got it last, and every call that waits for an answer
of the printer under the lock has it. -/
structure LockHeld (trace : PrinterTrace) (s : CrealityPrinterService) : Prop where
  holder : ∀ task, s.operationLock = some task → HoldsLock trace task
  locked : ∀ task call phase, s.tasks task = some ⟨call, phase⟩ → call.isLocking = true →
    phase ≠ .waiting → s.operationLock = some task

namespace LockHeld
variable {config : PrinterConfiguration} {s s' : CrealityPrinterService} {e : PrinterEvent}
  {out : List PrinterReport} {trace : PrinterTrace}

/-- Unless the lock is taken, it stays with its holder or is released. -/
theorem keeps (h : LockHeld trace s) (hstep : s.step config e = some (s', out))
    (hlock : ∀ task, s'.operationLock = some task → s.operationLock = some task) :
    ∀ task, s'.operationLock = some task → HoldsLock (trace ++ [(e, out)]) task := by
  intro task htask
  have hbefore := hlock task htask
  apply (h.holder task hbefore).snoc
  rintro other rfl
  rw [lock_free hstep] at hbefore
  cases hbefore

theorem locked_of_finished (h : LockHeld trace s) {task : ℕ}
    (htasks : s'.tasks = Function.update s.tasks task none)
    (hlock : s'.operationLock = if s.operationLock = some task then none else s.operationLock) :
    ∀ other call phase, s'.tasks other = some ⟨call, phase⟩ → call.isLocking = true →
      phase ≠ .waiting → s'.operationLock = some other := by
  intro other call phase hother hlocking hphase
  rw [htasks, Function.update_apply] at hother
  split at hother
  · cases hother
  · rename_i hne
    have hheld := h.locked other call phase hother hlocking hphase
    rw [hlock, hheld, if_neg]
    rintro heq
    exact hne (Option.some.inj heq)

theorem released (task : ℕ) {lock : Option ℕ}
    (hlock : lock = if s.operationLock = some task then none else s.operationLock) :
    ∀ other, lock = some other → s.operationLock = some other := by
  intro other hother
  rw [hlock] at hother
  split at hother
  · cases hother
  · exact hother

theorem locked_of_proceed (h : LockHeld trace s) {task : ℕ} {call : PrinterCall}
    {phase : CallPhase} (htasks : s'.tasks = Function.update s.tasks task (some ⟨call, phase⟩))
    (hlock : s'.operationLock = s.operationLock)
    (hheld : call.isLocking = true → phase ≠ .waiting → s.operationLock = some task) :
    ∀ other call phase, s'.tasks other = some ⟨call, phase⟩ → call.isLocking = true →
      phase ≠ .waiting → s'.operationLock = some other := by
  intro other call' phase' hother hlocking hphase
  rw [htasks, Function.update_apply] at hother
  rw [hlock]
  split at hother
  · rename_i heq
    obtain ⟨rfl, rfl⟩ := PrinterTask.mk.inj (Option.some.inj hother)
    rw [heq]
    exact hheld hlocking hphase
  · exact h.locked other call' phase' hother hlocking hphase

theorem step (h : LockHeld trace s) (hstep : s.step config e = some (s', out)) :
    LockHeld (trace ++ [(e, out)]) s' := by
  have heffect := StepEffect.of_step hstep
  cases heffect with
  | kept _ htasks _ _ hlock =>
    refine ⟨h.keeps hstep fun task htask => hlock ▸ htask, ?_⟩
    intro task call phase htask
    rw [htasks] at htask
    rw [hlock]
    exact h.locked task call phase htask
  | entered _ _ hphase hs' =>
    subst hs'
    refine ⟨h.keeps hstep fun _ htask => htask, h.locked_of_proceed rfl rfl ?_⟩
    intro hlocking hnot
    exact absurd (hphase hlocking) hnot
  | taken _ _ _ _ hs' =>
    subst hs'
    exact ⟨h.keeps hstep fun _ htask => htask,
      h.locked_of_proceed rfl rfl fun _ hnot => absurd rfl hnot⟩
  | @acquired task call he hfree htask hs' =>
    subst hs' he
    constructor
    · intro other hother
      obtain rfl : task = other := Option.some.inj hother
      exact ⟨trace, [], [], rfl, by simp⟩
    · intro other call' phase' hother hlocking hnot
      have hupdated : Function.update s.tasks task (some ⟨call, .observing⟩) other =
          some ⟨call', phase'⟩ := hother
      rw [Function.update_apply] at hupdated
      split at hupdated
      · rename_i heq
        rw [heq]
        rfl
      · have hheld := h.locked other call' phase' hupdated hlocking hnot
        rw [hfree] at hheld
        cases hheld
  | finished _ _ htasks _ _ hlock =>
    exact ⟨h.keeps hstep (released _ hlock), h.locked_of_finished htasks hlock⟩
  | confirmed _ _ _ htasks _ _ hlock =>
    exact ⟨h.keeps hstep (released _ hlock), h.locked_of_finished htasks hlock⟩
  | uploading htask hs' =>
    subst hs'
    exact ⟨h.keeps hstep fun _ htask => htask,
      h.locked_of_proceed rfl rfl fun _ _ => h.locked _ _ _ htask rfl (by decide)⟩
  | sent _ htask hs' =>
    subst hs'
    exact ⟨h.keeps hstep fun _ htask => htask,
      h.locked_of_proceed rfl rfl fun _ _ => h.locked _ _ _ htask rfl (by decide)⟩

end LockHeld

/-- Where a confirmation is. -/
inductive Place where
  | future
  | stored (tokenHash : String)
  | held (task : ℕ)
  | sent

structure Placed (trace : PrinterTrace) (s : CrealityPrinterService) (place : ℕ → Place) :
    Prop where
  future : ∀ n, s.confirmations ≤ n → place n = .future
  stored : ∀ tokenHash intent, s.startIntents tokenHash = some intent →
    place intent.serial = .stored tokenHash
  held : ∀ task artifactId actorId intent remoteName phase,
    s.tasks task = some ⟨.start artifactId actorId intent remoteName, phase⟩ →
      phase ≠ .requesting → place intent.serial = .held task
  sent : ∀ request ∈ sends trace, place request.intent.serial = .sent

structure Issued (records : List StartIntentRecord) (s : CrealityPrinterService) : Prop where
  numbers : records.map (·.serial) = List.range s.confirmations
  stored : ∀ tokenHash intent, s.startIntents tokenHash = some intent → intent ∈ records
  held : ∀ task artifactId actorId intent remoteName phase,
    s.tasks task = some ⟨.start artifactId actorId intent remoteName, phase⟩ →
      intent ∈ records ∧ intent.artifactId = artifactId ∧ intent.actorId = actorId

section
variable {config : PrinterConfiguration} {s s' : CrealityPrinterService} {e : PrinterEvent}
  {out : List PrinterReport} {trace : PrinterTrace}

theorem sends_silent (h : Silent out) : sends (trace ++ [(e, out)]) = sends trace := by
  rw [sends_snoc, h.2, List.append_nil]

theorem confirmations_silent (h : Silent out) :
    confirmations (trace ++ [(e, out)]) = confirmations trace := by
  rw [confirmations_snoc, h.1, List.append_nil]

theorem start_of_update {tasks : ℕ → Option PrinterTask} {task other : ℕ}
    {call : Option PrinterTask} {found : PrinterTask}
    (h : Function.update tasks task call other = some found) :
    other = task ∧ call = some found ∨ other ≠ task ∧ tasks other = some found := by
  rw [Function.update_apply] at h
  split at h
  · rename_i heq
    exact .inl ⟨heq, h⟩
  · rename_i hne
    exact .inr ⟨hne, h⟩

theorem Placed.step {place : ℕ → Place} (h : Placed trace s place)
    (hstep : s.step config e = some (s', out)) :
    ∃ place', Placed (trace ++ [(e, out)]) s' place' := by
  have heffect := StepEffect.of_step hstep
  cases heffect with
  | kept hout htasks hintents hcount _ =>
    refine ⟨place, ?_, ?_, ?_, ?_⟩
    · rw [hcount]
      exact h.future
    · intro tokenHash intent hintent
      rcases hintents tokenHash with hnone | hsame
      · rw [hnone] at hintent
        cases hintent
      · rw [hsame] at hintent
        exact h.stored tokenHash intent hintent
    · rw [htasks]
      exact h.held
    · rw [sends_silent hout]
      exact h.sent
  | @entered task call phase _ hcall _ hs' =>
    subst hs'
    refine ⟨place, h.future, h.stored, ?_, ?_⟩
    · intro other artifactId actorId intent remoteName phase' hother hphase
      rcases start_of_update hother with ⟨_, hnew⟩ | ⟨_, hold⟩
      · exact absurd (PrinterTask.mk.inj (Option.some.inj hnew)).1 (hcall _ _ _ _)
      · exact h.held other artifactId actorId intent remoteName phase' hold hphase
    · rw [sends_silent silent_nil]
      exact h.sent
  | @taken task tokenHash artifactId actorId remoteName intent hnew hintent _ _ hs' =>
    subst hs'
    have hplace := h.stored tokenHash intent hintent
    refine ⟨Function.update place intent.serial (.held task), ?_, ?_, ?_, ?_⟩
    · intro n hn
      rw [Function.update_apply]
      split
      · rename_i heq
        rw [← heq, h.future n hn] at hplace
        cases hplace
      · exact h.future n hn
    · intro tokenHash' intent' hintent'
      have hupdated : Function.update s.startIntents tokenHash none tokenHash' =
          some intent' := hintent'
      rw [Function.update_apply] at hupdated
      split at hupdated
      · cases hupdated
      · rename_i hne
        have hstored := h.stored tokenHash' intent' hupdated
        rw [Function.update_of_ne, hstored]
        intro heq
        rw [heq, hplace] at hstored
        exact hne (Place.stored.inj hstored).symm
    · intro other artifactId' actorId' intent' remoteName' phase' hother hphase
      rcases start_of_update hother with ⟨rfl, hstarted⟩ | ⟨_, hold⟩
      · cases hstarted
        rw [Function.update_self]
      · have hheld := h.held other artifactId' actorId' intent' remoteName' phase' hold hphase
        rw [Function.update_of_ne, hheld]
        intro heq
        rw [heq, hplace] at hheld
        cases hheld
    · rw [sends_silent silent_nil]
      intro request hrequest
      have hsent := h.sent request hrequest
      rw [Function.update_of_ne, hsent]
      intro heq
      rw [heq, hplace] at hsent
      cases hsent
  | @acquired task call _ _ htask hs' =>
    subst hs'
    refine ⟨place, h.future, h.stored, ?_, ?_⟩
    · intro other artifactId actorId intent remoteName phase' hother _
      rcases start_of_update hother with ⟨rfl, hsame⟩ | ⟨_, hold⟩
      · obtain ⟨rfl, rfl⟩ := PrinterTask.mk.inj (Option.some.inj hsame)
        exact h.held other artifactId actorId intent remoteName .waiting htask (by decide)
      · exact h.held other artifactId actorId intent remoteName phase' hold ‹_›
    · rw [sends_silent silent_nil]
      exact h.sent
  | finished task hout htasks hintents hcount _ =>
    refine ⟨place, ?_, ?_, ?_, ?_⟩
    · rw [hcount]
      exact h.future
    · rw [hintents]
      exact h.stored
    · intro other artifactId actorId intent remoteName phase' hother hphase
      rw [htasks] at hother
      rcases start_of_update hother with ⟨_, hnone⟩ | ⟨_, hold⟩
      · cases hnone
      · exact h.held other artifactId actorId intent remoteName phase' hold hphase
    · rw [sends_silent hout]
      exact h.sent
  | @confirmed task fresh answer hanswer hserial htasks hintents hcount _ =>
    have hplace := h.future fresh.serial hserial.ge
    refine ⟨Function.update place fresh.serial (.stored fresh.tokenHash), ?_, ?_, ?_, ?_⟩
    · intro n hn
      rw [hcount] at hn
      rw [Function.update_of_ne]
      · exact h.future n (by omega)
      · omega
    · intro tokenHash intent hintent
      rcases hintents tokenHash intent hintent with ⟨rfl, rfl⟩ | hold
      · rw [Function.update_self]
      · have hstored := h.stored tokenHash intent hold
        rw [Function.update_of_ne, hstored]
        intro heq
        rw [heq, hplace] at hstored
        cases hstored
    · intro other artifactId actorId intent remoteName phase' hother hphase
      rw [htasks] at hother
      rcases start_of_update hother with ⟨_, hnone⟩ | ⟨_, hold⟩
      · cases hnone
      · have hheld := h.held other artifactId actorId intent remoteName phase' hold hphase
        rw [Function.update_of_ne, hheld]
        intro heq
        rw [heq, hplace] at hheld
        cases hheld
    · have hsame : sends (trace ++ [(e, [.confirmed fresh, answer])]) = sends trace := by
        rw [sends_snoc, List.filterMap_cons_none rfl, hanswer.2, List.append_nil]
      rw [hsame]
      intro request hrequest
      have hsent := h.sent request hrequest
      rw [Function.update_of_ne, hsent]
      intro heq
      rw [heq, hplace] at hsent
      cases hsent
  | uploading _ hs' =>
    subst hs'
    refine ⟨place, h.future, h.stored, ?_, ?_⟩
    · intro other artifactId actorId intent remoteName phase' hother hphase
      rcases start_of_update hother with ⟨_, hupload⟩ | ⟨_, hold⟩
      · cases hupload
      · exact h.held other artifactId actorId intent remoteName phase' hold hphase
    · rw [sends_silent ⟨rfl, rfl⟩]
      exact h.sent
  | @sent task artifactId actorId remoteName token intent clock artifact _ htask hs' =>
    subst hs'
    have hplace := h.held task artifactId actorId intent remoteName .observing htask (by decide)
    refine ⟨Function.update place intent.serial .sent, ?_, ?_, ?_, ?_⟩
    · intro n hn
      rw [Function.update_apply]
      split
      · rename_i heq
        rw [← heq, h.future n hn] at hplace
        cases hplace
      · exact h.future n hn
    · intro tokenHash intent' hintent'
      have hstored := h.stored tokenHash intent' hintent'
      rw [Function.update_of_ne, hstored]
      intro heq
      rw [heq, hplace] at hstored
      cases hstored
    · intro other artifactId' actorId' intent' remoteName' phase' hother hphase
      rcases start_of_update hother with ⟨_, hsent⟩ | ⟨hne, hold⟩
      · cases hsent
        exact absurd rfl hphase
      · have hheld := h.held other artifactId' actorId' intent' remoteName' phase' hold hphase
        rw [Function.update_of_ne, hheld]
        intro heq
        rw [heq, hplace] at hheld
        exact hne (Place.held.inj hheld).symm
    · rw [sends_snoc]
      intro request hrequest
      rcases List.mem_append.mp hrequest with hold | hnew
      · rw [Function.update_apply]
        split
        · rfl
        · exact h.sent request hold
      · obtain rfl := List.mem_singleton.mp hnew
        exact Function.update_self ..

theorem Issued.step (h : Issued (confirmations trace) s)
    (hstep : s.step config e = some (s', out)) :
    Issued (confirmations (trace ++ [(e, out)])) s' := by
  have heffect := StepEffect.of_step hstep
  cases heffect with
  | kept hout htasks hintents hcount _ =>
    rw [confirmations_silent hout]
    refine ⟨hcount ▸ h.numbers, ?_, htasks ▸ h.held⟩
    intro tokenHash intent hintent
    rcases hintents tokenHash with hnone | hsame
    · rw [hnone] at hintent
      cases hintent
    · rw [hsame] at hintent
      exact h.stored tokenHash intent hintent
  | entered _ hcall _ hs' =>
    subst hs'
    rw [confirmations_silent silent_nil]
    refine ⟨h.numbers, h.stored, ?_⟩
    intro other artifactId actorId intent remoteName phase hother
    rcases start_of_update hother with ⟨_, hnew⟩ | ⟨_, hold⟩
    · exact absurd (PrinterTask.mk.inj (Option.some.inj hnew)).1 (hcall _ _ _ _)
    · exact h.held other artifactId actorId intent remoteName phase hold
  | @taken task tokenHash artifactId actorId remoteName intent _ hintent hartifact hactor hs' =>
    subst hs'
    rw [confirmations_silent silent_nil]
    refine ⟨h.numbers, ?_, ?_⟩
    · intro tokenHash' intent' hintent'
      have hupdated : Function.update s.startIntents tokenHash none tokenHash' =
          some intent' := hintent'
      rw [Function.update_apply] at hupdated
      split at hupdated
      · cases hupdated
      · exact h.stored tokenHash' intent' hupdated
    · intro other artifactId' actorId' intent' remoteName' phase hother
      rcases start_of_update hother with ⟨_, hstarted⟩ | ⟨_, hold⟩
      · cases hstarted
        exact ⟨h.stored tokenHash intent hintent, hartifact, hactor⟩
      · exact h.held other artifactId' actorId' intent' remoteName' phase hold
  | acquired _ _ htask hs' =>
    subst hs'
    rw [confirmations_silent silent_nil]
    refine ⟨h.numbers, h.stored, ?_⟩
    intro other artifactId actorId intent remoteName phase hother
    rcases start_of_update hother with ⟨_, hsame⟩ | ⟨_, hold⟩
    · obtain ⟨rfl, _⟩ := PrinterTask.mk.inj (Option.some.inj hsame)
      exact h.held _ artifactId actorId intent remoteName .waiting htask
    · exact h.held other artifactId actorId intent remoteName phase hold
  | finished task hout htasks hintents hcount _ =>
    rw [confirmations_silent hout]
    refine ⟨hcount ▸ h.numbers, hintents ▸ h.stored, ?_⟩
    intro other artifactId actorId intent remoteName phase hother
    rw [htasks] at hother
    rcases start_of_update hother with ⟨_, hnone⟩ | ⟨_, hold⟩
    · cases hnone
    · exact h.held other artifactId actorId intent remoteName phase hold
  | @confirmed task fresh answer hanswer hserial htasks hintents hcount _ =>
    have hsnoc : confirmations (trace ++ [(e, [.confirmed fresh, answer])]) =
        confirmations trace ++ [fresh] := by
      have hfirst : (PrinterReport.confirmed fresh).confirmation? = some fresh := rfl
      rw [confirmations_snoc, List.filterMap_cons_some hfirst, hanswer.1]
    rw [hsnoc]
    refine ⟨?_, ?_, ?_⟩
    · rw [List.map_append, h.numbers, hcount, List.range_succ, ← hserial]
      rfl
    · intro tokenHash intent hintent
      rcases hintents tokenHash intent hintent with ⟨_, rfl⟩ | hold
      · exact List.mem_append_right _ (List.mem_singleton_self _)
      · exact List.mem_append_left _ (h.stored tokenHash intent hold)
    · intro other artifactId actorId intent remoteName phase hother
      rw [htasks] at hother
      rcases start_of_update hother with ⟨_, hnone⟩ | ⟨_, hold⟩
      · cases hnone
      · obtain ⟨hissued, hfor⟩ := h.held other artifactId actorId intent remoteName phase hold
        exact ⟨List.mem_append_left _ hissued, hfor⟩
  | uploading _ hs' =>
    subst hs'
    rw [confirmations_silent ⟨rfl, rfl⟩]
    refine ⟨h.numbers, h.stored, ?_⟩
    intro other artifactId actorId intent remoteName phase hother
    rcases start_of_update hother with ⟨_, hupload⟩ | ⟨_, hold⟩
    · cases hupload
    · exact h.held other artifactId actorId intent remoteName phase hold
  | sent _ htask hs' =>
    subst hs'
    have hsame (request : StartRequest) : confirmations (trace ++ [(e, [PrinterReport.startSent request])]) =
        confirmations trace := by
      rw [confirmations_snoc]
      exact List.append_nil _
    rw [hsame]
    refine ⟨h.numbers, h.stored, ?_⟩
    intro other artifactId actorId intent remoteName phase hother
    rcases start_of_update hother with ⟨_, hsent⟩ | ⟨_, hold⟩
    · cases hsent
      exact h.held _ _ _ _ _ .observing htask
    · exact h.held other artifactId actorId intent remoteName phase hold

end

/-- What holds of every run. -/
structure Accounted (trace : PrinterTrace) (s : CrealityPrinterService) : Prop where
  lock : LockHeld trace s
  placed : ∃ place, Placed trace s place
  issued : Issued (confirmations trace) s

theorem accounted {config : PrinterConfiguration} {trace : PrinterTrace}
    {s : CrealityPrinterService} (h : (printerService config).Run trace s) :
    Accounted trace s := by
  refine h.induct ?_ ?_
  · rintro s ⟨currentPrintLocked, rfl⟩
    refine ⟨⟨?_, ?_⟩, ⟨fun _ => .future, ?_, ?_, ?_, ?_⟩, ⟨rfl, ?_, ?_⟩⟩
    · intro task htask
      cases htask
    · intro task call phase htask
      cases htask
    · intro n _
      rfl
    · intro tokenHash intent hintent
      cases hintent
    · intro task artifactId actorId intent remoteName phase htask
      cases htask
    · intro request hrequest
      cases hrequest
    · intro tokenHash intent hintent
      cases hintent
    · intro task artifactId actorId intent remoteName phase htask
      cases htask
  · intro trace s e s' out _ h hstep
    obtain ⟨place, hplaced⟩ := h.placed
    exact ⟨h.lock.step hstep, hplaced.step hstep, h.issued.step hstep⟩

/-- What a step needs for its start to be allowed: the confirmation of a start is still valid when
the printer reports standby, and no start of its artifact has an unknown outcome. -/
def mayStart (s : CrealityPrinterService × List PrinterReport) : PrinterEvent → Bool
  | .observed task (.ok .standby) _ clock =>
    match s.1.tasks task with
    | some ⟨.start artifactId _ intent _, .observing⟩ =>
      decide (clock 0 < intent.expiresAt) && s.2.all fun report =>
        !report.isUnknownOutcome artifactId
    | _ => true
  | _ => true

theorem Accounted.allows {config : PrinterConfiguration} {trace : PrinterTrace}
    {s s' : CrealityPrinterService} {e : PrinterEvent} {out : List PrinterReport}
    (h : Accounted trace s) (hstep : s.step config e = some (s', out))
    (hmay : mayStart (s, Machine.outputs trace) e = true) {request : StartRequest}
    (hrequest : PrinterReport.startSent request ∈ out) : StartIsAllowed trace e request := by
  have heffect := StepEffect.of_step hstep
  rw [mem_sent] at hrequest
  cases heffect with
  | kept hout _ _ _ _ =>
    rw [hout.2] at hrequest
    cases hrequest
  | entered _ _ _ _ => cases hrequest
  | taken _ _ _ _ _ => cases hrequest
  | acquired _ _ _ _ => cases hrequest
  | finished _ hout _ _ _ _ =>
    rw [hout.2] at hrequest
    cases hrequest
  | confirmed _ hanswer _ _ _ _ _ =>
    rw [List.filterMap_cons_none rfl, hanswer.2] at hrequest
    cases hrequest
  | uploading _ _ => cases hrequest
  | @sent task artifactId actorId remoteName token intent clock artifact he htask hs' =>
    obtain rfl := List.mem_singleton.mp hrequest
    obtain ⟨place, hplaced⟩ := h.placed
    obtain ⟨hissued, hartifact, hactor⟩ := h.issued.held _ _ _ _ _ _ htask
    have hheld := hplaced.held _ _ _ _ _ _ htask (by decide)
    subst he
    unfold mayStart at hmay
    dsimp only at hmay
    rw [htask] at hmay
    simp only [Bool.and_eq_true, decide_eq_true_eq, List.all_eq_true, Bool.not_eq_true'] at hmay
    refine ⟨hissued, hartifact, hactor, ?_, hmay.1, ?_, hmay.2⟩
    · intro earlier hearlier heq
      have hsent := hplaced.sent earlier hearlier
      rw [heq, hheld] at hsent
      cases hsent
    · have hlock := h.lock.locked _ _ _ htask rfl (by decide)
      exact ⟨task, token, clock, rfl, h.lock.holder task hlock⟩

/-- In every run in which starts are sent in time, and not after an unknown outcome, each start
request is allowed. -/
theorem print_start_once {config : PrinterConfiguration} {trace : PrinterTrace}
    {s : CrealityPrinterService × List PrinterReport}
    (h : ((printerService config).recording.restrict fun s e => mayStart s e = true).Run trace s) :
    StartsAreAllowed trace := by
  constructor
  · have hissued := (accounted (Machine.Run.of_recording h.of_restrict)).issued
    rw [hissued.numbers]
    exact List.nodup_range
  · refine h.induct (P := fun trace _ => ∀ before event out after,
      trace = before ++ (event, out) :: after → ∀ request, PrinterReport.startSent request ∈ out →
        StartIsAllowed before event request) ?_ ?_
    · intro _ _ before event out after hsplit
      simp at hsplit
    · intro trace s e s' out hrun ih hstep before event out' after hsplit request hrequest
      rcases List.eq_nil_or_concat after with rfl | ⟨earlier, last, rfl⟩
      · obtain ⟨rfl, hlast⟩ := List.append_inj' hsplit rfl
        obtain ⟨rfl, rfl⟩ := Prod.mk.inj (List.singleton_inj.mp hlast)
        obtain ⟨hmay, hinner, _⟩ := hstep
        have hrecorded := Machine.Run.recorded hrun.of_restrict
        have haccounted := accounted (Machine.Run.of_recording hrun.of_restrict)
        obtain ⟨service, reports⟩ := s
        obtain rfl : reports = Machine.outputs trace := hrecorded
        exact haccounted.allows hinner hmay hrequest
      · have hinit : trace = before ++ (event, out') :: earlier := by
          rw [List.concat_eq_append, ← List.cons_append, ← List.append_assoc] at hsplit
          exact (List.append_inj' hsplit rfl).1
        exact ih before event out' earlier hinit request hrequest

namespace PrintLesson

def firstToken : String := "first-confirmation-of-the-instructor-0001"

def secondToken : String := "second-confirmation-of-the-instructor-002"

def digest (text : String) : String :=
  if text = "cit-printer-start-v1\x00" ++ firstToken then
    "b918c5b9887022786a2c17956a3fa662ab4fa58e6d6a029325785752c9f187c1"
  else if text = "cit-printer-start-v1\x00" ++ secondToken then
    "eabd87a154a211a54831a5696c774e9b06aa4a1b25a43a4133d88bd034b31e63"
  else ""

def config : PrinterConfiguration := ⟨true, true, true, digest⟩

def part : PrinterGcodeArtifact where
  artifactId := "0123456789abcdef0123456789abcdef"
  fileName := "part.gcode"
  sha256 := "9f86d081884c7d659a2feaa0c55ad015a3bf4f1b2b0b822cd15d6c15b0f00a08"
  profileId := "k1-max-0.4-pla-standard"
  remoteFileName := none
  uploadedAt := none
  startAttemptedAt := none

/-- The printer took the file. -/
def uploadAnswer : HttpResult := .answered 201 (some (.obj [("result", .obj
  [("item", .obj [("path", .str "cit-0123456789ab-part.gcode")]),
    ("print_started", .bool false)])]))

/-- The printer reports standby to a call. -/
def standby (task : ℕ) (token : String) (second : ℤ) : PrinterEvent :=
  .observed task (.ok .standby) token fun _ => seconds second

def confirmedTwice : List PrinterEvent :=
  [.sliced part, .call 0 (.uploadArtifact part.artifactId) 0, .acquire 0, standby 0 "" 1,
    .answered 0 uploadAnswer (seconds 2),
    .call 1 (.prepareStart part.artifactId "instructor-a") (seconds 3), standby 1 firstToken 4,
    .call 2 (.prepareStart part.artifactId "instructor-a") (seconds 5), standby 2 secondToken 6]

def start (task : ℕ) (token : String) (second : ℤ) : PrinterEvent :=
  .call task (.startArtifact part.artifactId "instructor-a" token) (seconds second)

def startedTwice : List PrinterEvent :=
  confirmedTwice ++ [start 3 firstToken 10, .acquire 3, standby 3 "" 11,
    .answered 3 .unavailable (seconds 16), start 4 secondToken 120, .acquire 4]

/-- A request for the part whose confirmation is expired. -/
def isLate : PrinterReport → Bool
  | .startSent request => decide (request.artifactId = part.artifactId ∧
      request.intent.expiresAt ≤ request.at_)
  | _ => false

end PrintLesson

/-- After a start with an unknown outcome the part is started once more, with a confirmation that
has expired meanwhile. -/
theorem started_again : ∃ trace s, (printerService PrintLesson.config).Run trace s ∧
    ¬StartsAreAllowed trace := by
  have hexec : ((Machine.execute (CrealityPrinterService.step PrintLesson.config)
      (fun _ _ => True) (.initial false) PrintLesson.startedTwice).any fun last =>
        (last.1.step PrintLesson.config (PrintLesson.standby 4 "" 130)).any fun next =>
          next.2.any PrintLesson.isLate &&
            (Machine.outputs last.2).any (·.isUnknownOutcome PrintLesson.part.artifactId)) =
        true := by
    decide
  obtain ⟨last, hlast, hnext⟩ := (Option.any_eq_true ..).mp hexec
  obtain ⟨⟨s', out⟩, hstep, hend⟩ := (Option.any_eq_true ..).mp hnext
  rw [Bool.and_eq_true] at hend
  obtain ⟨report, hreport, hlate⟩ := List.any_eq_true.mp hend.1
  obtain ⟨s₀, hinit, hsteps⟩ := (Machine.run_of_execute
    (M := printerService PrintLesson.config) ⟨false, rfl⟩ id hlast).of_restrict
  refine ⟨_, _, ⟨s₀, hinit, hsteps.snoc hstep⟩, ?_⟩
  intro hallowed
  cases report with
  | startSent request =>
    have hallow := hallowed.allowed last.2 _ out [] rfl request hreport
    have hexpired := of_decide_eq_true hlate
    exact absurd hallow.unexpired (not_lt.mpr hexpired.2)
  | _ => cases hlate

/-- The first start of the part is allowed. -/
theorem print_start_once_part : ∃ trace s,
    ((printerService PrintLesson.config).recording.restrict fun s e => mayStart s e = true).Run
      trace s ∧ (sends trace).length = 1 ∧ StartsAreAllowed trace := by
  have hexec : ((Machine.execute (Machine.recorded (CrealityPrinterService.step
      PrintLesson.config)) (fun s e => mayStart s e = true) (.initial false, [])
      (PrintLesson.confirmedTwice ++ [PrintLesson.start 3 PrintLesson.firstToken 10, .acquire 3,
        PrintLesson.standby 3 "" 11])).any fun last =>
        decide ((sends last.2).length = 1)) = true := by
    decide
  obtain ⟨last, hlast, hend⟩ := (Option.any_eq_true ..).mp hexec
  have hinit : (printerService PrintLesson.config).recording.Initial (.initial false, []) :=
    ⟨⟨false, rfl⟩, rfl⟩
  have hrun := Machine.run_of_execute hinit (Machine.recording_step id) hlast
  exact ⟨_, _, hrun, of_decide_eq_true hend, print_start_once hrun⟩

end CitPhysicalXR.Printer
