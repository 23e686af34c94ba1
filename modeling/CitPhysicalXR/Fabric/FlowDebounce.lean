import CitPhysicalXR.Fabric.FlowMatching
import CitPhysicalXR.Foundation.Debouncing

/-! The debounce of flows over any sequence of triggers. -/
namespace CitPhysicalXR.Fabric
open Foundation

/-- The key of a row: session, flow and source. -/
abbrev DebounceKey := Identifier × String × Identifier

def FlowDebounce.key (row : FlowDebounce) : DebounceKey := (row.sessionId, row.flowId, row.sourceNodeId)

/-- The instant that the table keeps for a key. -/
def Repository.lastTriggered (repo : Repository) (key : DebounceKey) : Option Instant :=
  (repo.debounce.find? fun row => row.key = key).map (·.lastTriggeredAt)

section
variable {repo : Repository} {sessionId sourceNodeId : Identifier} {flowId : String}
  {at_ : Instant} {debounce : Duration}

theorem isKey_iff (row : FlowDebounce) : (row.sessionId = sessionId ∧ row.flowId = flowId ∧
    row.sourceNodeId = sourceNodeId) ↔ row.key = (sessionId, flowId, sourceNodeId) := by
  unfold FlowDebounce.key
  rw [Prod.mk.injEq, Prod.mk.injEq]

theorem claimFlowDebounce_passes :
    (repo.claimFlowDebounce sessionId flowId sourceNodeId at_ debounce).2 =
      Claim.passes (repo.lastTriggered (sessionId, flowId, sourceNodeId)) at_ debounce := by
  unfold Repository.claimFlowDebounce Repository.lastTriggered
  simp only [isKey_iff]
  cases repo.debounce.find? fun row => decide (row.key = (sessionId, flowId, sourceNodeId)) with
  | none => rfl
  | some row =>
    dsimp only [Option.map_some, Claim.passes]
    split
    · rename_i hearly
      simp [hearly]
    · rename_i hlate
      simp [hlate]

theorem claimFlowDebounce_suppressed
    (h : (repo.claimFlowDebounce sessionId flowId sourceNodeId at_ debounce).2 = false) :
    (repo.claimFlowDebounce sessionId flowId sourceNodeId at_ debounce).1 = repo := by
  unfold Repository.claimFlowDebounce at h ⊢
  dsimp only at h ⊢
  split at h
  · split at h
    · rename_i hearly
      rw [if_pos hearly]
    · cases h
  · cases h

/-- A claim keeps the instant under its key and leaves the other keys. -/
theorem claimFlowDebounce_accepted
    (h : (repo.claimFlowDebounce sessionId flowId sourceNodeId at_ debounce).2 = true)
    (key : DebounceKey) :
    (repo.claimFlowDebounce sessionId flowId sourceNodeId at_ debounce).1.lastTriggered key =
      if key = (sessionId, flowId, sourceNodeId) then some at_ else repo.lastTriggered key := by
  have hclaimed : FlowDebounce.key ⟨sessionId, flowId, sourceNodeId, at_⟩ =
      (sessionId, flowId, sourceNodeId) := rfl
  unfold Repository.claimFlowDebounce Repository.lastTriggered at *
  simp only [isKey_iff] at h ⊢
  cases hfound : repo.debounce.find? fun row =>
      decide (row.key = (sessionId, flowId, sourceNodeId)) with
  | none =>
    dsimp only
    rw [List.find?_append, List.find?_singleton, hclaimed]
    by_cases hkey : key = (sessionId, flowId, sourceNodeId)
    · subst hkey
      simp [hfound]
    · have hne : ¬(sessionId, flowId, sourceNodeId) = key := fun heq => hkey heq.symm
      simp [hkey, hne]
  | some row =>
    rw [hfound] at h
    dsimp only at h ⊢
    split at h
    · cases h
    · rename_i hlate
      rw [if_neg hlate]
      dsimp only
      rw [List.find?_map]
      have hsame : ((fun row => decide (FlowDebounce.key row = key)) ∘ fun row : FlowDebounce =>
          if decide (row.key = (sessionId, flowId, sourceNodeId)) = true
            then ⟨sessionId, flowId, sourceNodeId, at_⟩ else row) =
          fun row => decide (row.key = key) := by
        funext other
        dsimp only [Function.comp_apply]
        split
        · rename_i hother
          rw [hclaimed, of_decide_eq_true hother]
        · rfl
      rw [hsame]
      by_cases hkey : key = (sessionId, flowId, sourceNodeId)
      · subst hkey
        rw [hfound, if_pos rfl]
        have hrow := List.find?_some hfound
        simp only [Option.map_some, hrow, if_true]
      · rw [if_neg hkey, Option.map_map]
        cases hother : repo.debounce.find? fun row => decide (row.key = key) with
        | none => rfl
        | some other =>
          have hrow := List.find?_some hother
          rw [decide_eq_true_eq] at hrow
          have hne : ¬other.key = (sessionId, flowId, sourceNodeId) := by
            rw [hrow]
            exact hkey
          simp [hne]

end

theorem notMem_colon {s : String} (h : isIdentifier s = true) : ':' ∉ s.toList := by
  unfold isIdentifier at h
  split at h
  · cases h
  · rename_i c rest hlist
    simp only [Bool.and_eq_true] at h
    rw [hlist]
    intro hmem
    rcases List.mem_cons.mp hmem with rfl | hmem
    · exact absurd h.1.1 (by decide)
    · have hall := List.all_eq_true.mp h.1.2 ':' hmem
      exact absurd hall (by decide)

theorem takeWhile_colon {first : List Char} (h : ':' ∉ first) (rest : List Char) :
    (first ++ ':' :: rest).takeWhile (· != ':') = first ∧
      (first ++ ':' :: rest).dropWhile (· != ':') = ':' :: rest := by
  have hall : ∀ c ∈ first, (c != ':') = true := by
    intro c hc
    rw [bne_iff_ne]
    rintro rfl
    exact h hc
  constructor
  · rw [List.takeWhile_append_of_pos hall, List.takeWhile_cons_of_neg (by decide), List.append_nil]
  · rw [List.dropWhile_append_of_pos hall, List.dropWhile_cons_of_neg (by decide)]

/-- Identifiers with a colon between them can be told apart. -/
theorem joined_injective {flow role flow' role' : Identifier}
    (h : flow.text ++ ":" ++ role.text = flow'.text ++ ":" ++ role'.text) :
    flow.text = flow'.text ∧ role.text = role'.text := by
  have hchars := congrArg String.toList h
  simp only [String.toList_append, List.append_assoc] at hchars
  have hcolon : ":".toList = [':'] := rfl
  rw [hcolon, List.singleton_append, List.singleton_append] at hchars
  obtain ⟨htake, hdrop⟩ := takeWhile_colon (notMem_colon flow.valid) role.text.toList
  obtain ⟨htake', hdrop'⟩ := takeWhile_colon (notMem_colon flow'.valid) role'.text.toList
  constructor
  · apply String.toList_inj.mp
    rw [← htake, hchars, htake']
  · apply String.toList_inj.mp
    rw [hchars, hdrop'] at hdrop
    exact (List.cons.inj hdrop).2.symm

theorem plain_ne_joined (flow flow' role : Identifier) :
    flow.text ≠ flow'.text ++ ":" ++ role.text := by
  intro h
  apply notMem_colon flow.valid
  rw [h]
  simp only [String.toList_append, List.mem_append]
  exact .inl (.inr (by decide))

theorem identifier_ext {first second : Identifier} (h : first.text = second.text) :
    first = second := by
  cases first
  cases second
  obtain rfl := h
  rfl

/-- Flows of one pack have one key only if they are the same, and select the same roles. -/
theorem debounceFlowId_injective {coursePack : CoursePack}
    (hpack : validateCoursePack coursePack = .ok ()) {flow flow' : FlowRecipe}
    (hflow : flow ∈ coursePack.flows) (hflow' : flow' ∈ coursePack.flows)
    {payload payload' : JsonObject} {role role' : Identifier} {roles roles' : List Identifier}
    (hroles : resolveFlowTargetRoles flow payload = role :: roles)
    (hroles' : resolveFlowTargetRoles flow' payload' = role' :: roles')
    (h : debounceFlowId flow role = debounceFlowId flow' role') :
    flow = flow' ∧ role :: roles = role' :: roles' := by
  have hids : (coursePack.flows.map (·.flowId)).Nodup := by
    unfold validateCoursePack at hpack
    split at hpack
    · cases hpack
    · split at hpack
      · cases hpack
      · rename_i hids
        exact not_not.mp hids
  have hsame (hid : flow.flowId.text = flow'.flowId.text) : flow = flow' :=
    List.inj_on_of_nodup_map hids hflow hflow' (identifier_ext hid)
  have hdynamic {flow : FlowRecipe} {payload : JsonObject} {role : Identifier}
      {roles : List Identifier} (hpayload : ∃ field allowed capability,
        flow.target = .payload field allowed capability)
      (hroles : resolveFlowTargetRoles flow payload = role :: roles) : roles = [] := by
    obtain ⟨field, allowed, capability, htarget⟩ := hpayload
    unfold resolveFlowTargetRoles at hroles
    rw [htarget] at hroles
    dsimp only at hroles
    split at hroles
    · rename_i selected _
      cases hfound : allowed.find? fun role => decide (role.text = selected) with
      | none =>
        rw [hfound] at hroles
        cases hroles
      | some found =>
        rw [hfound] at hroles
        exact (List.cons.inj hroles).2.symm
    · cases hroles
  have hstatic {flow : FlowRecipe} {payload : JsonObject} (hfixed : ∀ field allowed capability,
      flow.target ≠ .payload field allowed capability) :
      resolveFlowTargetRoles flow payload = flowCandidateRoles flow := by
    unfold resolveFlowTargetRoles
    split
    · rename_i htarget
      exact absurd htarget (hfixed _ _ _)
    · rfl
  by_cases hpayload : ∃ field allowed capability, flow.target = .payload field allowed capability
  · by_cases hpayload' : ∃ field allowed capability,
        flow'.target = .payload field allowed capability
    · have hrest := hdynamic hpayload hroles
      have hrest' := hdynamic hpayload' hroles'
      obtain ⟨_, _, _, htarget⟩ := hpayload
      obtain ⟨_, _, _, htarget'⟩ := hpayload'
      unfold debounceFlowId at h
      rw [htarget, htarget'] at h
      obtain ⟨hid, hrole⟩ := joined_injective h
      rw [hrest, hrest', identifier_ext hrole]
      exact ⟨hsame hid, rfl⟩
    · obtain ⟨_, _, _, htarget⟩ := hpayload
      unfold debounceFlowId at h
      rw [htarget] at h
      dsimp only at h
      split at h
      · rename_i htarget'
        exact absurd ⟨_, _, _, htarget'⟩ hpayload'
      · exact absurd h.symm (plain_ne_joined _ _ _)
  · by_cases hpayload' : ∃ field allowed capability,
        flow'.target = .payload field allowed capability
    · obtain ⟨_, _, _, htarget'⟩ := hpayload'
      unfold debounceFlowId at h
      rw [htarget'] at h
      dsimp only at h
      split at h
      · rename_i htarget
        exact absurd ⟨_, _, _, htarget⟩ hpayload
      · exact absurd h (plain_ne_joined _ _ _)
    · have hid : flow.flowId.text = flow'.flowId.text := by
        unfold debounceFlowId at h
        split at h
        · rename_i htarget
          exact absurd ⟨_, _, _, htarget⟩ hpayload
        · split at h
          · rename_i htarget'
            exact absurd ⟨_, _, _, htarget'⟩ hpayload'
          · exact h
      obtain rfl := hsame hid
      refine ⟨rfl, ?_⟩
      have hfixed : ∀ field allowed capability,
          flow.target ≠ .payload field allowed capability :=
        fun field allowed capability htarget => hpayload ⟨field, allowed, capability, htarget⟩
      rw [← hroles, ← hroles', hstatic hfixed, hstatic hfixed]

/-- A trigger of a flow: the roles that it targets, whether the debounce let it through, and
whether a command was requested. -/
structure TriggerRecord where
  sessionId : Identifier
  flow : FlowRecipe
  roles : List Identifier
  sourceNodeId : Identifier
  at_ : Instant
  accepted : Bool
  requested : Bool

def triggerRecords (flow : FlowRecipe) (event : FabricEventEnvelope) (session : InteractionSession)
    (now : Instant) (messageId : ℕ → Uuid) (repo : Repository) : List TriggerRecord :=
  if triggerMatches flow event then
    match resolveFlowTargetRoles flow event.payload with
    | [] => []
    | role :: roles =>
      [{ sessionId := session.sessionId
         flow := flow
         roles := role :: roles
         sourceNodeId := event.sourceNodeId
         at_ := now
         accepted := repo.debouncePasses flow event session now role
         requested := (Effect.returned (requestsFromFlow flow event session now messageId
           repo)).any fun requests => !requests.isEmpty }]
  else []

theorem final_read {α : Type} (f : Repository → Except FabricError α) (repo : Repository) :
    Effect.final (Effect.read f repo) = repo := by
  unfold Effect.read
  cases f repo <;> rfl

/-- The store after the routing of a flow. -/
theorem requestsFromFlow_final (flow : FlowRecipe) (event : FabricEventEnvelope)
    (session : InteractionSession) (now : Instant) (messageId : ℕ → Uuid) (repo : Repository) :
    Effect.final (requestsFromFlow flow event session now messageId repo) =
      if triggerMatches flow event = true then
        match resolveFlowTargetRoles flow event.payload with
        | [] => repo
        | role :: _ => repo.debounced flow event session now role
      else repo := by
  unfold requestsFromFlow
  by_cases hmatches : triggerMatches flow event = true
  · rw [if_pos hmatches, hmatches]
    simp only [Bool.not_true, Bool.false_eq_true, if_false]
    cases resolveFlowTargetRoles flow event.payload with
    | nil => rfl
    | cons role roles =>
      have hrun := claimTrigger_run repo flow event session now role
      simp only [bind, EStateM.bind, hrun]
      cases flowParameters event.payload flow.command.fixedParameters
          flow.command.parameterBindings with
      | none => rfl
      | some parameters =>
        dsimp only
        split
        · rfl
        · exact final_read _ _
  · rw [if_neg hmatches]
    have hnot : (!triggerMatches flow event) = true := by simpa using hmatches
    rw [hnot]
    rfl

inductive DebounceStep where
  | trigger (flow : FlowRecipe) (event : FabricEventEnvelope) (session : InteractionSession)
      (now : Instant) (messageId : ℕ → Uuid)
  | other

/-- The routing of any flows of the sessions' packs, in any order and at any times; every other
call of the service leaves the debounce table as it is. -/
def flowTriggers (packOf : Identifier → CoursePack) :
    Machine Repository DebounceStep TriggerRecord where
  Initial repo := repo.debounce = []
  Step repo step repo' out :=
    match step with
    | .trigger flow event session now messageId =>
      flow ∈ (packOf session.sessionId).flows ∧ event.validates = true ∧
        repo' = Effect.final (requestsFromFlow flow event session now messageId repo) ∧
        out = triggerRecords flow event session now messageId repo
    | .other => repo'.debounce = repo.debounce ∧ out = []

namespace TriggerRecord

def interval (record : TriggerRecord) : Duration := flowDebounce record.flow

def key (record : TriggerRecord) : DebounceKey :=
  (record.sessionId, record.roles.head?.elim "" (debounceFlowId record.flow), record.sourceNodeId)

def claim (record : TriggerRecord) : Claim DebounceKey Instant :=
  ⟨record.key, record.at_, record.interval, record.accepted⟩

/-- Flows without a debounce claim nothing. -/
def isDebounced (record : TriggerRecord) : Bool := record.interval ≠ 0

structure IsTrigger (packOf : Identifier → CoursePack) (record : TriggerRecord) : Prop where
  flow : record.flow ∈ (packOf record.sessionId).flows
  roles : ∃ payload role roles, record.roles = role :: roles ∧
    resolveFlowTargetRoles record.flow payload = role :: roles
  free : record.isDebounced = false → record.accepted = true
  requested : record.requested = true → record.accepted = true

/-- Two triggers of one session, flow and source. -/
def SameOrigin (first second : TriggerRecord) : Prop :=
  first.sessionId = second.sessionId ∧ first.flow = second.flow ∧
    first.sourceNodeId = second.sourceNodeId

end TriggerRecord

theorem flowDebounce_nonneg (flow : FlowRecipe) : 0 ≤ flowDebounce flow := by
  unfold flowDebounce milliseconds
  positivity

theorem triggerRecords_isTrigger {packOf : Identifier → CoursePack} {flow : FlowRecipe}
    {event : FabricEventEnvelope} {session : InteractionSession} {now : Instant}
    {messageId : ℕ → Uuid} {repo : Repository}
    (hflow : flow ∈ (packOf session.sessionId).flows) (hevent : event.validates = true) :
    ∀ record ∈ triggerRecords flow event session now messageId repo, record.IsTrigger packOf := by
  intro record hrecord
  unfold triggerRecords at hrecord
  split at hrecord
  · split at hrecord
    · cases hrecord
    · rename_i role roles hroles
      obtain rfl := List.mem_singleton.mp hrecord
      refine ⟨hflow, ⟨event.payload, role, roles, rfl, hroles⟩, ?_, ?_⟩
      · intro hfree
        have hzero : flowDebounce flow = 0 := not_not.mp (of_decide_eq_false hfree)
        show repo.debouncePasses flow event session now role = true
        unfold Repository.debouncePasses
        rw [hzero]
        rfl
      · intro hrequested
        obtain ⟨requests, hreturned, hfilled⟩ := (Option.any_eq_true ..).mp hrequested
        have hspec := requestsFromFlow_spec repo flow session now hevent messageId
        cases hrun : requestsFromFlow flow event session now messageId repo with
        | error error repo' =>
          rw [hrun] at hreturned
          cases hreturned
        | ok requests' repo' =>
          rw [hrun] at hreturned hspec
          obtain rfl := Option.some.inj hreturned
          cases hcase : requests' with
          | nil =>
            rw [hcase] at hfilled
            cases hfilled
          | cons request rest =>
            have hmem : request.targetRole ∈ repo.routedRoles flow event session now := by
              rw [← hspec.1.roles, hcase]
              exact List.mem_cons_self ..
            obtain ⟨_, hpermits⟩ := mem_routedRoles_iff.mp hmem
            apply hpermits.debounce
            rw [hroles]
            rfl
  · cases hrecord

/-- The table keeps the instants of the triggers that were let through. -/
def Tracks (records : List TriggerRecord) (repo : Repository) : Prop :=
  Claim.Spaced ((records.filter (·.isDebounced)).map (·.claim)) repo.lastTriggered

theorem Tracks.trigger {records : List TriggerRecord} {repo : Repository}
    (h : Tracks records repo) (flow : FlowRecipe) (event : FabricEventEnvelope)
    (session : InteractionSession) (now : Instant) (messageId : ℕ → Uuid) :
    Tracks (records ++ triggerRecords flow event session now messageId repo)
      (Effect.final (requestsFromFlow flow event session now messageId repo)) := by
  rw [requestsFromFlow_final]
  unfold triggerRecords
  split
  · cases hroles : resolveFlowTargetRoles flow event.payload with
    | nil =>
      rw [List.append_nil]
      exact h
    | cons role roles =>
      dsimp only
      unfold Tracks Repository.debounced Repository.debouncePasses
      rw [List.filter_append, List.map_append]
      by_cases hzero : flowDebounce flow = 0
      · have hfree : (List.filter (·.isDebounced) [TriggerRecord.mk session.sessionId flow
            (role :: roles) event.sourceNodeId now (decide (flowDebounce flow = 0) ||
              (repo.claimFlowDebounce session.sessionId (debounceFlowId flow role)
                event.sourceNodeId now (flowDebounce flow)).2)
            ((Effect.returned (requestsFromFlow flow event session now messageId repo)).any
              fun requests => !requests.isEmpty)]) = [] := by
          simp [TriggerRecord.isDebounced, TriggerRecord.interval, hzero]
        rw [hfree, if_pos hzero, List.map_nil, List.append_nil]
        exact h
      · rw [if_neg hzero, List.filter_cons_of_pos (by
          simp [TriggerRecord.isDebounced, TriggerRecord.interval, hzero]), List.filter_nil,
          List.map_singleton]
        have hkey : TriggerRecord.claim ⟨session.sessionId, flow, role :: roles,
            event.sourceNodeId, now, decide (flowDebounce flow = 0) ||
              (repo.claimFlowDebounce session.sessionId (debounceFlowId flow role)
                event.sourceNodeId now (flowDebounce flow)).2,
            (Effect.returned (requestsFromFlow flow event session now messageId repo)).any
              fun requests => !requests.isEmpty⟩ =
            ⟨(session.sessionId, debounceFlowId flow role, event.sourceNodeId), now,
              flowDebounce flow, (repo.claimFlowDebounce session.sessionId
                (debounceFlowId flow role) event.sourceNodeId now (flowDebounce flow)).2⟩ := by
          unfold TriggerRecord.claim TriggerRecord.key TriggerRecord.interval
          simp [hzero]
        rw [hkey]
        cases hpasses : (repo.claimFlowDebounce session.sessionId (debounceFlowId flow role)
            event.sourceNodeId now (flowDebounce flow)).2 with
        | true =>
          have hclaim := claimFlowDebounce_accepted hpasses
          rw [claimFlowDebounce_passes] at hpasses
          apply Claim.Spaced.accept h (flowDebounce_nonneg flow) hpasses
          · rw [hclaim, if_pos rfl]
          · intro other hother
            rw [hclaim, if_neg hother]
        | false =>
          rw [claimFlowDebounce_suppressed hpasses]
          rw [claimFlowDebounce_passes] at hpasses
          exact Claim.Spaced.suppress h hpasses
  · rw [List.append_nil]
    exact h

theorem flowTriggers_tracks {packOf : Identifier → CoursePack}
    {trace : List (DebounceStep × List TriggerRecord)} {repo : Repository}
    (h : (flowTriggers packOf).Run trace repo) :
    (∀ record ∈ Machine.outputs trace, record.IsTrigger packOf) ∧
      Tracks (Machine.outputs trace) repo := by
  refine h.induct (P := fun trace repo => (∀ record ∈ Machine.outputs trace,
    record.IsTrigger packOf) ∧ Tracks (Machine.outputs trace) repo) ?_ ?_
  · intro repo hinitial
    have hempty : repo.debounce = [] := hinitial
    refine ⟨by simp, ?_⟩
    unfold Tracks
    have hnone : repo.lastTriggered = fun _ => none := by
      funext key
      unfold Repository.lastTriggered
      rw [hempty]
      rfl
    rw [hnone]
    exact Claim.spaced_nil
  · rintro trace repo step repo' out _ ⟨htriggers, htracks⟩ hstep
    rw [Machine.outputs_append, Machine.outputs_singleton]
    cases step with
    | other =>
      obtain ⟨hsame, rfl⟩ : repo'.debounce = repo.debounce ∧ out = [] := hstep
      rw [List.append_nil]
      refine ⟨htriggers, ?_⟩
      have hlast : repo'.lastTriggered = repo.lastTriggered := by
        funext key
        unfold Repository.lastTriggered
        rw [hsame]
      unfold Tracks
      rw [hlast]
      exact htracks
    | trigger flow event session now messageId =>
      obtain ⟨hflow, hevent, rfl, rfl⟩ := hstep
      refine ⟨?_, htracks.trigger flow event session now messageId⟩
      intro record hrecord
      rcases List.mem_append.mp hrecord with hbefore | hnew
      · exact htriggers record hbefore
      · exact triggerRecords_isTrigger hflow hevent record hnew

theorem TriggerRecord.IsTrigger.same {packOf : Identifier → CoursePack}
    (hpacks : ∀ sessionId, validateCoursePack (packOf sessionId) = .ok ())
    {first second : TriggerRecord} (hfirst : first.IsTrigger packOf)
    (hsecond : second.IsTrigger packOf) (h : first.key = second.key) :
    SameOrigin first second ∧ first.roles = second.roles := by
  obtain ⟨payload, role, roles, hroles, hresolved⟩ := hfirst.roles
  obtain ⟨payload', role', roles', hroles', hresolved'⟩ := hsecond.roles
  unfold TriggerRecord.key at h
  rw [hroles, hroles', Prod.mk.injEq, Prod.mk.injEq] at h
  obtain ⟨hsession, hflow, hsource⟩ := h
  have hmem := hsecond.flow
  rw [← hsession] at hmem
  obtain ⟨hsame, hsameRoles⟩ := debounceFlowId_injective (hpacks first.sessionId) hfirst.flow hmem
    hresolved hresolved' hflow
  rw [hroles, hroles']
  exact ⟨⟨hsession, hsame, hsource⟩, hsameRoles⟩

theorem selected_single {payload : JsonObject} {field : Identifier} {allowed : List Identifier}
    {head : Identifier} {roles : List Identifier}
    (h : (match payload.get? field.text with
      | some (.str selected) => (allowed.find? fun role => role.text = selected).toList
      | _ => []) = head :: roles) : roles = [] := by
  split at h
  · rename_i selected _
    cases hfound : allowed.find? fun role => decide (role.text = selected) with
    | none =>
      rw [hfound] at h
      cases h
    | some found =>
      rw [hfound] at h
      exact (List.cons.inj h).2.symm
  · cases h

theorem TriggerRecord.IsTrigger.key_eq {packOf : Identifier → CoursePack}
    {first second : TriggerRecord} (hfirst : first.IsTrigger packOf)
    (hsecond : second.IsTrigger packOf) (h : SameOrigin first second) {role : Identifier}
    (hrole : role ∈ first.roles) (hrole' : role ∈ second.roles) : first.key = second.key := by
  obtain ⟨payload, head, roles, hroles, hresolved⟩ := hfirst.roles
  obtain ⟨payload', head', roles', hroles', hresolved'⟩ := hsecond.roles
  obtain ⟨hsession, hflow, hsource⟩ := h
  have hid : debounceFlowId first.flow head = debounceFlowId second.flow head' := by
    rw [← hflow] at hresolved' ⊢
    unfold debounceFlowId
    unfold resolveFlowTargetRoles at hresolved hresolved'
    split
    · rename_i field allowed capability htarget
      rw [htarget] at hresolved hresolved'
      rw [hroles, selected_single hresolved] at hrole
      rw [hroles', selected_single hresolved'] at hrole'
      rw [← List.mem_singleton.mp hrole, ← List.mem_singleton.mp hrole']
    · rfl
  unfold TriggerRecord.key
  rw [hroles, hroles', hsession, hsource]
  show (_, debounceFlowId first.flow head, _) = (_, debounceFlowId second.flow head', _)
  rw [hid]

/-- Two triggers that are let through are the flow's debounce apart, a trigger is suppressed only
by an earlier one of its own key, and a suppressed trigger requests nothing. -/
theorem flow_debounce {packOf : Identifier → CoursePack}
    (hpacks : ∀ sessionId, validateCoursePack (packOf sessionId) = .ok ())
    {trace : List (DebounceStep × List TriggerRecord)} {repo : Repository}
    (h : (flowTriggers packOf).Run trace repo) :
    ((Machine.outputs trace).Pairwise fun first second =>
      first.accepted = true → second.accepted = true → first.SameOrigin second →
        ∀ role ∈ first.roles, role ∈ second.roles →
          flowDebounce second.flow ≤ |second.at_ - first.at_|) ∧
    (∀ before record after, Machine.outputs trace = before ++ record :: after →
      record.accepted = false → record.requested = false ∧
        ∃ earlier ∈ before, earlier.accepted = true ∧ earlier.SameOrigin record ∧
          earlier.roles = record.roles ∧ record.at_ - earlier.at_ < flowDebounce record.flow) := by
  obtain ⟨htriggers, htracks⟩ := flowTriggers_tracks h
  unfold Tracks at htracks
  constructor
  · have hapart := htracks.apart
    rw [List.pairwise_map, List.pairwise_filter] at hapart
    refine hapart.imp_of_mem ?_
    intro first second hfirst hsecond hspaced haccepted haccepted' hsame role hrole hrole'
    by_cases hzero : flowDebounce second.flow = 0
    · rw [hzero]
      exact abs_nonneg _
    · have hdebounced : second.isDebounced = true := decide_eq_true hzero
      have hdebounced' : first.isDebounced = true := by
        apply decide_eq_true
        unfold TriggerRecord.interval
        rw [hsame.2.1]
        exact hzero
      have hkey := (htriggers first hfirst).key_eq (htriggers second hsecond) hsame hrole hrole'
      have hgap := hspaced hdebounced' hdebounced haccepted haccepted' hkey
      exact hgap.trans (le_abs_self _)
  · intro before record after hsplit hsuppressed
    have hmem : record ∈ Machine.outputs trace := by
      rw [hsplit]
      simp
    have htrigger := htriggers record hmem
    have hquiet : record.requested = false := by
      cases hrequested : record.requested with
      | false => rfl
      | true =>
        rw [htrigger.requested hrequested] at hsuppressed
        cases hsuppressed
    have hdebounced : record.isDebounced = true := by
      cases hfree : record.isDebounced with
      | true => rfl
      | false =>
        rw [htrigger.free hfree] at hsuppressed
        cases hsuppressed
    have hclaims : ((Machine.outputs trace).filter (·.isDebounced)).map (·.claim) =
        (before.filter (·.isDebounced)).map (·.claim) ++ record.claim ::
          (after.filter (·.isDebounced)).map (·.claim) := by
      rw [hsplit, List.filter_append, List.filter_cons_of_pos hdebounced, List.map_append,
        List.map_cons]
    obtain ⟨claim, hclaim, haccepted, hkey, hgap⟩ := htracks.caused _ _ _ hclaims hsuppressed
    obtain ⟨earlier, hearlier, rfl⟩ := List.mem_map.mp hclaim
    have hbefore := (List.mem_filter.mp hearlier).1
    have hmem' : earlier ∈ Machine.outputs trace := by
      rw [hsplit]
      exact List.mem_append_left _ hbefore
    obtain ⟨hsame, hroles⟩ := (htriggers earlier hmem').same hpacks htrigger hkey
    exact ⟨hquiet, earlier, hbefore, haccepted, hsame, hroles, hgap⟩

namespace Lesson

/-- The button drives the robot at most twice a second. -/
def debouncedFlow : FlowRecipe :=
  { flow with trigger := ⟨button.name, none, some 500, none⟩ }

def debouncedPack : CoursePack := { coursePack with flows := [debouncedFlow] }

/-- A press some milliseconds after the first one. -/
def pressAt (later : ℤ) : DebounceStep :=
  .trigger debouncedFlow press (running true) (press.timestamp + milliseconds later) uuid

def pressed (later : ℤ) (repo : Repository) : List TriggerRecord :=
  triggerRecords debouncedFlow press (running true) (press.timestamp + milliseconds later) uuid repo

def afterPress (later : ℤ) (repo : Repository) : Repository :=
  Effect.final (requestsFromFlow debouncedFlow press (running true)
    (press.timestamp + milliseconds later) uuid repo)

end Lesson

/-- The second press comes too early, as does one at an earlier time of the clock; the last one is
let through. -/
theorem flow_debounce_presses : ∃ trace repo,
    (flowTriggers fun _ => Lesson.debouncedPack).Run trace repo ∧
      (Machine.outputs trace).map (·.accepted) = [true, false, false, true] ∧
      (Machine.outputs trace).Pairwise fun first second =>
        first.accepted = true → second.accepted = true → first.SameOrigin second →
          ∀ role ∈ first.roles, role ∈ second.roles →
            flowDebounce second.flow ≤ |second.at_ - first.at_| := by
  let store := Lesson.storeWith Lesson.robot []
  let first := Lesson.afterPress 0 store
  let second := Lesson.afterPress 100 first
  let third := Lesson.afterPress (-800) second
  have hpacks : ∀ _ : Identifier, validateCoursePack Lesson.debouncedPack = .ok () := by
    intro _
    decide
  have hstep (later : ℤ) (repo : Repository) : (flowTriggers fun _ => Lesson.debouncedPack).Step
      repo (Lesson.pressAt later) (Lesson.afterPress later repo) (Lesson.pressed later repo) :=
    ⟨List.mem_singleton_self _, by decide, rfl, rfl⟩
  have hrun : (flowTriggers fun _ => Lesson.debouncedPack).Run _ _ :=
    ⟨store, rfl, (((Machine.Steps.nil.snoc (hstep 0 store)).snoc (hstep 100 first)).snoc
      (hstep (-800) second)).snoc (hstep 500 third)⟩
  exact ⟨_, _, hrun, by decide, (flow_debounce hpacks hrun).1⟩

end CitPhysicalXR.Fabric
