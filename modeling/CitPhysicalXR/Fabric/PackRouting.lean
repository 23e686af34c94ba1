import CitPhysicalXR.Fabric.FlowDebounce

/-! What the flows of a pack request for an event while no debounce is pending: one command for
each role that a flow reaches. -/
namespace CitPhysicalXR.Fabric
open Foundation

def Repository.NoDebouncePending (repo : Repository) (flows : List FlowRecipe)
    (session : InteractionSession) (now : Instant) : Prop :=
  ∀ flow ∈ flows, ∀ role sourceNodeId,
    Claim.passes (repo.lastTriggered (session.sessionId, debounceFlowId flow role, sourceNodeId))
      now (flowDebounce flow) = true

structure Reaches (repo : Repository) (flow : FlowRecipe) (event : FabricEventEnvelope)
    (session : InteractionSession) (role : Identifier) : Prop where
  selects : Selects asPython repo flow event session role
  connected : .target_is_connected ∈ flow.guards → ∃ node,
    repo.targetNode session role = some node ∧ node.connectionState = .connected

section
variable {repo : Repository} {flow : FlowRecipe} {event : FabricEventEnvelope}
  {session : InteractionSession} {now : Instant} {role : Identifier}

theorem Reaches.of_debounce {rows : List FlowDebounce}
    (h : Reaches { repo with debounce := rows } flow event session role) :
    Reaches repo flow event session role := by
  obtain ⟨⟨henabled, htopic, hconfidence, hpayload, hselected, hbound, hfields⟩, hconnected⟩ := h
  exact ⟨⟨henabled, htopic, hconfidence, hpayload, hselected, hbound, hfields⟩, hconnected⟩

theorem Reaches.debounce (h : Reaches repo flow event session role) (rows : List FlowDebounce) :
    Reaches { repo with debounce := rows } flow event session role := by
  obtain ⟨⟨henabled, htopic, hconfidence, hpayload, hselected, hbound, hfields⟩, hconnected⟩ := h
  exact ⟨⟨henabled, htopic, hconfidence, hpayload, hselected, hbound, hfields⟩, hconnected⟩

theorem debounceFlowId_flowId {flow flow' : FlowRecipe} {role role' : Identifier}
    (h : debounceFlowId flow role = debounceFlowId flow' role') : flow.flowId = flow'.flowId := by
  unfold debounceFlowId at h
  split at h
  · split at h
    · exact identifier_ext (joined_injective h).1
    · exact absurd h.symm (plain_ne_joined _ _ _)
  · split at h
    · exact absurd h (plain_ne_joined _ _ _)
    · exact identifier_ext h

theorem debouncePasses_of_quiet (h : repo.NoDebouncePending [flow] session now)
    (role : Identifier) : repo.debouncePasses flow event session now role = true := by
  have hpasses := h flow (List.mem_singleton_self _) role event.sourceNodeId
  unfold Repository.debouncePasses
  rw [claimFlowDebounce_passes, hpasses, Bool.or_true]

theorem noDebouncePending_of_empty (h : repo.debounce = []) (flows : List FlowRecipe) :
    repo.NoDebouncePending flows session now := by
  intro flow _ role sourceNodeId
  unfold Repository.lastTriggered
  rw [h]
  rfl

variable {flows : List FlowRecipe} {routed : List (FlowRecipe × FabricCommandRequest)}

theorem Repository.NoDebouncePending.after
    (h : repo.NoDebouncePending flows session now)
    (hother : ∀ other ∈ flows, other.flowId ≠ flow.flowId) (event : FabricEventEnvelope)
    (messageId : ℕ → Uuid) :
    (Effect.final (requestsFromFlow flow event session now messageId repo)).NoDebouncePending flows
      session now := by
  rw [requestsFromFlow_final]
  split
  · split
    · exact h
    · rename_i first _ _
      intro other hmem role sourceNodeId
      have hquiet := h other hmem role sourceNodeId
      unfold Repository.debounced
      split
      · exact hquiet
      · cases hpasses : (repo.claimFlowDebounce session.sessionId (debounceFlowId flow first)
            event.sourceNodeId now (flowDebounce flow)).2 with
        | false =>
          rw [claimFlowDebounce_suppressed hpasses]
          exact hquiet
        | true =>
          have hne : (session.sessionId, debounceFlowId other role, sourceNodeId) ≠
              (session.sessionId, debounceFlowId flow first, event.sourceNodeId) := by
            intro heq
            exact hother other hmem (debounceFlowId_flowId (Prod.mk.inj (Prod.mk.inj heq).2).1)
          rw [claimFlowDebounce_accepted hpasses, if_neg hne]
          exact hquiet
  · exact h

theorem mem_routedRoles_quiet (hactive : session.state = .active) (harmed : session.armed = true)
    (hquiet : repo.NoDebouncePending [flow] session now) :
    role ∈ repo.routedRoles flow event session now ↔ Reaches repo flow event session role := by
  rw [mem_routedRoles_iff]
  constructor
  · rintro ⟨hselects, hpermits⟩
    refine ⟨hselects, ?_⟩
    intro hguard
    obtain ⟨node, hnode, _⟩ := hselects.bound
    exact ⟨node, hnode, (hpermits.target node hnode).1 hguard⟩
  · rintro ⟨hselects, hconnected⟩
    refine ⟨hselects, ?_, fun _ => hactive, ?_⟩
    · intro first _
      exact debouncePasses_of_quiet hquiet first
    · intro node hnode
      refine ⟨?_, fun _ _ => harmed⟩
      intro hguard
      obtain ⟨other, hother, hstate⟩ := hconnected hguard
      obtain rfl := Option.some.inj (hnode.symm.trans hother)
      exact hstate

structure RoutedBy (repo : Repository) (flows : List FlowRecipe) (event : FabricEventEnvelope)
    (session : InteractionSession) (routed : List (FlowRecipe × FabricCommandRequest)) : Prop where
  sound : ∀ entry ∈ routed, entry.1 ∈ flows ∧
    Reaches repo entry.1 event session entry.2.targetRole ∧ entry.2.action = entry.1.command.action
  complete : ∀ flow ∈ flows, ∀ role, Reaches repo flow event session role →
    ∃ request, (flow, request) ∈ routed ∧ request.targetRole = role
  fits : ∀ flow ∈ flows, ∀ role, Reaches repo flow event session role →
    keyFits flow session role = true

def ReachesTooFar (repo : Repository) (flows : List FlowRecipe) (event : FabricEventEnvelope)
    (session : InteractionSession) : Prop :=
  ∃ flow ∈ flows, ∃ role, Reaches repo flow event session role ∧ keyFits flow session role = false

theorem RoutedBy.of_debounce {rows : List FlowDebounce}
    (h : RoutedBy { repo with debounce := rows } flows event session routed) :
    RoutedBy repo flows event session routed := by
  constructor
  · intro entry hentry
    obtain ⟨hflow, hreaches, haction⟩ := h.sound entry hentry
    exact ⟨hflow, hreaches.of_debounce, haction⟩
  · intro flow hflow role hreaches
    exact h.complete flow hflow role (hreaches.debounce rows)
  · intro flow hflow role hreaches
    exact h.fits flow hflow role (hreaches.debounce rows)

theorem RoutedBy.cons {messageId : ℕ → Uuid}
    {requests : List FabricCommandRequest}
    (hactive : session.state = .active) (harmed : session.armed = true)
    (hquiet : repo.NoDebouncePending [flow] session now)
    (hfirst : RequestsOf repo flow event session now messageId requests)
    (h : RoutedBy repo flows event session routed) :
    RoutedBy repo (flow :: flows) event session (requests.map (flow, ·) ++ routed) := by
  have hreached (role : Identifier) : role ∈ repo.routedRoles flow event session now ↔
      Reaches repo flow event session role :=
    mem_routedRoles_quiet hactive harmed hquiet
  constructor
  · intro entry hentry
    rcases List.mem_append.mp hentry with hnew | hrest
    · obtain ⟨request, hrequest, rfl⟩ := List.mem_map.mp hnew
      have hrouted : request.targetRole ∈ repo.routedRoles flow event session now := by
        rw [← hfirst.roles]
        exact List.mem_map_of_mem hrequest
      obtain ⟨parameters, n, _, heq⟩ := hfirst.derived request hrequest
      have haction : request.action = flow.command.action := by
        rw [heq]
        rfl
      exact ⟨List.mem_cons_self .., (hreached _).mp hrouted, haction⟩
    · obtain ⟨hflow, hreaches, haction⟩ := h.sound entry hrest
      exact ⟨.tail _ hflow, hreaches, haction⟩
  · intro other hother role hreaches
    rcases List.mem_cons.mp hother with rfl | hother
    · have hrouted := (hreached role).mpr hreaches
      rw [← hfirst.roles] at hrouted
      obtain ⟨request, hrequest, hrole⟩ := List.mem_map.mp hrouted
      exact ⟨request, List.mem_append_left _ (List.mem_map_of_mem hrequest), hrole⟩
    · obtain ⟨request, hrequest, hrole⟩ := h.complete other hother role hreaches
      exact ⟨request, List.mem_append_right _ hrequest, hrole⟩
  · intro other hother role hreaches
    rcases List.mem_cons.mp hother with rfl | hother
    · exact hfirst.fits role ((hreached role).mpr hreaches)
    · exact h.fits other hother role hreaches

/-- The routing returns the commands of all flows, unless a key is too long. -/
theorem routeFlows_spec (hevent : event.validates = true) (hactive : session.state = .active)
    (harmed : session.armed = true) (messageId : ℕ → ℕ → Uuid)
    (hids : (flows.map (·.flowId)).Nodup) (hquiet : repo.NoDebouncePending flows session now)
    (index : ℕ) :
    match routeFlows event session now messageId index flows repo with
    | .ok routed _ => RoutedBy repo flows event session routed
    | .error _ _ => ReachesTooFar repo flows event session := by
  induction flows generalizing repo index with
  | nil =>
    constructor <;> simp
  | cons flow flows ih =>
    rw [List.map_cons, List.nodup_cons] at hids
    have hother : ∀ other ∈ flows, other.flowId ≠ flow.flowId := by
      intro other hmem heq
      apply hids.1
      rw [← heq]
      exact List.mem_map_of_mem hmem
    have hone : repo.NoDebouncePending [flow] session now := by
      intro other hmem
      obtain rfl := List.mem_singleton.mp hmem
      exact hquiet other (List.mem_cons_self ..)
    have hrest : repo.NoDebouncePending flows session now :=
      fun other hmem => hquiet other (.tail _ hmem)
    have hafter := hrest.after hother event (messageId index)
    have hspec := requestsFromFlow_spec repo flow session now hevent (messageId index)
    rw [routeFlows]
    simp only [bind, EStateM.bind]
    cases hrun : requestsFromFlow flow event session now (messageId index) repo with
    | error error repo' =>
      rw [hrun] at hspec
      obtain ⟨⟨role, hrouted, hlong⟩, _⟩ := hspec
      exact ⟨flow, List.mem_cons_self .., role, (mem_routedRoles_quiet hactive harmed hone).mp
        hrouted, hlong⟩
    | ok requests repo' =>
      rw [hrun] at hspec hafter
      obtain ⟨hfirst, rows, rfl⟩ := hspec
      dsimp only [Effect.final] at hafter
      have hothers := ih hids.2 hafter (index + 1)
      dsimp only
      cases hroute : routeFlows event session now messageId (index + 1) flows
          { repo with debounce := rows } with
      | error error repo' =>
        rw [hroute] at hothers
        obtain ⟨other, hmem, role, hreaches, hlong⟩ := hothers
        exact ⟨other, .tail _ hmem, role, hreaches.of_debounce, hlong⟩
      | ok routed repo' =>
        rw [hroute] at hothers
        exact RoutedBy.cons hactive harmed hone hfirst (RoutedBy.of_debounce hothers)

theorem submissionBatches_complete {rest : List (FlowRecipe × FabricCommandRequest)}
    {completed : List Identifier} (hrest : ∀ entry ∈ rest, entry ∈ routed)
    {entry : FlowRecipe × FabricCommandRequest} (hentry : entry ∈ rest)
    (hopen : ∀ group ∈ entry.1.parallelGroup, group ∉ completed) :
    ∃ batch ∈ submissionBatches routed completed rest, entry.2 ∈ batch := by
  induction rest generalizing completed with
  | nil => cases hentry
  | cons first rest ih =>
    obtain ⟨flow, request⟩ := first
    have htail : ∀ entry ∈ rest, entry ∈ routed := fun entry h => hrest entry (.tail _ h)
    unfold submissionBatches
    split
    · rcases List.mem_cons.mp hentry with rfl | hlater
      · exact ⟨[request], List.mem_cons_self .., List.mem_singleton_self _⟩
      · obtain ⟨batch, hbatch, hin⟩ := ih htail hlater hopen
        exact ⟨batch, .tail _ hbatch, hin⟩
    · rename_i group hgroup
      split
      · rename_i hcompleted
        rcases List.mem_cons.mp hentry with rfl | hlater
        · exact absurd hcompleted (hopen group hgroup)
        · exact ih htail hlater hopen
      · by_cases hsame : entry.1.parallelGroup = some group
        · have hin : entry ∈ routed.filter fun entry => entry.1.parallelGroup = some group :=
            List.mem_filter.mpr ⟨hrest entry hentry, decide_eq_true hsame⟩
          exact ⟨_, List.mem_cons_self .., List.mem_map_of_mem hin⟩
        · rcases List.mem_cons.mp hentry with rfl | hlater
          · exact absurd hgroup hsame
          · have hstill : ∀ other ∈ entry.1.parallelGroup, other ∉ group :: completed := by
              intro other hother hmem
              rcases List.mem_cons.mp hmem with rfl | hmem
              · exact hsame hother
              · exact hopen other hother hmem
            obtain ⟨batch, hbatch, hin⟩ := ih htail hlater hstill
            exact ⟨batch, .tail _ hbatch, hin⟩

structure SubmittedBy (repo : Repository) (flows : List FlowRecipe) (event : FabricEventEnvelope)
    (session : InteractionSession) (batches : List (List FabricCommandRequest)) : Prop where
  sound : ∀ batch ∈ batches, ∀ request ∈ batch, ∃ flow ∈ flows,
    Reaches repo flow event session request.targetRole ∧ request.action = flow.command.action
  complete : ∀ flow ∈ flows, ∀ role, Reaches repo flow event session role →
    ∃ batch ∈ batches, ∃ request ∈ batch, request.targetRole = role ∧
      request.action = flow.command.action
  fits : ∀ flow ∈ flows, ∀ role, Reaches repo flow event session role →
    keyFits flow session role = true

theorem RoutedBy.submitted
    (h : RoutedBy repo flows event session routed) :
    SubmittedBy repo flows event session (submissionBatches routed [] routed) := by
  constructor
  · intro batch hbatch request hrequest
    obtain ⟨flow, hentry⟩ := mem_submissionBatches (fun _ hentry => hentry) hbatch hrequest
    exact ⟨flow, h.sound _ hentry⟩
  · intro flow hflow role hreaches
    obtain ⟨request, hentry, hrole⟩ := h.complete flow hflow role hreaches
    obtain ⟨batch, hbatch, hin⟩ := submissionBatches_complete (fun _ hentry => hentry) hentry
      (fun _ _ => List.not_mem_nil)
    exact ⟨batch, hbatch, request, hin, hrole, (h.sound _ hentry).2.2⟩
  · exact h.fits

theorem validateCoursePack_flowIds {coursePack : CoursePack}
    (h : validateCoursePack coursePack = .ok ()) :
    (coursePack.flows.map (·.flowId)).Nodup := by
  unfold validateCoursePack at h
  split at h
  · cases h
  · split at h
    · cases h
    · rename_i hids
      exact not_not.mp hids

theorem routeEvent_spec {coursePack : CoursePack} (hevent : event.validates = true)
    (hactive : session.state = .active) (harmed : session.armed = true)
    (hpack : validateCoursePack coursePack = .ok ())
    (hrunning : repo.requireCoursePack session = .ok coursePack)
    (hquiet : repo.NoDebouncePending coursePack.flows session now) (messageId : ℕ → ℕ → Uuid) :
    match routeEvent event session now messageId repo with
    | .ok batches _ => SubmittedBy repo coursePack.flows event session batches
    | .error _ _ => ReachesTooFar repo coursePack.flows event session := by
  have hspec := routeFlows_spec hevent hactive harmed messageId (validateCoursePack_flowIds hpack)
    hquiet 0
  unfold routeEvent Effect.read
  simp only [bind, EStateM.bind, hrunning]
  cases hroute : routeFlows event session now messageId 0 coursePack.flows repo with
  | error error repo' =>
    rw [hroute] at hspec
    exact hspec
  | ok routed repo' =>
    rw [hroute] at hspec
    exact hspec.submitted

end
end CitPhysicalXR.Fabric
