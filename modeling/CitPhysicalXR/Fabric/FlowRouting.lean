import CitPhysicalXR.Fabric.Routing

/-! What a flow requests for an event: the roles that it is routed to, and one request for each
of them. -/
namespace CitPhysicalXR.Fabric
open Foundation

section
variable (repo : Repository) (flow : FlowRecipe) (event : FabricEventEnvelope)
  (session : InteractionSession) (now : Instant)

def flowDebounce : Duration := milliseconds (flow.trigger.debounceMs.getD 0)

/-- Whether the debounce lets the trigger pass. -/
def Repository.debouncePasses (role : Identifier) : Bool :=
  flowDebounce flow = 0 || (repo.claimFlowDebounce session.sessionId (debounceFlowId flow role)
    event.sourceNodeId now (flowDebounce flow)).2

/-- The store after the trigger. -/
def Repository.debounced (role : Identifier) : Repository :=
  if flowDebounce flow = 0 then repo
  else (repo.claimFlowDebounce session.sessionId (debounceFlowId flow role) event.sourceNodeId now
    (flowDebounce flow)).1

theorem claimTrigger_run (role : Identifier) :
    claimTrigger flow event session now role repo =
      .ok (repo.debouncePasses flow event session now role)
        (repo.debounced flow event session now role) := by
  unfold claimTrigger Repository.debouncePasses Repository.debounced
  by_cases hzero : flowDebounce flow = 0
  · have hnone : milliseconds (flow.trigger.debounceMs.getD 0) = 0 := hzero
    simp only [hnone, hzero, if_true, decide_true, Bool.true_or]
    rfl
  · have hsome : ¬milliseconds (flow.trigger.debounceMs.getD 0) = 0 := hzero
    simp only [hsome, hzero, if_false, decide_false, Bool.false_or]
    rfl

theorem debounced_rows (role : Identifier) :
    ∃ rows, repo.debounced flow event session now role = { repo with debounce := rows } := by
  unfold Repository.debounced
  split
  · exact ⟨repo.debounce, rfl⟩
  · cases h : repo.claimFlowDebounce session.sessionId (debounceFlowId flow role)
      event.sourceNodeId now (flowDebounce flow) with
    | mk repo' fires => exact Repository.claimFlowDebounce_eq h

/-- What a trigger needs before its roles are looked at. -/
def Repository.fires : Bool :=
  triggerMatches flow event &&
    ((resolveFlowTargetRoles flow event.payload).head?.any
      (repo.debouncePasses flow event session now)) &&
    (decide (.session_is_active ∉ flow.guards ∨ session.state = .active) &&
      (flowParameters event.payload flow.command.fixedParameters
        flow.command.parameterBindings).isSome)

/-- The roles that the flow requests its command for. -/
def Repository.routedRoles : List Identifier :=
  if repo.fires flow event session now then
    (resolveFlowTargetRoles flow event.payload).filter (repo.roleAccepts flow session)
  else []

/-- The idempotency key of a request is within its bound of 256 characters. -/
def keyFits (role : Identifier) : Bool :=
  decide (session.sessionId.text.length + flow.flowId.text.length + role.text.length ≤ 212)

end

section
variable {repo : Repository} {flow : FlowRecipe} {event : FabricEventEnvelope}
  {session : InteractionSession} {now : Instant}

theorem mem_routedRoles {role : Identifier} :
    role ∈ repo.routedRoles flow event session now ↔
      repo.fires flow event session now = true ∧
        role ∈ resolveFlowTargetRoles flow event.payload ∧
        repo.roleAccepts flow session role = true := by
  unfold Repository.routedRoles
  split
  · rename_i hfires
    simp [hfires]
  · rename_i hfires
    simp [hfires]

theorem flowTtlMs_bounds (event : FabricEventEnvelope) (now : Instant) :
    1 ≤ flowTtlMs event now ∧ flowTtlMs event now ≤ 2000 := by
  unfold flowTtlMs
  dsimp only
  generalize event.timestamp + milliseconds event.ttlMs - now = remaining
  have hms : milliseconds 1 = 1000 := rfl
  have hmax : maxFlowCommandTtl = 2000000 := rfl
  rw [hms, hmax]
  constructor
  · exact le_max_left _ _
  · have hmin : min (max remaining 1000) (2000000 : ℤ) ≤ 2000000 := min_le_right _ _
    apply max_le
    · norm_num
    · exact Int.ediv_le_of_le_mul (by norm_num) (by omega)

theorem flowRequest_validates (hevent : event.validates = true) (parameters : JsonObject)
    (role : Identifier) (messageId : Uuid) :
    (flowRequest flow event session now parameters role messageId).validates =
      keyFits flow session role := by
  unfold FabricEventEnvelope.validates at hevent
  simp only [Bool.and_eq_true] at hevent
  have hid : textWithin 128 event.messageId.text = true := by
    unfold textWithin
    rw [Uuid.length_text]
    rfl
  have hcorrelation : textWithin 128 (orDefault event.correlationId event.messageId.text) =
      true := by
    have hgiven := hevent.1.1.1
    unfold orDefault
    cases hcase : event.correlationId with
    | none => exact hid
    | some text =>
      rw [hcase] at hgiven
      dsimp only
      split
      · exact hid
      · exact hgiven
  have hkey : textWithin 256 (flowIdempotencyKey session.sessionId flow.flowId role
      event.messageId) = keyFits flow session role := by
    unfold textWithin keyFits flowIdempotencyKey
    simp only [String.length_append, Uuid.length_text]
    have hflow : "flow:".length = 5 := rfl
    have hcolon : ":".length = 1 := rfl
    rw [hflow, hcolon]
    apply decide_eq_decide.mpr
    omega
  obtain ⟨hlow, hhigh⟩ := flowTtlMs_bounds event now
  have httl : decide (1 ≤ flowTtlMs event now ∧ flowTtlMs event now ≤ 60000) = true := by
    apply decide_eq_true
    omega
  unfold FabricCommandRequest.validates flowRequest
  dsimp only [optionalTextWithin]
  rw [hkey, httl, hcorrelation, hid]
  simp

variable {messageId : ℕ → Uuid} {roles : List Identifier}

theorem buildRequests_error {parameters : JsonObject} {accepts : Identifier → Bool}
    (hevent : event.validates = true) {draw : ℕ}
    {error : FabricError}
    (h : buildRequests flow event session now parameters accepts messageId draw roles =
      .error error) : ∃ role ∈ roles.filter accepts, keyFits flow session role = false := by
  induction roles generalizing draw error with
  | nil => cases h
  | cons role rest ih =>
    rw [buildRequests] at h
    split at h
    · rename_i haccepts
      rw [List.filter_cons_of_pos haccepts]
      dsimp only at h
      rw [flowRequest_validates hevent] at h
      split at h
      · cases hrest : buildRequests flow event session now parameters accepts messageId (draw + 1)
          rest with
        | error other =>
          obtain ⟨bad, hbad, hlong⟩ := ih hrest
          exact ⟨bad, .tail _ hbad, hlong⟩
        | ok requests =>
          rw [hrest] at h
          cases h
      · rename_i hlong
        exact ⟨role, List.mem_cons_self .., by simpa using hlong⟩
    · rename_i haccepts
      rw [List.filter_cons_of_neg haccepts]
      exact ih h

theorem buildRequests_roles {parameters : JsonObject} {accepts : Identifier → Bool}
    (hevent : event.validates = true) {draw : ℕ}
    {requests : List FabricCommandRequest}
    (h : buildRequests flow event session now parameters accepts messageId draw roles =
      .ok requests) :
    requests.map (·.targetRole) = roles.filter accepts ∧
      (∀ role ∈ roles.filter accepts, keyFits flow session role = true) ∧
      ∀ request ∈ requests, ∃ n,
        request = flowRequest flow event session now parameters request.targetRole
          (messageId n) := by
  induction roles generalizing draw requests with
  | nil =>
    cases h
    simp
  | cons role rest ih =>
    rw [buildRequests] at h
    split at h
    · rename_i haccepts
      rw [List.filter_cons_of_pos haccepts]
      dsimp only at h
      rw [flowRequest_validates hevent] at h
      split at h
      · rename_i hfits
        obtain ⟨others, hothers, rfl⟩ := map_eq_ok.mp h
        obtain ⟨hroles, hkeys, hderived⟩ := ih hothers
        refine ⟨?_, ?_, ?_⟩
        · rw [List.map_cons, hroles]
          rfl
        · intro other hother
          rcases List.mem_cons.mp hother with rfl | hother
          · exact hfits
          · exact hkeys other hother
        · intro request hrequest
          rcases List.mem_cons.mp hrequest with rfl | hrequest
          · exact ⟨draw, rfl⟩
          · exact hderived request hrequest
      · cases h
    · rename_i haccepts
      rw [List.filter_cons_of_neg haccepts]
      exact ih h

structure RequestsOf (repo : Repository) (flow : FlowRecipe) (event : FabricEventEnvelope)
    (session : InteractionSession) (now : Instant) (messageId : ℕ → Uuid)
    (requests : List FabricCommandRequest) : Prop where
  roles : requests.map (·.targetRole) = repo.routedRoles flow event session now
  fits : ∀ role ∈ repo.routedRoles flow event session now, keyFits flow session role = true
  derived : ∀ request ∈ requests, ∃ parameters n,
    flowParameters event.payload flow.command.fixedParameters flow.command.parameterBindings =
        some parameters ∧
      request = flowRequest flow event session now parameters request.targetRole (messageId n)

theorem requestsOf_nil
    (h : repo.routedRoles flow event session now = []) :
    RequestsOf repo flow event session now messageId [] := by
  constructor
  · exact h.symm
  · simp [h]
  · simp

theorem fires_of_roles (repo : Repository) (session : InteractionSession) (now : Instant)
    (hmatches : triggerMatches flow event = true) {role : Identifier}
    (hroles : resolveFlowTargetRoles flow event.payload = role :: roles) :
    repo.fires flow event session now = true ↔
      repo.debouncePasses flow event session now role = true ∧
        ¬(.session_is_active ∈ flow.guards ∧ session.state ≠ .active) ∧
        (flowParameters event.payload flow.command.fixedParameters
          flow.command.parameterBindings).isSome = true := by
  unfold Repository.fires
  rw [hmatches, hroles, List.head?_cons, Option.any_some, Bool.true_and, Bool.and_eq_true,
    Bool.and_eq_true, decide_eq_true_iff, not_and_or, not_ne_iff]

theorem requestsFromFlow_silent (messageId : ℕ → Uuid)
    (hsilent : ¬repo.fires flow event session now = true) :
    ∃ rows, requestsFromFlow flow event session now messageId repo =
      .ok [] { repo with debounce := rows } := by
  unfold requestsFromFlow
  split
  · exact ⟨repo.debounce, rfl⟩
  · rename_i hmatches
    cases hroles : resolveFlowTargetRoles flow event.payload with
    | nil => exact ⟨repo.debounce, rfl⟩
    | cons role roles =>
      rw [fires_of_roles repo session now (by simpa using hmatches) hroles] at hsilent
      obtain ⟨rows, hrows⟩ := debounced_rows repo flow event session now role
      refine ⟨rows, ?_⟩
      rw [← hrows]
      simp only [bind, EStateM.bind, claimTrigger_run]
      cases hparameters : flowParameters event.payload flow.command.fixedParameters
          flow.command.parameterBindings with
      | none => rfl
      | some parameters =>
        rw [hparameters] at hsilent
        dsimp only
        rw [if_pos]
        · rfl
        · rw [Bool.not_eq_true']
          by_contra hgoes
          rw [not_or, Bool.not_eq_false] at hgoes
          exact hsilent ⟨hgoes.1, hgoes.2, rfl⟩

theorem requestsFromFlow_fires (messageId : ℕ → Uuid)
    (hfires : repo.fires flow event session now = true) :
    ∃ parameters rows, flowParameters event.payload flow.command.fixedParameters
        flow.command.parameterBindings = some parameters ∧
      requestsFromFlow flow event session now messageId repo =
        match buildRequests flow event session now parameters (repo.roleAccepts flow session)
          messageId 0 (resolveFlowTargetRoles flow event.payload) with
        | .ok requests => .ok requests { repo with debounce := rows }
        | .error error => .error error { repo with debounce := rows } := by
  have hmatches : triggerMatches flow event = true := by
    unfold Repository.fires at hfires
    rw [Bool.and_eq_true, Bool.and_eq_true] at hfires
    exact hfires.1.1
  unfold requestsFromFlow
  rw [hmatches]
  cases hroles : resolveFlowTargetRoles flow event.payload with
  | nil =>
    unfold Repository.fires at hfires
    simp [hroles] at hfires
  | cons role roles =>
    obtain ⟨hpasses, hnotheld, hbound⟩ := (fires_of_roles repo session now hmatches hroles).mp hfires
    obtain ⟨parameters, hparameters⟩ := Option.isSome_iff_exists.mp hbound
    obtain ⟨rows, hrows⟩ := debounced_rows repo flow event session now role
    have haccepts : (repo.debounced flow event session now role).roleAccepts flow session =
        repo.roleAccepts flow session := by
      rw [hrows]
      rfl
    refine ⟨parameters, rows, hparameters, ?_⟩
    rw [← hrows]
    simp only [Bool.not_true, Bool.false_eq_true, if_false, bind, EStateM.bind, claimTrigger_run,
      hparameters, hpasses, false_or]
    rw [if_neg hnotheld]
    unfold Effect.read
    dsimp only
    rw [haccepts]
    cases buildRequests flow event session now parameters (repo.roleAccepts flow session)
        messageId 0 (role :: roles) with
    | error error => rfl
    | ok requests => rfl

/-- The spec of `_requests_from_flow`: it raises if a key of a request is too long, and returns the
requests of the roles otherwise. -/
theorem requestsFromFlow_spec (repo : Repository) (flow : FlowRecipe)
    (session : InteractionSession) (now : Instant) (hevent : event.validates = true)
    (messageId : ℕ → Uuid) :
    match requestsFromFlow flow event session now messageId repo with
    | .ok requests repo' => RequestsOf repo flow event session now messageId requests ∧
        ∃ rows, repo' = { repo with debounce := rows }
    | .error _ repo' => (∃ role ∈ repo.routedRoles flow event session now,
        keyFits flow session role = false) ∧ ∃ rows, repo' = { repo with debounce := rows } := by
  by_cases hfires : repo.fires flow event session now = true
  · have hrouted : repo.routedRoles flow event session now =
        (resolveFlowTargetRoles flow event.payload).filter (repo.roleAccepts flow session) := by
      unfold Repository.routedRoles
      rw [if_pos hfires]
    obtain ⟨parameters, rows, hparameters, hrun⟩ := requestsFromFlow_fires messageId hfires
    rw [hrun]
    cases hbuilt : buildRequests flow event session now parameters (repo.roleAccepts flow session)
        messageId 0 (resolveFlowTargetRoles flow event.payload) with
    | error error =>
      have hlong := buildRequests_error hevent hbuilt
      rw [← hrouted] at hlong
      exact ⟨hlong, rows, rfl⟩
    | ok requests =>
      obtain ⟨hmap, hkeys, hderived⟩ := buildRequests_roles hevent hbuilt
      rw [← hrouted] at hmap hkeys
      refine ⟨⟨hmap, hkeys, ?_⟩, rows, rfl⟩
      intro request hrequest
      obtain ⟨n, heq⟩ := hderived request hrequest
      exact ⟨parameters, n, hparameters, heq⟩
  · obtain ⟨rows, hrun⟩ := requestsFromFlow_silent messageId hfires
    rw [hrun]
    refine ⟨requestsOf_nil ?_, rows, rfl⟩
    unfold Repository.routedRoles
    rw [if_neg hfires]

end
end CitPhysicalXR.Fabric
