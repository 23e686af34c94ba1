import CitPhysicalXR.Fabric.FlowGuards
import CitPhysicalXR.Foundation.JsonEquality

/-! When a flow requests its command for a role, and with which parameters. -/
namespace CitPhysicalXR.Fabric
open Foundation

/-- How a field of the payload compares with the value that a trigger expects. -/
abbrev FieldMatch := Option JsonValue → JsonValue → Bool

/-- The field is there, with the same JSON value. -/
def exactly : FieldMatch := fun found value => found.any (·.same value)

/-- Python's `payload.get(key) == value`. -/
def asPython : FieldMatch := fun found value => (found.getD .null).pyEq value

theorem asPython_of_exactly {found : Option JsonValue} {value : JsonValue}
    (h : exactly found value = true) : asPython found value = true := by
  cases found with
  | none => cases h
  | some found => exact JsonValue.pyEq_of_same h

def PayloadMatches (compare : FieldMatch) (flow : FlowRecipe) (payload : JsonObject) : Prop :=
  ∀ expected ∈ flow.trigger.payloadEquals, ∀ field ∈ expected.fields,
    compare (payload.get? field.1) field.2 = true

def IsSelected (flow : FlowRecipe) (payload : JsonObject) (role : Identifier) : Prop :=
  match flow.target with
  | .role target => role = target
  | .group roles _ => role ∈ roles
  | .payload roleFromPayload allowedRoles _ =>
    payload.get? roleFromPayload.text = some (.str role.text) ∧ role ∈ allowedRoles

/-- What a request for a role needs, debounce and guards aside. -/
structure Selects (compare : FieldMatch) (repo : Repository) (flow : FlowRecipe)
    (event : FabricEventEnvelope) (session : InteractionSession) (role : Identifier) : Prop where
  enabled : flow.enabled = true
  topic : flow.trigger.event = event.topic
  confidence : ∀ minimum ∈ flow.trigger.minimumConfidence,
    ∃ confidence ∈ event.confidence, confidence.lt minimum = false
  payload : PayloadMatches compare flow event.payload
  selected : IsSelected flow event.payload role
  bound : ∃ node, repo.targetNode session role = some node ∧
    ∀ required ∈ flowTargetRequiredCapability flow,
      (consumedCapability node required.text).isSome = true
  fields : ∀ binding ∈ flow.command.parameterBindings,
    (event.payload.get? binding.payloadField.text).isSome = true

/-- The debounce and the guards that the routing looks at let the trigger pass. -/
structure Permits (repo : Repository) (flow : FlowRecipe) (event : FabricEventEnvelope)
    (session : InteractionSession) (now : Instant) (role : Identifier) : Prop where
  debounce : ∀ first ∈ (resolveFlowTargetRoles flow event.payload).head?,
    repo.debouncePasses flow event session now first = true
  active : .session_is_active ∈ flow.guards → session.state = .active
  target : ∀ node, repo.targetNode session role = some node →
    (.target_is_connected ∈ flow.guards → node.connectionState = .connected) ∧
      (.target_is_armed ∈ flow.guards → node.physical = true → session.armed = true)

section
variable {repo : Repository} {flow : FlowRecipe} {event : FabricEventEnvelope}
  {session : InteractionSession} {now : Instant} {role : Identifier}

theorem triggerMatches_iff : triggerMatches flow event = true ↔
    flow.enabled = true ∧ flow.trigger.event = event.topic ∧
      (∀ minimum ∈ flow.trigger.minimumConfidence,
        ∃ confidence ∈ event.confidence, confidence.lt minimum = false) ∧
      PayloadMatches asPython flow event.payload := by
  unfold triggerMatches PayloadMatches asPython
  cases flow.trigger.minimumConfidence with
  | none =>
    cases flow.trigger.payloadEquals with
    | none => simp
    | some expected => simp [and_assoc]
  | some minimum =>
    cases event.confidence with
    | none => simp
    | some confidence =>
      cases flow.trigger.payloadEquals with
      | none => simp [and_assoc]
      | some expected => simp [and_assoc]

theorem mem_resolveFlowTargetRoles {payload : JsonObject} :
    role ∈ resolveFlowTargetRoles flow payload ↔ IsSelected flow payload role := by
  unfold resolveFlowTargetRoles IsSelected flowCandidateRoles
  cases htarget : flow.target with
  | role target => simp
  | group roles _ => simp
  | payload roleFromPayload allowedRoles _ =>
    dsimp only
    constructor
    · intro hrole
      split at hrole
      · rename_i selected hselected
        rw [Option.mem_toList] at hrole
        have hname := List.find?_some hrole
        rw [decide_eq_true_eq] at hname
        rw [hname]
        exact ⟨hselected, List.mem_of_find?_eq_some hrole⟩
      · cases hrole
    · rintro ⟨hselected, hallowed⟩
      rw [hselected]
      dsimp only
      rw [Option.mem_toList]
      cases hfound : allowedRoles.find? fun other => decide (other.text = role.text) with
      | none =>
        have hnone := List.find?_eq_none.mp hfound role hallowed
        simp at hnone
      | some other =>
        have hname := List.find?_some hfound
        rw [decide_eq_true_eq] at hname
        obtain ⟨text, valid⟩ := role
        obtain ⟨text', valid'⟩ := other
        obtain rfl : text' = text := hname
        rfl

theorem flowParameters_isSome {payload parameters : JsonObject}
    {bindings : List FlowParameterBinding} :
    (flowParameters payload parameters bindings).isSome = true ↔
      ∀ binding ∈ bindings, (payload.get? binding.payloadField.text).isSome = true := by
  induction bindings generalizing parameters with
  | nil => simp [flowParameters]
  | cons binding rest ih =>
    unfold flowParameters
    cases hvalue : payload.get? binding.payloadField.text with
    | none => simp [hvalue]
    | some value => simp [hvalue, ih]

/-- The parameters are the fixed ones and the bound fields. -/
def AreParameters (flow : FlowRecipe) (payload parameters : JsonObject) : Prop :=
  ∀ name value, parameters.get? name = some value ↔
    flow.command.fixedParameters.get? name = some value ∨
      ∃ binding ∈ flow.command.parameterBindings, binding.parameter.text = name ∧
        payload.get? binding.payloadField.text = some value

theorem flowParameters_get? {payload fixed parameters : JsonObject}
    {bindings : List FlowParameterBinding}
    (hunique : (bindings.map (·.parameter.text)).Nodup)
    (hfree : ∀ binding ∈ bindings, binding.parameter.text ∉ fixed.keys)
    (h : flowParameters payload fixed bindings = some parameters) (name : String)
    (value : JsonValue) :
    parameters.get? name = some value ↔ fixed.get? name = some value ∨
      ∃ binding ∈ bindings, binding.parameter.text = name ∧
        payload.get? binding.payloadField.text = some value := by
  induction bindings generalizing fixed with
  | nil =>
    obtain rfl := Option.some.inj h
    simp
  | cons binding rest ih =>
    rw [List.map_cons, List.nodup_cons] at hunique
    unfold flowParameters at h
    cases hbound : payload.get? binding.payloadField.text with
    | none =>
      rw [hbound] at h
      cases h
    | some bound =>
      rw [hbound] at h
      dsimp only at h
      have hname := hfree binding (List.mem_cons_self ..)
      have hrest : ∀ other ∈ rest,
          other.parameter.text ∉ (fixed.set binding.parameter.text bound).keys := by
        intro other hother hmem
        have hsome := JsonObject.get?_isSome.mpr hmem
        rw [JsonObject.get?_set] at hsome
        split at hsome
        · rename_i hsame
          apply hunique.1
          rw [← hsame]
          exact List.mem_map_of_mem hother
        · exact hfree other (.tail _ hother) (JsonObject.get?_isSome.mp hsome)
      rw [ih hunique.2 hrest h, JsonObject.get?_set]
      by_cases hsame : name = binding.parameter.text
      · subst hsame
        have hnone := JsonObject.get?_eq_none hname
        have hother : ¬∃ other ∈ rest, other.parameter.text = binding.parameter.text ∧
            payload.get? other.payloadField.text = some value := by
          rintro ⟨other, hother, heq, _⟩
          apply hunique.1
          rw [← heq]
          exact List.mem_map_of_mem hother
        simp [hnone, hother, hbound]
      · have hne : ¬binding.parameter.text = name := fun heq => hsame heq.symm
        simp [hsame, hne]

structure FlowIsValid (flow : FlowRecipe) : Prop where
  targets : (flowCandidateRoles flow).Nodup
  parameters : (flow.command.parameterBindings.map (·.parameter.text)).Nodup
  free : ∀ binding ∈ flow.command.parameterBindings,
    binding.parameter.text ∉ flow.command.fixedParameters.keys

theorem CoursePack.validateTargets_ok {coursePack : CoursePack}
    (h : coursePack.validateTargets flow = .ok ()) : (flowCandidateRoles flow).Nodup := by
  by_contra hdouble
  unfold validateTargets at h
  dsimp only at h
  rw [if_pos hdouble] at h
  cases h

theorem CoursePack.validateOutputs_ok {coursePack : CoursePack}
    (h : coursePack.validateOutputs flow = .ok ()) :
    (flow.command.parameterBindings.map (·.parameter.text)).Nodup ∧
      ∀ binding ∈ flow.command.parameterBindings,
        binding.parameter.text ∉ flow.command.fixedParameters.keys := by
  unfold validateOutputs at h
  dsimp only at h
  split_ifs at h with hunknown hinput hsame hother hunique hoverlap
  rw [not_not] at hoverlap
  refine ⟨hunique, ?_⟩
  intro binding hbinding hmem
  have hin : binding.parameter.text ∈
      (flow.command.parameterBindings.map (·.parameter.text)).filter
        (· ∈ flow.command.fixedParameters.keys) :=
    List.mem_filter.mpr ⟨List.mem_map_of_mem hbinding, by simpa using hmem⟩
  rw [hoverlap] at hin
  exact List.not_mem_nil hin

theorem CoursePack.validateFlows_ok {coursePack : CoursePack} {flows : List FlowRecipe}
    {counts : List (Identifier × ℕ)} (h : coursePack.validateFlows counts flows = .ok ()) :
    ∀ flow ∈ flows, FlowIsValid flow := by
  induction flows generalizing counts with
  | nil => simp
  | cons flow flows ih =>
    rw [validateFlows] at h
    obtain ⟨htargets, h⟩ := seq_eq_ok.mp h
    obtain ⟨counts', _, h⟩ := bind_eq_ok.mp h
    obtain ⟨houtputs, h⟩ := seq_eq_ok.mp h
    intro other hother
    rcases List.mem_cons.mp hother with rfl | hother
    · obtain ⟨hparameters, hfree⟩ := validateOutputs_ok houtputs
      exact ⟨validateTargets_ok htargets, hparameters, hfree⟩
    · exact ih h other hother

theorem validateCoursePack_flows {coursePack : CoursePack}
    (h : validateCoursePack coursePack = .ok ()) : ∀ flow ∈ coursePack.flows, FlowIsValid flow := by
  unfold validateCoursePack at h
  split at h
  · cases h
  · split at h
    · cases h
    · exact CoursePack.validateFlows_ok h

theorem resolveFlowTargetRoles_nodup (h : FlowIsValid flow) (payload : JsonObject) :
    (resolveFlowTargetRoles flow payload).Nodup := by
  have htargets := h.targets
  unfold resolveFlowTargetRoles
  split
  · split
    · exact Option.toList_nodup _
    · exact List.nodup_nil
  · exact htargets

theorem mem_routedRoles_iff : role ∈ repo.routedRoles flow event session now ↔
    Selects asPython repo flow event session role ∧
      Permits repo flow event session now role := by
  rw [mem_routedRoles]
  unfold Repository.fires
  rw [Bool.and_eq_true, Bool.and_eq_true, Bool.and_eq_true, triggerMatches_iff, roleAccepts_iff,
    decide_eq_true_eq, flowParameters_isSome, mem_resolveFlowTargetRoles]
  constructor
  · rintro ⟨⟨⟨⟨henabled, htopic, hconfidence, hpayload⟩, hdebounce⟩, hactive, hfields⟩, hselected,
      node, hnode, hconnected, harmed, hcapability⟩
    refine ⟨⟨henabled, htopic, hconfidence, hpayload, hselected, ⟨node, hnode, hcapability⟩,
      hfields⟩, ?_, ?_, ?_⟩
    · intro first hfirst
      rw [Option.mem_def] at hfirst
      rw [hfirst] at hdebounce
      exact hdebounce
    · intro hguard
      exact hactive.resolve_left fun hfree => hfree hguard
    · intro other hother
      obtain rfl := Option.some.inj (hnode.symm.trans hother)
      exact ⟨hconnected, harmed⟩
  · rintro ⟨hselects, hpermits⟩
    obtain ⟨node, hnode, hcapability⟩ := hselects.bound
    obtain ⟨hconnected, harmed⟩ := hpermits.target node hnode
    have hactive : .session_is_active ∉ flow.guards ∨ session.state = .active := by
      by_cases hguard : FlowGuard.session_is_active ∈ flow.guards
      · exact .inr (hpermits.active hguard)
      · exact .inl hguard
    have hdebounce : ((resolveFlowTargetRoles flow event.payload).head?.any
        (repo.debouncePasses flow event session now)) = true := by
      have hmem := mem_resolveFlowTargetRoles.mpr hselects.selected
      cases hroles : resolveFlowTargetRoles flow event.payload with
      | nil =>
        rw [hroles] at hmem
        cases hmem
      | cons first roles =>
        apply hpermits.debounce
        rw [hroles]
        rfl
    exact ⟨⟨⟨⟨hselects.enabled, hselects.topic, hselects.confidence, hselects.payload⟩, hdebounce⟩,
      hactive, hselects.fields⟩, hselects.selected, node, hnode, hconnected, harmed, hcapability⟩

/-- The matching is exact: a request is made for the roles that the flow selects and that debounce
and guards let pass, one for each, with its parameters. -/
def RoutesExactly (repo : Repository) (flow : FlowRecipe) (event : FabricEventEnvelope)
    (session : InteractionSession) (now : Instant) (messageId : ℕ → Uuid) : Prop :=
  ∃ requests repo', requestsFromFlow flow event session now messageId repo = .ok requests repo' ∧
    (∀ role, (∃ request ∈ requests, request.targetRole = role) ↔
      Selects exactly repo flow event session role ∧
        Permits repo flow event session now role) ∧
    (requests.map (·.targetRole)).Nodup ∧
    ∀ request ∈ requests, AreParameters flow event.payload request.parameters

theorem Selects.loosely (h : Selects exactly repo flow event session role) :
    Selects asPython repo flow event session role where
  enabled := h.enabled
  topic := h.topic
  confidence := h.confidence
  payload := fun expected hexpected field hfield =>
    asPython_of_exactly (h.payload expected hexpected field hfield)
  selected := h.selected
  bound := h.bound
  fields := h.fields

theorem Selects.strictly (h : Selects asPython repo flow event session role)
    (hpayload : PayloadMatches exactly flow event.payload) :
    Selects exactly repo flow event session role where
  enabled := h.enabled
  topic := h.topic
  confidence := h.confidence
  payload := hpayload
  selected := h.selected
  bound := h.bound
  fields := h.fields

theorem RequestsOf.mem_iff {messageId : ℕ → Uuid} {requests : List FabricCommandRequest}
    (h : RequestsOf repo flow event session now messageId requests) (role : Identifier) :
    (∃ request ∈ requests, request.targetRole = role) ↔
      Selects asPython repo flow event session role ∧
        Permits repo flow event session now role := by
  rw [← mem_routedRoles_iff, ← h.roles, List.mem_map]

theorem RequestsOf.nodup {messageId : ℕ → Uuid} {requests : List FabricCommandRequest}
    (h : RequestsOf repo flow event session now messageId requests) (hflow : FlowIsValid flow) :
    (requests.map (·.targetRole)).Nodup := by
  rw [h.roles]
  unfold Repository.routedRoles
  split
  · exact (resolveFlowTargetRoles_nodup hflow event.payload).filter _
  · exact List.nodup_nil

theorem RequestsOf.parameters {messageId : ℕ → Uuid} {requests : List FabricCommandRequest}
    (h : RequestsOf repo flow event session now messageId requests) (hflow : FlowIsValid flow) :
    ∀ request ∈ requests, AreParameters flow event.payload request.parameters := by
  intro request hrequest
  obtain ⟨parameters, n, hparameters, heq⟩ := h.derived request hrequest
  have hsame : request.parameters = parameters := by
    rw [heq]
    rfl
  rw [hsame]
  exact flowParameters_get? hflow.parameters hflow.free hparameters

/-- The matching is exact if and only if, where a flow selects a role by Python's equality, the
payload has the same JSON values as well and the keys of the requests fit. -/
theorem flow_matching_exact {coursePack : CoursePack}
    (hpack : validateCoursePack coursePack = .ok ()) (hflow : flow ∈ coursePack.flows)
    (repo : Repository) (session : InteractionSession) (now : Instant) (messageId : ℕ → Uuid)
    (hevent : event.validates = true) :
    RoutesExactly repo flow event session now messageId ↔
      ∀ role, Selects asPython repo flow event session role →
        Permits repo flow event session now role →
          PayloadMatches exactly flow event.payload ∧ keyFits flow session role = true := by
  have hvalid := validateCoursePack_flows hpack flow hflow
  have hspec := requestsFromFlow_spec repo flow session now hevent messageId
  constructor
  · rintro ⟨requests, repo', hrun, hroles, _, _⟩ role hselects hpermits
    rw [hrun] at hspec
    have hrouted := mem_routedRoles_iff.mpr ⟨hselects, hpermits⟩
    have hrequest := (hspec.1.mem_iff role).mpr ⟨hselects, hpermits⟩
    obtain ⟨hexact, _⟩ := (hroles role).mp hrequest
    exact ⟨hexact.payload, hspec.1.fits role hrouted⟩
  · intro hcondition
    cases hrun : requestsFromFlow flow event session now messageId repo with
    | error error repo' =>
      rw [hrun] at hspec
      obtain ⟨⟨role, hrouted, hlong⟩, _⟩ := hspec
      obtain ⟨hselects, hpermits⟩ := mem_routedRoles_iff.mp hrouted
      rw [(hcondition role hselects hpermits).2] at hlong
      cases hlong
    | ok requests repo' =>
      rw [hrun] at hspec
      refine ⟨requests, repo', hrun, ?_, hspec.1.nodup hvalid, hspec.1.parameters hvalid⟩
      intro role
      rw [hspec.1.mem_iff role]
      constructor
      · rintro ⟨hselects, hpermits⟩
        exact ⟨hselects.strictly (hcondition role hselects hpermits).1, hpermits⟩
      · rintro ⟨hselects, hpermits⟩
        exact ⟨hselects.loosely, hpermits⟩

end

namespace Lesson

def confirmedFlow : FlowRecipe :=
  { flow with
    trigger := ⟨button.name, none, none, some (JsonObject.empty.set "confirmed" (.bool true))⟩ }

def confirmedPack : CoursePack := { coursePack with flows := [confirmedFlow] }

def pressWith (confirmed : JsonValue) : FabricEventEnvelope :=
  { press with payload := JsonObject.empty.set "confirmed" confirmed }

end Lesson

/-- The number 1 confirms like the truth value. -/
theorem number_confirms :
    validateCoursePack Lesson.confirmedPack = .ok () ∧
      Lesson.confirmedFlow ∈ Lesson.confirmedPack.flows ∧
      ¬RoutesExactly (Lesson.storeWith Lesson.robot []) Lesson.confirmedFlow
        (Lesson.pressWith (.int 1)) (Lesson.running true) Lesson.press.timestamp Lesson.uuid := by
  refine ⟨by decide, List.mem_singleton_self _, ?_⟩
  rintro ⟨requests, repo', hrun, hroles, _⟩
  have hrequested : (Effect.returned (requestsFromFlow Lesson.confirmedFlow
      (Lesson.pressWith (.int 1)) (Lesson.running true) Lesson.press.timestamp Lesson.uuid
      (Lesson.storeWith Lesson.robot []))).map (fun requests => requests.map (·.targetRole)) =
      some [Lesson.driver] := by
    decide
  rw [hrun] at hrequested
  have hmap : requests.map (·.targetRole) = [Lesson.driver] := Option.some.inj hrequested
  have hmem : Lesson.driver ∈ requests.map (·.targetRole) := by
    rw [hmap]
    exact List.mem_singleton_self _
  obtain ⟨request, hrequest, hrole⟩ := List.mem_map.mp hmem
  obtain ⟨hexact, _⟩ := (hroles Lesson.driver).mp ⟨request, hrequest, hrole⟩
  have hfield := hexact.payload _ rfl ("confirmed", .bool true) (by simp [JsonObject.set,
    JsonObject.empty, JsonObject.keys])
  revert hfield
  decide

/-- A press that is confirmed by the truth value drives the robot. -/
theorem flow_matching_exact_press :
    RoutesExactly (Lesson.storeWith Lesson.robot []) Lesson.confirmedFlow
      (Lesson.pressWith (.bool true)) (Lesson.running true) Lesson.press.timestamp
      Lesson.uuid := by
  have hpack : validateCoursePack Lesson.confirmedPack = .ok () := by decide
  refine (flow_matching_exact hpack (List.mem_singleton_self _) (Lesson.storeWith Lesson.robot [])
    (Lesson.running true) Lesson.press.timestamp Lesson.uuid (by decide)).mpr ?_
  intro role hselects _
  have hrole : role = Lesson.driver := hselects.selected
  subst hrole
  refine ⟨?_, by decide⟩
  intro expected hexpected field hfield
  obtain rfl := Option.some.inj hexpected
  obtain rfl := List.mem_singleton.mp hfield
  decide

end CitPhysicalXR.Fabric
