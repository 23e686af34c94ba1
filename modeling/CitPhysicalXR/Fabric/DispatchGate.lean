import CitPhysicalXR.Fabric.SessionInvariant

/-! The gate in front of the dispatcher: what holds of the session, the node and the command
when a physical output is handed to its adapter. -/
namespace CitPhysicalXR.Fabric
open Foundation

/-- What a declared entry of `arguments` asks of the value of its parameter. -/
inductive WithinBounds (bounds : List (String × JsonValue)) : JsonValue → Prop
  | boolean (b : Bool) : declaresType bounds "boolean" = true → WithinBounds bounds (.bool b)
  | string (text : String) : declaresType bounds "boolean" = false →
      declaresType bounds "string" = true →
      (∀ choices, bounds.lookup "enum" = some (.arr choices) →
        ∃ choice ∈ choices, (JsonValue.str text).pyEq choice = true) →
      WithinBounds bounds (.str text)
  | number {value : JsonValue} (q : ℚ) : declaresType bounds "boolean" = false →
      declaresType bounds "string" = false → value.isBool = false →
      value.number? = some (.finite q) →
      (∀ m, numberBound bounds "minimum" = some (.finite m) → m ≤ q) →
      (∀ m, numberBound bounds "maximum" = some (.finite m) → q ≤ m) →
      WithinBounds bounds value

/-- The parameters are the declared ones, each within its bounds. -/
def SatisfiesConstraints (capability : CapabilityDescriptor) (parameters : JsonObject) : Prop :=
  ∀ limits, capability.constraints.get? "arguments" = some (.obj limits) →
    (∀ name ∈ parameters.keys, name ∈ limits.map Prod.fst) ∧
      ∀ name bounds value, (name, JsonValue.obj bounds) ∈ limits →
        parameters.get? name = some value → WithinBounds bounds value

/-- The check of one parameter is sound for values that an encoded command can have. -/
theorem boundsError_none {name : String} {bounds : List (String × JsonValue)} {value : JsonValue}
    (h : boundsError name bounds value = none)
    (hfinite : ∀ x, value = .float x → x.isFinite = true) : WithinBounds bounds value := by
  unfold boundsError at h
  split at h
  · rename_i htype
    cases value with
    | bool b => exact .boolean b htype
    | _ => simp [JsonValue.isBool] at h
  · rename_i hboolean
    rw [Bool.not_eq_true] at hboolean
    split at h
    · rename_i htype
      split at h
      · rename_i text
        refine .string text hboolean htype fun choices hchoices => ?_
        rw [hchoices] at h
        simpa using h
      · cases h
    · rename_i hstring
      rw [Bool.not_eq_true] at hstring
      split at h
      · cases h
      · rename_i x hx
        split at h
        · cases h
        · split at h
          · cases h
          · rename_i hmin hmax
            have hnumber : value.isBool = false ∧ value.number? = some x := by
              split at hx
              · cases hx
              · exact ⟨by simpa using ‹¬ value.isBool = true›, hx⟩
            obtain ⟨q, rfl⟩ : ∃ q, x = .finite q := by
              cases value with
              | int n => exact ⟨n, (Option.some.inj hnumber.2).symm⟩
              | float y =>
                have hy := hfinite y rfl
                obtain rfl : y = x := Option.some.inj hnumber.2
                cases y with
                | finite q => exact ⟨q, rfl⟩
                | infinite negative => cases hy
                | nan => cases hy
              | bool b => cases hnumber.1
              | _ => cases hnumber.2
            refine .number q hboolean hstring hnumber.1 hnumber.2 ?_ ?_
            · intro m hm
              simpa [hm] using hmin
            · intro m hm
              simpa [hm] using hmax

theorem argumentsError_none {parameters : JsonObject} {limits : List (String × JsonValue)}
    (h : argumentsError parameters limits = none) {name : String}
    {bounds : List (String × JsonValue)} {value : JsonValue}
    (hmem : (name, JsonValue.obj bounds) ∈ limits) (hvalue : parameters.get? name = some value) :
    boundsError name bounds value = none := by
  induction limits with
  | nil => cases hmem
  | cons limit rest ih =>
    obtain ⟨name', bounds'⟩ := limit
    unfold argumentsError at h
    rcases List.mem_cons.mp hmem with heq | hrest
    · cases heq
      simp only [hvalue] at h
      split at h
      · cases h
      · assumption
    · split at h
      · split at h
        · cases h
        · exact ih h hrest
      · exact ih h hrest

theorem mem_of_lookup {fields : List (String × JsonValue)} {name : String} {value : JsonValue}
    (h : fields.lookup name = some value) : (name, value) ∈ fields := by
  induction fields with
  | nil => cases h
  | cons field rest ih =>
    obtain ⟨name', value'⟩ := field
    rw [List.lookup_cons] at h
    split at h
    · rename_i heq
      cases h
      rw [beq_iff_eq.mp heq]
      exact List.mem_cons_self
    · exact List.mem_cons_of_mem _ (ih h)

theorem validateCommandParameters_none {command : FabricResolvedCommand}
    {capability : CapabilityDescriptor}
    (h : validateCommandParameters command capability = none)
    (hencode : encodeJson command.toJson maxJsonBytes = .ok ()) :
    SatisfiesConstraints capability command.parameters := by
  intro limits hlimits
  unfold validateCommandParameters at h
  dsimp only at h
  split at h
  · cases h
  · rw [hlimits] at h
    dsimp only at h
    split at h
    · rename_i hunknown
      refine ⟨fun name hname => ?_, fun name bounds value hmem hvalue => ?_⟩
      · rw [List.isEmpty_iff, List.filter_eq_nil_iff] at hunknown
        simpa using hunknown name hname
      · refine boundsError_none (argumentsError_none h hmem hvalue) fun x hx => ?_
        subst hx
        exact command.finite_parameter hencode (mem_of_lookup hvalue)
    · cases h

/-- What `_validate_command` has established when it denies nothing. -/
structure Admitted (allowPhysical : Bool) (command : FabricResolvedCommand)
    (session : InteractionSession) (node : IntegrationNode) (now : Instant) : Prop where
  unexpired : now < command.expiresAt
  active : session.state = .active ∨ isSafeStateCommand command = true
  connected : node.connectionState = .connected
  consumed : ∃ capability, consumedCapability node command.action.text = some capability ∧
    validateCommandParameters command capability = none ∧
    (requiresPhysicalSafety capability node = true → isSafeStateCommand command = false →
      physicalSafetyDenial allowPhysical command session capability = none)

theorem validateCommand_none {allowPhysical : Bool} {command : FabricResolvedCommand}
    {session : InteractionSession} {node : IntegrationNode} {now : Instant}
    (h : validateCommand allowPhysical command session node now = none) :
    Admitted allowPhysical command session node now := by
  unfold validateCommand at h
  split at h
  · cases h
  split at h
  · cases h
  rename_i hunexpired
  split at h
  · cases h
  rename_i hactive
  split at h
  · cases h
  split at h
  · cases h
  rename_i hconnected
  split at h
  · cases h
  rename_i capability hcapability
  dsimp only at h
  split at h
  · cases h
  rename_i hdenial
  refine ⟨not_le.mp hunexpired, ?_, not_not.mp hconnected, capability, hcapability, ?_, ?_⟩
  · rw [Bool.and_eq_true, not_and_or] at hactive
    simpa using hactive
  · simpa using h
  · intro hphysical hmoving
    simpa [hphysical, hmoving] using hdenial

/-- What the physical part of the gate has established when it denies nothing. -/
theorem physicalSafetyDenial_none {allowPhysical : Bool} {command : FabricResolvedCommand}
    {session : InteractionSession} {capability : CapabilityDescriptor}
    (h : physicalSafetyDenial allowPhysical command session capability = none) :
    session.armed = true ∧ allowPhysical = true ∧ command.priority ≠ .autonomous_agent ∧
      (capability.safetyClassification = .flight → isBoundedFlightWorkflow command = true) ∧
      (capability.safetyClassification = .electrical → command.action.text = powerSwitchSet) := by
  unfold physicalSafetyDenial at h
  split at h
  · cases h
  split at h
  · cases h
  split at h
  · cases h
  split at h
  · cases h
  split at h
  · cases h
  rename_i harmed hallow hagent hflight helectrical
  refine ⟨by simpa using harmed, by simpa using hallow, hagent, ?_, ?_⟩
  · intro hclass
    simpa [hclass] using hflight
  · intro hclass
    simpa [hclass] using helectrical

structure Dispatchable (allowPhysical : Bool) (repo : Repository) (now : Instant)
    (command : FabricResolvedCommand) (session : InteractionSession) (node : IntegrationNode) :
    Prop where
  session_stored : session ∈ repo.sessions
  session_id : session.sessionId = command.sessionId
  node_stored : repo.getFabricNode command.targetNodeId = some node
  encodes : encodeJson command.toJson maxJsonBytes = .ok ()
  admitted : Admitted allowPhysical command session node now

theorem authorizeCommand_dispatching (dispatcherInstalled : Bool) (ambient : Ambient)
    (command : FabricResolvedCommand) (node : IntegrationNode)
    (lifecycle : List FabricCommandLifecycleEvent) :
    Effect.Triple (fun _ => True)
      (authorizeCommand dispatcherInstalled ambient command node lifecycle)
      (fun progress _ => ∀ command' node' lifecycle',
        progress = .dispatching command' node' lifecycle' → command' = command ∧ node' = node)
      (fun _ _ => True) := by
  apply Effect.Triple.bind Effect.Triple.any
  intro decision
  split
  · apply Effect.Triple.bind Effect.Triple.any
    intro authorized
    split
    · apply Effect.Triple.pure
      rintro _ _ command' node' lifecycle' hprogress
      cases hprogress
      exact ⟨rfl, rfl⟩
    · apply Effect.Triple.bind Effect.Triple.any
      intro failed
      apply Effect.Triple.pure
      rintro _ _ command' node' lifecycle' hprogress
      cases hprogress
  · apply Effect.Triple.bind Effect.Triple.any
    intro rejected
    apply Effect.Triple.pure
    rintro _ _ command' node' lifecycle' hprogress
    cases hprogress

theorem admitCommand_dispatching (allowPhysical dispatcherInstalled : Bool) (ambient : Ambient)
    (command : FabricResolvedCommand) (session : InteractionSession) (node : IntegrationNode) :
    Effect.Triple (fun _ => True)
      (admitCommand allowPhysical dispatcherInstalled ambient command session node)
      (fun progress _ => ∀ command' node' lifecycle',
        progress = .dispatching command' node' lifecycle' → command' = command ∧ node' = node ∧
          validateCommand allowPhysical command session node (ambient.clock 0) = none)
      (fun _ _ => True) := by
  apply Effect.Triple.bind Effect.Triple.any
  intro proposed
  split
  · apply Effect.Triple.bind Effect.Triple.any
    intro rejected
    apply Effect.Triple.pure
    rintro _ _ command' node' lifecycle' hprogress
    cases hprogress
  · rename_i hvalid
    apply Effect.Triple.bind Effect.Triple.any
    intro validated
    apply (authorizeCommand_dispatching dispatcherInstalled ambient command node _).conseq
      (fun _ h => h) _ fun _ _ h => h
    intro progress _ h command' node' lifecycle' hprogress
    obtain ⟨hcommand, hnode⟩ := h command' node' lifecycle' hprogress
    exact ⟨hcommand, hnode, hvalid⟩

/-- A submission that calls the dispatcher has passed every check against the store it began
with. -/
theorem submitStart_dispatching (allowPhysical dispatcherInstalled : Bool) (ambient : Ambient)
    (request : FabricCommandRequest) (repo : Repository) :
    Effect.Triple (· = repo) (submitStart allowPhysical dispatcherInstalled ambient request)
      (fun progress _ => ∀ command node lifecycle,
        progress = .dispatching command node lifecycle → ∃ session,
          Dispatchable allowPhysical repo (ambient.clock 0) command session node)
      (fun _ _ => True) := by
  apply Effect.Triple.bind (Q := fun session repo' => repo' = repo ∧
    repo.requireSession request.sessionId = .ok session)
  · exact Effect.Triple.read (by rintro _ session rfl h; exact ⟨rfl, h⟩) fun _ _ _ _ => trivial
  intro session
  apply Effect.Triple.assume
  intro hsession
  apply Effect.Triple.bind (Q := fun _ repo' => repo' = repo)
  · exact Effect.Triple.read (fun _ _ h _ => h) fun _ _ _ _ => trivial
  intro binding
  apply Effect.Triple.bind (Q := fun node repo' => repo' = repo ∧
    repo.requireNode binding.nodeId = .ok node)
  · exact Effect.Triple.read (by rintro _ node rfl h; exact ⟨rfl, h⟩) fun _ _ _ _ => trivial
  intro node
  apply Effect.Triple.assume
  intro hnode
  apply Effect.Triple.bind (Q := fun _ _ => True ∧ encodeJson
    (resolveCommand request binding.nodeId (ambient.uuid 0)).toJson maxJsonBytes = .ok ())
  · exact Effect.Triple.commit
      (fun _ _ _ _ h => ⟨trivial, Repository.claimFabricCommand_encodes h⟩) fun _ _ _ _ => trivial
  rintro ⟨claimed, isNew⟩
  apply Effect.Triple.assume
  intro hencode
  cases isNew with
  | false =>
    simp only [Bool.false_eq_true, ↓reduceIte]
    apply Effect.Triple.read
    · rintro _ progress _ hread command' node' lifecycle' rfl
      cases hread
    · exact fun _ _ _ _ => trivial
  | true =>
    apply (admitCommand_dispatching allowPhysical dispatcherInstalled ambient
      (resolveCommand request binding.nodeId (ambient.uuid 0)) session node).conseq
      (fun _ h => h) _ fun _ _ h => h
    intro progress _ h command' node' lifecycle' hprogress
    obtain ⟨rfl, rfl, hvalid⟩ := h command' node' lifecycle' hprogress
    obtain ⟨hmem, hid, _⟩ := requireSession_ok hsession
    exact ⟨session, hmem, hid, requireNode_ok hnode, hencode, validateCommand_none hvalid⟩

structure PhysicalDispatch (allowPhysical : Bool) (repo : Repository) (now : Instant)
    (command : FabricResolvedCommand) (node : IntegrationNode) (capability : CapabilityDescriptor) :
    Prop where
  session : ∃ session ∈ repo.sessions, session.sessionId = command.sessionId ∧
    session.mode = .physical ∧ session.state = .active ∧ session.armed = true
  allowed : allowPhysical = true
  priority : command.priority ≠ .autonomous_agent
  unexpired : now < command.expiresAt
  target : repo.getFabricNode command.targetNodeId = some node
  connected : node.connectionState = .connected
  parameters : SatisfiesConstraints capability command.parameters
  workflow : capability.safetyClassification = .flight → isBoundedFlightWorkflow command = true

/-- Whenever a command that is no safe-state action reaches the adapter of a real node on a
capability of an actuation class, every condition of physical execution holds. -/
theorem dispatch_gated {allowPhysical : Bool} {s s' : Service} {event : FabricEvent × Ambient}
    {out : List FabricOutput} (h : (interactionFabric allowPhysical).Reachable s)
    (hstep : (interactionFabric allowPhysical).Step s event s' out)
    {command : FabricResolvedCommand} {node : IntegrationNode}
    (hout : FabricOutput.dispatched command node ∈ out) {capability : CapabilityDescriptor}
    (hcapability : consumedCapability node command.action.text = some capability)
    (hclass : isActuationClass capability.safetyClassification = true)
    (hphysical : node.simulated = false) (hmoving : isSafeStateCommand command = false) :
    PhysicalDispatch allowPhysical s.repository (event.2.clock 0) command node capability := by
  obtain ⟨i, j, task, request, lifecycle, _, _, hrun, _⟩ :=
    Service.dispatched_of_step hstep.2.2 hout
  obtain ⟨session, hgate⟩ := (submitStart_dispatching allowPhysical s.dispatcherInstalled event.2
    request s.repository).of_ok rfl hrun _ _ _ rfl
  have hadmitted := hgate.admitted
  obtain ⟨capability', hcapability', hparameters, hdenial⟩ := hadmitted.consumed
  obtain rfl : capability = capability' := Option.some.inj (hcapability.symm.trans hcapability')
  have hrequires : requiresPhysicalSafety capability node = true := by
    simp [requiresPhysicalSafety, hclass, hphysical]
  obtain ⟨harmed, hallow, hagent, hflight, _⟩ :=
    physicalSafetyDenial_none (hdenial hrequires hmoving)
  have hactive := hadmitted.active.resolve_right (by simp [hmoving])
  have hmode := (armedOk_reachable h session hgate.session_stored harmed).mode
  exact
    { session := ⟨session, hgate.session_stored, hgate.session_id, hmode, hactive, harmed⟩
      allowed := hallow
      priority := hagent
      unexpired := hadmitted.unexpired
      target := hgate.node_stored
      connected := hadmitted.connected
      parameters := validateCommandParameters_none hparameters hgate.encodes
      workflow := hflight }

namespace Lesson

/-- The tutor drives the robot. -/
def driveRequest (k : ℕ) (key : String) : FabricCommandRequest where
  messageId := uuid (1000 + k)
  action := drive.name
  targetRole := driver
  sessionId := sessionId
  parameters := JsonObject.empty
  priority := .instructor_override
  idempotencyKey := key
  requestedAt := (ambient k).clock 0
  ttlMs := 60000
  safetyProfile := classroom
  correlationId := "drive"
  causationId := none
  sourceNodeId := none

def submitted : Service := Service.after true (setUp coursePack ++ armAndStart ++
  [(.submitCommand (driveRequest 7 "drive"), ambient 7)])

/-- Whether a step hands an unsafe command to a real node of an actuation class. -/
def dispatchesPhysically : Option (Service × List FabricOutput) → Bool
  | some (_, [.dispatched command node]) => !node.simulated && !isSafeStateCommand command &&
      (consumedCapability node command.action.text).any (isActuationClass ·.safetyClassification)
  | _ => false

end Lesson

theorem Lesson.submitted_dispatches :
    (Lesson.ambient 8).IsFresh Lesson.submitted.repository ∧ Lesson.dispatchesPhysically
      (Lesson.submitted.step true (Lesson.ambient 8) (.advance 0 0)) = true := by
  decide +kernel

theorem dispatch_gated_lesson : ∃ s' command node capability,
    (interactionFabric true).Step Lesson.submitted (.advance 0 0, Lesson.ambient 8) s'
      [.dispatched command node] ∧
    PhysicalDispatch true Lesson.submitted.repository ((Lesson.ambient 8).clock 0) command node
      capability := by
  have hrun := Lesson.submitted_dispatches
  have hreach : (interactionFabric true).Reachable Lesson.submitted :=
    Service.after_reachable true _
  generalize Lesson.submitted = s at hrun hreach ⊢
  obtain ⟨hfresh, hdispatch⟩ := hrun
  unfold Lesson.dispatchesPhysically at hdispatch
  split at hdispatch
  · rename_i s' command node hrun
    simp only [Bool.and_eq_true, Bool.not_eq_true', Option.any_eq_true] at hdispatch
    obtain ⟨⟨hphysical, hmoving⟩, capability, hcapability, hclass⟩ := hdispatch
    have hstep : (interactionFabric true).Step s (.advance 0 0, Lesson.ambient 8) s'
        [.dispatched command node] := ⟨rfl, hfresh, hrun⟩
    exact ⟨s', command, node, capability, hstep, dispatch_gated hreach hstep
      (List.mem_singleton.mpr rfl) hcapability hclass hphysical hmoving⟩
  · cases hdispatch

end CitPhysicalXR.Fabric
