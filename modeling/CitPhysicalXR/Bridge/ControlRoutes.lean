import CitPhysicalXR.Bridge.ControlInventory
import CitPhysicalXR.Fabric.PackRouting

/-! The advertised controls and the routing of the events that they lead to: when an advertised
action is carried out, and for which roles a flight may be started. -/
namespace CitPhysicalXR.Bridge
open Foundation Fabric

def listFabricNodes (repo : Repository) (siteId roomId : Identifier) : List IntegrationNode :=
  ((repo.nodes.rows.map (·.node)).filter fun node =>
    node.siteId = siteId ∧ node.roomId = roomId).insertionSort fun first second =>
      first.nodeId.text ≤ second.nodeId.text

def Shows (routes : List CitFabricControlRoute) (target : CitFabricDeviceControlTarget)
    (targetRole : Option Identifier) (action : CitFabricDeviceControlAction) : Prop :=
  ∃ route ∈ routes, route.target = target ∧ route.targetRole = targetRole ∧ action ∈ route.actions

section
variable {target : CitFabricDeviceControlTarget} {targetRole : Option Identifier}
  {action : CitFabricDeviceControlAction}

theorem mem_addActions {actions added : List CitFabricDeviceControlAction} :
    action ∈ addActions actions added ↔ action ∈ actions ∨ action ∈ added := by
  unfold addActions
  induction added generalizing actions with
  | nil => simp
  | cons first rest ih =>
    rw [List.foldl_cons, ih]
    by_cases hfirst : first ∈ actions
    · rw [if_pos hfirst, List.mem_cons]
      constructor
      · rintro (hold | hnew)
        · exact .inl hold
        · exact .inr (.inr hnew)
      · rintro (hold | rfl | hnew)
        · exact .inl hold
        · exact .inl hfirst
        · exact .inr hnew
    · rw [if_neg hfirst, List.mem_append, List.mem_singleton, List.mem_cons, or_assoc]

theorem shows_addRoute {routes : List CitFabricControlRoute} {added : CitFabricControlRoute} :
    Shows (addRoute routes added) target targetRole action ↔
      Shows routes target targetRole action ∨
        added.target = target ∧ added.targetRole = targetRole ∧ action ∈ added.actions := by
  unfold addRoute
  dsimp only
  split
  · rename_i hknown
    constructor
    · rintro ⟨route, hroute, htarget, hrole, haction⟩
      obtain ⟨old, hold, rfl⟩ := List.mem_map.mp hroute
      by_cases hkey : old.target = added.target ∧ old.targetRole = added.targetRole
      · rw [if_pos (decide_eq_true hkey)] at htarget hrole haction
        rcases mem_addActions.mp haction with haction | haction
        · exact .inl ⟨old, hold, htarget, hrole, haction⟩
        · exact .inr ⟨hkey.1.symm.trans htarget, hkey.2.symm.trans hrole, haction⟩
      · rw [if_neg (by simpa using hkey)] at htarget hrole haction
        exact .inl ⟨old, hold, htarget, hrole, haction⟩
    · rintro (⟨old, hold, htarget, hrole, haction⟩ | ⟨htarget, hrole, haction⟩)
      · refine ⟨_, List.mem_map_of_mem hold, ?_⟩
        split
        · exact ⟨htarget, hrole, mem_addActions.mpr (.inl haction)⟩
        · exact ⟨htarget, hrole, haction⟩
      · obtain ⟨old, hold, hkey⟩ := List.any_eq_true.mp hknown
        refine ⟨_, List.mem_map_of_mem hold, ?_⟩
        rw [if_pos hkey]
        obtain ⟨hsame, hsameRole⟩ := of_decide_eq_true hkey
        exact ⟨hsame.trans htarget, hsameRole.trans hrole, mem_addActions.mpr (.inr haction)⟩
  · split
    · rename_i hnone
      constructor
      · exact .inl
      · rintro (hold | ⟨_, _, haction⟩)
        · exact hold
        · rw [hnone] at haction
          cases haction
    · constructor
      · rintro ⟨route, hroute, htarget, hrole, haction⟩
        rcases List.mem_append.mp hroute with hold | hnew
        · exact .inl ⟨route, hold, htarget, hrole, haction⟩
        · obtain rfl := List.mem_singleton.mp hnew
          have hadded := (mem_addActions.mp haction).resolve_left List.not_mem_nil
          exact .inr ⟨htarget, hrole, hadded⟩
      · rintro (⟨old, hold, hshown⟩ | ⟨htarget, hrole, haction⟩)
        · exact ⟨old, List.mem_append_left _ hold, hshown⟩
        · exact ⟨_, List.mem_append_right _ (List.mem_singleton_self _), htarget, hrole,
            mem_addActions.mpr (.inr haction)⟩

theorem shows_foldl {routes added : List CitFabricControlRoute} :
    Shows (added.foldl addRoute routes) target targetRole action ↔
      Shows routes target targetRole action ∨ Shows added target targetRole action := by
  induction added generalizing routes with
  | nil => simp [Shows]
  | cons first rest ih =>
    rw [List.foldl_cons, ih, shows_addRoute, or_assoc]
    unfold Shows
    rw [List.exists_mem_cons_iff]

def routeRole (target : CitFabricDeviceControlTarget) (role : Identifier) : Option Identifier :=
  if target = .assigned_output then some role else none

structure Offers (coursePack : CoursePack) (session : InteractionSession)
    (nodes : List IntegrationNode) (flow : FlowRecipe) (target : CitFabricDeviceControlTarget)
    (role : Identifier) (action : CitFabricDeviceControlAction) : Prop where
  inPack : flow ∈ coursePack.flows
  control : isControlFlow flow = true
  expects : deviceControlTarget? (FlowRecipe.expected flow "target") = some target
  candidate : role ∈ flowTargetRoles flow.target
  named : target = .assigned_output → namesOther flow role = false
  node : ∃ node, connectedNode session nodes role = some node ∧
    (consumedByName node flow.command.action).isSome = true ∧
    action ∈ flowControlActions flow node ∧
    (startsFlight flow action = true → .takeoff ∈ controlActionsForRole coursePack role node)

variable {coursePack : CoursePack} {session : InteractionSession} {nodes : List IntegrationNode}

theorem shows_flowRoutes {flow : FlowRecipe} (hflow : flow ∈ coursePack.flows) :
    Shows (flowRoutes coursePack session nodes flow) target targetRole action ↔
      ∃ role, Offers coursePack session nodes flow target role action ∧
        targetRole = routeRole target role := by
  unfold Shows flowRoutes
  constructor
  · rintro ⟨route, hroute, rfl, rfl, haction⟩
    split at hroute
    · rename_i hcontrol
      split at hroute
      · cases hroute
      · rename_i expected hexpected
        obtain ⟨role, hrole, hfor⟩ := List.mem_filterMap.mp hroute
        unfold routeFor at hfor
        split at hfor
        · cases hfor
        · rename_i hother
          split at hfor
          · cases hfor
          · rename_i node hnode
            split at hfor
            · cases hfor
            · rename_i hconsumed
              obtain rfl := Option.some.inj hfor
              obtain ⟨hoffered, hsafe⟩ := List.mem_filter.mp haction
              refine ⟨role, ⟨hflow, hcontrol, hexpected, hrole, ?_, node, hnode, ?_, hoffered, ?_⟩,
                rfl⟩
              · intro hassigned
                cases hnames : namesOther flow role with
                | false => rfl
                | true => exact absurd ⟨hassigned, hnames⟩ hother
              · rwa [Bool.not_eq_true, Option.isNone_eq_false_iff] at hconsumed
              · intro hflight
                rw [hflight, Bool.true_and, Bool.not_eq_true', decide_eq_false_iff_not,
                  not_not] at hsafe
                exact hsafe
    · cases hroute
  · rintro ⟨role, hoffers, rfl⟩
    obtain ⟨node, hnode, hconsumed, haction, hsafe⟩ := hoffers.node
    have hother : ¬(target = .assigned_output ∧ namesOther flow role = true) := by
      rintro ⟨hassigned, hnames⟩
      rw [hoffers.named hassigned] at hnames
      cases hnames
    have hsome : ¬(consumedByName node flow.command.action).isNone = true := by
      rwa [Bool.not_eq_true, Option.isNone_eq_false_iff]
    rw [if_pos hoffers.control, hoffers.expects]
    have hfor : routeFor coursePack session nodes flow target role =
        some ⟨target, routeRole target role, (flowControlActions flow node).filter fun action =>
          !(startsFlight flow action &&
            decide (.takeoff ∉ controlActionsForRole coursePack role node))⟩ := by
      unfold routeFor routeRole
      rw [if_neg hother, hnode]
      dsimp only
      rw [if_neg hsome]
    refine ⟨_, List.mem_filterMap.mpr ⟨role, hoffers.candidate, hfor⟩, rfl, rfl, ?_⟩
    apply List.mem_filter.mpr
    refine ⟨haction, ?_⟩
    cases hflight : startsFlight flow action with
    | false => rfl
    | true => simp [hsafe hflight]

theorem shows_controlRoutes :
    Shows (controlRoutes coursePack session nodes) target targetRole action ↔
      ∃ flow role, Offers coursePack session nodes flow target role action ∧
        targetRole = routeRole target role := by
  unfold controlRoutes
  rw [shows_foldl]
  have hnone : ¬Shows [] target targetRole action := by
    rintro ⟨route, hroute, _⟩
    cases hroute
  constructor
  · rintro (hempty | ⟨route, hroute, hshown⟩)
    · exact absurd hempty hnone
    · obtain ⟨flow, hflow, hin⟩ := List.mem_flatMap.mp hroute
      exact ⟨flow, (shows_flowRoutes hflow).mp ⟨route, hin, hshown⟩⟩
  · rintro ⟨flow, role, hoffers, hrole⟩
    obtain ⟨route, hin, hshown⟩ := (shows_flowRoutes hoffers.inPack).mpr ⟨role, hoffers, hrole⟩
    exact .inr ⟨route, List.mem_flatMap.mpr ⟨flow, hoffers.inPack, hin⟩, hshown⟩

theorem land_of_takeoff {role : Identifier} {node : IntegrationNode}
    (h : .takeoff ∈ controlActionsForRole coursePack role node) :
    .land ∈ controlActionsForRole coursePack role node := by
  unfold controlActionsForRole at h ⊢
  dsimp only at h ⊢
  split at h
  · have hne := (List.mem_filter.mp h).2
    simp at hne
  · rename_i hsafe
    rw [if_neg hsafe]
    by_contra hland
    exact hsafe ⟨h, hland⟩

theorem controlTargets_mem {bindings : List RoleBinding} {targets : List CitFabricControlTarget}
    (h : controlTargets coursePack nodes bindings = .ok targets) {binding : RoleBinding}
    (hbinding : binding ∈ bindings) :
    ∃ own, controlTarget coursePack nodes binding = .ok own ∧ ∀ target ∈ own, target ∈ targets := by
  induction bindings generalizing targets with
  | nil => cases hbinding
  | cons first rest ih =>
    rw [controlTargets] at h
    obtain ⟨own, hown, h⟩ := bind_eq_ok.mp h
    obtain ⟨others, hothers, h⟩ := bind_eq_ok.mp h
    obtain rfl := Except.ok.inj h
    rcases List.mem_cons.mp hbinding with rfl | hbinding
    · exact ⟨own, hown, fun target htarget => List.mem_append_left _ htarget⟩
    · obtain ⟨later, hlater, hin⟩ := ih hothers hbinding
      exact ⟨later, hlater, fun target htarget => List.mem_append_right _ (hin target htarget)⟩

theorem connectedNode_binding {role : Identifier} {node : IntegrationNode}
    (h : connectedNode session nodes role = some node) :
    ∃ binding ∈ session.roleBindings, binding.role = role ∧
      nodeById nodes binding.nodeId = some node := by
  obtain ⟨binding, hbinding, hfound⟩ := List.exists_of_findSome?_eq_some h
  split at hfound
  · rename_i hrole
    obtain ⟨hnode, _⟩ := Option.filter_eq_some_iff.mp hfound
    exact ⟨binding, List.mem_reverse.mp hbinding, hrole, hnode⟩
  · cases hfound

theorem takeoff_lands {role : Identifier} {node : IntegrationNode}
    {targets : List CitFabricControlTarget}
    (htargets : controlTargets coursePack nodes session.roleBindings = .ok targets)
    (hnode : connectedNode session nodes role = some node)
    (htakeoff : .takeoff ∈ controlActionsForRole coursePack role node) :
    ∃ target ∈ targets, target.role = role ∧ .land ∈ target.actions := by
  obtain ⟨binding, hbinding, rfl, hfound⟩ := connectedNode_binding hnode
  obtain ⟨own, hown, hin⟩ := controlTargets_mem htargets hbinding
  have hland := land_of_takeoff htakeoff
  unfold controlTarget at hown
  rw [hfound] at hown
  dsimp only at hown
  obtain ⟨kind, hkind, rfl⟩ := map_eq_ok.mp hown
  cases kind with
  | some kind => exact ⟨_, hin _ (List.mem_singleton_self _), rfl, hland⟩
  | none =>
    unfold controlTargetKind at hkind
    split at hkind
    · rename_i hempty
      rw [hempty] at hland
      cases hland
    · split at hkind
      · cases hkind
      · split at hkind
        · split at hkind
          · rename_i hunsafe
            exact absurd hland hunsafe.2
          · cases hkind
        · split at hkind
          · cases hkind
          · cases hkind

end

def controlPayload (action : CitFabricDeviceControlAction) (target : CitFabricDeviceControlTarget)
    (targetRole batchId : Option String) (deviceKind : AgentMeshWearableKind) : JsonObject :=
  let chosen := (JsonObject.empty.set "action" (.str action.value)).set "target"
    (.str target.value)
  let addressed := setIfGiven (setIfGiven chosen "targetRole" targetRole) "batchId" batchId
  ((addressed.set "confirmed" (.bool true)).set "inputModality" (.str "voice")).set "deviceKind"
    (.str deviceKind.value)

structure IsControlEvent (session : InteractionSession) (target : CitFabricDeviceControlTarget)
    (targetRole : Option Identifier) (action : CitFabricDeviceControlAction)
    (event : FabricEventEnvelope) : Prop where
  valid : event.validates = true
  topic : event.topic = deviceControlIntentCapability
  confidence : event.confidence = some (.finite 1)
  assigned : ∃ binding ∈ session.roleBindings, binding.nodeId = event.sourceNodeId
  payload : ∃ batchId deviceKind, event.payload =
    controlPayload action target (targetRole.map (·.text)) batchId deviceKind

def ConsumedAt (repo : Repository) (session : InteractionSession) (role : Identifier)
    (action : CapabilityIdentifier) : Prop :=
  ∃ node, repo.targetNode session role = some node ∧ node.connectionState = .connected ∧
    (consumedCapability node action.text).isSome = true

/-- The routing makes a command of the event that a connected node consumes, and no command to
another role than the named one. -/
def IsCarriedOut (repo : Repository) (session : InteractionSession) (now : Instant)
    (messageId : ℕ → ℕ → Uuid) (targetRole : Option Identifier) (event : FabricEventEnvelope) :
    Prop :=
  ∃ batches repo', routeEvent event session now messageId repo = .ok batches repo' ∧
    (∃ batch ∈ batches, ∃ request ∈ batch,
      ConsumedAt repo session request.targetRole request.action) ∧
    ∀ role ∈ targetRole, ∀ batch ∈ batches, ∀ request ∈ batch, request.targetRole = role

/-- The recipes of the flows answer the event: one of them reaches a role whose connected node
consumes its command, none reaches another role than the named one, and the keys of the commands
fit. -/
structure IsAnswered (repo : Repository) (flows : List FlowRecipe) (session : InteractionSession)
    (targetRole : Option Identifier) (event : FabricEventEnvelope) : Prop where
  consumed : ∃ flow ∈ flows, ∃ role, Reaches repo flow event session role ∧
    ConsumedAt repo session role flow.command.action
  only : ∀ named ∈ targetRole, ∀ flow ∈ flows, ∀ role, Reaches repo flow event session role →
    role = named
  fits : ∀ flow ∈ flows, ∀ role, Reaches repo flow event session role →
    keyFits flow session role = true

section
variable {repo : Repository} {coursePack : CoursePack} {session : InteractionSession}
  {now : Instant}

theorem isCarriedOut_iff (hpack : validateCoursePack coursePack = .ok ())
    (hrunning : repo.requireCoursePack session = .ok coursePack)
    (hactive : session.state = .active) (harmed : session.armed = true)
    (hquiet : repo.NoDebouncePending coursePack.flows session now) (messageId : ℕ → ℕ → Uuid)
    {targetRole : Option Identifier} {event : FabricEventEnvelope}
    (hevent : event.validates = true) :
    IsCarriedOut repo session now messageId targetRole event ↔
      IsAnswered repo coursePack.flows session targetRole event := by
  have hspec := routeEvent_spec hevent hactive harmed hpack hrunning hquiet messageId
  constructor
  · rintro ⟨batches, repo', hrun, ⟨batch, hbatch, request, hrequest, hconsumed⟩, honly⟩
    rw [hrun] at hspec
    obtain ⟨flow, hflow, hreaches, haction⟩ := hspec.sound batch hbatch request hrequest
    rw [haction] at hconsumed
    refine ⟨⟨flow, hflow, _, hreaches, hconsumed⟩, ?_, hspec.fits⟩
    intro named hnamed other hother role hreached
    obtain ⟨batch', hbatch', request', hrequest', rfl, _⟩ :=
      hspec.complete other hother role hreached
    exact honly named hnamed batch' hbatch' request' hrequest'
  · intro hanswered
    cases hrun : routeEvent event session now messageId repo with
    | error error repo' =>
      rw [hrun] at hspec
      obtain ⟨flow, hflow, role, hreaches, hlong⟩ := hspec
      rw [hanswered.fits flow hflow role hreaches] at hlong
      cases hlong
    | ok batches repo' =>
      rw [hrun] at hspec
      refine ⟨batches, repo', hrun, ?_, ?_⟩
      · obtain ⟨flow, hflow, role, hreaches, hconsumed⟩ := hanswered.consumed
        obtain ⟨batch, hbatch, request, hrequest, rfl, haction⟩ :=
          hspec.complete flow hflow role hreaches
        rw [← haction] at hconsumed
        exact ⟨batch, hbatch, request, hrequest, hconsumed⟩
      · intro named hnamed batch hbatch request hrequest
        obtain ⟨flow, hflow, hreaches, _⟩ := hspec.sound batch hbatch request hrequest
        exact hanswered.only named hnamed flow hflow _ hreaches

structure ControlsAgree (repo : Repository) (coursePack : CoursePack)
    (session : InteractionSession) (nodes : List IntegrationNode) (now : Instant)
    (messageId : ℕ → ℕ → Uuid) (inventory : CitFabricControlInventory) : Prop where
  carriedOut : ∀ route ∈ inventory.routes, ∀ action ∈ route.actions, ∀ event,
    IsControlEvent session route.target route.targetRole action event →
      IsCarriedOut repo session now messageId route.targetRole event
  lands : ∀ flow target role action, Offers coursePack session nodes flow target role action →
    startsFlight flow action = true →
      ∃ shown ∈ inventory.targets, shown.role = role ∧ .land ∈ shown.actions

/-- The controls agree with the routing if and only if the recipes answer the events for what the
flows offer. -/
theorem controls_agree {config : BridgeConfig} {shown : CitFabricControlInventory}
    (hshown : inventory config session (listFabricNodes repo config.siteId config.roomId)
      coursePack = .ok shown)
    (hpack : validateCoursePack coursePack = .ok ())
    (hrunning : repo.requireCoursePack session = .ok coursePack)
    (hactive : session.state = .active) (harmed : session.armed = true)
    (hquiet : repo.NoDebouncePending coursePack.flows session now) (messageId : ℕ → ℕ → Uuid) :
    ControlsAgree repo coursePack session (listFabricNodes repo config.siteId config.roomId) now
        messageId shown ↔
      ∀ flow target role action, Offers coursePack session
          (listFabricNodes repo config.siteId config.roomId) flow target role action →
        ∀ event, IsControlEvent session target (routeRole target role) action event →
          IsAnswered repo coursePack.flows session (routeRole target role) event := by
  obtain ⟨targets, htargets, rfl⟩ : ∃ targets, controlTargets coursePack
      (listFabricNodes repo config.siteId config.roomId) session.roleBindings = .ok targets ∧
        shown = ⟨targets, controlRoutes coursePack session
          (listFabricNodes repo config.siteId config.roomId)⟩ := by
    unfold inventory at hshown
    obtain ⟨_, hshown⟩ := seq_eq_ok.mp hshown
    obtain ⟨_, hshown⟩ := seq_eq_ok.mp hshown
    obtain ⟨_, hshown⟩ := seq_eq_ok.mp hshown
    obtain ⟨_, hshown⟩ := seq_eq_ok.mp hshown
    obtain ⟨targets, htargets, hreturned⟩ := bind_eq_ok.mp hshown
    exact ⟨targets, htargets, (Except.ok.inj hreturned).symm⟩
  constructor
  · intro hagree flow target role action hoffers event hevent
    obtain ⟨route, hroute, rfl, hrole, haction⟩ :=
      shows_controlRoutes.mpr ⟨flow, role, hoffers, rfl⟩
    rw [← isCarriedOut_iff hpack hrunning hactive harmed hquiet messageId hevent.valid, ← hrole]
    rw [← hrole] at hevent
    exact hagree.carriedOut route hroute action haction event hevent
  · intro hanswered
    constructor
    · intro route hroute action haction event hevent
      obtain ⟨flow, role, hoffers, hrole⟩ :=
        shows_controlRoutes.mp ⟨route, hroute, rfl, rfl, haction⟩
      rw [isCarriedOut_iff hpack hrunning hactive harmed hquiet messageId hevent.valid, hrole]
      rw [hrole] at hevent
      exact hanswered flow route.target role action hoffers event hevent
    · intro flow target role action hoffers hflight
      obtain ⟨node, hnode, _, _, hsafe⟩ := hoffers.node
      exact takeoff_lands htargets hnode (hsafe hflight)

end

namespace ControlLesson
open Lesson (site room tutor driver drive robot running robotBinding press flow)

def wearer : Identifier := ⟨"wearer", by decide⟩

def racer : Identifier := ⟨"racer", by decide⟩

def voice : CapabilityDescriptor :=
  { Lesson.button with name := deviceControlIntentCapability }

def glasses : IntegrationNode :=
  { robot with nodeId := ⟨"glasses", by decide⟩, publishedCapabilities := [voice] }

def car : IntegrationNode := { robot with nodeId := ⟨"car", by decide⟩ }

/-- What a recipe expects of a confirmed command. -/
def expecting (target : CitFabricDeviceControlTarget) : JsonObject :=
  ((JsonObject.empty.set "target" (.str target.value)).set "action" (.str "forward")).set
    "confirmed" (.bool true)

/-- The command of one output goes to both roles. -/
def groupFlow : FlowRecipe :=
  { flow with
    trigger := ⟨deviceControlIntentCapability, none, none, some (expecting .assigned_output)⟩
    target := .group [driver, racer] none
    outputRoles := some [driver, racer] }

def driverFlow : FlowRecipe :=
  { flow with
    trigger := ⟨deviceControlIntentCapability, none, none, some (expecting .ground_outputs)⟩ }

def packOf (flow : FlowRecipe) : CoursePack :=
  { Lesson.coursePack with
    coursePackId := ⟨"glasses-device-control", by decide⟩
    roles := [⟨wearer, [voice.name], none, some .input, false⟩,
      ⟨driver, [drive.name], none, some .output, false⟩,
      ⟨racer, [drive.name], none, some .output, false⟩]
    flows := [flow] }

def session : InteractionSession :=
  { running true with
    coursePackId := (packOf groupFlow).coursePackId
    roleBindings := [⟨wearer, glasses.nodeId, voice.name, 0, tutor⟩, robotBinding,
      ⟨racer, car.nodeId, drive.name, 0, tutor⟩] }

def store (flow : FlowRecipe) : Repository :=
  { Repository.empty with
    nodes := ((Repository.empty.nodes.upsert ⟨glasses, seconds 15⟩).upsert
      ⟨robot, seconds 15⟩).upsert ⟨car, seconds 15⟩
    coursePacks := Repository.empty.coursePacks.upsert (packOf flow)
    sessions := Repository.empty.sessions.upsert session }

def config : BridgeConfig := ⟨site, room, session.sessionId⟩

def nodes (flow : FlowRecipe) : List IntegrationNode := listFabricNodes (store flow) site room

/-- The wearer of the glasses sends the robot forward. -/
def forward : FabricEventEnvelope :=
  { press with
    topic := deviceControlIntentCapability
    sourceCapability := deviceControlIntentCapability
    sourceNodeId := glasses.nodeId
    confidence := some (.finite 1)
    payload := controlPayload .forward .assigned_output (some driver.text) none .even_g2 }

end ControlLesson

/-- The route to the robot drives the car, too. -/
theorem forward_drives_both :
    validateCoursePack (ControlLesson.packOf ControlLesson.groupFlow) = .ok () ∧
      (ControlLesson.store ControlLesson.groupFlow).requireCoursePack ControlLesson.session =
        .ok (ControlLesson.packOf ControlLesson.groupFlow) ∧
      ControlLesson.session.state = .active ∧ ControlLesson.session.armed = true ∧
      (ControlLesson.store ControlLesson.groupFlow).NoDebouncePending
        (ControlLesson.packOf ControlLesson.groupFlow).flows ControlLesson.session
        ControlLesson.forward.timestamp ∧
      ∃ shown, inventory ControlLesson.config ControlLesson.session
          (ControlLesson.nodes ControlLesson.groupFlow)
          (ControlLesson.packOf ControlLesson.groupFlow) = .ok shown ∧
        ¬ControlsAgree (ControlLesson.store ControlLesson.groupFlow)
          (ControlLesson.packOf ControlLesson.groupFlow) ControlLesson.session
          (ControlLesson.nodes ControlLesson.groupFlow) ControlLesson.forward.timestamp
          (fun _ => Lesson.uuid) shown := by
  have hpack : validateCoursePack (ControlLesson.packOf ControlLesson.groupFlow) = .ok () := by
    decide
  have hrunning : (ControlLesson.store ControlLesson.groupFlow).requireCoursePack
      ControlLesson.session = .ok (ControlLesson.packOf ControlLesson.groupFlow) := by
    rfl
  have hquiet : (ControlLesson.store ControlLesson.groupFlow).NoDebouncePending
      (ControlLesson.packOf ControlLesson.groupFlow).flows ControlLesson.session
      ControlLesson.forward.timestamp := noDebouncePending_of_empty rfl _
  refine ⟨hpack, hrunning, rfl, rfl, hquiet, ?_⟩
  cases hshown : inventory ControlLesson.config ControlLesson.session
      (ControlLesson.nodes ControlLesson.groupFlow)
      (ControlLesson.packOf ControlLesson.groupFlow) with
  | error error =>
    have hreturned : (inventory ControlLesson.config ControlLesson.session
        (ControlLesson.nodes ControlLesson.groupFlow)
        (ControlLesson.packOf ControlLesson.groupFlow)).toOption.isSome = true := by
      decide
    rw [hshown] at hreturned
    cases hreturned
  | ok shown =>
    refine ⟨shown, rfl, ?_⟩
    intro hagree
    have hroute : ((inventory ControlLesson.config ControlLesson.session
        (ControlLesson.nodes ControlLesson.groupFlow)
        (ControlLesson.packOf ControlLesson.groupFlow)).toOption.any fun shown =>
          shown.routes.any fun route => decide (route.target = .assigned_output ∧
            route.targetRole = some Lesson.driver ∧ .forward ∈ route.actions)) = true := by
      decide
    rw [hshown] at hroute
    obtain ⟨route, hmem, hroute⟩ := List.any_eq_true.mp hroute
    obtain ⟨htarget, hrole, haction⟩ := of_decide_eq_true hroute
    have hevent : IsControlEvent ControlLesson.session route.target route.targetRole .forward
        ControlLesson.forward := by
      rw [htarget, hrole]
      exact ⟨by decide, rfl, rfl, ⟨_, List.mem_cons_self .., rfl⟩, none, .even_g2, rfl⟩
    have hcarried := hagree.carriedOut route hmem .forward haction _ hevent
    have hanswered := (isCarriedOut_iff hpack hrunning rfl rfl hquiet _ hevent.valid).mp hcarried
    rw [hrole] at hanswered
    have hreached : Reaches (ControlLesson.store ControlLesson.groupFlow) ControlLesson.groupFlow
        ControlLesson.forward ControlLesson.session ControlLesson.racer := by
      apply (mem_routedRoles_quiet rfl rfl hquiet).mp
      decide
    have hsame := hanswered.only Lesson.driver rfl _ (List.mem_singleton_self _) _ hreached
    revert hsame
    decide

theorem controlPayload_get? (action : CitFabricDeviceControlAction)
    (target : CitFabricDeviceControlTarget) (targetRole batchId : Option String)
    (deviceKind : AgentMeshWearableKind) :
    (controlPayload action target targetRole batchId deviceKind).get? "action" =
        some (.str action.value) ∧
      (controlPayload action target targetRole batchId deviceKind).get? "target" =
        some (.str target.value) ∧
      (controlPayload action target targetRole batchId deviceKind).get? "confirmed" =
        some (.bool true) := by
  unfold controlPayload
  dsimp only
  have hgiven (payload : JsonObject) (name : String) (value : Option String) (key : String)
      (hne : key ≠ name) : (setIfGiven payload name value).get? key = payload.get? key := by
    cases value with
    | none => rfl
    | some value =>
      unfold setIfGiven
      rw [JsonObject.get?_set, if_neg hne]
  simp only [JsonObject.get?_set]
  rw [hgiven _ _ _ _ (by decide), hgiven _ _ _ _ (by decide), hgiven _ _ _ _ (by decide),
    hgiven _ _ _ _ (by decide)]
  simp [JsonObject.get?_set]

/-- The driver's robot is the only one on the ground that the wearer drives. -/
theorem controls_agree_driver : ∃ shown,
    inventory ControlLesson.config ControlLesson.session
        (ControlLesson.nodes ControlLesson.driverFlow)
        (ControlLesson.packOf ControlLesson.driverFlow) = .ok shown ∧
      Shows shown.routes .ground_outputs none .forward ∧
      ControlsAgree (ControlLesson.store ControlLesson.driverFlow)
        (ControlLesson.packOf ControlLesson.driverFlow) ControlLesson.session
        (ControlLesson.nodes ControlLesson.driverFlow) ControlLesson.forward.timestamp
        (fun _ => Lesson.uuid) shown := by
  have hroute : ((inventory ControlLesson.config ControlLesson.session
      (ControlLesson.nodes ControlLesson.driverFlow)
      (ControlLesson.packOf ControlLesson.driverFlow)).toOption.any fun shown =>
        shown.routes.any fun route => decide (route.target = .ground_outputs ∧
          route.targetRole = none ∧ .forward ∈ route.actions)) = true := by
    decide
  cases hshown : inventory ControlLesson.config ControlLesson.session
      (ControlLesson.nodes ControlLesson.driverFlow)
      (ControlLesson.packOf ControlLesson.driverFlow) with
  | error error =>
    rw [hshown] at hroute
    cases hroute
  | ok shown =>
    rw [hshown] at hroute
    obtain ⟨route, hmem, hroute⟩ := List.any_eq_true.mp hroute
    refine ⟨shown, rfl, ⟨route, hmem, of_decide_eq_true hroute⟩, ?_⟩
    refine (controls_agree hshown (by decide) rfl rfl rfl (noDebouncePending_of_empty rfl _)
      _).mpr ?_
    intro flow target role action hoffers event hevent
    obtain rfl := List.mem_singleton.mp hoffers.inPack
    obtain rfl : target = .ground_outputs := by
      have hexpects := hoffers.expects
      have hground : deviceControlTarget? (FlowRecipe.expected ControlLesson.driverFlow "target") =
          some .ground_outputs := by
        decide
      exact Option.some.inj (hexpects.symm.trans hground)
    obtain ⟨node, _, _, haction, _⟩ := hoffers.node
    obtain rfl : action = .forward := by
      have hforward : flowControlActions ControlLesson.driverFlow node = [.forward] := by
        rfl
      rw [hforward] at haction
      exact List.mem_singleton.mp haction
    obtain ⟨batchId, deviceKind, hpayload⟩ := hevent.payload
    obtain ⟨hget, hget', hget''⟩ := controlPayload_get? .forward .ground_outputs
      ((routeRole .ground_outputs role).map (·.text)) batchId deviceKind
    rw [← hpayload] at hget hget' hget''
    have htarget : ((ControlLesson.store ControlLesson.driverFlow).targetNode
        ControlLesson.session Lesson.driver).map (fun node => (node.connectionState,
          (consumedCapability node ControlLesson.driverFlow.command.action.text).isSome)) =
        some (.connected, true) := by
      decide
    obtain ⟨robot, hrobot, hstate⟩ := Option.map_eq_some_iff.mp htarget
    obtain ⟨hconnected, hconsumed⟩ := Prod.mk.inj hstate
    refine ⟨⟨_, List.mem_singleton_self _, Lesson.driver, ⟨⟨rfl, hevent.topic.symm, ?_, ?_, rfl,
      ⟨robot, hrobot, ?_⟩, ?_⟩, ?_⟩, robot, hrobot, hconnected, hconsumed⟩, ?_, ?_⟩
    · intro minimum hminimum
      cases hminimum
    · intro expected hexpected field hfield
      obtain rfl := Option.some.inj hexpected
      have hfields : (ControlLesson.expecting .ground_outputs).fields =
          [("target", .str "ground_outputs"), ("action", .str "forward"),
            ("confirmed", .bool true)] := by
        rfl
      rw [hfields] at hfield
      simp only [List.mem_cons, List.not_mem_nil, or_false] at hfield
      unfold asPython
      rcases hfield with rfl | rfl | rfl
      · rw [hget']
        decide
      · rw [hget]
        decide
      · rw [hget'']
        decide
    · intro required hrequired
      cases hrequired
    · intro binding hbinding
      cases hbinding
    · intro hguard
      cases hguard
    · intro named hnamed
      cases hnamed
    · intro other hother reached hreached
      obtain rfl := List.mem_singleton.mp hother
      have hrole : reached = Lesson.driver := hreached.selects.selected
      subst hrole
      decide

end CitPhysicalXR.Bridge
