import CitPhysicalXR.Bridge.FeedItems

/-! The control inventory: what the bridge projects out of a session, its course pack and the nodes
of its room for the wearables to choose from. -/
namespace CitPhysicalXR.Bridge
open Foundation Fabric

def deviceControlActions : List CitFabricDeviceControlAction :=
  [.forward, .backward, .left, .right, .stop, .light, .demo, .takeoff, .land, .power_on, .power_off,
    .activate]

def deviceControlTargets : List CitFabricDeviceControlTarget :=
  [.ground_outputs, .tello_fleet, .power_outputs, .assigned_output, .all_outputs]

/-- The actions of a single output: all but `activate`. -/
def controlActionOrder : List CitFabricDeviceControlAction :=
  deviceControlActions.filter (· ≠ .activate)

def groundActions : List CitFabricDeviceControlAction :=
  [.forward, .backward, .left, .right, .stop, .light, .demo]

def flightActions : List CitFabricDeviceControlAction := [.takeoff, .land]

def powerActions : List CitFabricDeviceControlAction := [.power_on, .power_off]

def controlCoursePackIds : List String := ["glasses-device-control", "synchronized-motor-control"]

def fleetSequenceStart : String := "mobility.flight.fleet_sequence.start"

def deviceControlAction? : Option JsonValue → Option CitFabricDeviceControlAction
  | some (.str text) => deviceControlActions.find? (·.value = text)
  | _ => none

def deviceControlTarget? : Option JsonValue → Option CitFabricDeviceControlTarget
  | some (.str text) => deviceControlTargets.find? (·.value = text)
  | _ => none

def flowTargetRoles : FlowTarget → List Identifier
  | .role role => [role]
  | .group roles _ => roles
  | .payload _ allowedRoles _ => allowedRoles

/-- A field of `payloadEquals`. -/
def FlowRecipe.expected (flow : FlowRecipe) (field : String) : Option JsonValue :=
  flow.trigger.payloadEquals.bind fun expected => expected.get? field

/-- The capability under its name; of several with one name the last. -/
def consumedByName (node : IntegrationNode) (name : CapabilityIdentifier) :
    Option CapabilityDescriptor :=
  node.consumedCapabilities.reverse.find? (·.name = name)

def parameterChoices (descriptor : CapabilityDescriptor) (parameter : Identifier) :
    List JsonValue :=
  match descriptor.constraints.get? "arguments" with
  | some (.obj arguments) =>
    match arguments.lookup parameter.text with
    | some (.obj constraint) =>
      match constraint.lookup "enum" with
      | some (.arr values) => values
      | _ => []
    | _ => []
  | _ => []

/-- The actions that a flow offers on a node: the one that it expects, or those that the node's
capability allows for the parameter that the action is bound to. -/
def flowControlActions (flow : FlowRecipe) (node : IntegrationNode) :
    List CitFabricDeviceControlAction :=
  match deviceControlAction? (FlowRecipe.expected flow "action") with
  | some action => [action]
  | none =>
    match flow.command.parameterBindings.find? (·.payloadField.text = "action") with
    | none => []
    | some binding =>
      match consumedByName node flow.command.action with
      | none => []
      | some descriptor => (parameterChoices descriptor binding.parameter).filterMap fun value =>
          deviceControlAction? (some value)

def isControlFlow (flow : FlowRecipe) : Bool :=
  flow.enabled && decide (flow.trigger.event = deviceControlIntentCapability)

def controlActionsForRole (coursePack : CoursePack) (role : Identifier) (node : IntegrationNode) :
    List CitFabricDeviceControlAction :=
  let actions := (coursePack.flows.filter fun flow =>
    isControlFlow flow && decide (role ∈ flowTargetRoles flow.target) &&
      (consumedByName node flow.command.action).isSome &&
      !((FlowRecipe.expected flow "target").any (· matches .str "all_outputs"))).flatMap fun flow =>
        flowControlActions flow node
  let ordered := controlActionOrder.filter (· ∈ actions)
  if .takeoff ∈ ordered ∧ .land ∉ ordered then ordered.filter (· ≠ .takeoff) else ordered

inductive ControlTargetKind where
  | ground_robot | drone_fleet | smart_plug
  deriving DecidableEq

/-- What the projection throws. -/
inductive InventoryError where
  | notADeviceControlLesson | outsideTheConfiguredRoom | unboundedNodes | mixedOutputKinds
  deriving DecidableEq

def controlTargetKind (actions : List CitFabricDeviceControlAction) :
    Except InventoryError (Option ControlTargetKind) :=
  if actions = [] then .ok none
  else if actions.all (· ∈ groundActions) then .ok (some .ground_robot)
  else if actions.all (· ∈ flightActions) then
    if .takeoff ∈ actions ∧ .land ∉ actions then .ok none else .ok (some .drone_fleet)
  else if actions.all (· ∈ powerActions) then .ok (some .smart_plug)
  else .error .mixedOutputKinds

structure CitFabricControlTarget where
  role : Identifier
  nodeId : Identifier
  displayName : String
  kind : ControlTargetKind
  connectionState : FabricNodeConnectionState
  actions : List CitFabricDeviceControlAction

def projectedConnectionState : FabricNodeConnectionState → FabricNodeConnectionState
  | .connected => .connected
  | .degraded => .degraded
  | .disconnected => .disconnected
  | _ => .unavailable

/-- `byId.get(nodeId)`: of several nodes with one name the last. -/
def nodeById (nodes : List IntegrationNode) (nodeId : Identifier) : Option IntegrationNode :=
  nodes.reverse.find? (·.nodeId = nodeId)

def controlTarget (coursePack : CoursePack) (nodes : List IntegrationNode) (binding : RoleBinding) :
    Except InventoryError (List CitFabricControlTarget) :=
  match nodeById nodes binding.nodeId with
  | none => .ok []
  | some node =>
    let actions := controlActionsForRole coursePack binding.role node
    (controlTargetKind actions).map fun kind =>
      match kind with
      | none => []
      | some kind => [⟨binding.role, node.nodeId, node.displayName, kind,
          projectedConnectionState node.connectionState, actions⟩]

def controlTargets (coursePack : CoursePack) (nodes : List IntegrationNode) :
    List RoleBinding → Except InventoryError (List CitFabricControlTarget)
  | [] => .ok []
  | binding :: rest => do
    let first ← controlTarget coursePack nodes binding
    let others ← controlTargets coursePack nodes rest
    return first ++ others

structure CitFabricControlRoute where
  target : CitFabricDeviceControlTarget
  targetRole : Option Identifier
  actions : List CitFabricDeviceControlAction

def connectedNode (session : InteractionSession) (nodes : List IntegrationNode)
    (role : Identifier) : Option IntegrationNode :=
  session.roleBindings.reverse.findSome? fun binding =>
    if binding.role = role then
      (nodeById nodes binding.nodeId).filter (·.connectionState = .connected)
    else none

def startsFlight (flow : FlowRecipe) (action : CitFabricDeviceControlAction) : Bool :=
  decide (action = .takeoff ∨ action = .activate ∧ flow.command.action.text = fleetSequenceStart)

def namesOther (flow : FlowRecipe) (role : Identifier) : Bool :=
  match FlowRecipe.expected flow "targetRole" with
  | some (.str other) => other ≠ role.text
  | _ => false

/-- What a flow adds to the routes for one of its roles. -/
def routeFor (coursePack : CoursePack) (session : InteractionSession)
    (nodes : List IntegrationNode) (flow : FlowRecipe) (target : CitFabricDeviceControlTarget)
    (role : Identifier) : Option CitFabricControlRoute :=
  if target = .assigned_output ∧ namesOther flow role then none
  else
    match connectedNode session nodes role with
    | none => none
    | some node =>
      if (consumedByName node flow.command.action).isNone then none
      else
        let safe := controlActionsForRole coursePack role node
        let actions := (flowControlActions flow node).filter fun action =>
          !(startsFlight flow action && decide (.takeoff ∉ safe))
        some ⟨target, if target = .assigned_output then some role else none, actions⟩

def flowRoutes (coursePack : CoursePack) (session : InteractionSession)
    (nodes : List IntegrationNode) (flow : FlowRecipe) : List CitFabricControlRoute :=
  if isControlFlow flow then
    match deviceControlTarget? (FlowRecipe.expected flow "target") with
    | none => []
    | some target => (flowTargetRoles flow.target).filterMap fun role =>
        routeFor coursePack session nodes flow target role
  else []

/-- The actions of a route, each once. -/
def addActions (actions added : List CitFabricDeviceControlAction) :
    List CitFabricDeviceControlAction :=
  added.foldl (fun actions action => if action ∈ actions then actions else actions ++ [action]) actions

/-- `routes.set(key, route)`: one route for a target and its role. -/
def addRoute (routes : List CitFabricControlRoute) (added : CitFabricControlRoute) :
    List CitFabricControlRoute :=
  let isKey (route : CitFabricControlRoute) : Bool :=
    decide (route.target = added.target ∧ route.targetRole = added.targetRole)
  if routes.any isKey then
    routes.map fun route =>
      if isKey route then { route with actions := addActions route.actions added.actions } else route
  else if added.actions = [] then routes
  else routes ++ [{ added with actions := addActions [] added.actions }]

def controlRoutes (coursePack : CoursePack) (session : InteractionSession)
    (nodes : List IntegrationNode) : List CitFabricControlRoute :=
  (coursePack.flows.flatMap (flowRoutes coursePack session nodes)).foldl addRoute []

structure CitFabricControlInventory where
  targets : List CitFabricControlTarget
  routes : List CitFabricControlRoute

/-- `inventory()` on what the requests for the session, the nodes and the course pack return. -/
def inventory (config : BridgeConfig) (session : InteractionSession)
    (nodes : List IntegrationNode) (coursePack : CoursePack) :
    Except InventoryError CitFabricControlInventory := do
  raiseIf (session.coursePackId.text ∉ controlCoursePackIds) .notADeviceControlLesson
  raiseIf (session.siteId ≠ config.siteId ∨ session.roomId ≠ config.roomId)
    .outsideTheConfiguredRoom
  raiseIf (256 < nodes.length) .unboundedNodes
  raiseIf (nodes.any fun node => node.siteId ≠ config.siteId ∨ node.roomId ≠ config.roomId)
    .outsideTheConfiguredRoom
  let targets ← controlTargets coursePack nodes session.roleBindings
  return ⟨targets, controlRoutes coursePack session nodes⟩

end CitPhysicalXR.Bridge
