import CitPhysicalXR.Foundation.PyJson
import CitPhysicalXR.Foundation.PyDatetime

/-! The wire data of the interaction fabric. Identifiers carry the check that the schema
makes of them; instants stand for the schema's aware datetimes. -/
namespace CitPhysicalXR.Fabric
open Foundation

/-- `^[A-Za-z0-9][A-Za-z0-9._-]*$`, 1 to 128 characters. -/
def isIdentifier (s : String) : Bool :=
  match s.toList with
  | [] => false
  | c :: cs => c.isAlphanum &&
      cs.all (fun d => d.isAlphanum || d == '.' || d == '_' || d == '-') && cs.length ≤ 127

/-- `^[a-z][a-z0-9_]*(?:\.[a-z][a-z0-9_]*)+$`, 3 to 128 characters. -/
def isCapabilityIdentifier (s : String) : Bool :=
  let segments := s.toList.splitOn '.'
  2 ≤ segments.length && 3 ≤ s.length && s.length ≤ 128 &&
    segments.all fun
      | [] => false
      | c :: cs => c.isLower && cs.all fun d => d.isLower || d.isDigit || d == '_'

structure Identifier where
  text : String
  valid : isIdentifier text = true
  deriving DecidableEq

structure CapabilityIdentifier where
  text : String
  valid : isCapabilityIdentifier text = true
  deriving DecidableEq

structure Uuid where
  value : Fin (2 ^ 128)
  deriving DecidableEq

instance Uuid.neZero : NeZero (2 ^ 128) := ⟨by decide⟩

/-- `str(uuid)`: hexadecimal digits in groups of 8, 4, 4, 4 and 12. -/
def Uuid.text (id : Uuid) : String :=
  let group (start length : ℕ) : List Char := (List.range' start length).map fun i =>
    Nat.digitChar (id.value.val / 16 ^ (31 - i) % 16)
  String.ofList (group 0 8 ++ '-' :: group 8 4 ++ '-' :: group 12 4 ++ '-' :: group 16 4 ++
    '-' :: group 20 12)

theorem Uuid.length_text (id : Uuid) : id.text.length = 36 := by
  simp only [Uuid.text, String.length_ofList, List.length_append, List.length_cons,
    List.length_map, List.length_range']

inductive FabricSafetyClassification where
  | none | informational | bounded_physical | flight | electrical
  deriving DecidableEq

inductive FabricDataClassification where
  | public_ | operational | student | source_code | voice_transcript | biosignal_derived
  | sensitive_raw | secret
  deriving DecidableEq

inductive CapabilityDirection where
  | publish | consume | bidirectional
  deriving DecidableEq

inductive FabricLatencyClass where
  | safety_critical | interactive | ui_feedback | conversational | bulk
  deriving DecidableEq

inductive FabricNodeConnectionState where
  | registering | connected | degraded | unavailable | disconnected | unsafe_
  deriving DecidableEq

inductive FabricNodeHealthState where
  | healthy | degraded | unhealthy | unknown
  deriving DecidableEq

inductive FabricCommandPriority where
  | emergency_stop | safety_engine | instructor_override | lesson_automation
  | student_interaction | autonomous_agent
  deriving DecidableEq

inductive FabricCommandLifecycleStage where
  | proposed | validated | authorized | dispatched | accepted | running
  | succeeded | failed | cancelled | timed_out | rejected
  deriving DecidableEq

inductive FabricSessionMode where
  | simulation | physical
  deriving DecidableEq

inductive FabricSessionState where
  | draft | ready | active | paused | stopped | emergency_stopped | failed
  deriving DecidableEq

inductive RoleIoType where
  | input | output | bidirectional
  deriving DecidableEq

inductive FlowGuard where
  | session_is_active | target_is_connected | role_is_assigned
  | instructor_override_is_clear | target_is_armed | approval_is_present
  deriving DecidableEq

def FabricSafetyClassification.value : FabricSafetyClassification → String
  | .none => "none"
  | .informational => "informational"
  | .bounded_physical => "bounded_physical"
  | .flight => "flight"
  | .electrical => "electrical"

def FabricDataClassification.value : FabricDataClassification → String
  | .public_ => "public"
  | .operational => "operational"
  | .student => "student"
  | .source_code => "source_code"
  | .voice_transcript => "voice_transcript"
  | .biosignal_derived => "biosignal_derived"
  | .sensitive_raw => "sensitive_raw"
  | .secret => "secret"

def CapabilityDirection.value : CapabilityDirection → String
  | .publish => "publish"
  | .consume => "consume"
  | .bidirectional => "bidirectional"

def FabricLatencyClass.value : FabricLatencyClass → String
  | .safety_critical => "safety_critical"
  | .interactive => "interactive"
  | .ui_feedback => "ui_feedback"
  | .conversational => "conversational"
  | .bulk => "bulk"

def FabricNodeConnectionState.value : FabricNodeConnectionState → String
  | .registering => "registering"
  | .connected => "connected"
  | .degraded => "degraded"
  | .unavailable => "unavailable"
  | .disconnected => "disconnected"
  | .unsafe_ => "unsafe"

def FabricNodeHealthState.value : FabricNodeHealthState → String
  | .healthy => "healthy"
  | .degraded => "degraded"
  | .unhealthy => "unhealthy"
  | .unknown => "unknown"

def FabricCommandPriority.value : FabricCommandPriority → String
  | .emergency_stop => "emergency_stop"
  | .safety_engine => "safety_engine"
  | .instructor_override => "instructor_override"
  | .lesson_automation => "lesson_automation"
  | .student_interaction => "student_interaction"
  | .autonomous_agent => "autonomous_agent"

def FabricCommandLifecycleStage.value : FabricCommandLifecycleStage → String
  | .proposed => "PROPOSED"
  | .validated => "VALIDATED"
  | .authorized => "AUTHORIZED"
  | .dispatched => "DISPATCHED"
  | .accepted => "ACCEPTED"
  | .running => "RUNNING"
  | .succeeded => "SUCCEEDED"
  | .failed => "FAILED"
  | .cancelled => "CANCELLED"
  | .timed_out => "TIMED_OUT"
  | .rejected => "REJECTED"

def RoleIoType.value : RoleIoType → String
  | .input => "input"
  | .output => "output"
  | .bidirectional => "bidirectional"

def FlowGuard.value : FlowGuard → String
  | .session_is_active => "session_is_active"
  | .target_is_connected => "target_is_connected"
  | .role_is_assigned => "role_is_assigned"
  | .instructor_override_is_clear => "instructor_override_is_clear"
  | .target_is_armed => "target_is_armed"
  | .approval_is_present => "approval_is_present"

def FabricSessionState.value : FabricSessionState → String
  | .draft => "draft"
  | .ready => "ready"
  | .active => "active"
  | .paused => "paused"
  | .stopped => "stopped"
  | .emergency_stopped => "emergency_stopped"
  | .failed => "failed"

structure CapabilityDescriptor where
  name : CapabilityIdentifier
  version : String
  direction : CapabilityDirection
  schemaRef : Option String := none
  units : Option String := none
  maximumRateHz : Option JsonValue := none
  latencyClass : FabricLatencyClass
  safetyClassification : FabricSafetyClassification
  dataClassification : FabricDataClassification
  constraints : JsonObject

/-- `otherFields` are the schema's remaining fields, which only the encoded record carries. -/
structure PluginManifest where
  pluginId : Identifier
  pluginVersion : String
  publishedCapabilities : List CapabilityDescriptor
  consumedCapabilities : List CapabilityDescriptor
  requiredPermissions : List Identifier
  dataClassifications : List FabricDataClassification
  otherFields : JsonObject

structure IntegrationNode where
  nodeId : Identifier
  pluginId : Identifier
  pluginVersion : String
  runtimeVersion : String
  hostId : Identifier
  siteId : Identifier
  roomId : Identifier
  displayName : String
  connectionState : FabricNodeConnectionState
  healthState : FabricNodeHealthState
  physical : Bool
  simulated : Bool
  publishedCapabilities : List CapabilityDescriptor
  consumedCapabilities : List CapabilityDescriptor
  configurationSchema : JsonObject
  safetyClassification : FabricSafetyClassification
  dataClassifications : List FabricDataClassification
  simulatorAvailable : Bool
  requiredPermissions : Option (List Identifier)
  lastSeenAt : Instant
  metadata : JsonObject

structure HealthReport where
  nodeId : Identifier
  reportedAt : Instant
  connectionState : FabricNodeConnectionState
  healthState : FabricNodeHealthState
  message : Option String
  batteryPercent : Option JsonValue
  metrics : JsonObject

structure RoleBinding where
  role : Identifier
  nodeId : Identifier
  requiredCapability : CapabilityIdentifier
  assignedAt : Instant
  assignedBy : Identifier
  deriving DecidableEq

structure InteractionSession where
  sessionId : Identifier
  coursePackId : Identifier
  coursePackVersion : String
  siteId : Identifier
  roomId : Identifier
  mode : FabricSessionMode
  state : FabricSessionState
  armed : Bool
  armedAt : Option Instant
  armedBy : Option Identifier
  disarmReason : Option String
  participantIds : List Identifier
  roleBindings : List RoleBinding
  safetyProfile : Identifier
  createdAt : Instant
  updatedAt : Instant
  startedAt : Option Instant
  endedAt : Option Instant
  createdBy : Identifier
  deriving DecidableEq

structure CreateInteractionSessionRequest where
  coursePackId : Identifier
  coursePackVersion : String
  siteId : Identifier
  roomId : Identifier
  mode : FabricSessionMode
  participantIds : Option (List Identifier)

structure CourseRoleRequirement where
  role : Identifier
  oneOfCapabilities : List CapabilityIdentifier
  allOfCapabilities : Option (List CapabilityIdentifier)
  ioType : Option RoleIoType
  optional : Bool

structure FlowTrigger where
  event : CapabilityIdentifier
  minimumConfidence : Option PyFloat
  debounceMs : Option ℕ
  payloadEquals : Option JsonObject

structure FlowParameterBinding where
  payloadField : Identifier
  parameter : Identifier

structure FlowAction where
  action : CapabilityIdentifier
  fixedParameters : JsonObject
  parameterBindings : List FlowParameterBinding

inductive FlowTarget where
  | role (role : Identifier)
  | group (roles : List Identifier) (requiredCapability : Option CapabilityIdentifier)
  | payload (roleFromPayload : Identifier) (allowedRoles : List Identifier)
      (requiredCapability : Option CapabilityIdentifier)

structure FlowRecipe where
  flowId : Identifier
  version : ℕ
  trigger : FlowTrigger
  command : FlowAction
  target : FlowTarget
  guards : List FlowGuard
  safetyProfile : Identifier
  outputRoles : Option (List Identifier)
  parallelGroup : Option Identifier
  enabled : Bool

/-- `otherFields` are the schema's remaining fields, which only the encoded record carries. -/
structure CoursePack where
  coursePackId : Identifier
  version : String
  roles : List CourseRoleRequirement
  flows : List FlowRecipe
  safetyProfile : Identifier
  otherFields : JsonObject

structure FabricEventEnvelope where
  messageId : Uuid
  topic : CapabilityIdentifier
  sourceNodeId : Identifier
  sourceCapability : CapabilityIdentifier
  siteId : Identifier
  roomId : Identifier
  sessionId : Identifier
  participantId : Option Identifier
  timestamp : Instant
  monotonicTimestamp : ℕ
  sequence : ℕ
  correlationId : Option String
  causationId : Option String
  confidence : Option PyFloat
  ttlMs : ℕ
  dataClassification : FabricDataClassification
  payload : JsonObject

structure FabricCommandRequest where
  messageId : Uuid
  action : CapabilityIdentifier
  targetRole : Identifier
  sessionId : Identifier
  parameters : JsonObject
  priority : FabricCommandPriority
  idempotencyKey : String
  requestedAt : Instant
  ttlMs : ℤ
  safetyProfile : Identifier
  correlationId : String
  causationId : Option String
  sourceNodeId : Option Identifier

structure FabricResolvedCommand where
  commandId : Uuid
  requestMessageId : Uuid
  sessionId : Identifier
  targetNodeId : Identifier
  action : CapabilityIdentifier
  parameters : JsonObject
  priority : FabricCommandPriority
  idempotencyKey : String
  requestedAt : Instant
  expiresAt : Instant
  safetyProfile : Identifier
  correlationId : String
  causationId : Option String
  sourceNodeId : Option Identifier

structure FabricCommandLifecycleEvent where
  messageId : Uuid
  commandId : Uuid
  requestMessageId : Uuid
  sessionId : Identifier
  targetNodeId : Identifier
  stage : FabricCommandLifecycleStage
  occurredAt : Instant
  correlationId : String
  code : Option String
  message : Option String
  details : JsonObject

/-- `1 ≤ len(value) ≤ maximum`, the schema's bound on free text. -/
def textWithin (maximum : ℕ) (value : String) : Bool :=
  decide (1 ≤ value.length ∧ value.length ≤ maximum)

def optionalTextWithin (maximum : ℕ) : Option String → Bool
  | none => true
  | some value => textWithin maximum value

/-- What `FabricEventEnvelope.model_validate` checks beyond the types of its fields. -/
def FabricEventEnvelope.validates (event : FabricEventEnvelope) : Bool :=
  optionalTextWithin 128 event.correlationId && optionalTextWithin 128 event.causationId &&
    (match event.confidence with
      | none => true
      | some confidence => (PyFloat.finite 0).le confidence && confidence.le (.finite 1)) &&
    decide (1 ≤ event.ttlMs ∧ event.ttlMs ≤ 86400000)

/-- What `FabricCommandRequest.model_validate` checks beyond the types of its fields. -/
def FabricCommandRequest.validates (request : FabricCommandRequest) : Bool :=
  textWithin 256 request.idempotencyKey && decide (1 ≤ request.ttlMs ∧ request.ttlMs ≤ 60000) &&
    textWithin 128 request.correlationId && optionalTextWithin 128 request.causationId

/-- What `FabricResolvedCommand.model_validate` checks beyond the types of its fields. -/
def FabricResolvedCommand.validates (command : FabricResolvedCommand) : Bool :=
  textWithin 256 command.idempotencyKey && textWithin 128 command.correlationId &&
    optionalTextWithin 128 command.causationId

/-- What `FabricCommandLifecycleEvent.model_validate` checks beyond the types of its fields. -/
def FabricCommandLifecycleEvent.validates (event : FabricCommandLifecycleEvent) : Bool :=
  textWithin 128 event.correlationId &&
    (match event.code with
      | none => true
      | some code => isIdentifier code) &&
    optionalTextWithin 500 event.message

end CitPhysicalXR.Fabric
