import CitPhysicalXR.Fabric.Protocol

/-! The encoded form of the stored records and the persistence policy that
`_encode_json` enforces on it: depth, sizes and forbidden field names. -/
namespace CitPhysicalXR.Fabric
open Foundation

/-- The exceptions the fabric raises; `value` is `ValueError` with pydantic's validation
errors, `integrity` a violated constraint of the database, `stopIteration` an exhausted
`next`. -/
inductive FabricError where
  | sequenceConflict (message : String)
  | notFound (code message : String)
  | conflict (code message : String)
  | policy (code message : String)
  | value (message : String)
  | lookup (message : String)
  | integrity
  | stopIteration
  deriving DecidableEq

def maxJsonBytes : ℕ := 65536
def maxCoursePackJsonBytes : ℕ := 131072

def forbiddenPersistedTerms : List String :=
  ["accesstoken", "apikey", "authorization", "cookie", "credential", "password", "privatekey",
    "rawaudio", "rawbiosignal", "rawcamera", "rawframe", "rawimage", "rawvideo", "secret",
    "vendortoken"]

/-- The code point of a character in lower case; beyond ASCII only the two characters with
an ASCII lower case are mapped. -/
def lowerCode (n : ℕ) : ℕ :=
  if n = 0x212A then 107 else if n = 0x130 then 105 else if 65 ≤ n ∧ n ≤ 90 then n + 32 else n

/-- `"".join(c for c in key.lower() if c.isalnum())` as code points; beyond ASCII every
character counts as alphanumeric. -/
def canonicalKey (key : String) : List ℕ :=
  (key.toList.map fun c => lowerCode c.toNat).filter fun n =>
    (97 ≤ n && n ≤ 122) || (48 ≤ n && n ≤ 57) || 128 ≤ n

def namesForbiddenTerm (key : String) : Bool :=
  (canonicalKey key).tails.any fun rest =>
    forbiddenPersistedTerms.any fun term => (term.toList.map Char.toNat).isPrefixOf rest

mutual
/-- `_validate_json_value`: the message of its exception, if it raises. -/
def validateJsonValue (depth : ℕ) : JsonValue → Option String
  | .null => depthError depth
  | .bool _ => depthError depth
  | .int _ => depthError depth
  | .float x => depthError depth <|>
      if x.isFinite then none else some "Fabric JSON numbers must be finite"
  | .str s => depthError depth <|>
      if 32768 < PyString.encodedLength s then some "One Fabric string exceeds the 32 KiB limit"
      else none
  | .arr items => depthError depth <|>
      if 1024 < items.length then some "One Fabric array exceeds 1024 items"
      else validateJsonItems depth items
  | .obj fields => depthError depth <|>
      if 128 < fields.length then some "One Fabric object exceeds 128 fields"
      else validateJsonFields depth fields
where
  depthError (depth : ℕ) : Option String :=
    if 8 < depth then some "Fabric JSON exceeds the maximum nesting depth" else none

def validateJsonItems (depth : ℕ) : List JsonValue → Option String
  | [] => none
  | v :: vs => validateJsonValue (depth + 1) v <|> validateJsonItems depth vs

def validateJsonFields (depth : ℕ) : List (String × JsonValue) → Option String
  | [] => none
  | (k, v) :: fs =>
    if namesForbiddenTerm k then some "Raw media and credentials cannot enter Fabric persistence"
    else validateJsonValue (depth + 1) v <|> validateJsonFields depth fs
end

/-- `_encode_json`: refuses a value outside the policy or longer than `maxBytes`. -/
def encodeJson (value : JsonValue) (maxBytes : ℕ) : Except FabricError Unit :=
  match validateJsonValue 0 value with
  | some message => .error (.value message)
  | none =>
    if maxBytes < value.dumpsBytes then
      .error (.value s!"Fabric record exceeds the {maxBytes / 1024} KiB persistence limit")
    else .ok ()

theorem encodeJson_eq_ok {value : JsonValue} {maxBytes : ℕ} :
    encodeJson value maxBytes = .ok () ↔
      validateJsonValue 0 value = none ∧ value.dumpsBytes ≤ maxBytes := by
  unfold encodeJson
  split
  · simp_all
  · split <;> simp_all

theorem validateJsonFields_eq_none {depth : ℕ} {fields : List (String × JsonValue)} :
    validateJsonFields depth fields = none ↔ ∀ field ∈ fields,
      namesForbiddenTerm field.1 = false ∧ validateJsonValue (depth + 1) field.2 = none := by
  induction fields with
  | nil => simp [validateJsonFields]
  | cons field fields ih =>
    obtain ⟨key, value⟩ := field
    rw [validateJsonFields]
    split
    · simp_all
    · simp_all

theorem validateJsonFields_of_obj {depth : ℕ} {fields : List (String × JsonValue)}
    (h : validateJsonValue depth (.obj fields) = none) :
    validateJsonFields depth fields = none := by
  rw [validateJsonValue] at h
  obtain ⟨_, h⟩ := (Option.orElse_eq_none _ _).mp h
  split at h
  · cases h
  · exact h

private def text (name value : String) : String × JsonValue := (name, .str value)

private def optionalText (name : String) : Option String → List (String × JsonValue)
  | none => []
  | some value => [text name value]

private def instant (name : String) (t : Instant) : String × JsonValue :=
  text name (t.isoText "Z")

private def free (name : String) (value : JsonObject) : String × JsonValue :=
  (name, value.excludeNone.toJson)

private def texts (name : String) (values : List String) : String × JsonValue :=
  (name, .arr (values.map .str))

private def identifiers (name : String) (values : List Identifier) : String × JsonValue :=
  texts name (values.map (·.text))

def CapabilityDescriptor.toJson (capability : CapabilityDescriptor) : JsonValue :=
  .obj ([text "name" capability.name.text, text "version" capability.version,
    text "direction" capability.direction.value] ++
    optionalText "schemaRef" capability.schemaRef ++ optionalText "units" capability.units ++
    (match capability.maximumRateHz with
      | none => []
      | some rate => [("maximumRateHz", rate)]) ++
    [text "latencyClass" capability.latencyClass.value,
      text "safetyClassification" capability.safetyClassification.value,
      text "dataClassification" capability.dataClassification.value,
      free "constraints" capability.constraints])

private def capabilities (name : String) (values : List CapabilityDescriptor) :
    String × JsonValue := (name, .arr (values.map (·.toJson)))

def PluginManifest.toJson (manifest : PluginManifest) : JsonValue :=
  .obj ([text "schemaVersion" "1.0", text "pluginId" manifest.pluginId.text,
    text "pluginVersion" manifest.pluginVersion,
    capabilities "publishedCapabilities" manifest.publishedCapabilities,
    capabilities "consumedCapabilities" manifest.consumedCapabilities,
    identifiers "requiredPermissions" manifest.requiredPermissions,
    texts "dataClassifications" (manifest.dataClassifications.map (·.value))] ++
    manifest.otherFields.fields)

def IntegrationNode.toJson (node : IntegrationNode) : JsonValue :=
  .obj ([text "schemaVersion" "1.0", text "nodeId" node.nodeId.text,
    text "pluginId" node.pluginId.text, text "pluginVersion" node.pluginVersion,
    text "runtimeVersion" node.runtimeVersion, text "hostId" node.hostId.text,
    text "siteId" node.siteId.text, text "roomId" node.roomId.text,
    text "displayName" node.displayName, text "connectionState" node.connectionState.value,
    text "healthState" node.healthState.value, ("physical", .bool node.physical),
    ("simulated", .bool node.simulated),
    capabilities "publishedCapabilities" node.publishedCapabilities,
    capabilities "consumedCapabilities" node.consumedCapabilities,
    free "configurationSchema" node.configurationSchema,
    text "safetyClassification" node.safetyClassification.value,
    texts "dataClassifications" (node.dataClassifications.map (·.value)),
    ("simulatorAvailable", .bool node.simulatorAvailable)] ++
    (match node.requiredPermissions with
      | none => []
      | some permissions => [identifiers "requiredPermissions" permissions]) ++
    [instant "lastSeenAt" node.lastSeenAt, free "metadata" node.metadata])

private def CourseRoleRequirement.toJson (requirement : CourseRoleRequirement) : JsonValue :=
  .obj ([text "role" requirement.role.text,
    texts "oneOfCapabilities" (requirement.oneOfCapabilities.map (·.text))] ++
    (match requirement.allOfCapabilities with
      | none => []
      | some required => [texts "allOfCapabilities" (required.map (·.text))]) ++
    optionalText "ioType" (requirement.ioType.map (·.value)) ++
    [("optional", .bool requirement.optional)])

private def FlowTarget.toJson : FlowTarget → JsonValue
  | .role target => .obj [text "role" target.text]
  | .group roles capability => .obj ([identifiers "roles" roles] ++
      optionalText "requiredCapability" (capability.map (·.text)))
  | .payload field roles capability => .obj ([text "roleFromPayload" field.text,
      identifiers "allowedRoles" roles] ++
      optionalText "requiredCapability" (capability.map (·.text)))

private def FlowTrigger.toJson (trigger : FlowTrigger) : JsonValue :=
  .obj ([text "event" trigger.event.text] ++
    (match trigger.minimumConfidence with
      | none => []
      | some confidence => [("minimumConfidence", .float confidence)]) ++
    (match trigger.debounceMs with
      | none => []
      | some debounce => [("debounceMs", .int debounce)]) ++
    (match trigger.payloadEquals with
      | none => []
      | some expected => [free "payloadEquals" expected]))

private def FlowAction.toJson (command : FlowAction) : JsonValue :=
  .obj [text "action" command.action.text, free "fixedParameters" command.fixedParameters,
    ("parameterBindings", .arr (command.parameterBindings.map fun binding =>
      .obj [text "payloadField" binding.payloadField.text,
        text "parameter" binding.parameter.text]))]

private def FlowRecipe.toJson (flow : FlowRecipe) : JsonValue :=
  .obj ([text "flowId" flow.flowId.text, ("version", .int flow.version),
    ("trigger", flow.trigger.toJson), ("command", flow.command.toJson),
    ("target", flow.target.toJson), texts "guards" (flow.guards.map (·.value)),
    text "safetyProfile" flow.safetyProfile.text] ++
    (match flow.outputRoles with
      | none => []
      | some roles => [identifiers "outputRoles" roles]) ++
    optionalText "parallelGroup" (flow.parallelGroup.map (·.text)) ++
    [("enabled", .bool flow.enabled)])

def CoursePack.toJson (coursePack : CoursePack) : JsonValue :=
  .obj ([text "schemaVersion" "1.0", text "coursePackId" coursePack.coursePackId.text,
    text "version" coursePack.version, ("roles", .arr (coursePack.roles.map (·.toJson))),
    ("flows", .arr (coursePack.flows.map (·.toJson))),
    text "safetyProfile" coursePack.safetyProfile.text] ++ coursePack.otherFields.fields)

def FabricEventEnvelope.toJson (event : FabricEventEnvelope) : JsonValue :=
  .obj ([text "messageId" event.messageId.text, text "schemaVersion" "1.0",
    text "messageType" "event", text "topic" event.topic.text,
    text "sourceNodeId" event.sourceNodeId.text,
    text "sourceCapability" event.sourceCapability.text, text "siteId" event.siteId.text,
    text "roomId" event.roomId.text, text "sessionId" event.sessionId.text] ++
    optionalText "participantId" (event.participantId.map (·.text)) ++
    [instant "timestamp" event.timestamp,
      ("monotonicTimestamp", .int event.monotonicTimestamp), ("sequence", .int event.sequence)] ++
    optionalText "correlationId" event.correlationId ++
    optionalText "causationId" event.causationId ++
    (match event.confidence with
      | none => []
      | some confidence => [("confidence", .float confidence)]) ++
    [("ttlMs", .int event.ttlMs), text "dataClassification" event.dataClassification.value,
      free "payload" event.payload])

def FabricResolvedCommand.toJson (command : FabricResolvedCommand) : JsonValue :=
  .obj ([text "commandId" command.commandId.text, text "requestMessageId" command.requestMessageId.text,
    text "schemaVersion" "1.0", text "sessionId" command.sessionId.text,
    text "targetNodeId" command.targetNodeId.text, text "action" command.action.text,
    free "parameters" command.parameters, text "priority" command.priority.value,
    text "idempotencyKey" command.idempotencyKey, instant "requestedAt" command.requestedAt,
    instant "expiresAt" command.expiresAt, text "safetyProfile" command.safetyProfile.text,
    text "correlationId" command.correlationId] ++
    optionalText "causationId" command.causationId ++
    optionalText "sourceNodeId" (command.sourceNodeId.map (·.text)))

theorem FabricResolvedCommand.finite_parameter {command : FabricResolvedCommand} {maxBytes : ℕ}
    (h : encodeJson command.toJson maxBytes = .ok ()) {name : String} {x : PyFloat}
    (hx : (name, JsonValue.float x) ∈ command.parameters.fields) : x.isFinite = true := by
  obtain ⟨hvalid, _⟩ := encodeJson_eq_ok.mp h
  have hfields := validateJsonFields_eq_none.mp (validateJsonFields_of_obj hvalid)
    ("parameters", command.parameters.excludeNone.toJson) (by simp [free])
  have hparameter := validateJsonFields_eq_none.mp (validateJsonFields_of_obj hfields.2)
    (name, .float x) (List.mem_filter.mpr ⟨hx, rfl⟩)
  have hfloat := hparameter.2
  rw [validateJsonValue] at hfloat
  obtain ⟨_, hfinite⟩ := (Option.orElse_eq_none _ _).mp hfloat
  split at hfinite
  · assumption
  · cases hfinite

def FabricCommandLifecycleEvent.toJson (event : FabricCommandLifecycleEvent) : JsonValue :=
  .obj ([text "messageId" event.messageId.text, text "schemaVersion" "1.0",
    text "messageType" "command.lifecycle", text "commandId" event.commandId.text,
    text "requestMessageId" event.requestMessageId.text, text "sessionId" event.sessionId.text,
    text "targetNodeId" event.targetNodeId.text, text "stage" event.stage.value,
    instant "occurredAt" event.occurredAt, text "correlationId" event.correlationId] ++
    optionalText "code" event.code ++ optionalText "message" event.message ++
    [free "details" event.details])

/-- What the encoding leaves out of a message is not missed when it is encoded again. -/
theorem FabricCommandLifecycleEvent.toJson_excludeNone (event : FabricCommandLifecycleEvent) :
    toJson { event with details := event.details.excludeNone } = event.toJson := by
  simp only [toJson, free, JsonObject.excludeNone_excludeNone]

end CitPhysicalXR.Fabric
