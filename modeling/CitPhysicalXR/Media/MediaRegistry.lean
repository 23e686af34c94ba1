import CitPhysicalXR.Foundation.Effect
import CitPhysicalXR.Foundation.Execution
import CitPhysicalXR.Foundation.KeyedTable
import CitPhysicalXR.Foundation.PyDatetime
import CitPhysicalXR.Foundation.PyText
import Mathlib.Data.String.Basic

/-! The media registry: the latest frame of every camera source, and the analyses of frames that
are under way. -/
namespace CitPhysicalXR.Media
open Foundation

structure FabricMediaError where
  code : String
  message : String
  statusCode : ℕ
  deriving DecidableEq

def mediaError (code message : String) (statusCode : ℕ) : FabricMediaError :=
  ⟨code, message, statusCode⟩

inductive MediaKind where
  | meta_glasses | robomaster | tello | usb_camera | simulator
  deriving DecidableEq

inductive CaptureMode where
  | video | snapshot
  deriving DecidableEq

structure MediaSourceRegistration where
  sourceId : String
  displayName : String
  kind : MediaKind
  captureMode : CaptureMode
  siteId : String
  roomId : String
  nodeId : Option String
  deriving DecidableEq

/-- A frame. `publication` is its number among all the frames that were published, which no call
looks at. -/
structure MediaFrame where
  publication : ℕ
  sourceId : String
  sequence : ℕ
  capturedAt : Instant
  receivedAt : Instant
  contentType : String
  width : ℕ
  height : ℕ
  data : List UInt8
  deriving DecidableEq

def MediaFrame.etag (frame : MediaFrame) : String :=
  "\"media-" ++ frame.sourceId ++ "-" ++ toString frame.sequence ++ "\""

structure ObjectDetection where
  label : String
  confidence : PyFloat
  x1 : PyFloat
  y1 : PyFloat
  x2 : PyFloat
  y2 : PyFloat

/-- An analysis. `frame` is the frame that it was computed from, which no call looks at. -/
structure VisionAnalysis where
  frame : MediaFrame
  sourceId : String
  frameSequence : ℕ
  analyzedAt : Instant
  model : String
  labels : List String
  detections : List ObjectDetection

structure MediaSourceState where
  registration : MediaSourceRegistration
  publisherIdentityId : String
  registeredAt : Instant
  latestFrame : Option MediaFrame
  latestAnalysis : Option VisionAnalysis
  sequence : ℕ

def MediaSourceState.sourceId (state : MediaSourceState) : String := state.registration.sourceId

abbrev Sources := Table MediaSourceState.sourceId

def maxMediaSources : ℕ := 32
def maxFrameBytes : ℕ := 1048576

/-- `_aware_utc`; a datetime without a UTC offset is `none`. -/
def awareUtc : Option Instant → Except FabricMediaError Instant
  | some instant => .ok instant
  | none => .error (mediaError "MEDIA_TIMESTAMP_INVALID"
      "Camera timestamps must include a UTC offset" 400)

/-- A first character and others, within bounds of the length. -/
def isIdentifier (isFirst isOther : Char → Bool) (least most : ℕ) (value : String) : Bool :=
  match value.toList with
  | [] => false
  | first :: rest => isFirst first && rest.all isOther && decide (least ≤ value.length) &&
      decide (value.length ≤ most)

def isMediaSourceId : String → Bool :=
  isIdentifier (fun c => c.isLower || c.isDigit)
    (fun c => c.isLower || c.isDigit || c ∈ ['.', '_', '-']) 3 64

def isMediaNodeId : String → Bool :=
  isIdentifier Char.isAlphanum (fun c => c.isAlphanum || c ∈ ['.', '_', ':', '-']) 1 128

def hasBoundedText (value : String) : Bool :=
  let length := (PyString.stripAll PyString.isSpace value).length
  decide (1 ≤ length) && decide (length ≤ 100)

def checkScope (label value : String) : Except FabricMediaError Unit :=
  raiseIf (¬hasBoundedText value ∨ value.toList.any PyString.isSpace = true)
    (mediaError "MEDIA_SCOPE_INVALID" ("The media " ++ label ++ " ID must be a bounded identifier")
      400)

def validateRegistration (registration : MediaSourceRegistration) :
    Except FabricMediaError Unit := do
  raiseIf (¬isMediaSourceId registration.sourceId) (mediaError "MEDIA_SOURCE_ID_INVALID"
    "Media source IDs must be 3-64 lowercase letters, numbers, dots, dashes, or underscores" 400)
  raiseIf (¬hasBoundedText registration.displayName) (mediaError "MEDIA_DISPLAY_NAME_INVALID"
    "Media source display names must be 1-100 characters" 400)
  raiseIf (registration.nodeId.any (!isMediaNodeId ·))
    (mediaError "MEDIA_NODE_ID_INVALID" "The media node ID is invalid" 400)
  checkScope "site" registration.siteId
  checkScope "room" registration.roomId

/-- `int.from_bytes(…, "big")`. -/
def bigEndian (bytes : List UInt8) : ℕ := bytes.foldl (fun value byte => value * 256 + byte.toNat) 0

def slice (data : List UInt8) (first last : ℕ) : List UInt8 := (data.take last).drop first

def startOfFrame : List UInt8 :=
  [0xC0, 0xC1, 0xC2, 0xC3, 0xC5, 0xC6, 0xC7, 0xC9, 0xCA, 0xCB, 0xCD, 0xCE, 0xCF]

/-- The marker behind fill bytes, and the offset behind it. -/
def skipFill (data : List UInt8) : ℕ → UInt8 → ℕ → UInt8 × ℕ
  | 0, marker, offset => (marker, offset)
  | fuel + 1, marker, offset =>
    if marker = 0xFF ∧ offset < data.length then
      skipFill data fuel (data.getD offset 0) (offset + 1)
    else (marker, offset)

/-- The segments of a JPEG up to the first that has the dimensions. Each round moves the offset, so
the length of the data is fuel enough. -/
def scanSegments (data : List UInt8) : ℕ → ℕ → Option (ℕ × ℕ)
  | 0, _ => none
  | fuel + 1, start =>
    if ¬start + 4 ≤ data.length then none
    else if data.getD start 0 ≠ 0xFF then scanSegments data fuel (start + 1)
    else
      let (marker, offset) := skipFill data data.length (data.getD (start + 1) 0) (start + 2)
      if marker = 0xD8 ∨ marker = 0xD9 then scanSegments data fuel offset
      else if marker = 0xDA then none
      else if offset + 2 > data.length then none
      else
        let segmentLength := bigEndian (slice data offset (offset + 2))
        if segmentLength < 2 ∨ offset + segmentLength > data.length then none
        else if marker ∈ startOfFrame ∧ 7 ≤ segmentLength then
          some (bigEndian (slice data (offset + 5) (offset + 7)),
            bigEndian (slice data (offset + 3) (offset + 5)))
        else scanSegments data fuel (offset + segmentLength)

def jpegDimensions (data : List UInt8) : Except FabricMediaError (ℕ × ℕ) := do
  raiseIf (¬[0xFF, 0xD8] <+: data)
    (mediaError "MEDIA_FRAME_INVALID" "The JPEG camera frame is invalid" 400)
  match scanSegments data data.length 2 with
  | some dimensions => return dimensions
  | none => throw (mediaError "MEDIA_FRAME_INVALID"
      "The JPEG camera frame does not contain dimensions" 400)

def pngDimensions (data : List UInt8) : Except FabricMediaError (ℕ × ℕ) := do
  raiseIf (¬[0x89, 0x50, 0x4E, 0x47, 0x0D, 0x0A, 0x1A, 0x0A] <+: data ∨ data.length < 24)
    (mediaError "MEDIA_FRAME_INVALID" "The PNG camera frame is invalid" 400)
  return (bigEndian (slice data 16 20), bigEndian (slice data 20 24))

def imageDimensions (data : List UInt8) (contentType : String) :
    Except FabricMediaError (ℕ × ℕ) := do
  raiseIf (¬(32 ≤ data.length ∧ data.length ≤ maxFrameBytes))
    (mediaError "MEDIA_FRAME_SIZE_INVALID"
      ("Camera frames must contain between 32 and " ++ toString maxFrameBytes ++ " bytes") 400)
  let (width, height) ←
    if contentType = "image/png" then pngDimensions data
    else if contentType = "image/jpeg" then jpegDimensions data
    else throw (mediaError "MEDIA_TYPE_UNSUPPORTED"
      "Camera publishers must send image/jpeg or image/png" 415)
  raiseIf (¬(1 ≤ width ∧ width ≤ 8192) ∨ ¬(1 ≤ height ∧ height ≤ 8192))
    (mediaError "MEDIA_DIMENSIONS_INVALID"
      "Camera frame dimensions must be between 1 and 8192 pixels" 400)
  return (width, height)

/-- `content_type.split(";", 1)[0].strip().lower()`. -/
def normalizedType (contentType : String) : String :=
  let media := String.ofList (contentType.toList.takeWhile (· ≠ ';'))
  String.ofList ((PyString.stripAll PyString.isSpace media).toList.map Char.toLower)

structure SourceWire where
  registration : MediaSourceRegistration
  isOnline : Bool
  registeredAt : Instant
  lastFrameAt : Option Instant
  frameSequence : ℕ
  width : Option ℕ
  height : Option ℕ
  contentType : Option String
  latestAnalysis : Option VisionAnalysis

def sourceWire (state : MediaSourceState) (now : Instant) : SourceWire :=
  let frame := state.latestFrame
  { registration := state.registration
    isOnline := frame.any fun frame => now - frame.receivedAt ≤ seconds 5
    registeredAt := state.registeredAt
    lastFrameAt := frame.map (·.receivedAt)
    frameSequence := frame.elim 0 (·.sequence)
    width := frame.map (·.width)
    height := frame.map (·.height)
    contentType := frame.map (·.contentType)
    latestAnalysis := state.latestAnalysis }

structure PendingAnalysis where
  task : ℕ
  sourceId : String
  frame : MediaFrame
  analyzedAt : Instant

/-- The registry with the analyses under way, and the frames that were published, which no call
looks at. -/
structure FabricMediaRegistry where
  sources : Sources
  analyses : List PendingAnalysis
  published : List MediaFrame

structure VisionDetector where
  name : String
  labels : List String

namespace FabricMediaRegistry

def initial : FabricMediaRegistry := ⟨.empty, [], []⟩

variable (registry : FabricMediaRegistry)

def register (registration : MediaSourceRegistration) (publisherIdentityId : String)
    (time : Option Instant) : Except FabricMediaError (FabricMediaRegistry × SourceWire) := do
  validateRegistration registration
  let timestamp ← awareUtc time
  let existing := registry.sources.get? registration.sourceId
  raiseIf (existing.any (·.publisherIdentityId ≠ publisherIdentityId))
    (mediaError "MEDIA_SOURCE_OWNED"
      "That media source belongs to a different scoped publisher" 409)
  raiseIf (existing.isNone ∧ maxMediaSources ≤ registry.sources.rows.length)
    (mediaError "MEDIA_SOURCE_LIMIT" "The local media source limit has been reached" 409)
  let state : MediaSourceState :=
    { registration, publisherIdentityId
      registeredAt := existing.elim timestamp (·.registeredAt)
      latestFrame := existing.bind (·.latestFrame)
      latestAnalysis := existing.bind (·.latestAnalysis)
      sequence := existing.elim 0 (·.sequence) }
  return ({ registry with sources := registry.sources.upsert state }, sourceWire state timestamp)

def remove (sourceId identityId : String) (canManage : Bool) :
    Except FabricMediaError (FabricMediaRegistry × Bool) :=
  match registry.sources.get? sourceId with
  | none => .ok (registry, false)
  | some state => do
    raiseIf (canManage = false ∧ state.publisherIdentityId ≠ identityId)
      (mediaError "MEDIA_SOURCE_OWNED"
        "That media source belongs to a different scoped publisher" 403)
    return ({ registry with sources := registry.sources.filterRows (·.sourceId ≠ sourceId) }, true)

def publishFrame (sourceId : String) (data : List UInt8) (contentType : String)
    (capturedAt : Option Instant) (publisherIdentityId : String) (time : Option Instant) :
    Except FabricMediaError (FabricMediaRegistry × MediaFrame) := do
  let timestamp ← awareUtc time
  let captureTime ← awareUtc capturedAt
  raiseIf (timestamp < captureTime) (mediaError "MEDIA_CAPTURE_TIME_INVALID"
    "A camera frame cannot be timestamped in the future" 400)
  raiseIf (seconds 30 < timestamp - captureTime) (mediaError "MEDIA_FRAME_EXPIRED"
    "The camera frame is more than 30 seconds old" 409)
  let (width, height) ← imageDimensions data (normalizedType contentType)
  match registry.sources.get? sourceId with
  | none => throw (mediaError "MEDIA_SOURCE_NOT_FOUND"
      "Register the camera source before publishing frames" 404)
  | some state =>
    raiseIf (state.publisherIdentityId ≠ publisherIdentityId) (mediaError "MEDIA_SOURCE_OWNED"
      "That media source belongs to a different scoped publisher" 403)
    let frame : MediaFrame :=
      { publication := registry.published.length
        sourceId
        sequence := state.sequence + 1
        capturedAt := captureTime
        receivedAt := timestamp
        contentType := normalizedType contentType
        width, height, data }
    let next : MediaSourceState :=
      { state with sequence := state.sequence + 1, latestFrame := some frame, latestAnalysis := none }
    return ({ registry with
      sources := registry.sources.upsert next
      published := registry.published ++ [frame] }, frame)

def listSources (siteId roomId : Option String) (time : Option Instant) :
    Except FabricMediaError (List SourceWire) := do
  let timestamp ← awareUtc time
  let sorted := registry.sources.rows.mergeSort fun a b =>
    decide (a.registration.displayName ≤ b.registration.displayName)
  return (sorted.filter fun state => siteId.all (state.registration.siteId = ·) &&
    roomId.all (state.registration.roomId = ·)).map (sourceWire · timestamp)

def source (sourceId : String) : Except FabricMediaError MediaSourceState :=
  match registry.sources.get? sourceId with
  | some state => .ok state
  | none => .error (mediaError "MEDIA_SOURCE_NOT_FOUND" "The camera source is not registered" 404)

def frame (sourceId : String) : Except FabricMediaError MediaFrame := do
  let state ← registry.source sourceId
  match state.latestFrame with
  | some frame => return frame
  | none => throw (mediaError "MEDIA_FRAME_NOT_AVAILABLE"
      "The camera has not published a frame yet" 404)

/-- `analyze` up to the detector. -/
def startAnalysis (task : ℕ) (sourceId : String) (time : Option Instant) :
    Except FabricMediaError FabricMediaRegistry := do
  let frame ← registry.frame sourceId
  let analyzedAt ← awareUtc time
  return { registry with analyses := registry.analyses ++ [⟨task, sourceId, frame, analyzedAt⟩] }

/-- `analyze` behind the detector. -/
def keepAnalysis (sourceId : String) (analysis : VisionAnalysis) : FabricMediaRegistry :=
  match registry.sources.get? sourceId with
  | none => registry
  | some state =>
    if state.latestFrame.any (·.sequence = analysis.frameSequence) then
      { registry with
        sources := registry.sources.upsert { state with latestAnalysis := some analysis } }
    else registry

end FabricMediaRegistry

def VisionDetector.analysis (detector : VisionDetector) (frame : MediaFrame)
    (analyzedAt : Instant) (detections : List ObjectDetection) : VisionAnalysis :=
  { frame
    sourceId := frame.sourceId
    frameSequence := frame.sequence
    analyzedAt
    model := detector.name
    labels := detector.labels
    detections }

inductive MediaEvent where
  | register (registration : MediaSourceRegistration) (publisherIdentityId : String)
      (time : Option Instant)
  | remove (sourceId identityId : String) (canManage : Bool)
  | publishFrame (sourceId : String) (data : List UInt8) (contentType : String)
      (capturedAt : Option Instant) (publisherIdentityId : String) (time : Option Instant)
  | serveFrame (sourceId : String)
  | listSources (siteId roomId : Option String) (time : Option Instant)
  | analyze (task : ℕ) (sourceId : String) (time : Option Instant)
  /-- The detector returns for the task, or raises. -/
  | detected (task : ℕ) (result : Except FabricMediaError (List ObjectDetection))

inductive MediaOutput where
  | failed (error : FabricMediaError)
  | registered (wire : SourceWire)
  | removed (isRemoved : Bool)
  | published (frame : MediaFrame)
  /-- The frame goes out under its entity tag. -/
  | served (frame : MediaFrame)
  | listed (wires : List SourceWire)
  | analyzed (analysis : VisionAnalysis)

namespace FabricMediaRegistry
variable (registry : FabricMediaRegistry)

/-- A call that changes the registry unless it raises. -/
def answer {α : Type} (result : Except FabricMediaError (FabricMediaRegistry × α))
    (output : α → MediaOutput) : FabricMediaRegistry × List MediaOutput :=
  match result with
  | .ok (next, value) => (next, [output value])
  | .error error => (registry, [.failed error])

def detected (detector : VisionDetector) (pending : PendingAnalysis)
    (result : Except FabricMediaError (List ObjectDetection)) :
    FabricMediaRegistry × List MediaOutput :=
  let waiting :=
    { registry with analyses := registry.analyses.filter (·.task ≠ pending.task) }
  match result with
  | .error error => (waiting, [.failed error])
  | .ok detections =>
    let analysis := detector.analysis pending.frame pending.analyzedAt detections
    (waiting.keepAnalysis pending.sourceId analysis, [.analyzed analysis])

def step (detector : VisionDetector) :
    MediaEvent → Option (FabricMediaRegistry × List MediaOutput)
  | .register registration publisherIdentityId time =>
    some (registry.answer (registry.register registration publisherIdentityId time) .registered)
  | .remove sourceId identityId canManage =>
    some (registry.answer (registry.remove sourceId identityId canManage) .removed)
  | .publishFrame sourceId data contentType capturedAt publisherIdentityId time =>
    some (registry.answer (registry.publishFrame sourceId data contentType capturedAt
      publisherIdentityId time) .published)
  | .serveFrame sourceId =>
    some (registry.answer ((registry.frame sourceId).map (registry, ·)) .served)
  | .listSources siteId roomId time =>
    some (registry.answer ((registry.listSources siteId roomId time).map (registry, ·)) .listed)
  | .analyze task sourceId time =>
    if registry.analyses.any (·.task = task) then none
    else
      match registry.startAnalysis task sourceId time with
      | .ok next => some (next, [])
      | .error error => some (registry, [.failed error])
  | .detected task result =>
    (registry.analyses.find? (·.task = task)).map fun pending =>
      registry.detected detector pending result

end FabricMediaRegistry

def mediaService (detector : VisionDetector) :
    Machine FabricMediaRegistry MediaEvent MediaOutput where
  Initial s := s = .initial
  Step s e s' out := s.step detector e = some (s', out)

end CitPhysicalXR.Media
