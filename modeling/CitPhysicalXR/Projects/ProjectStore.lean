import Mathlib
import CitPhysicalXR.Foundation.OsCalls
import CitPhysicalXR.Foundation.Execution
import CitPhysicalXR.Foundation.PyDatetime
import CitPhysicalXR.Foundation.PyJson

/-! The store of the projects on disk: its files, and a save that may be cut short at every call of
the operating system. -/
namespace CitPhysicalXR.Projects
open Foundation

inductive ProjectStoreError where
  | project (message recovery : String)
  /-- `OSError`. -/
  | os
  /-- An exception of another kind. -/
  | other
  deriving DecidableEq

inductive ProjectFile where
  | document | owner | backup
  deriving DecidableEq

inductive FileName where
  | project (file : ProjectFile) (id : String)
  /-- A temporary file in the same directory. -/
  | temporary (file : ProjectFile) (id random : String)
  deriving DecidableEq

/-- What a file holds; the order of the keys of an object does not count. -/
inductive FileText where
  | object (value : JsonObject)
  /-- JSON that is no object. -/
  | json (value : JsonValue)
  /-- Text that is no JSON, with the problem that the parser reports. -/
  | torn (problem : String)

/-- A document that was put in its place, and who saved it. -/
structure ProjectSave where
  projectId : String
  ownerId : String
  document : JsonObject

/-- The directory. `saves` are the saves of the projects that it has, which no call looks at. -/
structure ProjectDirectory where
  hasRoot : Bool
  files : FileName → Option FileText
  saves : List ProjectSave

namespace ProjectDirectory

def empty : ProjectDirectory := ⟨false, fun _ => none, []⟩

def put (s : ProjectDirectory) (name : FileName) (text : Option FileText) : ProjectDirectory :=
  { s with files := Function.update s.files name text }

/-- `os.replace`. -/
def rename (s : ProjectDirectory) (old new : FileName) : ProjectDirectory :=
  (s.put new (s.files old)).put old none

/-- The identity that saved the project first. -/
def firstSaver (s : ProjectDirectory) (id : String) : Option String :=
  (s.saves.find? (·.projectId = id)).map (·.ownerId)

end ProjectDirectory

/-- `_PROJECT_ID.match(value)`; `$` also matches before a line end at the end. -/
def isProjectId (value : String) : Bool :=
  let text := if value.toList.getLast? = some '\n' then value.toList.dropLast else value.toList
  decide (text.length = 36) && text.zipIdx.all fun (c, position) =>
    if position ∈ [8, 13, 18, 23] then c = '-'
    else c.isDigit || ('a' ≤ c && c ≤ 'f') || ('A' ≤ c && c ≤ 'F')

/-- `_path`. -/
def checkProjectId (projectId : String) : Except ProjectStoreError Unit :=
  raiseIf (¬isProjectId projectId) (.project (PyString.repr projectId ++ " is not a project id")
    "Project ids are UUIDs. Open the project from the list instead.")

structure SchemaError where
  absolutePath : List String
  message : String

/-- The errors of a document under the schema. -/
abbrev SchemaValidator := JsonObject → List SchemaError

def schemaDetails (errors : List SchemaError) : String :=
  String.intercalate "; " (((errors.mergeSort fun a b =>
    decide (a.absolutePath ≤ b.absolutePath)).take 5).map fun error =>
      let path := String.intercalate "." error.absolutePath
      (if path = "" then "$" else path) ++ ": " ++ error.message)

def validate (validator : SchemaValidator) (document : JsonObject) (source : String) :
    Except ProjectStoreError Unit :=
  raiseIf (validator document ≠ [])
    (.project (source ++ " is not a valid project: " ++ schemaDetails (validator document))
      "The Studio writes this file; an edit made by hand is the usual cause.")

namespace ProjectDirectory
variable (s : ProjectDirectory)

def readDocument (validator : SchemaValidator) (projectId : String) :
    Except ProjectStoreError JsonObject :=
  let name := projectId ++ ".json"
  let recovery := "A previous version may be recoverable from " ++ projectId ++ ".bak.json."
  match s.files (.project .document projectId) with
  | none => .error (.project ("No project stored at " ++ name)
      "Open a project from the list, or create a new one.")
  | some (.torn problem) =>
    .error (.project (name ++ " is not valid JSON: " ++ problem) recovery)
  | some (.json _) => .error (.project (name ++ " does not contain a project object") recovery)
  | some (.object value) => do
    validate validator value name
    return value

def get (validator : SchemaValidator) (projectId : String) :
    Except ProjectStoreError JsonObject := do
  checkProjectId projectId
  s.readDocument validator projectId

def readOwner (projectId : String) : Option String :=
  match s.files (.project .owner projectId) with
  | some (.object value) =>
    match value.get? "ownerId" with
    | some (.str owner) => if owner = "" then none else some owner
    | _ => none
  | _ => none

def ownerOf (projectId : String) : Except ProjectStoreError (Option String) := do
  checkProjectId projectId
  return s.readOwner projectId

end ProjectDirectory

/-- A call of the operating system in a save. -/
inductive StoreCall where
  | makeRoot | readDocument | clearBackup | writeBackup | readOwner
  | createTemporary (file : ProjectFile)
  | writeTemporary (file : ProjectFile)
  | replace (file : ProjectFile)
  | unlinkTemporary (file : ProjectFile)
  deriving DecidableEq

/-- What becomes of the calls, and the names of the temporary files. -/
structure StoreEnvironment where
  fate : StoreCall → CallFate
  random : ProjectFile → String

abbrev StoreM := Effect ProjectDirectory (Halt ProjectStoreError)

section
variable (environment : StoreEnvironment)

def osCall (which : StoreCall) (f : ProjectDirectory → ProjectDirectory) : StoreM Unit :=
  OsCall.call (environment.fate which) .os f

/-- `_atomic_write`; `placed` is the file in its place. -/
def atomicWrite (file : ProjectFile) (projectId : String) (text : FileText)
    (placed : ProjectDirectory → ProjectDirectory) : StoreM Unit := do
  let temporary := FileName.temporary file projectId (environment.random file)
  osCall environment (.createTemporary file) (·.put temporary (some (.torn "")))
  OsCall.onError
    (do
      osCall environment (.writeTemporary file) (·.put temporary (some text))
      osCall environment (.replace file) fun s =>
        placed (s.rename temporary (.project file projectId)))
    (osCall environment (.unlinkTemporary file) (·.put temporary none))

/-- The previous version is copied in place. -/
def writeBackup (projectId : String) : StoreM Unit := do
  let s ← get
  if (s.files (.project .document projectId)).isSome then
    osCall environment .readDocument id
    osCall environment .clearBackup (·.put (.project .backup projectId) (some (.torn "")))
    osCall environment .writeBackup
      (·.put (.project .backup projectId) (s.files (.project .document projectId)))
  else return ()

def ownerText (ownerId : String) : FileText :=
  .object ⟨[("ownerId", .str ownerId)], List.nodup_singleton _⟩

def claimOwner (projectId ownerId : String) : StoreM Unit := do
  osCall environment .readOwner id
  let s ← get
  if (s.readOwner projectId).isNone then
    atomicWrite environment .owner projectId (ownerText ownerId) id
  else return ()

end

def raise {α : Type} (result : Except ProjectStoreError α) : StoreM α := fun s =>
  match result with
  | .ok value => .ok value s
  | .error error => .error (.raised error) s

/-- The document that a save stores, with the id of its project. -/
def accept (validator : SchemaValidator) (document : JsonObject) (time : Instant) :
    Except ProjectStoreError (JsonObject × String) := do
  let stored := document.set "updatedAt" (.str (time.isoText "+00:00"))
  validate validator stored "this project"
  match stored.get? "projectId" with
  | some (.str projectId) =>
    checkProjectId projectId
    return (stored, projectId)
  | _ => throw .other

def save (validator : SchemaValidator) (environment : StoreEnvironment) (document : JsonObject)
    (ownerId : String) (time : Instant) : StoreM JsonObject := do
  let (stored, projectId) ← raise (accept validator document time)
  osCall environment .makeRoot fun s => { s with hasRoot := true }
  writeBackup environment projectId
  atomicWrite environment .document projectId (.object stored) fun s =>
    { s with saves := s.saves ++ [⟨projectId, ownerId, stored⟩] }
  claimOwner environment projectId ownerId
  return stored

namespace ProjectDirectory

/-- A delete that runs to its end. -/
def delete (s : ProjectDirectory) (projectId : String) : ProjectDirectory :=
  let gone := ((s.put (.project .document projectId) none).put (.project .backup projectId)
    none).put (.project .owner projectId) none
  { gone with saves := s.saves.filter (·.projectId ≠ projectId) }

end ProjectDirectory

inductive StoreEvent where
  | save (document : JsonObject) (ownerId : String) (time : Instant)
      (environment : StoreEnvironment)
  | delete (projectId : String)

inductive StoreOutput where
  | saved (stored : JsonObject)
  | failed (error : ProjectStoreError)
  | stopped
  | deleted (existed : Bool)

def saveOutput : EStateM.Result (Halt ProjectStoreError) ProjectDirectory JsonObject → StoreOutput
  | .ok stored _ => .saved stored
  | .error (.raised error) _ => .failed error
  | .error .stopped _ => .stopped

def storeStep (validator : SchemaValidator) (s : ProjectDirectory) :
    StoreEvent → ProjectDirectory × StoreOutput
  | .save document ownerId time environment =>
    let result := save validator environment document ownerId time s
    (Effect.final result, saveOutput result)
  | .delete projectId =>
    match checkProjectId projectId with
    | .error error => (s, .failed error)
    | .ok _ =>
      (s.delete projectId, .deleted (s.files (.project .document projectId)).isSome)

/-- The store under saves that may stop at every call, and deletes. A process that starts again has
nothing but the directory. -/
def projectStore (validator : SchemaValidator) :
    Machine ProjectDirectory StoreEvent StoreOutput where
  Initial s := s = .empty
  Step s e s' out := s' = (storeStep validator s e).1 ∧ out = [(storeStep validator s e).2]

end CitPhysicalXR.Projects
