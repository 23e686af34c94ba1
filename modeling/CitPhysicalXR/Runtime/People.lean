import CitPhysicalXR.Foundation.Effect
import CitPhysicalXR.Foundation.KeyedTable
import CitPhysicalXR.Foundation.PyDatetime
import CitPhysicalXR.Foundation.PyJson

/-! Who is asking, and what that lets them do: the tokens of a classroom and its one question. -/
namespace CitPhysicalXR.Runtime
open Foundation

inductive Role where
  | student
  | instructor
  deriving DecidableEq

def Role.value : Role → String
  | student => "student"
  | instructor => "instructor"

/-- Every action that is not a student working on their own program. -/
inductive Action where
  | discoverDevices
  | disconnectDevice
  | reassignDevice
  | armDevice
  | disarmDevice
  | stopAll
  | revokeLease
  | clearQueue
  | setInputEnabled
  | setSafetyPolicy
  | setFailurePolicy
  | createPhysicalSession
  | issueInstructorCommand
  | readClassroom
  | exportAudit
  | manageRetention
  | replayToLive

namespace Action

def value : Action → String
  | discoverDevices => "devices.discover"
  | disconnectDevice => "devices.disconnect"
  | reassignDevice => "devices.reassign"
  | armDevice => "safety.arm"
  | disarmDevice => "safety.disarm"
  | stopAll => "safety.stop_all"
  | revokeLease => "safety.revoke_lease"
  | clearQueue => "safety.clear_queue"
  | setInputEnabled => "safety.set_input_enabled"
  | setSafetyPolicy => "safety.set_policy"
  | setFailurePolicy => "session.set_failure_policy"
  | createPhysicalSession => "session.create_physical"
  | issueInstructorCommand => "command.instructor_source"
  | readClassroom => "classroom.read"
  | exportAudit => "audit.export"
  | manageRetention => "retention.manage"
  | replayToLive => "replay.to_live"

def requiredRole (_ : Action) : Role := .instructor

end Action

structure HttpError where
  status : ℕ
  detail : String
  deriving DecidableEq

def HttpError.authentication (detail : String) : HttpError := ⟨401, detail⟩
def HttpError.authorization (detail : String) : HttpError := ⟨403, detail⟩
def HttpError.notFound (detail : String) : HttpError := ⟨404, detail⟩
def HttpError.conflict (detail : String) : HttpError := ⟨409, detail⟩

/-- An exception that no handler catches. -/
def HttpError.unhandled : HttpError := ⟨500, "Internal Server Error"⟩

structure Principal where
  actorId : String
  role : Role
  displayName : String
  issuedAt : Instant
  expiresAt : Instant
  deriving DecidableEq

def Principal.isInstructor (principal : Principal) : Bool := decide (principal.role = .instructor)

/-- Raise unless a principal may perform an action. -/
def authorize (principal : Principal) (action : Action) : Except HttpError Unit :=
  raiseIf (principal.role ≠ action.requiredRole) (.authorization
    (PyString.repr action.value ++ s!" is an instructor action. {principal.displayName} is " ++
      s!"signed in as a {principal.role.value}."))

def requireSessionOwner (principal : Principal) (sessionUserId : String) :
    Except HttpError Unit :=
  raiseIf (¬(principal.isInstructor = true ∨ principal.actorId = sessionUserId)) (.authorization
    (s!"This session belongs to {PyString.repr sessionUserId}. Ask an instructor to act on it."))

theorem authorize_student {principal : Principal} (hstudent : principal.role = .student)
    (action : Action) : ∃ error, authorize principal action = .error error := by
  refine ⟨_, if_pos ?_⟩
  rw [hstudent]
  exact nofun

theorem requireSessionOwner_ok {principal : Principal} {sessionUserId : String}
    (hstudent : principal.role = .student)
    (h : requireSessionOwner principal sessionUserId = .ok ()) :
    principal.actorId = sessionUserId := by
  have hallowed := not_not.mp (raiseIf_eq_ok.mp h)
  simpa [Principal.isInstructor, hstudent] using hallowed

/-- The sources that a browser may ask for. -/
inductive RequestedSource where
  | studentBlocks
  | studentPython
  | instructor
  deriving DecidableEq

def RequestedSource.value : RequestedSource → String
  | studentBlocks => "student_blocks"
  | studentPython => "student_python"
  | instructor => "instructor"

def Role.allowedSources : Role → List RequestedSource
  | student => [.studentBlocks, .studentPython]
  | instructor => [.studentBlocks, .studentPython, .instructor]

/-- Turn a claimed command source into one that a principal may use. -/
def resolveSource (principal : Principal) (requested : Option RequestedSource) :
    Except HttpError RequestedSource :=
  match requested with
  | none => .ok (if principal.isInstructor then .instructor else .studentBlocks)
  | some source =>
    if source ∈ principal.role.allowedSources then .ok source
    else .error (.authorization
      (s!"A {principal.role.value} may not issue commands with source " ++
        PyString.repr source.value ++ "."))

structure HeldToken where
  digest : String
  principal : Principal
  deriving DecidableEq

structure Authority where
  instructorPasscode : String
  joinPasscode : Option String := none
  ttl : Duration := hours 12
  principals : Table HeldToken.digest := .empty

structure JoinRequest where
  actorId : String
  role : Role := .student
  displayName : Option String := none
  passcode : Option String := none
  token : String

namespace Authority
variable (digest : String → String) (authority : Authority)

/-- `display_name or actor_id`. -/
def displayName (request : JoinRequest) : String :=
  match request.displayName with
  | some name => if name = "" then request.actorId else name
  | none => request.actorId

/-- `secrets.compare_digest` of two texts, which raises beyond ASCII. -/
def compareDigest (given expected : String) : Except HttpError Bool :=
  if (given ++ expected).toList.all fun c => c.toNat < 128 then .ok (given == expected)
  else .error .unhandled

def checkPasscode (request : JoinRequest) : Except HttpError Unit := do
  let given := request.passcode.getD ""
  match request.role, authority.joinPasscode with
  | .instructor, _ =>
    let same ← compareDigest given authority.instructorPasscode
    raiseIf (!same) (.authorization
      ("The instructor passcode does not match. It is printed once in the runtime log " ++
        "when the runtime starts."))
  | .student, some passcode =>
    let same ← compareDigest given passcode
    raiseIf (!same) (.authorization
      "This classroom needs a passcode to join. Ask whoever is running the lesson.")
  | .student, none => return ()

/-- Issue a token. The instructor role costs the passcode; a student joins. -/
def join (request : JoinRequest) (now : Instant) : Except HttpError (Principal × Authority) := do
  raiseIf (PyString.isBlank request.actorId) (.authentication "An actor id is required to join")
  authority.checkPasscode request
  let principal : Principal := {
    actorId := request.actorId
    role := request.role
    displayName := displayName request
    issuedAt := now
    expiresAt := now + authority.ttl }
  return (principal, { authority with
    principals := authority.principals.upsert ⟨digest request.token, principal⟩ })

/-- Resolve a token, or refuse; one that has expired is dropped as it is read. -/
def principal (token : Option String) (now : Instant) :
    Except HttpError Principal × Authority :=
  match token with
  | none | some "" => (.error (.authentication
      "This request needs a runtime token. Join the classroom first."), authority)
  | some token =>
    match authority.principals.get? (digest token) with
    | none => (.error (.authentication
        "Unknown or revoked token. Join the classroom again."), authority)
    | some held =>
      if now < held.principal.expiresAt then (.ok held.principal, authority)
      else
        (.error (.authentication "This token has expired. Join the classroom again."),
          { authority with
            principals := authority.principals.filterRows fun row =>
              decide (row.digest ≠ digest token) })

/-- A token that is resolved leaves the tokens as they are. -/
theorem principal_ok {digest : String → String} {authority : Authority} {principal : Principal}
    {token : Option String} {now : Instant}
    (h : (authority.principal digest token now).1 = .ok principal) :
    authority.principal digest token now = (.ok principal, authority) := by
  revert h
  unfold Authority.principal
  split
  · exact nofun
  · exact nofun
  · split
    · exact nofun
    · split
      · intro h
        rw [← Except.ok.inj h]
      · exact nofun

/-- Whether a token was held, and the tokens without it. -/
def revoke (token : String) : Bool × Authority :=
  ((authority.principals.get? (digest token)).isSome,
    { authority with
      principals := authority.principals.filterRows fun row =>
        decide (row.digest ≠ digest token) })

end Authority
end CitPhysicalXR.Runtime
