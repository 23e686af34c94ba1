import CitPhysicalXR.Fabric.Protocol
import CitPhysicalXR.Foundation.Effect
import CitPhysicalXR.Foundation.UniqueTable

/-! The identities of the fabric: their table, authentication, issuance, revocation and the
bootstrap identities that every start installs. -/
namespace CitPhysicalXR.Fabric
open Foundation

def fabricPermissions : List String :=
  ["fabric.adapters.connect", "fabric.audit.read", "fabric.auth.issue", "fabric.auth.revoke",
    "fabric.commands.read", "fabric.commands.submit", "fabric.console.open_android",
    "fabric.course.manage", "fabric.course.read", "fabric.discovery.connect",
    "fabric.events.publish", "fabric.events.read", "fabric.installation.read",
    "fabric.lan_access.manage", "fabric.media.manage", "fabric.media.publish",
    "fabric.media.read", "fabric.nodes.read", "fabric.nodes.write", "fabric.roles.assign",
    "fabric.sessions.manage", "fabric.sessions.read", "fabric.stop_all",
    "fabric.vision.analyze"]

structure FabricIdentityRecord where
  identityId : String
  actorType : String
  roles : List String
  permissions : List String
  siteId : Option String
  roomId : Option String
  sessionId : Option String
  tokenHash : String
  createdAt : Instant
  expiresAt : Instant
  revokedAt : Option Instant
  deriving DecidableEq

structure FabricBootstrapIdentity where
  identityId : String
  token : String
  actorType : String
  roles : List String
  permissions : List String
  siteId : Option String := none
  roomId : Option String := none
  sessionId : Option String := none
  ttl : Duration := hours 720

structure FabricPrincipal where
  identityId : String
  actorType : String
  roles : List String
  permissions : List String
  siteId : Option String
  roomId : Option String
  sessionId : Option String
  expiresAt : Instant

/-- A scope that restricts to another value than the one that is asked for. -/
def scopeRefuses (scope asked : Option String) : Bool :=
  scope.isSome && asked.isSome && decide (scope ≠ asked)

def FabricPrincipal.permits (principal : FabricPrincipal) (permission : String)
    (siteId roomId sessionId : Option String) : Bool :=
  principal.permissions.contains permission && !scopeRefuses principal.siteId siteId &&
    !scopeRefuses principal.roomId roomId && !scopeRefuses principal.sessionId sessionId

def FabricIdentityRecord.principal (record : FabricIdentityRecord) : FabricPrincipal where
  identityId := record.identityId
  actorType := record.actorType
  roles := record.roles
  permissions := record.permissions
  siteId := record.siteId
  roomId := record.roomId
  sessionId := record.sessionId
  expiresAt := record.expiresAt

/-- The columns that a record writes over an existing row: all but the creation. -/
def FabricIdentityRecord.over (record row : FabricIdentityRecord) : FabricIdentityRecord :=
  { record with createdAt := row.createdAt }

inductive FabricAuthError where
  | authentication (message : String)
  | authorization (message : String)
  | value (message : String)
  /-- A unique column of the table repeats. -/
  | integrity
  /-- A response of the API with status 422. -/
  | invalidIdentity (message : String)
  deriving DecidableEq

/-- The table of the identities: the identity and the hash of the token are each unique. -/
abbrev IdentityTable :=
  UniqueTable [FabricIdentityRecord.identityId, FabricIdentityRecord.tokenHash]

namespace IdentityTable
variable (t : IdentityTable)

/-- `upsert_fabric_identity`. -/
def upsertIdentity (record : FabricIdentityRecord) : Except FabricAuthError IdentityTable := do
  raiseIf (record.expiresAt ≤ record.createdAt) (.value "Identity expiry must follow creation")
  match UniqueTable.upsert? t FabricIdentityRecord.identityId record record.over with
  | some upserted => .ok upserted
  | none => .error .integrity

def findByHash (tokenHash : String) : Option FabricIdentityRecord :=
  UniqueTable.find? t fun row => row.tokenHash = tokenHash

/-- `UPDATE … SET revoked_at WHERE identity_id = ? AND revoked_at IS NULL`. -/
def revokeIdentity (identityId : String) (at_ : Instant) : IdentityTable :=
  UniqueTable.update t (fun row => row.identityId = identityId ∧ row.revokedAt = none)
    (fun row => { row with revokedAt := some at_ }) (by simp)

end IdentityTable

namespace FabricAuthService

/-- `hash_token`; the digest is SHA-256 in the domain of the tokens. -/
def hashToken (digest : String → String) (token : String) : Except FabricAuthError String := do
  raiseIf (¬ (32 ≤ token.length ∧ token.length ≤ 512))
    (.authentication "Fabric credential length is invalid")
  raiseIf (token.toList.any PyString.isSpace)
    (.authentication "Fabric credential format is invalid")
  .ok (digest token)

def validateIdentityValues (roles permissions : List String) : Except FabricAuthError Unit := do
  raiseIf (roles = [] ∨ ¬ roles.Nodup)
    (.value "Fabric identity roles must be non-empty and unique")
  raiseIf (permissions = [] ∨ ¬ permissions.Nodup)
    (.value "Fabric identity permissions must be non-empty and unique")
  let unknown := permissions.filter fun permission => !fabricPermissions.contains permission
  raiseIf (unknown ≠ [])
    (.value ("Unknown Fabric permissions: " ++
      PyString.joinComma (unknown.insertionSort (· ≤ ·))))

variable (digest : String → String) (t : IdentityTable)

def authenticate (token : String) (at_ : Instant) : Except FabricAuthError FabricPrincipal := do
  let tokenHash ← hashToken digest token
  match IdentityTable.findByHash t tokenHash with
  | none => .error (.authentication "Fabric credential is invalid")
  | some record =>
    raiseIf (record.revokedAt ≠ none) (.authentication "Fabric credential is revoked")
    raiseIf (record.expiresAt ≤ at_) (.authentication "Fabric credential is expired")
    .ok record.principal

def require (principal : FabricPrincipal) (permission : String) :
    Except FabricAuthError Unit := do
  raiseIf (permission ∉ fabricPermissions)
    (.value ("Unknown Fabric permission " ++ PyString.repr permission))
  raiseIf (principal.permits permission none none none = false)
    (.authorization (s!"Identity {PyString.repr principal.identityId} lacks " ++
      s!"{PyString.repr permission} for this scope"))

structure IssueArguments where
  identityId : String
  actorType : String
  roles : List String
  permissions : List String
  siteId : Option String
  roomId : Option String
  sessionId : Option String
  ttl : Duration

def IssueArguments.record (args : IssueArguments) (tokenHash : String) (at_ : Instant) :
    FabricIdentityRecord where
  identityId := args.identityId
  actorType := args.actorType
  roles := args.roles
  permissions := args.permissions
  siteId := args.siteId
  roomId := args.roomId
  sessionId := args.sessionId
  tokenHash := tokenHash
  createdAt := at_
  expiresAt := at_ + args.ttl
  revokedAt := none

/-- `issue`, with the token that is drawn. -/
def issue (args : IssueArguments) (token : String) (at_ : Instant) :
    Except FabricAuthError (IdentityTable × FabricIdentityRecord) := do
  raiseIf (args.ttl < minutes 1 ∨ hours 2160 < args.ttl)
    (.value "Fabric identity TTL must be between one minute and 90 days")
  validateIdentityValues args.roles args.permissions
  let tokenHash ← hashToken digest token
  let record := args.record tokenHash at_
  let upserted ← IdentityTable.upsertIdentity t record
  .ok (upserted, record)

def installBootstrapIdentity (identity : FabricBootstrapIdentity) (at_ : Instant) :
    Except FabricAuthError IdentityTable := do
  validateIdentityValues identity.roles identity.permissions
  let tokenHash ← hashToken digest identity.token
  IdentityTable.upsertIdentity t {
    identityId := identity.identityId
    actorType := identity.actorType
    roles := identity.roles
    permissions := identity.permissions
    siteId := identity.siteId
    roomId := identity.roomId
    sessionId := identity.sessionId
    tokenHash := tokenHash
    createdAt := at_
    expiresAt := at_ + identity.ttl
    revokedAt := none }

/-- `install_bootstrap_identities`: what was installed before an error stays. -/
def installBootstrapIdentities (at_ : Instant) :
    List FabricBootstrapIdentity → IdentityTable → IdentityTable × Except FabricAuthError Unit
  | [], t => (t, .ok ())
  | identity :: identities, t =>
    match installBootstrapIdentity digest t identity at_ with
    | .error e => (t, .error e)
    | .ok installed => installBootstrapIdentities at_ identities installed

section Specs
variable {digest t}

variable {token : String} {t' : IdentityTable} {at_ : Instant}

theorem hashToken_ok {tokenHash : String} (h : hashToken digest token = .ok tokenHash) :
    tokenHash = digest token := by
  obtain ⟨_, h⟩ := seq_eq_ok.mp h
  obtain ⟨_, h⟩ := seq_eq_ok.mp h
  cases h
  rfl

theorem upsertIdentity_ok {record : FabricIdentityRecord}
    (h : t.upsertIdentity record = .ok t') :
    UniqueTable.upsert? t FabricIdentityRecord.identityId record
      record.over = some t' := by
  obtain ⟨_, h⟩ := seq_eq_ok.mp h
  split at h
  · rename_i upserted hupserted
    cases h
    exact hupserted
  · cases h

theorem issue_ok {args : IssueArguments}
    {record : FabricIdentityRecord} (h : issue digest t args token at_ = .ok (t', record)) :
    record = args.record (digest token) at_ ∧
      UniqueTable.upsert? t FabricIdentityRecord.identityId record
        record.over = some t' := by
  obtain ⟨_, h⟩ := seq_eq_ok.mp h
  obtain ⟨_, h⟩ := seq_eq_ok.mp h
  obtain ⟨tokenHash, hhash, h⟩ := bind_eq_ok.mp h
  obtain ⟨upserted, hupsert, h⟩ := bind_eq_ok.mp h
  cases h
  obtain rfl := hashToken_ok hhash
  exact ⟨rfl, upsertIdentity_ok hupsert⟩

theorem installBootstrapIdentity_ok {identity : FabricBootstrapIdentity}
    (h : installBootstrapIdentity digest t identity at_ = .ok t') :
    ∃ record : FabricIdentityRecord, record.tokenHash = digest identity.token ∧
      UniqueTable.upsert? t FabricIdentityRecord.identityId record record.over = some t' := by
  obtain ⟨_, h⟩ := seq_eq_ok.mp h
  obtain ⟨tokenHash, hhash, h⟩ := bind_eq_ok.mp h
  obtain rfl := hashToken_ok hhash
  exact ⟨_, rfl, upsertIdentity_ok h⟩

theorem authenticate_ok {principal : FabricPrincipal}
    (h : authenticate digest t token at_ = .ok principal) :
    ∃ record ∈ t, record.tokenHash = digest token ∧ record.revokedAt = none := by
  obtain ⟨tokenHash, hhash, h⟩ := bind_eq_ok.mp h
  obtain rfl := hashToken_ok hhash
  split at h
  · cases h
  · rename_i record hfound
    obtain ⟨hrevoked, _⟩ := seq_eq_ok.mp h
    obtain ⟨hmem, hsame⟩ := UniqueTable.find?_some t hfound
    exact ⟨record, hmem, hsame, not_not.mp (raiseIf_eq_ok.mp hrevoked)⟩

end Specs

end FabricAuthService

inductive FabricActorType where
  | administrator
  | instructor
  | teachingAssistant
  | student
  | observer
  | automatedAgent
  | adapter
  deriving DecidableEq

def FabricActorType.value : FabricActorType → String
  | administrator => "administrator"
  | instructor => "instructor"
  | teachingAssistant => "teaching_assistant"
  | student => "student"
  | observer => "observer"
  | automatedAgent => "automated_agent"
  | adapter => "adapter"

structure IssueIdentityRequest where
  identityId : Identifier
  actorType : FabricActorType
  roles : List String
  permissions : List String
  siteId : Option Identifier := none
  roomId : Option Identifier := none
  sessionId : Option Identifier := none
  ttlSeconds : ℤ := 86400
  role_count : 1 ≤ roles.length ∧ roles.length ≤ 16
  permission_count : 1 ≤ permissions.length ∧ permissions.length ≤ 32
  ttl_bounds : 60 ≤ ttlSeconds ∧ ttlSeconds ≤ 7776000 := by decide

def IssueIdentityRequest.arguments (request : IssueIdentityRequest) :
    FabricAuthService.IssueArguments where
  identityId := request.identityId.text
  actorType := request.actorType.value
  roles := request.roles
  permissions := request.permissions
  siteId := request.siteId.map (·.text)
  roomId := request.roomId.map (·.text)
  sessionId := request.sessionId.map (·.text)
  ttl := seconds request.ttlSeconds

/-- `POST /api/v1/fabric/auth/identities`. -/
def issueIdentity (digest : String → String) (t : IdentityTable) (principal : FabricPrincipal)
    (request : IssueIdentityRequest) (token : String) (at_ : Instant) :
    Except FabricAuthError (IdentityTable × FabricIdentityRecord) := do
  FabricAuthService.require principal "fabric.auth.issue"
  raiseIf (¬ request.permissions.Nodup) (.invalidIdentity "Permissions must be unique")
  raiseIf (¬ request.permissions ⊆ principal.permissions)
    (.authorization "An issuer cannot grant permissions it does not hold")
  raiseIf (¬ request.roles.Nodup) (.invalidIdentity "Roles must be unique")
  FabricAuthService.issue digest t request.arguments token at_

end CitPhysicalXR.Fabric
