import CitPhysicalXR.Fabric.Identities

/-! The authority of an issued identity: the permissions are the issuer's, the scopes and the name
are whatever the request says. -/
namespace CitPhysicalXR.Fabric
open Foundation

/-- One scope is within another, which restricts nothing or to the same value. -/
def ScopeWithin (inner outer : Option String) : Prop := outer = none ∨ inner = outer

instance (inner outer : Option String) : Decidable (ScopeWithin inner outer) :=
  inferInstanceAs (Decidable (_ ∨ _))

/-- Another text than a given one. -/
private theorem exists_ne (a : String) : ∃ b : String, a ≠ b := by
  refine ⟨a ++ "x", ?_⟩
  intro h
  have hlength := congrArg String.length h
  rw [String.length_append, show "x".length = 1 by decide] at hlength
  omega

theorem scopeWithin_iff {inner outer : Option String} : ScopeWithin inner outer ↔
    ∀ asked, scopeRefuses inner asked = false → scopeRefuses outer asked = false := by
  constructor
  · rintro (rfl | rfl) asked h
    · rfl
    · exact h
  · intro h
    by_contra hwithin
    unfold ScopeWithin at hwithin
    push Not at hwithin
    obtain ⟨houter, hother⟩ := hwithin
    obtain ⟨a, rfl⟩ := Option.ne_none_iff_exists'.mp houter
    cases inner with
    | none =>
      obtain ⟨b, hb⟩ := exists_ne a
      simpa [scopeRefuses, hb] using h (some b) rfl
    | some b =>
      have hb : a ≠ b := fun hsame => hother (congrArg some hsame.symm)
      simpa [scopeRefuses, hb] using h (some b) (by simp [scopeRefuses])

structure AuthorityWithin (inner outer : FabricPrincipal) : Prop where
  permissions : inner.permissions ⊆ outer.permissions
  site : ScopeWithin inner.siteId outer.siteId
  room : ScopeWithin inner.roomId outer.roomId
  session : ScopeWithin inner.sessionId outer.sessionId

/-- Exactly then does an identity permit all that another one with any permission permits. -/
theorem authorityWithin_iff {inner outer : FabricPrincipal} :
    inner.permissions = [] ∨ AuthorityWithin inner outer ↔
      ∀ permission siteId roomId sessionId,
        inner.permits permission siteId roomId sessionId = true →
          outer.permits permission siteId roomId sessionId = true := by
  simp only [FabricPrincipal.permits, Bool.and_eq_true, Bool.not_eq_true', List.contains_iff_mem]
  constructor
  · rintro (hnone | ⟨hpermissions, hsite, hroom, hsession⟩) permission siteId roomId sessionId h
    · simp [hnone] at h
    obtain ⟨⟨⟨hheld, hsite'⟩, hroom'⟩, hsession'⟩ := h
    rw [scopeWithin_iff] at hsite hroom hsession
    exact ⟨⟨⟨hpermissions hheld, hsite _ hsite'⟩, hroom _ hroom'⟩, hsession _ hsession'⟩
  · intro h
    have hany (scope : Option String) : scopeRefuses scope none = false := by simp [scopeRefuses]
    refine or_iff_not_imp_left.mpr fun hsome => ?_
    obtain ⟨held, hheld⟩ := List.exists_mem_of_ne_nil _ hsome
    refine ⟨?_, scopeWithin_iff.mpr fun asked hasked => ?_,
      scopeWithin_iff.mpr fun asked hasked => ?_, scopeWithin_iff.mpr fun asked hasked => ?_⟩
    · intro permission hpermission
      exact (h permission none none none ⟨⟨⟨hpermission, hany _⟩, hany _⟩, hany _⟩).1.1.1
    · exact (h held asked none none ⟨⟨⟨hheld, hasked⟩, hany _⟩, hany _⟩).1.1.2
    · exact (h held none asked none ⟨⟨⟨hheld, hany _⟩, hasked⟩, hany _⟩).1.2
    · exact (h held none none asked ⟨⟨⟨hheld, hany _⟩, hany _⟩, hasked⟩).2

section Issuance
variable {digest : String → String} {t t' : IdentityTable} {principal : FabricPrincipal}
  {request : IssueIdentityRequest} {token : String} {at_ : Instant}
  {record : FabricIdentityRecord}

/-- What an accepted request has passed, and what it has written. -/
theorem issueIdentity_ok
    (h : issueIdentity digest t principal request token at_ = .ok (t', record)) :
    request.permissions ⊆ principal.permissions ∧
      record = request.arguments.record (digest token) at_ ∧
      UniqueTable.upsert? t FabricIdentityRecord.identityId record record.over = some t' := by
  unfold issueIdentity at h
  obtain ⟨_, h⟩ := seq_eq_ok.mp h
  obtain ⟨_, h⟩ := seq_eq_ok.mp h
  obtain ⟨hheld, h⟩ := seq_eq_ok.mp h
  obtain ⟨_, h⟩ := seq_eq_ok.mp h
  obtain ⟨hrecord, hupsert⟩ := FabricAuthService.issue_ok h
  exact ⟨not_not.mp (raiseIf_eq_ok.mp hheld), hrecord, hupsert⟩

/-- An issuance gives nothing that the issuer does not have, and adds a row to the table without
writing any other. -/
structure Contained (principal : FabricPrincipal) (record : FabricIdentityRecord)
    (t t' : IdentityTable) : Prop where
  within : AuthorityWithin record.principal principal
  added : t'.rows = t.rows ++ [record]

/-- An accepted request is contained exactly when each of its scopes is within the issuer's and
its identity does not exist. -/
theorem issuance_contained
    (h : issueIdentity digest t principal request token at_ = .ok (t', record)) :
    Contained principal record t t' ↔
      (ScopeWithin (request.siteId.map (·.text)) principal.siteId ∧
        ScopeWithin (request.roomId.map (·.text)) principal.roomId ∧
        ScopeWithin (request.sessionId.map (·.text)) principal.sessionId) ∧
      ∀ row ∈ t, row.identityId ≠ request.identityId.text := by
  obtain ⟨hheld, rfl, hupsert⟩ := issueIdentity_ok h
  constructor
  · intro hcontained
    refine ⟨⟨hcontained.within.site, hcontained.within.room, hcontained.within.session⟩, ?_⟩
    intro row hrow hsame
    have hmerged := UniqueTable.upsert?_merged hupsert ⟨row, hrow, hsame⟩
    have hlength := congrArg List.length (hmerged.symm.trans hcontained.added)
    rw [List.length_map, List.length_append, List.length_singleton] at hlength
    omega
  · rintro ⟨⟨hsite, hroom, hsession⟩, hfree⟩
    exact ⟨⟨hheld, hsite, hroom, hsession⟩, UniqueTable.upsert?_inserted hupsert hfree⟩

end Issuance

def bootstrapToken : String := "local-administrator-bootstrap-token"

def drawnToken : String := "Zm9yLW9uZS1sZXNzb24tb2YtdGhlLXNjaG9vbC0xMjM"

def knownDigest (token : String) : String :=
  if token = bootstrapToken then
    "a374bc875deeab01d9e0626484b195c238ca0a89f4d15e39fbc847cb353a897e"
  else if token = drawnToken then
    "a36e4c3603374da4fef400567f92e88e0d84b4740732caacc090b3061ea7b995"
  else token

def administratorRow : FabricIdentityRecord where
  identityId := "local-administrator"
  actorType := "administrator"
  roles := ["administrator"]
  permissions := fabricPermissions
  siteId := none
  roomId := none
  sessionId := none
  tokenHash := knownDigest bootstrapToken
  createdAt := 0
  expiresAt := hours 720
  revokedAt := none

def administratorTable : IdentityTable := ⟨[administratorRow], by decide⟩

def siteIssuer : FabricPrincipal where
  identityId := "school-desk"
  actorType := "administrator"
  roles := ["administrator"]
  permissions := ["fabric.auth.issue", "fabric.nodes.read"]
  siteId := some "school"
  roomId := none
  sessionId := none
  expiresAt := hours 720

def readerRequest (identityId : Identifier) (siteId : Option Identifier) :
    IssueIdentityRequest where
  identityId := identityId
  actorType := .observer
  roles := ["observer"]
  permissions := ["fabric.nodes.read"]
  siteId := siteId
  role_count := by decide
  permission_count := by decide

/-- A request for a new identity of the same site. -/
theorem issuance_contained_school : ∃ t' record,
    issueIdentity knownDigest administratorTable siteIssuer
      (readerRequest ⟨"reader", by decide⟩ (some ⟨"school", by decide⟩))
      drawnToken 0 = .ok (t', record) ∧ Contained siteIssuer record administratorTable t' := by
  have hissued : (issueIdentity knownDigest administratorTable siteIssuer
      (readerRequest ⟨"reader", by decide⟩ (some ⟨"school", by decide⟩))
      drawnToken 0).toOption.isSome = true := by
    decide
  cases hresult : issueIdentity knownDigest administratorTable siteIssuer
      (readerRequest ⟨"reader", by decide⟩ (some ⟨"school", by decide⟩))
      drawnToken 0 with
  | error e =>
    rw [hresult] at hissued
    cases hissued
  | ok issued =>
    obtain ⟨t', record⟩ := issued
    refine ⟨t', record, rfl, (issuance_contained hresult).mpr ?_⟩
    refine ⟨⟨.inr rfl, .inl rfl, .inl rfl⟩, ?_⟩
    intro row hrow
    obtain rfl := List.mem_singleton.mp hrow
    decide

/-- The issuer of one site takes over the administrator's identity, for every site. -/
theorem issuance_escalates : ∃ t' record,
    issueIdentity knownDigest administratorTable siteIssuer
      (readerRequest ⟨"local-administrator", by decide⟩ none) drawnToken 0 =
        .ok (t', record) ∧
      ¬ AuthorityWithin record.principal siteIssuer ∧ administratorRow ∉ t' := by
  have hissued : (issueIdentity knownDigest administratorTable siteIssuer
      (readerRequest ⟨"local-administrator", by decide⟩ none) drawnToken
        0).toOption.any (fun issued => decide (issued.2.siteId = none) &&
          decide (administratorRow ∉ issued.1.rows)) = true := by
    decide
  cases hresult : issueIdentity knownDigest administratorTable siteIssuer
      (readerRequest ⟨"local-administrator", by decide⟩ none) drawnToken 0 with
  | error e =>
    rw [hresult] at hissued
    cases hissued
  | ok issued =>
    obtain ⟨t', record⟩ := issued
    rw [hresult] at hissued
    simp only [Except.toOption, Option.any_some, Bool.and_eq_true, decide_eq_true_eq] at hissued
    refine ⟨t', record, rfl, ?_, hissued.2⟩
    intro hwithin
    rcases hwithin.site with hsite | hsite
    · cases hsite
    · have hnone : record.principal.siteId = none := hissued.1
      rw [hnone] at hsite
      cases hsite

end CitPhysicalXR.Fabric
