import CitPhysicalXR.Fabric.Issuance
import CitPhysicalXR.Foundation.Execution

/-! Revocation over issuances, revocations and restarts: a start installs its bootstrap identities
over the rows that are there, the revoked ones too. -/
namespace CitPhysicalXR.Fabric
open Foundation

inductive IdentityReport where
  /-- An identity is revoked, which has a token of this hash. -/
  | revoked (tokenHash : String)
  deriving DecidableEq

/-- The table is durable: a start of the process finds it as it was left. -/
inductive IdentityEvent where
  | start (identities : List FabricBootstrapIdentity) (at_ : Instant)
  | issue (args : FabricAuthService.IssueArguments) (token : String) (at_ : Instant)
  | revoke (identityId : String) (at_ : Instant)

namespace IdentityTable
variable (digest : String → String) (t : IdentityTable)

/-- The hashes of the tokens of the identities that a revocation finds. -/
def revoked (identityId : String) : List IdentityReport :=
  (t.rows.filter fun row => decide (row.identityId = identityId ∧ row.revokedAt = none)).map
    fun row => .revoked row.tokenHash

def step : IdentityEvent → Option (IdentityTable × List IdentityReport)
  | .start identities at_ =>
    some ((FabricAuthService.installBootstrapIdentities digest at_ identities t).1, [])
  | .issue args token at_ =>
    match FabricAuthService.issue digest t args token at_ with
    | .ok (issued, _) => some (issued, [])
    | .error _ => some (t, [])
  | .revoke identityId at_ => some (t.revokeIdentity identityId at_, t.revoked identityId)

end IdentityTable

def identities (digest : String → String) : Machine IdentityTable IdentityEvent IdentityReport where
  Initial t := t = .empty
  Step t e t' out := IdentityTable.step digest t e = some (t', out)

/-- No token of a revoked identity is configured at a start, or drawn for an issued identity. -/
def Unrevived (digest : String → String) (s : IdentityTable × List IdentityReport) :
    IdentityEvent → Prop
  | .start identities _ =>
    ∀ identity ∈ identities, .revoked (digest identity.token) ∉ s.2
  | .issue _ token _ => .revoked (digest token) ∉ s.2
  | .revoke .. => True

instance (digest : String → String) (s : IdentityTable × List IdentityReport) :
    DecidablePred (Unrevived digest s)
  | .start identities _ => inferInstanceAs (Decidable (∀ identity ∈ identities, _))
  | .issue .. => inferInstanceAs (Decidable (_ ∉ _))
  | .revoke .. => inferInstanceAs (Decidable True)

def Buried (history : List IdentityReport) (t : IdentityTable) : Prop :=
  ∀ row ∈ t, .revoked row.tokenHash ∈ history → row.revokedAt ≠ none

namespace Buried
variable {history : List IdentityReport} {t t' : IdentityTable}

theorem upsert (h : Buried history t) {record : FabricIdentityRecord}
    (hnew : .revoked record.tokenHash ∉ history)
    (hupsert : UniqueTable.upsert? t FabricIdentityRecord.identityId record record.over =
      some t') : Buried history t' := by
  intro row hrow hrevoked
  rcases UniqueTable.mem_upsert? hupsert hrow with rfl | ⟨old, _, rfl⟩ | ⟨hold, _⟩
  · exact absurd hrevoked hnew
  · exact absurd hrevoked hnew
  · exact h row hold hrevoked

theorem install {digest : String → String} {at_ : Instant}
    {identities : List FabricBootstrapIdentity} (h : Buried history t)
    (hnew : ∀ identity ∈ identities, .revoked (digest identity.token) ∉ history) :
    Buried history (FabricAuthService.installBootstrapIdentities digest at_ identities t).1 := by
  induction identities generalizing t with
  | nil => exact h
  | cons identity identities ih =>
    unfold FabricAuthService.installBootstrapIdentities
    split
    · exact h
    · rename_i installed hinstall
      obtain ⟨record, hhash, hupsert⟩ := FabricAuthService.installBootstrapIdentity_ok hinstall
      have hfirst := hnew identity List.mem_cons_self
      rw [← hhash] at hfirst
      refine ih (h.upsert hfirst hupsert) ?_
      intro other hother
      exact hnew other (List.mem_cons_of_mem _ hother)

theorem revoke (h : Buried history t) (identityId : String) (at_ : Instant) :
    Buried (history ++ t.revoked identityId) (t.revokeIdentity identityId at_) := by
  intro row hrow hrevoked
  rcases (UniqueTable.mem_update t _).mp hrow with ⟨old, _, _, rfl⟩ | ⟨hold, hother⟩
  · simp
  · rcases List.mem_append.mp hrevoked with hrevoked | hrevoked
    · exact h row hold hrevoked
    · obtain ⟨found, hfound, hsame⟩ := List.mem_map.mp hrevoked
      obtain ⟨hmem, hmatch⟩ := List.mem_filter.mp hfound
      have hhash : found.tokenHash = row.tokenHash := IdentityReport.revoked.inj hsame
      obtain rfl := UniqueTable.eq_of_key_eq (by simp) hmem hold hhash
      exact absurd (of_decide_eq_true hmatch) hother

theorem step {digest : String → String} {e : IdentityEvent} {out : List IdentityReport}
    (h : Buried history t) (hok : Unrevived digest (t, history) e)
    (hs : IdentityTable.step digest t e = some (t', out)) : Buried (history ++ out) t' := by
  cases e with
  | start identities at_ =>
    cases hs
    rw [List.append_nil]
    exact h.install hok
  | issue args token at_ =>
    simp only [IdentityTable.step] at hs
    split at hs
    · rename_i issued record hissue
      cases hs
      obtain ⟨rfl, hupsert⟩ := FabricAuthService.issue_ok hissue
      have hnew : .revoked (args.record (digest token) at_).tokenHash ∉ history := hok
      rw [List.append_nil]
      exact h.upsert hnew hupsert
    · cases hs
      rw [List.append_nil]
      exact h
  | revoke identityId at_ =>
    cases hs
    exact h.revoke identityId at_

end Buried

/-- In every run that configures no token of a revoked identity, such a token never authenticates
again. -/
theorem revoked_for_good {digest : String → String}
    {trace : List (IdentityEvent × List IdentityReport)} {s : IdentityTable × List IdentityReport}
    (hrun : ((identities digest).recording.restrict (Unrevived digest)).Run trace s)
    (token : String) (hrevoked : .revoked (digest token) ∈ Machine.outputs trace)
    (at_ : Instant) (principal : FabricPrincipal) :
    FabricAuthService.authenticate digest s.1 token at_ ≠ .ok principal := by
  have hburied : Buried s.2 s.1 := by
    refine hrun.reachable.invariant (P := fun s => Buried s.2 s.1) ?_ ?_
    · intro s hinit row hrow
      rw [hinit.1] at hrow
      exact absurd hrow (UniqueTable.not_mem_empty row)
    · intro s e s' out hs hstep
      obtain ⟨hok, hstep, hhistory⟩ := hstep
      rw [hhistory]
      exact hs.step hok hstep
  intro hauthenticated
  obtain ⟨record, hrecord, hhash, hactive⟩ := FabricAuthService.authenticate_ok hauthenticated
  rw [← hrun.of_restrict.recorded, ← hhash] at hrevoked
  exact hburied record hrecord hrevoked hactive

/-- The administrator whose token is configured for every start. -/
def localAdministrator : FabricBootstrapIdentity where
  identityId := "local-administrator"
  token := bootstrapToken
  actorType := "administrator"
  roles := ["administrator"]
  permissions := fabricPermissions

/-- An administrator whose token is no longer configured stays revoked over a restart. -/
theorem revoked_for_good_administrator : ∃ trace s,
    ((identities knownDigest).recording.restrict (Unrevived knownDigest)).Run trace s ∧
    .revoked (knownDigest bootstrapToken) ∈ Machine.outputs trace ∧
    ∀ at_ principal,
      FabricAuthService.authenticate knownDigest s.1 bootstrapToken at_ ≠ .ok principal := by
  have hexec : ((Machine.execute (Machine.recorded (IdentityTable.step knownDigest))
      (Unrevived knownDigest) (.empty, [])
      [.start [localAdministrator] 0, .revoke "local-administrator" 10, .start [] 20]).any
      fun last => decide (.revoked (knownDigest bootstrapToken) ∈ Machine.outputs last.2)) =
        true := by
    decide
  obtain ⟨last, hlast, hend⟩ := (Option.any_eq_true ..).mp hexec
  have hinit : (identities knownDigest).recording.Initial (.empty, []) := ⟨rfl, rfl⟩
  have hrun := Machine.run_of_execute hinit (Machine.recording_step id) hlast
  have hrevoked := of_decide_eq_true hend
  exact ⟨_, _, hrun, hrevoked, revoked_for_good hrun bootstrapToken hrevoked⟩

/-- The revoked token is configured at the next start as at the first: it authenticates again. -/
theorem revoked_revived : ∃ trace t, (identities knownDigest).Run trace t ∧
    .revoked (knownDigest bootstrapToken) ∈ Machine.outputs trace ∧
    ∃ principal,
      FabricAuthService.authenticate knownDigest t bootstrapToken 30 = .ok principal := by
  have hexec : ((Machine.execute (IdentityTable.step knownDigest) (fun _ _ => True) .empty
      [.start [localAdministrator] 0, .revoke "local-administrator" 10,
        .start [localAdministrator] 20]).any fun last =>
      decide (.revoked (knownDigest bootstrapToken) ∈ Machine.outputs last.2) &&
        (FabricAuthService.authenticate knownDigest last.1 bootstrapToken 30).toOption.isSome) =
          true := by
    decide
  obtain ⟨last, hlast, hend⟩ := (Option.any_eq_true ..).mp hexec
  simp only [Bool.and_eq_true, decide_eq_true_eq] at hend
  have hrun := (Machine.run_of_execute (M := identities knownDigest) rfl id hlast).of_restrict
  refine ⟨_, _, hrun, hend.1, ?_⟩
  cases hauthenticated : FabricAuthService.authenticate knownDigest last.1 bootstrapToken 30 with
  | error e =>
    rw [hauthenticated] at hend
    cases hend.2
  | ok principal => exact ⟨principal, rfl⟩

end CitPhysicalXR.Fabric
