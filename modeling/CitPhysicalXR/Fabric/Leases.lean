import CitPhysicalXR.Fabric.SessionInvariant

/-! Control leases under any calls that acquire and release them. -/
namespace CitPhysicalXR.Fabric.FabricControlLease
open Foundation

inductive LeaseCall where
  | acquire (command : FabricResolvedCommand) (at_ : Instant) (leaseId : Uuid)
  | releaseSession (sessionId : Identifier) (at_ : Instant) (reason : String)

def step (leases : List FabricControlLease) : LeaseCall → List FabricControlLease
  | .acquire command at_ leaseId => (acquire leases command at_ leaseId).1
  | .releaseSession sessionId at_ reason => releaseSession leases sessionId at_ reason

/-- A lease of a node and capability that is not released. -/
def holds (nodeId : Identifier) (capability : CapabilityIdentifier) (lease : FabricControlLease) :
    Bool :=
  isFor nodeId capability lease && lease.isActive

def Exclusive (leases : List FabricControlLease) : Prop :=
  ∀ nodeId capability, leases.countP (holds nodeId capability) ≤ 1

/-- A lease does not stand in the way of a command. -/
def Yields (command : FabricResolvedCommand) (at_ : Instant) (lease : FabricControlLease) : Prop :=
  lease.sessionId = command.sessionId ∨ lease.expiresAt ≤ at_ ∨
    priorityRank lease.priority < priorityRank command.priority

variable {leases leases' : List FabricControlLease} {command : FabricResolvedCommand}
  {at_ : Instant} {leaseId : Uuid} {nodeId : Identifier} {capability : CapabilityIdentifier}

theorem Exclusive.eq (h : Exclusive leases) {lease other : FabricControlLease}
    (hlease : lease ∈ leases.filter (holds nodeId capability))
    (hother : other ∈ leases.filter (holds nodeId capability)) : lease = other := by
  have hone := h nodeId capability
  rw [List.countP_eq_length_filter] at hone
  generalize leases.filter (holds nodeId capability) = held at *
  rcases held with _ | ⟨first, _ | ⟨second, rest⟩⟩
  · cases hlease
  · exact (List.mem_singleton.mp hlease).trans (List.mem_singleton.mp hother).symm
  · simp at hone

/-- Rows that stay or are released. -/
theorem Exclusive.map (h : Exclusive leases) (f : FabricControlLease → FabricControlLease)
    (hf : ∀ lease, f lease = lease ∨ (f lease).isActive = false) : Exclusive (leases.map f) := by
  intro nodeId capability
  rw [List.countP_map]
  refine (List.countP_mono_left fun lease _ hholds => ?_).trans (h nodeId capability)
  rcases hf lease with hsame | hreleased
  · rwa [Function.comp_apply, hsame] at hholds
  · simp [holds, hreleased] at hholds

theorem Exclusive.releaseWhere (h : Exclusive leases) (p : FabricControlLease → Bool)
    (reason : String) : Exclusive (releaseWhere p at_ reason leases) := by
  refine h.map _ fun lease => ?_
  split
  · exact .inr rfl
  · exact .inl rfl

/-- A grant goes in where no unreleased lease is for what it is for. -/
theorem Exclusive.grant (h : Exclusive leases) {lease : FabricControlLease}
    (hfree : ∀ other ∈ leases, ¬holds lease.nodeId lease.capability other = true) :
    Exclusive (leases ++ [lease]) := by
  intro nodeId capability
  rw [List.countP_append, List.countP_singleton]
  split
  · rename_i hholds
    simp only [holds, isFor, Bool.and_eq_true, decide_eq_true_eq] at hholds
    obtain ⟨⟨rfl, rfl⟩, -⟩ := hholds
    rw [List.countP_eq_zero.mpr hfree]
  · exact h nodeId capability

theorem acquire_spec {decision : FabricLeaseDecision} (h : Exclusive leases)
    (hacquire : acquire leases command at_ leaseId = (leases', decision)) :
    Exclusive leases' ∧ (decision.acquired = true → ∀ lease ∈ leases,
      holds command.targetNodeId command.action lease = true → Yields command at_ lease) := by
  have hleft : Exclusive (FabricControlLease.releaseWhere
      (fun lease => decide (lease.expiresAt ≤ at_)) at_ "expired" leases) := h.releaseWhere _ _
  have hkept : ∀ lease ∈ leases, ¬lease.expiresAt ≤ at_ → lease ∈ FabricControlLease.releaseWhere
      (fun lease => decide (lease.expiresAt ≤ at_)) at_ "expired" leases :=
    fun lease hlease hopen => List.mem_map.mpr ⟨lease, hlease, by simp [hopen]⟩
  unfold acquire at hacquire
  generalize FabricControlLease.releaseWhere _ at_ "expired" leases = left at hleft hkept hacquire
  dsimp only at hacquire
  rw [show (fun lease => isFor command.targetNodeId command.action lease && lease.isActive) =
    holds command.targetNodeId command.action from rfl] at hacquire
  cases hfind : left.find? (holds command.targetNodeId command.action) with
  | none =>
    rw [hfind] at hacquire
    cases hacquire
    have hfree := List.find?_eq_none.mp hfind
    refine ⟨hleft.grant hfree, fun _ lease hlease hholds => .inr (.inl ?_)⟩
    by_contra hopen
    exact hfree lease (hkept lease hlease hopen) hholds
  | some current =>
    have hcurrent := List.mem_filter.mpr ⟨List.mem_of_find?_eq_some hfind, List.find?_some hfind⟩
    rw [hfind] at hacquire
    dsimp only at hacquire
    split at hacquire
    · cases hacquire
      exact ⟨hleft, nofun⟩
    · rename_i hrefused
      cases hacquire
      refine ⟨(hleft.map _ fun lease => ?_).grant fun other hother hholds => ?_,
        fun _ lease hlease hholds => ?_⟩
      · split
        · exact .inr rfl
        · exact .inl rfl
      · -- the row of the current lease is released, and no other one holds the same
        obtain ⟨row, hrow, rfl⟩ := List.mem_map.mp hother
        by_cases hid : row.leaseId = current.leaseId
        · simp [hid, holds, isActive, release] at hholds
        · rw [if_neg hid] at hholds
          exact hid (by rw [hleft.eq (List.mem_filter.mpr ⟨hrow, hholds⟩) hcurrent])
      · by_cases hopen : lease.expiresAt ≤ at_
        · exact .inr (.inl hopen)
        · obtain rfl := hleft.eq (List.mem_filter.mpr ⟨hkept lease hlease hopen, hholds⟩) hcurrent
          by_cases hsame : lease.sessionId = command.sessionId
          · exact .inl hsame
          · exact .inr (.inr (by simpa [hsame] using hrefused))

/-- After any calls at any clock values a node and capability have at most one unreleased lease,
and whoever acquires them next holds that lease, outranks it or finds it expired. -/
theorem control_leases_exclusive (calls : List LeaseCall) :
    Exclusive (calls.foldl step []) ∧ ∀ command at_ leaseId,
      (acquire (calls.foldl step []) command at_ leaseId).2.acquired = true →
      ∀ lease ∈ calls.foldl step [], holds command.targetNodeId command.action lease = true →
        Yields command at_ lease := by
  have hexclusive : Exclusive (calls.foldl step []) := by
    induction calls using List.reverseRecOn with
    | nil => exact fun _ _ => Nat.zero_le 1
    | append_singleton calls call ih =>
      rw [List.foldl_append]
      cases call with
      | acquire command at_ leaseId => exact (acquire_spec ih rfl).1
      | releaseSession sessionId at_ reason => exact ih.releaseWhere _ reason
  exact ⟨hexclusive, fun command at_ leaseId => (acquire_spec hexclusive rfl).2⟩

/-- The robot for a session, up to an instant 100. -/
def robotFor (session : Identifier) (priority : FabricCommandPriority) : FabricResolvedCommand :=
  ⟨Lesson.uuid 1, Lesson.uuid 1, session, Lesson.robot.nodeId, Lesson.drive.name, JsonObject.empty,
    priority, "drive", 0, 100, Lesson.classroom, "drive", none, none⟩

/-- A renewal at a lower rank leaves the robot to a rank below that of the first grant, though
neither grant is over. -/
theorem renewal_lowers_rank :
    let grants :=
      [robotFor Lesson.room .instructor_override, robotFor Lesson.room .autonomous_agent]
    let calls := grants.map fun command => LeaseCall.acquire command 0 (Lesson.uuid 1)
    let taker := robotFor Lesson.sessionId .student_interaction
    (acquire (calls.foldl step []) taker 0 (Lesson.uuid 2)).2 = ⟨true, none, some Lesson.room⟩ ∧
    ¬∀ grant ∈ grants, 0 < grant.expiresAt →
      priorityRank grant.priority < priorityRank taker.priority := by
  decide

end CitPhysicalXR.Fabric.FabricControlLease
