import CitPhysicalXR.Fabric.Repository
import CitPhysicalXR.Foundation.IsoOrder

/-! The store keeps instants as texts, and SQLite compares the texts: where a node lease or a
control lease has expired, and where a connection is remembered anew. -/
namespace CitPhysicalXR.Fabric
open Foundation

/-- A datetime whose zone is UTC, as `_aware_utc` returns it. -/
abbrev UtcDatetime := { t : Datetime // t.1.offset = 0 }

namespace UtcDatetime

def text (t : UtcDatetime) : String := t.1.isoformat

def instant (t : UtcDatetime) : Instant := t.1.instant

theorem text_lt_iff {s t : UtcDatetime} : s.text < t.text ↔ s.instant < t.instant :=
  Datetime.isoformat_lt_iff s.2 t.2

theorem text_le_iff {s t : UtcDatetime} : s.text ≤ t.text ↔ s.instant ≤ t.instant := by
  rw [← not_lt, ← not_lt, text_lt_iff]

theorem text_eq_iff {s t : UtcDatetime} : s.text = t.text ↔ s.instant = t.instant := by
  rw [le_antisymm_iff, le_antisymm_iff, text_le_iff, text_le_iff]

end UtcDatetime

/-- A row of `fabric_nodes` with the text of its `lease_expires_at`. -/
structure StoredNode where
  row : NodeRow
  expires : UtcDatetime
  same : row.leaseExpiresAt = expires.instant

/-- `WHERE lease_expires_at <= ? AND connection_state NOT IN (…)`. -/
def StoredNode.isExpired (at_ : UtcDatetime) (stored : StoredNode) : Bool :=
  decide (stored.expires.text ≤ at_.text) && Repository.isPresent stored.row.node.connectionState

theorem StoredNode.isExpired_eq (at_ : UtcDatetime) (stored : StoredNode) :
    stored.isExpired at_ = Repository.isExpired at_.instant stored.row := by
  simp only [isExpired, Repository.isExpired, UtcDatetime.text_le_iff, stored.same]

/-- A row of `fabric_control_leases` with the text of its `expires_at`. -/
structure StoredLease where
  lease : FabricControlLease
  expires : UtcDatetime
  same : lease.expiresAt = expires.instant

/-- `SET released_at = ?, release_reason = 'expired' WHERE released_at IS NULL AND expires_at <= ?`:
the leases that are left. -/
def StoredLease.releaseExpired (at_ : UtcDatetime) (leases : List StoredLease) :
    List FabricControlLease :=
  leases.map fun stored =>
    if stored.lease.isActive && decide (stored.expires.text ≤ at_.text) then
      stored.lease.release at_.instant "expired"
    else stored.lease

theorem StoredLease.releaseExpired_eq (at_ : UtcDatetime) (leases : List StoredLease) :
    releaseExpired at_ leases =
      FabricControlLease.releaseWhere (fun lease => decide (lease.expiresAt ≤ at_.instant))
        at_.instant "expired" (leases.map (·.lease)) := by
  rw [releaseExpired, FabricControlLease.releaseWhere, List.map_map]
  refine List.map_congr_left fun stored _ => ?_
  simp only [Function.comp_apply, UtcDatetime.text_le_iff, stored.same]

structure FabricRememberedConnectionRecord where
  hostId : String
  reconnectActionId : String
  requiresGroundedConfirmation : Bool
  rememberedAt : UtcDatetime
  rememberedBy : String

namespace FabricRememberedConnectionRecord

def key (record : FabricRememberedConnectionRecord) : String × String :=
  (record.hostId, record.reconnectActionId)

/-- `INSERT … ON CONFLICT DO UPDATE … WHERE excluded.remembered_at >= remembered_at`, under an
order of what `remembered_at` holds. -/
def rememberBy (isLate : UtcDatetime → UtcDatetime → Bool) (table : Table key)
    (record : FabricRememberedConnectionRecord) : Table key :=
  match table.get? record.key with
  | none => table.upsert record
  | some stored =>
    if isLate stored.rememberedAt record.rememberedAt then table.upsert record else table

/-- `remember_fabric_connection`. -/
def remember : Table key → FabricRememberedConnectionRecord → Table key :=
  rememberBy fun stored new => decide (stored.text ≤ new.text)

/-- `ORDER BY remembered_at DESC, reconnect_action_id` of the rows of a host. -/
def listBy (isLate : UtcDatetime → UtcDatetime → Bool) (table : Table key) (hostId : String) :
    List FabricRememberedConnectionRecord :=
  (table.rows.filter fun record => decide (record.hostId = hostId)).insertionSort fun a b =>
    isLate b.rememberedAt a.rememberedAt &&
      (!isLate a.rememberedAt b.rememberedAt || decide (a.reconnectActionId ≤ b.reconnectActionId))

/-- `list_fabric_remembered_connections`. -/
def list : Table key → String → List FabricRememberedConnectionRecord :=
  listBy fun stored new => decide (stored.text ≤ new.text)

end FabricRememberedConnectionRecord

/-- Wherever the store compares the texts of instants at UTC, it decides as by the instants. -/
theorem text_order_agrees :
    (∀ s t : UtcDatetime, (s.text < t.text ↔ s.instant < t.instant) ∧
      (s.text ≤ t.text ↔ s.instant ≤ t.instant) ∧ (s.text = t.text ↔ s.instant = t.instant)) ∧
    (∀ at_ (nodes : List StoredNode), nodes.filter (StoredNode.isExpired at_) =
      nodes.filter fun stored => Repository.isExpired at_.instant stored.row) ∧
    (∀ at_ leases, StoredLease.releaseExpired at_ leases =
      FabricControlLease.releaseWhere (fun lease => decide (lease.expiresAt ≤ at_.instant))
        at_.instant "expired" (leases.map (·.lease))) ∧
    FabricRememberedConnectionRecord.remember =
      FabricRememberedConnectionRecord.rememberBy
        (fun stored new => decide (stored.instant ≤ new.instant)) ∧
    FabricRememberedConnectionRecord.list =
      FabricRememberedConnectionRecord.listBy
        (fun stored new => decide (stored.instant ≤ new.instant)) := by
  refine ⟨fun s t => ⟨UtcDatetime.text_lt_iff, UtcDatetime.text_le_iff, UtcDatetime.text_eq_iff⟩,
    ?_, StoredLease.releaseExpired_eq, ?_, ?_⟩
  · intro at_ nodes
    exact List.filter_congr fun stored _ => StoredNode.isExpired_eq at_ stored
  · simp only [FabricRememberedConnectionRecord.remember, UtcDatetime.text_le_iff]
  · simp only [FabricRememberedConnectionRecord.list, UtcDatetime.text_le_iff]

/-- A whole second comes before the fractions that follow it, though its text is shorter. -/
example : UtcDatetime.text ⟨⟨⟨2026, 3, 1, 9, 30, 0, 0, true, 0⟩, by decide⟩, rfl⟩ <
    UtcDatetime.text ⟨⟨⟨2026, 3, 1, 9, 30, 0, 500000, true, 0⟩, by decide⟩, rfl⟩ := by
  decide

end CitPhysicalXR.Fabric
