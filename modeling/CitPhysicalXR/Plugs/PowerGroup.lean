import CitPhysicalXR.Plugs.UnlockAutomation

/-! The command runner of a saved group of smart plugs: which plugs it commands, with which value,
and what it makes of the last stages of their commands. -/
namespace CitPhysicalXR.Plugs
open Foundation Fabric

structure PlugNode where
  nodeId : String
  siteId : String
  roomId : String
  isSmartPlug : Bool
  connected : Bool
  reportedOn : Option Bool

def failedCommandStages : List FabricCommandLifecycleStage :=
  [.failed, .rejected, .cancelled, .timed_out]

/-- One submitted command `power.switch.set`, and the last stage of its lifecycle. -/
structure PlugCommand where
  nodeId : String
  on : Bool
  lastStage : Option FabricCommandLifecycleStage
  deriving DecidableEq

/-- A lifecycle that is empty or ends in a failed stage. -/
def PlugCommand.isFailed (command : PlugCommand) : Bool :=
  command.lastStage.all fun stage => failedCommandStages.contains stage

/-- What the runner meets at its Control Tower: the nodes, and the last stages of the commands
unless the session cannot be prepared or a submission raises. -/
structure PlugFabric where
  nodes : List PlugNode
  lastStage : Option (String → Option FabricCommandLifecycleStage)

inductive PowerPlan where
  | answered (power : UnlockPowerResult)
  | submits (desiredOn : Bool) (nodeIds : List String)

namespace PlugFabric
variable (fabric : PlugFabric)

def node? (nodeId : String) : Option PlugNode :=
  fabric.nodes.find? fun node => node.nodeId == nodeId

def isUnavailable (nodeId : String) : Bool :=
  (fabric.node? nodeId).all fun node => !(node.isSmartPlug && node.connected)

/-- `_set_configured_smart_plugs` before its session is prepared. -/
def planPower (nodeIds : List String) (requestedOn : Option Bool) : PowerPlan :=
  let unavailable := nodeIds.filter fabric.isUnavailable
  let actionable := nodeIds.filter fun nodeId => !fabric.isUnavailable nodeId
  let exactNodes := actionable.filterMap fabric.node?
  if nodeIds = [] then
    .answered ⟨0, 0, [], none,
      "No Matter smart plugs are configured for unlock automation."⟩
  else if unavailable ≠ [] ∧ requestedOn ≠ some false then
    .answered ⟨nodeIds.length, 0, unavailable, none,
      "At least one configured Matter smart plug is not connected; none were switched."⟩
  else if actionable = [] then
    .answered ⟨nodeIds.length, 0, nodeIds, requestedOn,
      "No configured Matter smart plugs were connected; none could be switched off."⟩
  else if (exactNodes.map fun node => (node.siteId, node.roomId)).dedup.length ≠ 1 then
    .answered ⟨nodeIds.length, 0, nodeIds, none,
      "Configured Matter smart plugs must belong to one Control Tower room."⟩
  else
    match requestedOn with
    | some on => .submits on actionable
    | none =>
      if exactNodes.any fun node => node.reportedOn.isNone then
        .answered ⟨nodeIds.length, 0, nodeIds, none,
          "Control Tower does not have a current power state for every configured " ++
            "Matter smart plug; none were toggled."⟩
      else .submits (!(exactNodes.all fun node => node.reportedOn == some true)) actionable

def failedPlugs (nodeIds : List String) (submitted : List PlugCommand) : List String :=
  let commandFailed := (submitted.filter (·.isFailed)).map (·.nodeId)
  nodeIds.filter fun nodeId => commandFailed.contains nodeId || fabric.isUnavailable nodeId

/-- What the runner returns once every command is submitted. -/
def powerResult (nodeIds : List String) (desiredOn : Bool) (submitted : List PlugCommand) :
    UnlockPowerResult :=
  let failed := fabric.failedPlugs nodeIds submitted
  let acceptedCount := nodeIds.length - failed.length
  { requestedCount := nodeIds.length
    acceptedCount := acceptedCount
    failedNodeIds := failed
    on := some desiredOn
    message :=
      if failed = [] then
        (if desiredOn then "Turn-on" else "Turn-off") ++ " was accepted for " ++
          toString acceptedCount ++ " configured Matter smart plugs."
      else if desiredOn = false ∧ 0 < acceptedCount then
        "Turn-off was accepted for " ++ toString acceptedCount ++ " of " ++
          toString nodeIds.length ++
          " configured Matter smart plugs; verify the unavailable or rejected plugs."
      else "Control Tower rejected at least one configured Matter smart-plug command." }

/-- `_set_configured_smart_plugs`, with the commands that it submits; nothing where it raises. -/
def setConfiguredSmartPlugs (nodeIds : List String) (requestedOn : Option Bool) :
    Option UnlockPowerResult × List PlugCommand :=
  match fabric.planPower nodeIds requestedOn with
  | .answered power => (some power, [])
  | .submits desiredOn actionable =>
    match fabric.lastStage with
    | none => (none, [])
    | some lastStage =>
      let submitted := actionable.map fun nodeId => ⟨nodeId, desiredOn, lastStage nodeId⟩
      (some (fabric.powerResult nodeIds desiredOn submitted), submitted)

variable {fabric}

/-- An explicit value is the value of every command. -/
theorem planPower_submits {nodeIds actionable : List String} {on desiredOn : Bool}
    (h : fabric.planPower nodeIds (some on) = .submits desiredOn actionable) :
    desiredOn = on ∧ actionable = nodeIds.filter fun nodeId => !fabric.isUnavailable nodeId := by
  unfold planPower at h
  dsimp only at h
  split_ifs at h
  cases h
  exact ⟨rfl, rfl⟩

theorem planPower_answered {nodeIds : List String} {requestedOn : Option Bool}
    {power : UnlockPowerResult} (h : fabric.planPower nodeIds requestedOn = .answered power) :
    power.acceptedCount = 0 := by
  unfold planPower at h
  dsimp only at h
  split_ifs at h
  · cases h
    rfl
  · cases h
    rfl
  · cases h
    rfl
  · cases h
    rfl
  · cases requestedOn with
    | some on => cases h
    | none =>
      cases h
      rfl
  · cases requestedOn <;> cases h

theorem powerResult_succeeded {nodeIds : List String} {on : Bool} {submitted : List PlugCommand}
    (h : (fabric.powerResult nodeIds on submitted).succeeded = true) :
    nodeIds ≠ [] ∧ ∀ nodeId ∈ nodeIds, fabric.isUnavailable nodeId = false ∧
      ∀ command ∈ submitted, command.nodeId = nodeId → command.isFailed = false := by
  obtain ⟨hcounts, hpositive⟩ := of_decide_eq_true h
  simp only [powerResult] at hcounts hpositive
  refine ⟨List.ne_nil_of_length_pos hpositive, ?_⟩
  intro nodeId hnodeId
  have hfailed : fabric.failedPlugs nodeIds submitted = [] := by
    rw [← List.length_eq_zero_iff]
    omega
  have hgood := List.filter_eq_nil_iff.mp hfailed nodeId hnodeId
  simp only [Bool.or_eq_true, not_or, Bool.not_eq_true] at hgood
  refine ⟨hgood.2, ?_⟩
  intro command hcommand hsame
  by_contra hbad
  have hmem : nodeId ∈ (submitted.filter (·.isFailed)).map (·.nodeId) :=
    List.mem_map.mpr ⟨command, List.mem_filter.mpr ⟨hcommand, by simpa using hbad⟩, hsame⟩
  rw [List.contains_iff_mem.mpr hmem] at hgood
  cases hgood.1

/-- Full success means that a command with the value was submitted for each plug, and that none of
these commands ended in a failed stage. -/
theorem setConfiguredSmartPlugs_succeeded {nodeIds : List String} {on : Bool}
    {power : UnlockPowerResult} {submitted : List PlugCommand}
    (h : fabric.setConfiguredSmartPlugs nodeIds (some on) = (some power, submitted))
    (hsucceeded : power.succeeded = true) : nodeIds ≠ [] ∧ ∀ nodeId ∈ nodeIds,
      ∃ command ∈ submitted, command.nodeId = nodeId ∧ command.on = on ∧
        command.isFailed = false := by
  unfold setConfiguredSmartPlugs at h
  split at h
  · rename_i answered hplan
    cases h
    obtain ⟨hcounts, hpositive⟩ := of_decide_eq_true hsucceeded
    have hnone := planPower_answered hplan
    omega
  · rename_i desiredOn actionable hplan
    obtain ⟨rfl, rfl⟩ := planPower_submits hplan
    split at h
    · cases h
    · rename_i lastStage _
      cases h
      obtain ⟨hnonempty, hgood⟩ := powerResult_succeeded hsucceeded
      refine ⟨hnonempty, ?_⟩
      intro nodeId hnodeId
      obtain ⟨havailable, hcommands⟩ := hgood nodeId hnodeId
      have hsubmitted : ⟨nodeId, desiredOn, lastStage nodeId⟩ ∈ (nodeIds.filter fun nodeId =>
          !fabric.isUnavailable nodeId).map fun nodeId =>
            (⟨nodeId, desiredOn, lastStage nodeId⟩ : PlugCommand) :=
        List.mem_map.mpr ⟨nodeId, List.mem_filter.mpr ⟨hnodeId, by simp [havailable]⟩, rfl⟩
      exact ⟨_, hsubmitted, rfl, rfl, hcommands _ hsubmitted rfl⟩

def IsAccepted (submitted : List PlugCommand) (nodeId : String) : Prop :=
  ∃ command ∈ submitted, command.nodeId = nodeId ∧ command.isFailed = false

/-- The value that a request stands for: the one asked for, or for a toggle off where every plug
that it acts on is on. -/
def desiredValue (fabric : PlugFabric) (nodeIds : List String) (requestedOn : Option Bool) : Bool :=
  requestedOn.getD !((nodeIds.filterMap fabric.node?).all fun node => node.reportedOn == some true)

/-- What a request switches, and what it reports. -/
structure IsAccounted (fabric : PlugFabric) (nodeIds : List String) (requestedOn : Option Bool)
    (power : UnlockPowerResult) (submitted : List PlugCommand) : Prop where
  allOrNone : requestedOn ≠ some false → submitted = [] ∨ submitted.map (·.nodeId) = nodeIds
  available : submitted = [] ∨
    submitted.map (·.nodeId) = nodeIds.filter fun nodeId => !fabric.isUnavailable nodeId
  refused : requestedOn ≠ some false → (∃ nodeId ∈ nodeIds, fabric.isUnavailable nodeId = true) →
    submitted = [] ∧ power.failedNodeIds = nodeIds.filter fabric.isUnavailable
  oneValue : ∀ command ∈ submitted, power.on = some command.on ∧
    command.on = fabric.desiredValue (submitted.map (·.nodeId)) requestedOn
  idle : submitted = [] → power.acceptedCount = 0
  requested : power.requestedCount = nodeIds.length
  inOrder : power.failedNodeIds.Sublist nodeIds
  counted : submitted ≠ [] →
    power.acceptedCount + power.failedNodeIds.length = power.requestedCount
  once : submitted ≠ [] → ∀ nodeId ∈ nodeIds,
    (nodeId ∈ power.failedNodeIds ↔ ¬ IsAccepted submitted nodeId)

theorem planPower_actionable {nodeIds actionable : List String} {requestedOn : Option Bool}
    {desiredOn : Bool} (h : fabric.planPower nodeIds requestedOn = .submits desiredOn actionable) :
    actionable = (nodeIds.filter fun nodeId => !fabric.isUnavailable nodeId) ∧ actionable ≠ [] ∧
      desiredOn = fabric.desiredValue actionable requestedOn ∧
      (requestedOn ≠ some false → nodeIds.filter fabric.isUnavailable = []) := by
  unfold planPower at h
  dsimp only at h
  have hall (hgiven : ¬(nodeIds.filter fabric.isUnavailable ≠ [] ∧ requestedOn ≠ some false))
      (hon : requestedOn ≠ some false) : nodeIds.filter fabric.isUnavailable = [] := by
    by_contra hfilter
    exact hgiven ⟨hfilter, hon⟩
  split_ifs at h with hnone hunavailable hactionable hscope
  · cases requestedOn with
    | some on =>
      cases h
      exact ⟨rfl, hactionable, rfl, hall hunavailable⟩
    | none => cases h
  · cases requestedOn with
    | some on =>
      cases h
      exact ⟨rfl, hactionable, rfl, hall hunavailable⟩
    | none =>
      cases h
      exact ⟨rfl, hactionable, rfl, hall hunavailable⟩

theorem planPower_refused {nodeIds : List String} {requestedOn : Option Bool}
    {power : UnlockPowerResult} (h : fabric.planPower nodeIds requestedOn = .answered power) :
    power.requestedCount = nodeIds.length ∧ power.failedNodeIds.Sublist nodeIds ∧
      (requestedOn ≠ some false → (∃ nodeId ∈ nodeIds, fabric.isUnavailable nodeId = true) →
        power.failedNodeIds = nodeIds.filter fabric.isUnavailable) := by
  have hsome (hunavailable : ∃ nodeId ∈ nodeIds, fabric.isUnavailable nodeId = true) :
      nodeIds.filter fabric.isUnavailable ≠ [] := by
    obtain ⟨nodeId, hnodeId, hbad⟩ := hunavailable
    exact List.ne_nil_of_mem (List.mem_filter.mpr ⟨hnodeId, hbad⟩)
  unfold planPower at h
  dsimp only at h
  split_ifs at h with hnone hunavailable hactionable hscope
  · cases h
    subst hnone
    exact ⟨rfl, List.Sublist.refl _, fun _ _ => rfl⟩
  · cases h
    exact ⟨rfl, List.filter_sublist, fun _ _ => rfl⟩
  · cases h
    exact ⟨rfl, List.Sublist.refl _, fun hon hbad => absurd ⟨hsome hbad, hon⟩ hunavailable⟩
  · cases h
    exact ⟨rfl, List.Sublist.refl _, fun hon hbad => absurd ⟨hsome hbad, hon⟩ hunavailable⟩
  · cases requestedOn with
    | some on => cases h
    | none =>
      cases h
      exact ⟨rfl, List.Sublist.refl _, fun hon hbad => absurd ⟨hsome hbad, hon⟩ hunavailable⟩
  · cases requestedOn <;> cases h

theorem mem_failedPlugs {nodeIds : List String} {desiredOn : Bool}
    (lastStage : String → Option FabricCommandLifecycleStage) {nodeId : String}
    (h : nodeId ∈ nodeIds) :
    nodeId ∈ fabric.failedPlugs nodeIds ((nodeIds.filter fun nodeId =>
        !fabric.isUnavailable nodeId).map fun nodeId => ⟨nodeId, desiredOn, lastStage nodeId⟩) ↔
      ¬ IsAccepted ((nodeIds.filter fun nodeId => !fabric.isUnavailable nodeId).map fun nodeId =>
        ⟨nodeId, desiredOn, lastStage nodeId⟩) nodeId := by
  have hcommands {command : PlugCommand} : command ∈ ((nodeIds.filter fun nodeId =>
      !fabric.isUnavailable nodeId).map fun nodeId => (⟨nodeId, desiredOn, lastStage nodeId⟩ :
        PlugCommand)) ↔ command.nodeId ∈ nodeIds ∧ fabric.isUnavailable command.nodeId = false ∧
          command = ⟨command.nodeId, desiredOn, lastStage command.nodeId⟩ := by
    rw [List.mem_map]
    constructor
    · rintro ⟨other, hother, rfl⟩
      obtain ⟨hmem, havailable⟩ := List.mem_filter.mp hother
      exact ⟨hmem, by simpa using havailable, rfl⟩
    · rintro ⟨hmem, havailable, hcommand⟩
      exact ⟨command.nodeId, List.mem_filter.mpr ⟨hmem, by simp [havailable]⟩, hcommand.symm⟩
  unfold failedPlugs IsAccepted
  rw [List.mem_filter, Bool.or_eq_true, List.contains_iff_mem]
  constructor
  · rintro ⟨_, hfailed⟩ ⟨command, hcommand, rfl, hgood⟩
    obtain ⟨_, havailable, hform⟩ := hcommands.mp hcommand
    rcases hfailed with hfailed | hunavailable
    · obtain ⟨other, hother, hsame⟩ := List.mem_map.mp hfailed
      obtain ⟨hother, hbad⟩ := List.mem_filter.mp hother
      obtain ⟨_, _, hform'⟩ := hcommands.mp hother
      rw [hform', hsame, ← hform, hgood] at hbad
      cases hbad
    · rw [havailable] at hunavailable
      cases hunavailable
  · intro hnot
    refine ⟨h, ?_⟩
    by_contra hneither
    obtain ⟨hcommand, havailable⟩ := not_or.mp hneither
    rw [Bool.not_eq_true] at havailable
    have hmem := (@hcommands ⟨nodeId, desiredOn, lastStage nodeId⟩).mpr ⟨h, havailable, rfl⟩
    refine hnot ⟨_, hmem, rfl, ?_⟩
    by_contra hbad
    rw [Bool.not_eq_false] at hbad
    exact hcommand (List.mem_map.mpr ⟨_, List.mem_filter.mpr ⟨hmem, hbad⟩, rfl⟩)

/-- A request switches every available plug with one value or none at all, and what it reports
accounts for each plug. -/
theorem power_accounted (fabric : PlugFabric) (nodeIds : List String) (requestedOn : Option Bool)
    (power : UnlockPowerResult) (submitted : List PlugCommand)
    (h : fabric.setConfiguredSmartPlugs nodeIds requestedOn = (some power, submitted)) :
    fabric.IsAccounted nodeIds requestedOn power submitted := by
  unfold setConfiguredSmartPlugs at h
  split at h
  · rename_i answered hplan
    cases h
    obtain ⟨hrequested, hsublist, hrefused⟩ := planPower_refused hplan
    exact ⟨fun _ => .inl rfl, .inl rfl, fun hon hbad => ⟨rfl, hrefused hon hbad⟩, by simp,
      fun _ => planPower_answered hplan, hrequested, hsublist, fun hne => absurd rfl hne,
      fun hne => absurd rfl hne⟩
  · rename_i desiredOn actionable hplan
    obtain ⟨hactionable, hne, hvalue, hall⟩ := planPower_actionable hplan
    split at h
    · cases h
    · rename_i lastStage _
      cases h
      have hids : (actionable.map fun nodeId => (⟨nodeId, desiredOn, lastStage nodeId⟩ :
          PlugCommand)).map (·.nodeId) = actionable := by
        rw [List.map_map]
        exact List.map_id _
      have hkept (hon : requestedOn ≠ some false) : actionable = nodeIds := by
        rw [hactionable, List.filter_eq_self]
        intro nodeId hnodeId
        have hnone := List.filter_eq_nil_iff.mp (hall hon) nodeId hnodeId
        simpa using hnone
      have hsublist : (fabric.failedPlugs nodeIds (actionable.map fun nodeId =>
          ⟨nodeId, desiredOn, lastStage nodeId⟩)).Sublist nodeIds := List.filter_sublist
      have hlength := hsublist.length_le
      refine ⟨fun hon => .inr (by rw [hids, hkept hon]), .inr (by rw [hids, hactionable]), ?_, ?_,
        ?_, rfl, hsublist, fun _ => ?_, fun _ nodeId hnodeId => ?_⟩
      · rintro hon ⟨nodeId, hnodeId, hbad⟩
        have hmem := List.mem_filter.mpr ⟨hnodeId, hbad⟩
        rw [hall hon] at hmem
        cases hmem
      · intro command hcommand
        rw [hids]
        obtain ⟨nodeId, _, rfl⟩ := List.mem_map.mp hcommand
        exact ⟨rfl, hvalue⟩
      · intro hnone
        exact absurd (List.map_eq_nil_iff.mp hnone) hne
      · exact Nat.sub_add_cancel hlength
      · subst hactionable
        exact mem_failedPlugs lastStage hnodeId

/-- Two plugs of one room, the second one not connected; the command of the first succeeds. -/
def halfConnected : PlugFabric where
  nodes := [⟨"plug-1", "site-1", "room-1", true, true, some false⟩,
    ⟨"plug-2", "site-1", "room-1", true, false, none⟩]
  lastStage := some fun _ => some .succeeded

/-- Switched off, the connected plug is commanded and the other one reported. -/
theorem power_accounted_off : ∃ power submitted,
    halfConnected.setConfiguredSmartPlugs ["plug-1", "plug-2"] (some false) =
        (some power, submitted) ∧
      halfConnected.IsAccounted ["plug-1", "plug-2"] (some false) power submitted :=
  ⟨_, _, rfl, power_accounted halfConnected ["plug-1", "plug-2"] (some false) _ _ rfl⟩

/-- A request to switch off is carried out in part; one to switch on is refused, and what it reports
leaves the connected plug out. -/
theorem power_in_part :
    (∃ power, halfConnected.setConfiguredSmartPlugs ["plug-1", "plug-2"] (some false) =
      (some power, [⟨"plug-1", false, some .succeeded⟩])) ∧
    ∃ power, halfConnected.setConfiguredSmartPlugs ["plug-1", "plug-2"] (some true) =
        (some power, []) ∧
      power.acceptedCount + power.failedNodeIds.length ≠ power.requestedCount :=
  ⟨⟨_, rfl⟩, _, rfl, by decide⟩

end PlugFabric
end CitPhysicalXR.Plugs
