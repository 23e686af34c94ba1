import CitPhysicalXR.Plugs.PlugGateways

/-! The power commands of the client are run once at most, over all gateways, and a reported
success is the success of a command runner. -/
namespace CitPhysicalXR.Plugs
open Foundation Fabric

structure Plain (reports : List UnlockReport) : Prop where
  accepted : ∀ pairing, accepted pairing reports = []
  commanded : ∀ request nodeIds, .commanded request nodeIds ∉ reports
  powered : ∀ event result, .powered event result ∈ reports → result.accepted = false

def SignedRequest.Selects (nodeIds : List String) : SignedRequest → Prop
  | .remotePower event => ∀ selection, event.selectedNodeIds = some selection →
      nodeIds = selection.nodeIds.map (·.text)
  | _ => True

inductive StepReports (s s' : UnlockAutomation) (e : UnlockEvent) : List UnlockReport → Prop
  | plain {out : List UnlockReport} (hout : Plain out)
      (hrunning : s'.running = s.running ∨ s'.running = none) : StepReports s s' e out
  | accepted {out : List UnlockReport} (pairing : ℕ) (request : SignedRequest) (hout : Plain out)
      (hrunning : s'.running = s.running) : StepReports s s' e (.accepted pairing request :: out)
  | commanded (pairing : ℕ) (running : RunningEvent)
      (hselects : running.request.Selects running.selectedNodeIds)
      (hrunning : s'.running = some running) : StepReports s s' e
        [.accepted pairing running.request, .commanded running.request running.selectedNodeIds]
  | finished {out : List UnlockReport} (running : RunningEvent) (power : UnlockPowerResult)
      (outcome : SaveOutcome) (he : e = .commandRan (some power) outcome)
      (hrunning : s.running = some running ∧ s'.running = none)
      (hsucceeded : power.succeeded = true) (event : RemotePlugPowerRequest)
      (hrequest : running.request = .remotePower event) (result : RemotePlugPowerResult)
      (hout : out = [.powered event result]) : StepReports s s' e out

namespace Plain

theorem nil : Plain [] := ⟨fun _ => rfl, fun _ _ => List.not_mem_nil, fun _ _ h => (by cases h)⟩

theorem raised (error : UnlockAutomationError) : Plain [.raised error] :=
  ⟨fun _ => rfl, by simp, by simp⟩

theorem unlocked (result : UnlockEventResult) : Plain [.unlocked result] :=
  ⟨fun _ => rfl, by simp, by simp⟩

theorem toggled (result : ToggleEventResult) : Plain [.toggled result] :=
  ⟨fun _ => rfl, by simp, by simp⟩

theorem selected (nodeIds : List String) : Plain [.selected nodeIds] :=
  ⟨fun _ => rfl, by simp, by simp⟩

theorem failure (event : RemotePlugPowerRequest) {result : RemotePlugPowerResult}
    (h : result.accepted = false) : Plain [.powered event result] := by
  refine ⟨fun _ => rfl, by simp, ?_⟩
  intro event' result' hmem
  cases List.mem_singleton.mp hmem
  exact h

end Plain

namespace UnlockAutomation
variable {s s' : UnlockAutomation} {out : List UnlockReport}

theorem call_reports {α : Type} {m : UnlockM α} {report : α → List UnlockReport}
    (hreport : ∀ a, Plain (report a)) (h : s.call m report = (s', out)) :
    Plain out ∧ s'.running = s.running := by
  unfold call at h
  split at h
  · cases h
    exact ⟨hreport _, rfl⟩
  · cases h
    exact ⟨.raised _, rfl⟩

theorem accept_reports {config : UnlockAutomationConfig} {request : SignedRequest}
    {recorded : RecordedEvent} {now : Instant} {outcome : SaveOutcome}
    (h : s.accept config request recorded now outcome = (s', out)) :
    (Plain out ∧ s'.running = s.running) ∨ ∃ nodeIds, request.Selects nodeIds ∧
      s'.running = some ⟨request, nodeIds, now⟩ ∧ out = [.commanded request nodeIds] := by
  cases request with
  | unlock event =>
    simp only [accept, acceptEvent] at h
    split at h
    · exact .inl (call_reports (fun _ => .unlocked _) h)
    · split at h
      · exact .inl (call_reports (fun _ => .unlocked _) h)
      · split at h
        · cases h
          exact .inl ⟨.raised _, rfl⟩
        · cases h
          exact .inr ⟨_, trivial, rfl, rfl⟩
  | toggle event =>
    simp only [accept, acceptToggle] at h
    split at h
    · cases h
      exact .inl ⟨.toggled _, rfl⟩
    · cases h
      exact .inr ⟨_, trivial, rfl, rfl⟩
  | remoteState event =>
    cases h
    exact .inl ⟨.selected _, rfl⟩
  | remotePower event =>
    simp only [accept, acceptRemotePower] at h
    split at h
    · rename_i selection hselection
      split at h
      · cases h
        exact .inl ⟨.raised _, rfl⟩
      · cases h
        refine .inr ⟨_, ?_, rfl, rfl⟩
        intro other hother
        obtain rfl := Option.some.inj (hselection.symm.trans hother)
        rfl
    · rename_i hselection
      split at h
      · cases h
        exact .inl ⟨.failure event rfl, rfl⟩
      · cases h
        refine .inr ⟨_, ?_, rfl, rfl⟩
        intro other hother
        rw [hselection] at hother
        cases hother

theorem finish_reports {config : UnlockAutomationConfig} {running : RunningEvent}
    {power : Option UnlockPowerResult} {outcome : SaveOutcome}
    (h : finish config { s with running := none } running power outcome = (s', out)) :
    s'.running = none ∧ (Plain out ∨ ∃ event answer result, power = some answer ∧
      answer.succeeded = true ∧ running.request = .remotePower event ∧
      out = [.powered event result]) := by
  unfold finish at h
  split at h
  · have hcall := call_reports (fun _ => .unlocked _) h
    exact ⟨hcall.2, .inl hcall.1⟩
  · have hcall := call_reports (fun _ => .unlocked _) h
    exact ⟨hcall.2, .inl hcall.1⟩
  · cases h
    exact ⟨rfl, .inl (.toggled _)⟩
  · cases h
    exact ⟨rfl, .inl (.toggled _)⟩
  · cases h
    exact ⟨rfl, .inl (.failure _ rfl)⟩
  · rename_i event answer hrequest
    cases h
    by_cases hsucceeded : answer.succeeded = true
    · exact ⟨rfl, .inr ⟨event, answer, _, rfl, hsucceeded, hrequest, rfl⟩⟩
    · exact ⟨rfl, .inl (.failure _ (by simpa using hsucceeded))⟩
  · cases h
    exact ⟨rfl, .inl .nil⟩

theorem step_reports {config : UnlockAutomationConfig} {hmac : String → String → String}
    {e : UnlockEvent} (h : s.step config hmac e = some (s', out)) : StepReports s s' e out := by
  cases e with
  | receive request signature now outcomes =>
    have hreceive := receive_of_step h
    unfold receive at hreceive
    split at hreceive
    · cases hreceive
      exact .plain (.raised _) (.inl rfl)
    · rename_i recorded store hrun
      generalize haccept : accept config { s with store := store } request recorded now
        (outcomes 1) = result at hreceive
      obtain ⟨s₁, out₁⟩ := result
      cases hreceive
      obtain ⟨hplain, hrunning⟩ | ⟨nodeIds, hselects, hrunning, rfl⟩ := accept_reports haccept
      · exact .accepted recorded.pairing request hplain hrunning
      · exact .commanded recorded.pairing ⟨request, nodeIds, now⟩ hselects hrunning
  | commandRan power outcome =>
    obtain ⟨running, hrunning, hfinish⟩ := Option.map_eq_some_iff.mp h
    obtain ⟨hidle, hplain | ⟨event, answer, result, rfl, hsucceeded, hrequest, hout⟩⟩ :=
      finish_reports hfinish
    · exact .plain hplain (.inr hidle)
    · exact .finished running answer outcome rfl ⟨hrunning, hidle⟩ hsucceeded event hrequest
        result hout
  | cancelled =>
    obtain ⟨running, -, hcancelled⟩ := Option.map_eq_some_iff.mp h
    cases hcancelled
    exact .plain .nil (.inr rfl)
  | configure request knownNodeIds outcome =>
    have hcall := call_reports (fun _ => .nil) (Option.some.inj h)
    exact .plain hcall.1 (.inl hcall.2)
  | commitPairing candidate outcome =>
    have hcall := call_reports (fun _ => .nil) (Option.some.inj h)
    exact .plain hcall.1 (.inl hcall.2)
  | removeCompanion outcome =>
    have hcall := call_reports (fun _ => .nil) (Option.some.inj h)
    exact .plain hcall.1 (.inl hcall.2)
  | restart =>
    cases h
    exact .plain .nil (.inr rfl)

theorem call_pairings {α : Type} {m : UnlockM α} {report : α → List UnlockReport}
    (h : s.call m report = (s', out)) : s'.pairings = s.pairings := by
  unfold call at h
  split at h
  · cases h
    rfl
  · cases h
    rfl

theorem step_pairings {config : UnlockAutomationConfig} {hmac : String → String → String}
    {e : UnlockEvent} (h : s.step config hmac e = some (s', out)) :
    s'.pairings = s.pairings ∨ ∃ candidate outcome, e = .commitPairing candidate outcome ∧
      s'.pairings = s.pairings ++ [candidate.deviceId] := by
  cases e with
  | receive request signature now outcomes =>
    have hreceive := receive_of_step h
    unfold receive at hreceive
    split at hreceive
    · cases hreceive
      exact .inl rfl
    · rename_i recorded store hrun
      cases hreceive
      exact .inl (Quiet.accept config request recorded now (outcomes 1)).pairings
  | commandRan power outcome =>
    obtain ⟨running, -, hfinish⟩ := Option.map_eq_some_iff.mp h
    have hquiet := Quiet.finish (s := { s with running := none }) config running power outcome
    rw [hfinish] at hquiet
    exact .inl hquiet.pairings
  | cancelled =>
    obtain ⟨running, -, hcancelled⟩ := Option.map_eq_some_iff.mp h
    cases hcancelled
    exact .inl rfl
  | configure request knownNodeIds outcome => exact .inl (call_pairings (Option.some.inj h))
  | commitPairing candidate outcome =>
    exact .inr ⟨candidate, outcome, rfl, call_pairings (Option.some.inj h)⟩
  | removeCompanion outcome => exact .inl (call_pairings (Option.some.inj h))
  | restart =>
    cases h
    exact .inl rfl

end UnlockAutomation

section
variable {G : Type}

/-- The gateways that have run a power command, once for each time. -/
def executions (event : RemotePlugPowerRequest) (reports : List (PlugReport G)) : List G :=
  reports.filterMap fun
    | .gateway g (.commanded (.remotePower event') _) => if event' = event then some g else none
    | _ => none

/-- The power commands that the client has created. -/
def created (reports : List (PlugReport G)) : List RemotePlugPowerRequest :=
  reports.filterMap fun
    | .service (.sent _ (.remotePower event)) => some event
    | _ => none

/-- A gateway has run the command of the request with success: for each of its plugs a command
with the value was submitted, and none of these ended in a failed stage. -/
def Executed (event : RemotePlugPowerRequest) (reports : List (PlugReport G)) : Prop :=
  ∃ g nodeIds, .gateway g (.commanded (.remotePower event) nodeIds) ∈ reports ∧
    (SignedRequest.remotePower event).Selects nodeIds ∧ nodeIds ≠ [] ∧
    ∀ nodeId ∈ nodeIds, ∃ command, .submitted g (.remotePower event) command ∈ reports ∧
      command.nodeId = nodeId ∧ command.on = event.on ∧ command.isFailed = false

variable {reports more : List (PlugReport G)}

theorem executions_append (event : RemotePlugPowerRequest) :
    executions event (reports ++ more) = executions event reports ++ executions event more :=
  List.filterMap_append

theorem created_append : created (reports ++ more) = created reports ++ created more :=
  List.filterMap_append

theorem Executed.append {event : RemotePlugPowerRequest} (h : Executed event reports) :
    Executed event (reports ++ more) := by
  obtain ⟨g, nodeIds, hrun, hselects, hnonempty, hcommands⟩ := h
  refine ⟨g, nodeIds, List.mem_append_left _ hrun, hselects, hnonempty, ?_⟩
  intro nodeId hnodeId
  obtain ⟨command, hsubmitted, hcommand⟩ := hcommands nodeId hnodeId
  exact ⟨command, List.mem_append_left _ hsubmitted, hcommand⟩

theorem executions_gateway (event : RemotePlugPowerRequest) (g : G) {out : List UnlockReport}
    (hout : ∀ request nodeIds, .commanded request nodeIds ∉ out) :
    executions event (out.map (.gateway g)) = [] := by
  rw [executions, List.filterMap_map, List.filterMap_eq_nil_iff]
  intro report hreport
  cases report with
  | commanded request nodeIds => exact absurd hreport (hout request nodeIds)
  | _ => rfl

theorem executions_commanded (event : RemotePlugPowerRequest) (g : G) (pairing : ℕ)
    (request : SignedRequest) (nodeIds : List String) :
    executions event ([.accepted pairing request, .commanded request nodeIds].map (.gateway g)) =
      if request = .remotePower event then [g] else [] := by
  cases request with
  | remotePower event' =>
    by_cases hevent : event' = event
    · simp [executions, hevent]
    · simp [executions, hevent]
  | _ => simp [executions]

/-- The commands that the runner of a gateway submits. -/
def OnlySubmits (g : G) (reports : List (PlugReport G)) : Prop :=
  ∀ report ∈ reports, ∃ request command, report = .submitted g request command

theorem OnlySubmits.executions {g : G} (h : OnlySubmits g reports)
    (event : RemotePlugPowerRequest) : executions event reports = [] := by
  refine List.filterMap_eq_nil_iff.mpr ?_
  intro report hreport
  obtain ⟨request, command, rfl⟩ := h report hreport
  rfl

theorem OnlySubmits.created {g : G} (h : OnlySubmits g reports) : created reports = [] := by
  refine List.filterMap_eq_nil_iff.mpr ?_
  intro report hreport
  obtain ⟨request, command, rfl⟩ := h report hreport
  rfl

theorem executions_service (event : RemotePlugPowerRequest) (out : List GatewayReport) :
    executions event (out.map (PlugReport.service (G := G))) = [] := by
  rw [executions, List.filterMap_map, List.filterMap_eq_nil_iff]
  exact fun _ _ => rfl

theorem created_gateway (g : G) (out : List UnlockReport) :
    created (out.map (.gateway g)) = [] := by
  rw [created, List.filterMap_map, List.filterMap_eq_nil_iff]
  exact fun _ _ => rfl

structure ClientOk (reports : List (PlugReport G)) (s : PlugGatewayService) : Prop where
  counted : ∀ event ∈ created reports, event.sequence ≤ s.sequences event.deviceId
  distinct : (created reports).Nodup
  calls : ∀ call ∈ s.calls, ∀ event, call.request = .remotePower event → event ∈ created reports

namespace ClientOk
variable {client client' : PlugGatewayService}

theorem idle (h : ClientOk reports client) (hcreated : created more = []) :
    ClientOk (reports ++ more) client := by
  have hsame : created (reports ++ more) = created reports := by
    rw [created_append, hcreated, List.append_nil]
  exact ⟨hsame ▸ h.counted, hsame ▸ h.distinct, hsame ▸ h.calls⟩

theorem nextEvent_some {configuration : GatewayConfiguration} {eventId : Uuid} {nowMs : ℕ}
    {event : UnlockEventRequest}
    (h : client.nextEvent configuration eventId nowMs = some event) :
    event.deviceId = configuration.deviceId ∧
      event.sequence = client.sequences configuration.deviceId + 1 := by
  unfold PlugGatewayService.nextEvent at h
  dsimp only at h
  split at h
  · cases h
    exact ⟨rfl, rfl⟩
  · cases h

theorem count (h : ClientOk reports client) (deviceId : String) :
    ClientOk reports (client.countSequence deviceId) := by
  refine ⟨?_, h.distinct, h.calls⟩
  intro event hevent
  have hcounted := h.counted event hevent
  unfold PlugGatewayService.countSequence
  dsimp only
  split
  · rename_i hdevice
    rw [hdevice] at hcounted
    omega
  · exact hcounted

/-- The number of the next command is higher than all before it. -/
theorem sendPower (h : ClientOk reports client) {configuration : GatewayConfiguration}
    {eventId : Uuid} {nowMs : ℕ} {event : RemotePlugPowerRequest} (siteId : String)
    (hevent : client.nextEvent configuration eventId nowMs = some event.toUnlockEventRequest) :
    ClientOk
      (reports ++ ((client.countSequence configuration.deviceId).send siteId
        (.remotePower event)).2.map .service)
      ((client.countSequence configuration.deviceId).send siteId (.remotePower event)).1 := by
  obtain ⟨hdevice, hsequence⟩ := nextEvent_some hevent
  have hcounted := h.count configuration.deviceId
  have hcreated : created (reports ++ ((client.countSequence configuration.deviceId).send siteId
      (.remotePower event)).2.map .service) = created reports ++ [event] := created_append
  constructor
  · intro other hother
    rw [hcreated] at hother
    obtain hold | hnew := List.mem_append.mp hother
    · exact hcounted.counted other hold
    · obtain rfl := List.mem_singleton.mp hnew
      simp [PlugGatewayService.send, PlugGatewayService.countSequence, hdevice, hsequence]
  · rw [hcreated, List.nodup_append]
    refine ⟨h.distinct, List.nodup_singleton _, ?_⟩
    rintro other hold _ hnew rfl
    obtain rfl := List.mem_singleton.mp hnew
    have hle := h.counted other hold
    rw [hdevice, hsequence] at hle
    omega
  · intro call hcall other hother
    rw [hcreated]
    obtain hold | hnew := List.mem_append.mp hcall
    · exact List.mem_append_left _ (h.calls call hold other hother)
    · obtain rfl := List.mem_singleton.mp hnew
      cases hother
      exact List.mem_append_right _ (List.mem_singleton.mpr rfl)

theorem sendState (h : ClientOk reports client) (deviceId siteId : String)
    (event : UnlockEventRequest) :
    ClientOk
      (reports ++ ((client.countSequence deviceId).send siteId (.remoteState event)).2.map .service)
      ((client.countSequence deviceId).send siteId (.remoteState event)).1 := by
  have hidle : ClientOk (reports ++ ((client.countSequence deviceId).send siteId
      (.remoteState event)).2.map .service) _ :=
    (h.count deviceId).idle rfl
  refine ⟨hidle.counted, hidle.distinct, ?_⟩
  intro call hcall other hother
  obtain hold | hnew := List.mem_append.mp hcall
  · exact hidle.calls call hold other hother
  · obtain rfl := List.mem_singleton.mp hnew
    cases hother

end ClientOk

variable [DecidableEq G]

def history (g : G) (reports : List (PlugReport G)) : List UnlockReport :=
  reports.filterMap fun
    | .gateway g' report => if g' = g then some report else none
    | _ => none

theorem history_append (g : G) :
    history g (reports ++ more) = history g reports ++ history g more := List.filterMap_append

theorem history_self (g : G) (out : List UnlockReport) : history g (out.map (.gateway g)) = out := by
  simp [history, List.filterMap_map]

theorem history_other {g g' : G} (hne : g' ≠ g) (out : List UnlockReport) :
    history g (out.map (.gateway g')) = [] := by
  simp [history, List.filterMap_map, hne]

theorem OnlySubmits.history {g : G} (h : OnlySubmits g reports) (g' : G) :
    history g' reports = [] := by
  refine List.filterMap_eq_nil_iff.mpr ?_
  intro report hreport
  obtain ⟨request, command, rfl⟩ := h report hreport
  rfl

theorem history_service (g : G) (out : List GatewayReport) :
    history g (out.map .service) = [] := by
  rw [history, List.filterMap_map, List.filterMap_eq_nil_iff]
  exact fun _ _ => rfl

structure GatewaysOk (reports : List (PlugReport G)) (s : PlugSystem G) : Prop where
  recorded : ∀ g, Recorded (history g reports) (s.gateways g)
  drawn : ∀ g, ∀ deviceId ∈ (s.gateways g).pairings, deviceId ∈ s.drawn
  distinct : ∀ g, (s.gateways g).pairings.Nodup
  apart : ∀ g g' deviceId, deviceId ∈ (s.gateways g).pairings →
    deviceId ∈ (s.gateways g').pairings → g = g'
  once : ∀ event, (executions event reports).length ≤ 1
  taken : ∀ event, ∀ g ∈ executions event reports, ∃ pairing,
    .remotePower event ∈ accepted pairing (history g reports)
  running : ∀ g running, (s.gateways g).running = some running →
    PlugReport.gateway g (.commanded running.request running.selectedNodeIds) ∈ reports ∧
      running.request.Selects running.selectedNodeIds
  answers : ∀ event result, (event, result) ∈ s.answers → result.accepted = true →
    Executed event reports

namespace GatewaysOk
variable {s : PlugSystem G} {config : G → UnlockAutomationConfig}
variable {hmac : String → String → String} {g : G} {e : UnlockEvent}
variable {gateway : UnlockAutomation} {out : List UnlockReport} {drawn : List String}
variable {submitted : List (PlugReport G)}

/-- A request that a gateway accepts now has been run by no gateway. -/
theorem not_executed (h : GatewaysOk reports s) {pairing : ℕ} {event : RemotePlugPowerRequest}
    {rest : List UnlockReport} (hdrawn : ∀ g', g' ≠ g → ∀ deviceId ∈ gateway.pairings,
      deviceId ∉ (s.gateways g').pairings)
    (hkept : (s.gateways g).pairings <+: gateway.pairings) (hdistinct : gateway.pairings.Nodup)
    (hrecorded : Recorded
      (history g reports ++ .accepted pairing (.remotePower event) :: rest) gateway) :
    executions event reports = [] := by
  rw [List.eq_nil_iff_forall_not_mem]
  intro g' hg'
  obtain ⟨earlier, hearlier⟩ := h.taken event g' hg'
  have hdevice : gateway.pairings[pairing]? = some event.deviceId := by
    apply hrecorded.devices pairing (.remotePower event)
    rw [accepted_append]
    exact List.mem_append_right _ (by simp [accepted])
  have hold := (h.recorded g').devices earlier _ hearlier
  by_cases hsame : g' = g
  · subst hsame
    obtain ⟨newer, hnewer⟩ := hkept
    have hlt := (List.getElem?_eq_some_iff.mp hold).1
    have hold' : gateway.pairings[earlier]? = some (SignedRequest.remotePower event).event.deviceId := by
      rw [← hnewer, List.getElem?_append_left hlt]
      exact hold
    have hlength : earlier < gateway.pairings.length := (List.getElem?_eq_some_iff.mp hold').1
    obtain rfl : earlier = pairing :=
      (List.getElem?_inj hlength hdistinct).mp (hold'.trans hdevice.symm)
    have hincreasing := hrecorded.increasing earlier
    rw [accepted_append, List.map_append, List.pairwise_append] at hincreasing
    have hlater := hincreasing.2.2 event.sequence (List.mem_map.mpr ⟨_, hearlier, rfl⟩)
      event.sequence (List.mem_map.mpr ⟨.remotePower event, by simp [accepted], rfl⟩)
    exact absurd hlater (Nat.lt_irrefl _)
  · exact absurd (List.mem_of_getElem? hold) (hdrawn g' hsame _ (List.mem_of_getElem? hdevice))

structure Pairs (s : PlugSystem G) (g : G) (gateway : UnlockAutomation) (drawn : List String) :
    Prop where
  kept : (s.gateways g).pairings <+: gateway.pairings
  distinct : gateway.pairings.Nodup
  known : ∀ deviceId ∈ gateway.pairings, deviceId ∈ drawn
  apart : ∀ g', g' ≠ g → ∀ deviceId ∈ gateway.pairings, deviceId ∉ (s.gateways g').pairings
  grown : s.drawn ⊆ drawn

theorem pairs (h : GatewaysOk reports s)
    (hstep : (s.gateways g).step (config g) hmac e = some (gateway, out))
    (hdrawn : (drawn = s.drawn ∧ ∀ candidate outcome, e ≠ .commitPairing candidate outcome) ∨
      ∃ candidate outcome, e = .commitPairing candidate outcome ∧ candidate.deviceId ∉ s.drawn ∧
        drawn = s.drawn ++ [candidate.deviceId]) : Pairs s g gateway drawn := by
  have hapart (g' : G) (hother : g' ≠ g) (deviceId : String)
      (hmem : deviceId ∈ (s.gateways g).pairings) : deviceId ∉ (s.gateways g').pairings :=
    fun hmem' => hother (h.apart g' g deviceId hmem' hmem)
  obtain ⟨rfl, hnone⟩ | ⟨candidate, outcome, rfl, hnew, rfl⟩ := hdrawn
  · obtain hsame | ⟨candidate, outcome, hcommit, -⟩ := UnlockAutomation.step_pairings hstep
    · constructor
      · rw [hsame]
      · rw [hsame]
        exact h.distinct g
      · rw [hsame]
        exact h.drawn g
      · rw [hsame]
        exact hapart
      · exact fun _ hmem => hmem
    · exact absurd hcommit (hnone candidate outcome)
  · obtain ⟨candidate', outcome', hcommit, hpairings⟩ | hsame :=
      (UnlockAutomation.step_pairings hstep).symm
    · cases hcommit
      constructor
      · rw [hpairings]
        exact List.prefix_append _ _
      · rw [hpairings, List.nodup_append]
        refine ⟨h.distinct g, List.nodup_singleton _, ?_⟩
        rintro deviceId hmem _ hlast rfl
        obtain rfl := List.mem_singleton.mp hlast
        exact hnew (h.drawn g _ hmem)
      · intro deviceId hmem
        rw [hpairings] at hmem
        obtain hold | hlast := List.mem_append.mp hmem
        · exact List.mem_append_left _ (h.drawn g deviceId hold)
        · exact List.mem_append_right _ hlast
      · intro g' hother deviceId hmem hmem'
        rw [hpairings] at hmem
        obtain hold | hlast := List.mem_append.mp hmem
        · exact hapart g' hother deviceId hold hmem'
        · obtain rfl := List.mem_singleton.mp hlast
          exact hnew (h.drawn g' _ hmem')
      · exact List.subset_append_left _ _
    · constructor
      · rw [hsame]
      · rw [hsame]
        exact h.distinct g
      · rw [hsame]
        exact fun deviceId hmem => List.mem_append_left _ (h.drawn g deviceId hmem)
      · rw [hsame]
        exact hapart
      · exact List.subset_append_left _ _

/-- A step of a gateway, after the commands that its runner submitted. -/
theorem step (h : GatewaysOk reports s)
    (hstep : (s.gateways g).step (config g) hmac e = some (gateway, out))
    (hpairs : Pairs s g gateway drawn) (honly : OnlySubmits g submitted)
    (hsubmitted : ∀ running power outcome, (s.gateways g).running = some running →
      e = .commandRan (some power) outcome → power.succeeded = true →
      ∀ event, running.request = .remotePower event →
        running.selectedNodeIds ≠ [] ∧ ∀ nodeId ∈ running.selectedNodeIds,
          ∃ command, .submitted g running.request command ∈ submitted ∧
            command.nodeId = nodeId ∧ command.on = event.on ∧ command.isFailed = false) :
    GatewaysOk (reports ++ (submitted ++ out.map (PlugReport.gateway g)))
      (PlugSystem.withGateway { s with drawn := drawn } g (gateway, out)).1 := by
  have hrecorded := (h.recorded g).step hstep
  have hself : history g (submitted ++ out.map (PlugReport.gateway g)) = out := by
    rw [history_append, honly.history, history_self, List.nil_append]
  have hother {g' : G} (hne : g' ≠ g) :
      history g' (submitted ++ out.map (PlugReport.gateway g)) = [] := by
    rw [history_append, honly.history, history_other (Ne.symm hne), List.nil_append]
  have hreports := UnlockAutomation.step_reports hstep
  have hexecuted (event : RemotePlugPowerRequest) :
      executions event (submitted ++ out.map (PlugReport.gateway g)) = [] ∨
      executions event (submitted ++ out.map (PlugReport.gateway g)) = [g] ∧
        executions event reports = [] ∧
        ∃ pairing, .remotePower event ∈ accepted pairing (history g reports ++ out) := by
    rw [executions_append, honly.executions, List.nil_append]
    cases hreports with
    | plain hout hrunning => exact .inl (executions_gateway event g hout.commanded)
    | accepted pairing request hout hrunning =>
      refine .inl (executions_gateway event g ?_)
      intro request' nodeIds hmem
      obtain hclash | hmem := List.mem_cons.mp hmem
      · cases hclash
      · exact hout.commanded request' nodeIds hmem
    | commanded pairing running hselects hrunning =>
      rw [executions_commanded]
      split_ifs with hevent
      · rw [hevent] at hrecorded ⊢
        refine .inr ⟨rfl, h.not_executed hpairs.apart hpairs.kept hpairs.distinct hrecorded,
          pairing, ?_⟩
        rw [accepted_append]
        exact List.mem_append_right _ (by simp [accepted])
      · exact .inl rfl
    | finished running power outcome he hrunning hsucceeded event' hrequest result hout =>
      subst hout
      exact .inl (executions_gateway event g (by simp))
  constructor
  · intro g'
    rw [history_append]
    by_cases hsame : g' = g
    · subst hsame
      rw [hself]
      simpa [PlugSystem.withGateway] using hrecorded
    · rw [hother hsame, List.append_nil]
      simpa [PlugSystem.withGateway, hsame] using h.recorded g'
  · intro g' deviceId hmem
    by_cases hsame : g' = g
    · subst hsame
      exact hpairs.known deviceId (by simpa [PlugSystem.withGateway] using hmem)
    · exact hpairs.grown (h.drawn g' deviceId (by simpa [PlugSystem.withGateway, hsame] using hmem))
  · intro g'
    by_cases hsame : g' = g
    · subst hsame
      simpa [PlugSystem.withGateway] using hpairs.distinct
    · simpa [PlugSystem.withGateway, hsame] using h.distinct g'
  · intro g₁ g₂ deviceId h₁ h₂
    by_cases hsame₁ : g₁ = g
    · by_cases hsame₂ : g₂ = g
      · rw [hsame₁, hsame₂]
      · subst hsame₁
        exact absurd (by simpa [PlugSystem.withGateway, hsame₂] using h₂)
          (hpairs.apart g₂ hsame₂ deviceId (by simpa [PlugSystem.withGateway] using h₁))
    · by_cases hsame₂ : g₂ = g
      · subst hsame₂
        exact absurd (by simpa [PlugSystem.withGateway, hsame₁] using h₁)
          (hpairs.apart g₁ hsame₁ deviceId (by simpa [PlugSystem.withGateway] using h₂))
      · exact h.apart g₁ g₂ deviceId (by simpa [PlugSystem.withGateway, hsame₁] using h₁)
          (by simpa [PlugSystem.withGateway, hsame₂] using h₂)
  · intro event
    rw [executions_append]
    obtain hnone | ⟨hone, hnew, -⟩ := hexecuted event
    · rw [hnone, List.append_nil]
      exact h.once event
    · rw [hone, hnew]
      exact le_rfl
  · intro event g' hmem
    rw [executions_append] at hmem
    obtain hold | hnew := List.mem_append.mp hmem
    · obtain ⟨pairing, htaken⟩ := h.taken event g' hold
      refine ⟨pairing, ?_⟩
      rw [history_append, accepted_append]
      exact List.mem_append_left _ htaken
    · obtain hnone | ⟨hone, -, htaken⟩ := hexecuted event
      · rw [hnone] at hnew
        cases hnew
      · rw [hone] at hnew
        obtain rfl := List.mem_singleton.mp hnew
        rw [history_append, hself]
        exact htaken
  · intro g' running hrunning
    by_cases hsame : g' = g
    · subst hsame
      have hrun : gateway.running = some running := by
        simpa [PlugSystem.withGateway] using hrunning
      have hkept (hold : gateway.running = (s.gateways g').running) :
          PlugReport.gateway g' (.commanded running.request running.selectedNodeIds) ∈ reports ++
            (submitted ++ out.map (PlugReport.gateway g')) ∧
          running.request.Selects running.selectedNodeIds := by
        obtain ⟨hmem, hselects⟩ := h.running g' running (hold ▸ hrun)
        exact ⟨List.mem_append_left _ hmem, hselects⟩
      cases hreports with
      | plain hout hnext =>
        obtain hold | hidle := hnext
        · exact hkept hold
        · rw [hidle] at hrun
          cases hrun
      | accepted pairing request hout hold => exact hkept hold
      | commanded pairing started hselects hstarted =>
        obtain rfl := Option.some.inj (hstarted.symm.trans hrun)
        exact ⟨List.mem_append_right _ (List.mem_append_right _ (by simp)), hselects⟩
      | finished started power outcome he hnext =>
        rw [hnext.2] at hrun
        cases hrun
    · obtain ⟨hmem, hselects⟩ := h.running g' running
        (by simpa [PlugSystem.withGateway, hsame] using hrunning)
      exact ⟨List.mem_append_left _ hmem, hselects⟩
  · intro event result hanswer haccepted
    obtain hold | hnew := List.mem_append.mp hanswer
    · exact (h.answers event result hold haccepted).append
    · have hpowered : .powered event result ∈ out := by
        obtain ⟨report, hreport, hanswer⟩ := List.mem_filterMap.mp hnew
        cases report with
        | powered event' result' =>
          cases hanswer
          exact hreport
        | _ => cases hanswer
      have hplain {out : List UnlockReport} (hout : Plain out) (hmem : .powered event result ∈ out) :
          False := by
        rw [hout.powered event result hmem] at haccepted
        cases haccepted
      cases hreports with
      | plain hout hnext => exact (hplain hout hpowered).elim
      | accepted pairing request hout hnext =>
        obtain hclash | hmem := List.mem_cons.mp hpowered
        · cases hclash
        · exact (hplain hout hmem).elim
      | commanded pairing running hselects hnext => simp at hpowered
      | finished running power outcome he hrunning hsucceeded event' hrequest result' hout =>
        subst hout
        cases List.mem_singleton.mp hpowered
        obtain ⟨hmem, hselects⟩ := h.running g running hrunning.1
        obtain ⟨hnonempty, hcommands⟩ := hsubmitted running power outcome hrunning.1 he
          hsucceeded event hrequest
        rw [hrequest] at hmem hselects hcommands
        refine ⟨g, running.selectedNodeIds, List.mem_append_left _ hmem, hselects, hnonempty, ?_⟩
        intro nodeId hnodeId
        obtain ⟨command, hcommand, hfacts⟩ := hcommands nodeId hnodeId
        exact ⟨command, List.mem_append_right _ (List.mem_append_left _ hcommand), hfacts⟩

theorem ofService (h : GatewaysOk reports s) (client : PlugGatewayService)
    (out : List GatewayReport) :
    GatewaysOk (reports ++ out.map .service) { s with service := client } := by
  have hhistory (g : G) : history g (reports ++ out.map .service) = history g reports := by
    rw [history_append, history_service, List.append_nil]
  have hexecutions (event : RemotePlugPowerRequest) :
      executions event (reports ++ out.map .service) = executions event reports := by
    rw [executions_append, executions_service, List.append_nil]
  refine ⟨?_, h.drawn, h.distinct, h.apart, ?_, ?_, ?_, ?_⟩
  · intro g
    rw [hhistory]
    exact h.recorded g
  · intro event
    rw [hexecutions]
    exact h.once event
  · intro event g hmem
    rw [hexecutions] at hmem
    rw [hhistory]
    exact h.taken event g hmem
  · intro g running hrunning
    obtain ⟨hmem, hselects⟩ := h.running g running hrunning
    exact ⟨List.mem_append_left _ hmem, hselects⟩
  · exact fun event result hanswer haccepted => (h.answers event result hanswer haccepted).append

end GatewaysOk

structure PlugsOk (reports : List (PlugReport G)) (s : PlugSystem G) : Prop where
  gateways : GatewaysOk reports s
  client : ClientOk reports s.service
  reported : ∀ call event result, .service (.reported call event result) ∈ reports →
    result.accepted = true → event ∈ created reports ∧ result.on = event.on ∧
      Executed event reports

namespace PlugsOk
variable {s s' : PlugSystem G} {configurations : GatewayConfigurations}
variable {config : G → UnlockAutomationConfig} {hmac : String → String → String}

theorem ofClient (h : PlugsOk reports s) {step : PlugGatewayService × List GatewayReport}
    (hclient : ClientOk (reports ++ step.2.map .service) step.1)
    (hreported : ∀ call event result, .reported call event result ∈ step.2 →
      result.accepted = true → event ∈ created reports ∧ result.on = event.on ∧
        Executed event reports) :
    PlugsOk (reports ++ (s.withService step).2) (s.withService step).1 := by
  refine ⟨h.gateways.ofService step.1 step.2, hclient, ?_⟩
  intro call event result hmem haccepted
  have hold : event ∈ created reports ∧ result.on = event.on ∧ Executed event reports := by
    obtain hold | hnew := List.mem_append.mp hmem
    · exact h.reported call event result hold haccepted
    · obtain ⟨report, hreport, hsame⟩ := List.mem_map.mp hnew
      cases hsame
      exact hreported call event result hreport haccepted
  obtain ⟨hcreated, hon, hexecuted⟩ := hold
  refine ⟨?_, hon, hexecuted.append⟩
  rw [created_append]
  exact List.mem_append_left _ hcreated

theorem power (h : PlugsOk reports s) {siteId : String} {on : Bool}
    {selected : Option NodeSelection} {eventId : Uuid} {nowMs : ℕ} {commits : Bool}
    {step : PlugGatewayService × List GatewayReport}
    (hstep : s.service.power configurations siteId on selected eventId nowMs commits = some step) :
    PlugsOk (reports ++ (s.withService step).2) (s.withService step).1 := by
  unfold PlugGatewayService.power at hstep
  split at hstep
  · cases hstep
    exact h.ofClient (h.client.idle rfl) (by simp)
  · rename_i configuration _
    split_ifs at hstep
    · cases hstep
      exact h.ofClient (h.client.idle rfl) (by simp)
    · dsimp only at hstep
      split at hstep
      · cases hstep
        exact h.ofClient ((h.client.count _).idle rfl) (by simp)
      · rename_i event hevent
        cases hstep
        let request : RemotePlugPowerRequest := ⟨event, on, selected⟩
        have hrequest : _ = some request.toUnlockEventRequest := hevent
        exact h.ofClient (h.client.sendPower siteId hrequest) (by simp [PlugGatewayService.send])

theorem readState (h : PlugsOk reports s) {siteId : String} {eventId : Uuid} {nowMs : ℕ}
    {commits : Bool} {step : PlugGatewayService × List GatewayReport}
    (hstep : s.service.readState configurations siteId eventId nowMs commits = some step) :
    PlugsOk (reports ++ (s.withService step).2) (s.withService step).1 := by
  unfold PlugGatewayService.readState at hstep
  split at hstep
  · cases hstep
    exact h.ofClient (h.client.idle rfl) (by simp)
  · rename_i configuration _
    split_ifs at hstep
    · cases hstep
      exact h.ofClient (h.client.idle rfl) (by simp)
    · dsimp only at hstep
      split at hstep
      · cases hstep
        exact h.ofClient ((h.client.count _).idle rfl) (by simp)
      · cases hstep
        exact h.ofClient (h.client.sendState _ _ _) (by simp [PlugGatewayService.send])

theorem answered (h : PlugsOk reports s) {call : GatewayCall} (hcall : call ∈ s.service.calls)
    {result : Option RemotePlugPowerResult} (hmay : s.mayAnswer call result = true) :
    PlugsOk (reports ++ (s.withService (s.service.answered call result)).2)
      (s.withService (s.service.answered call result)).1 := by
  have hrest : ClientOk reports { s.service with
      calls := s.service.calls.filter fun other => other.id != call.id } :=
    ⟨h.client.counted, h.client.distinct,
      fun other hother => h.client.calls other (List.mem_filter.mp hother).1⟩
  unfold PlugGatewayService.answered
  dsimp only
  split
  · exact h.ofClient (hrest.idle rfl) (by simp)
  · rename_i event result hrequest
    split_ifs with hmismatch
    · exact h.ofClient (hrest.idle rfl) (by simp)
    · obtain ⟨-, hon⟩ := not_or.mp hmismatch
      apply h.ofClient (hrest.idle rfl)
      intro call' event' result' hmem haccepted
      cases List.mem_singleton.mp hmem
      have hanswer : (event, result) ∈ s.answers := by
        simpa [PlugSystem.mayAnswer, hrequest] using hmay
      exact ⟨h.client.calls call hcall event hrequest, not_not.mp hon,
        h.gateways.answers event result hanswer haccepted⟩
  · exact h.ofClient (hrest.idle rfl) (by simp)

theorem ofGateway (h : PlugsOk reports s) {g : G} {gateway : UnlockAutomation}
    {drawn : List String} {submitted : List (PlugReport G)} {out : List UnlockReport}
    (honly : OnlySubmits g submitted)
    (hgateways : GatewaysOk (reports ++ (submitted ++ out.map (PlugReport.gateway g)))
      (PlugSystem.withGateway { s with drawn := drawn } g (gateway, out)).1) :
    PlugsOk (reports ++ (submitted ++ out.map (PlugReport.gateway g)))
      (PlugSystem.withGateway { s with drawn := drawn } g (gateway, out)).1 := by
  have hcreated : created (submitted ++ out.map (PlugReport.gateway g)) = [] := by
    rw [created_append, honly.created, created_gateway, List.append_nil]
  refine ⟨hgateways, h.client.idle hcreated, ?_⟩
  intro call event result hmem haccepted
  obtain hold | hnew := List.mem_append.mp hmem
  · obtain ⟨hevent, hon, hexecuted⟩ := h.reported call event result hold haccepted
    refine ⟨?_, hon, hexecuted.append⟩
    rw [created_append]
    exact List.mem_append_left _ hevent
  · obtain hsubmitted | hgateway := List.mem_append.mp hnew
    · obtain ⟨request, command, hclash⟩ := honly _ hsubmitted
      cases hclash
    · obtain ⟨report, -, hclash⟩ := List.mem_map.mp hgateway
      cases hclash

theorem stepGateway (h : PlugsOk reports s) {g : G} {event : UnlockEvent} {drawn : List String}
    {out : List (PlugReport G)} (hstep : PlugSystem.stepGateway config hmac
      { s with drawn := drawn } g event = some (s', out))
    (hdrawn : (drawn = s.drawn ∧ ∀ candidate outcome, event ≠ .commitPairing candidate outcome) ∨
      ∃ candidate outcome, event = .commitPairing candidate outcome ∧
        candidate.deviceId ∉ s.drawn ∧ drawn = s.drawn ++ [candidate.deviceId])
    (hother : ∀ power outcome, event ≠ .commandRan power outcome) :
    PlugsOk (reports ++ out) s' := by
  obtain ⟨⟨gateway, gatewayOut⟩, hgateway, hnext⟩ := Option.map_eq_some_iff.mp hstep
  cases hnext
  have honly : OnlySubmits g [] := fun _ hmem => (by cases hmem)
  exact h.ofGateway honly (h.gateways.step hgateway (h.gateways.pairs hgateway hdrawn) honly
    fun running power outcome _ hran => absurd hran (hother _ _))

/-- The command runner of a gateway is done. -/
theorem ran (h : PlugsOk reports s) {g : G} {fabric : PlugFabric} {outcome : SaveOutcome}
    {running : RunningEvent} (hrunning : (s.gateways g).running = some running)
    {power : Option UnlockPowerResult} {submitted : List PlugCommand}
    (hran : fabric.setConfiguredSmartPlugs running.selectedNodeIds running.request.requestedOn =
      (power, submitted)) {out : List (PlugReport G)}
    (hstep : s.stepGateway config hmac g (.commandRan power outcome) = some (s', out)) :
    PlugsOk (reports ++ (submitted.map (.submitted g running.request) ++ out)) s' := by
  obtain ⟨⟨gateway, gatewayOut⟩, hgateway, hnext⟩ := Option.map_eq_some_iff.mp hstep
  cases hnext
  have honly : OnlySubmits g (submitted.map (.submitted g running.request)) := by
    intro report hreport
    obtain ⟨command, -, rfl⟩ := List.mem_map.mp hreport
    exact ⟨_, _, rfl⟩
  have hpairs : GatewaysOk.Pairs s g _ s.drawn := h.gateways.pairs hgateway
    (.inl ⟨rfl, fun _ _ hclash => (by cases hclash)⟩)
  refine h.ofGateway honly (h.gateways.step hgateway hpairs honly ?_)
  intro running' power' outcome' hrunning' hpower hsucceeded event hrequest
  obtain rfl := Option.some.inj (hrunning.symm.trans hrunning')
  cases hpower
  rw [hrequest] at hran
  obtain ⟨hnonempty, hcommands⟩ := PlugFabric.setConfiguredSmartPlugs_succeeded hran hsucceeded
  refine ⟨hnonempty, ?_⟩
  intro nodeId hnodeId
  obtain ⟨command, hcommand, hfacts⟩ := hcommands nodeId hnodeId
  exact ⟨command, List.mem_map_of_mem hcommand, hfacts⟩

theorem step (h : PlugsOk reports s) {e : PlugEvent G} {out : List (PlugReport G)}
    (hstep : s.step configurations config hmac e = some (s', out)) :
    PlugsOk (reports ++ out) s' := by
  cases e with
  | power siteId on selected eventId nowMs commits =>
    obtain ⟨step, hpower, hnext⟩ := Option.map_eq_some_iff.mp hstep
    cases hnext
    exact h.power hpower
  | readState siteId eventId nowMs commits =>
    obtain ⟨step, hread, hnext⟩ := Option.map_eq_some_iff.mp hstep
    cases hnext
    exact h.readState hread
  | answered id result =>
    simp only [PlugSystem.step] at hstep
    split at hstep
    · cases hstep
    · rename_i call hcall
      split_ifs at hstep with hmay
      cases hstep
      exact h.answered (List.mem_of_find?_eq_some hcall) hmay
  | restart =>
    cases hstep
    rw [List.append_nil]
    have hgateways := h.gateways.ofService { s.service with calls := [] } []
    rw [List.map_nil, List.append_nil] at hgateways
    refine ⟨hgateways, ⟨h.client.counted, h.client.distinct, ?_⟩, h.reported⟩
    intro call hcall
    cases hcall
  | gateway g event =>
    cases event with
    | commandRan power outcome => cases hstep
    | commitPairing candidate outcome =>
      simp only [PlugSystem.step] at hstep
      split_ifs at hstep with hnew
      exact h.stepGateway hstep (.inr ⟨candidate, outcome, rfl, hnew, rfl⟩)
        fun _ _ hclash => (by cases hclash)
    | _ =>
      exact h.stepGateway hstep
        (.inl ⟨rfl, fun _ _ hclash => (by cases hclash)⟩) fun _ _ hclash => (by cases hclash)
  | ran g fabric outcome =>
    simp only [PlugSystem.step] at hstep
    split at hstep
    · cases hstep
    · rename_i running hrunning
      obtain ⟨⟨next, gatewayOut⟩, hgateway, hnext⟩ := Option.map_eq_some_iff.mp hstep
      cases hnext
      exact h.ran hrunning rfl hgateway

end PlugsOk

/-- In every run the power commands of the client differ, each is run once at most over all
gateways, and one that is reported with success has been executed with its value. -/
theorem power_once {configurations : GatewayConfigurations} {config : G → UnlockAutomationConfig}
    {hmac : String → String → String} {s : PlugSystem G}
    {trace : List (PlugEvent G × List (PlugReport G))}
    (h : (plugGateways configurations config hmac).Run trace s) :
    (created (Machine.outputs trace)).Nodup ∧
    (∀ event, (executions event (Machine.outputs trace)).length ≤ 1) ∧
    ∀ call event result, .service (.reported call event result) ∈ Machine.outputs trace →
      result.accepted = true → event ∈ created (Machine.outputs trace) ∧ result.on = event.on ∧
        Executed event (Machine.outputs trace) := by
  have hok : PlugsOk (Machine.outputs trace) s := by
    refine h.induct (P := fun trace s => PlugsOk (Machine.outputs trace) s) ?_ ?_
    · rintro s rfl
      have hgateways : GatewaysOk ([] : List (PlugReport G))
          { gateways := fun _ => { store := .load {} } } :=
        { recorded := fun _ => Recorded.initial
          drawn := fun _ _ hmem => (by cases hmem)
          distinct := fun _ => List.nodup_nil
          apart := fun _ _ _ hmem => (by cases hmem)
          once := fun _ => Nat.zero_le 1
          taken := fun _ _ hmem => (by cases hmem)
          running := fun _ _ hrunning => (by cases hrunning)
          answers := fun _ _ hanswer => (by cases hanswer) }
      have hclient : ClientOk ([] : List (PlugReport G)) {} :=
        ⟨fun _ hmem => (by cases hmem), List.nodup_nil, fun _ hmem => (by cases hmem)⟩
      exact ⟨hgateways, hclient, fun _ _ _ hmem => (by cases hmem)⟩
    · intro trace s e s' out _ ih hstep
      rw [Machine.outputs_append, Machine.outputs_singleton]
      exact ih.step hstep
  exact ⟨hok.client.distinct, hok.gateways.once, hok.reported⟩

end

namespace Tower

def configuration : GatewayConfiguration where
  siteId := "local-site"
  displayName := "Tower"
  origin := "https://tower.tail0.ts.net"
  deviceId := "desktop-0123456789abcdef"
  secret := Desktop.secret
  device_ok := by decide +kernel

def configurations : GatewayConfigurations := ⟨[configuration], by decide, by decide⟩

/-- The second of two gateways belongs to another site. -/
def config (second : Bool) : UnlockAutomationConfig :=
  if second then ⟨some "https://annex.tail0.ts.net", "annex", "Annex"⟩ else Desktop.config

def plug : PlugNode := ⟨"plug-1", "site-1", "room-1", true, true, some false⟩

def selection : UnlockAutomationConfigurationRequest where
  enabled := false
  selectedNodeIds := [⟨"plug-1", by decide⟩]
  nodup := by decide
  bound := by decide

def result : RemotePlugPowerResult :=
  ⟨"local-site", "Tower", true, .succeeded, 1, 1, true,
    "Turn-on was accepted for 1 configured Matter smart plugs."⟩

def receive (second : Bool) : PlugEvent Bool := .gateway second (Desktop.send 0 .saved)

/-- The request reaches both gateways, and the first a second time. -/
def switchOn : List (PlugEvent Bool) :=
  [.gateway false (.commitPairing Desktop.candidate .saved),
    .gateway false (.configure selection ["plug-1"] .saved),
    .power "local-site" true none ⟨1⟩ 1767225600000 true, receive true, receive false,
    .ran false ⟨[plug], some fun _ => some .dispatched⟩ .saved, receive false,
    .answered 0 (some result)]

end Tower

theorem power_once_tower : ∃ trace s,
    (plugGateways Tower.configurations Tower.config Desktop.knownHmac).Run trace s ∧
    .service (.reported 0 (Desktop.powerOn 0) Tower.result) ∈ Machine.outputs trace ∧
    (created (Machine.outputs trace)).Nodup ∧
    (∀ event, (executions event (Machine.outputs trace)).length ≤ 1) ∧
    ∀ call event result, .service (.reported call event result) ∈ Machine.outputs trace →
      result.accepted = true → event ∈ created (Machine.outputs trace) ∧ result.on = event.on ∧
        Executed event (Machine.outputs trace) := by
  have hexec : ((Machine.execute
      (PlugSystem.step Tower.configurations Tower.config Desktop.knownHmac) (fun _ _ => True)
      { gateways := fun _ => { store := .load {} } } Tower.switchOn).any fun last =>
      decide (.service (.reported 0 (Desktop.powerOn 0) Tower.result) ∈
        Machine.outputs last.2)) = true := by
    decide +kernel
  obtain ⟨last, hlast, hend⟩ := (Option.any_eq_true ..).mp hexec
  have hrun := (Machine.run_of_execute
    (M := plugGateways Tower.configurations Tower.config Desktop.knownHmac) rfl id
    hlast).of_restrict
  exact ⟨_, _, hrun, of_decide_eq_true hend, power_once hrun⟩

end CitPhysicalXR.Plugs
