import CitPhysicalXR.Foundation.DedupeWindow
import CitPhysicalXR.Foundation.Execution
import CitPhysicalXR.Runtime.Classroom

/-! The event router: fan-out by subscriber, and a bounded window of identities in which an event
that is not history is delivered once. -/
namespace CitPhysicalXR.Runtime.Events
open Foundation DedupeWindow

structure Subscription where
  subscriberId : String
  deviceIds : List String := []
  categories : List EventCategory := []

def Subscription.wants (subscription : Subscription) (event : DeviceEvent) : Bool :=
  if subscription.deviceIds ≠ [] ∧ event.deviceId ∉ subscription.deviceIds then false
  else if subscription.categories ≠ [] ∧ event.category ∉ subscription.categories then false
  else true

/-- `_seen` holds its keys in the order of their insertion. -/
structure EventRouter where
  dedupeWindow : ℕ := 4096
  historyLimit : ℕ := 512
  subscriptions : Table Subscription.subscriberId := .empty
  seen : List String := []
  history : List DeviceEvent := []
  droppedDuplicates : ℕ := 0
  window_positive : 0 < dedupeWindow := by decide

structure Delivery where
  event : DeviceEvent
  subscriberIds : List String

namespace EventRouter
variable (router : EventRouter)

def subscribe (subscription : Subscription) : EventRouter :=
  { router with subscriptions := router.subscriptions.upsert subscription }

def unsubscribe (subscriberId : String) : EventRouter :=
  { router with
    subscriptions := router.subscriptions.filterRows fun subscription =>
      decide (subscription.subscriberId ≠ subscriberId) }

/-- The history, and the subscribers that want the event. -/
def deliver (event : DeviceEvent) : EventRouter × Delivery :=
  ({ router with history := (router.history ++ [event]).rtake router.historyLimit },
    ⟨event, (router.subscriptions.rows.filter (·.wants event)).map Subscription.subscriberId⟩)

/-- Deliver to every matching subscriber, unless the event is a retry. -/
def publish (event : DeviceEvent) : EventRouter × Option Delivery :=
  if event.historical then
    let (delivered, delivery) := router.deliver event
    (delivered, some delivery)
  else
    match pass router.dedupeWindow router.seen event.eventId with
    | none => ({ router with droppedDuplicates := router.droppedDuplicates + 1 }, none)
    | some seen =>
      let (delivered, delivery) := { router with seen := seen }.deliver event
      (delivered, some delivery)

end EventRouter

inductive RouterEvent where
  | subscribe (subscription : Subscription)
  | unsubscribe (subscriberId : String)
  | publish (event : DeviceEvent)

/-- The call publishes no event of the past. -/
def RouterEvent.isLive : RouterEvent → Bool
  | .publish event => !event.historical
  | _ => true

def EventRouter.step (router : EventRouter) : RouterEvent → EventRouter × List Delivery
  | .subscribe subscription => (router.subscribe subscription, [])
  | .unsubscribe subscriberId => (router.unsubscribe subscriberId, [])
  | .publish event =>
    let (published, delivery) := router.publish event
    (published, delivery.toList)

def eventRouter : Machine EventRouter RouterEvent Delivery where
  Initial router := router.subscriptions = .empty ∧ router.seen = [] ∧ router.history = []
  Step router event router' out := router.step event = (router', out)

/-- The identities that have been delivered live, in order. -/
def liveIds (deliveries : List Delivery) : List String :=
  (deliveries.filter fun delivery => !delivery.event.historical).map (·.event.eventId)

@[simp] theorem liveIds_nil : liveIds [] = [] := rfl

@[simp] theorem liveIds_append (before after : List Delivery) :
    liveIds (before ++ after) = liveIds before ++ liveIds after := by
  simp [liveIds]

namespace EventRouter
variable {router router' : EventRouter} {event : RouterEvent} {out : List Delivery}

/-- A call delivers nothing live and leaves the window alone, or it passes one identity. -/
theorem step_window (h : router.step event = (router', out)) :
    router'.dedupeWindow = router.dedupeWindow ∧
      (liveIds out = [] ∧ router'.seen = router.seen ∨
      ∃ live, event = .publish live ∧ live.historical = false ∧ live.eventId ∉ router.seen ∧
        liveIds out = [live.eventId] ∧
        router'.seen = (router.seen ++ [live.eventId]).rtake router.dedupeWindow) := by
  cases event with
  | subscribe subscription =>
    cases h
    exact ⟨rfl, .inl ⟨rfl, rfl⟩⟩
  | unsubscribe subscriberId =>
    cases h
    exact ⟨rfl, .inl ⟨rfl, rfl⟩⟩
  | publish event =>
    simp only [step, publish] at h
    by_cases hhistorical : event.historical = true
    · rw [if_pos hhistorical] at h
      cases h
      refine ⟨rfl, .inl ⟨?_, rfl⟩⟩
      simp [liveIds, deliver, hhistorical]
    · rw [if_neg hhistorical] at h
      simp only [Bool.not_eq_true] at hhistorical
      by_cases hseen : event.eventId ∈ router.seen
      · rw [DedupeWindow.pass, if_pos hseen] at h
        cases h
        exact ⟨rfl, .inl ⟨rfl, rfl⟩⟩
      · rw [DedupeWindow.pass, if_neg hseen] at h
        cases h
        refine ⟨rfl, .inr ⟨event, rfl, hhistorical, hseen, ?_, rfl⟩⟩
        simp [liveIds, deliver, hhistorical]

theorem seen_of_historical {past : DeviceEvent} (hpast : past.historical = true) :
    (router.publish past).1.seen = router.seen := by
  rw [publish, if_pos hpast]
  rfl

variable {trace : List (RouterEvent × List Delivery)}

theorem windowed
    (h : eventRouter.Run trace router) :
    Windowed router.dedupeWindow (liveIds (Machine.outputs trace)) router.seen := by
  refine Machine.Run.induct (M := eventRouter)
    (P := fun trace router =>
      Windowed router.dedupeWindow (liveIds (Machine.outputs trace)) router.seen) ?_ ?_ h
  · intro router hinit
    rw [hinit.2.1]
    exact .empty _
  · intro trace router event router' out _ ih hstep
    obtain ⟨hwindow, ⟨hout, hseen⟩ | ⟨live, _, _, hfresh, hout, hseen⟩⟩ := step_window hstep
    · rw [hwindow, hseen, Machine.outputs_append, Machine.outputs_singleton, liveIds_append, hout,
        List.append_nil]
      exact ih
    · rw [hwindow, hseen, Machine.outputs_append, Machine.outputs_singleton, liveIds_append, hout]
      exact ih.concat hfresh

/-- Routers that differ only in what history leaves. -/
structure SameLive (first second : EventRouter) : Prop where
  dedupeWindow : first.dedupeWindow = second.dedupeWindow
  subscriptions : first.subscriptions = second.subscriptions
  seen : first.seen = second.seen

theorem SameLive.live_step {first second first' : EventRouter} (h : SameLive first second)
    (hlive : event.isLive = true) (hstep : first.step event = (first', out)) :
    ∃ second', second.step event = (second', out) ∧ SameLive first' second' := by
  obtain ⟨hwindow, hsubscriptions, hseen⟩ := h
  cases event with
  | subscribe subscription =>
    cases hstep
    exact ⟨_, rfl, hwindow, congrArg (Table.upsert · subscription) hsubscriptions, hseen⟩
  | unsubscribe subscriberId =>
    cases hstep
    exact ⟨_, rfl, hwindow, congrArg (Table.filterRows · _) hsubscriptions, hseen⟩
  | publish event =>
    have hhistorical : event.historical = false := by simpa [RouterEvent.isLive] using hlive
    simp only [step, publish, hhistorical, Bool.false_eq_true, if_false] at hstep ⊢
    have hpass : pass first.dedupeWindow first.seen event.eventId =
        pass second.dedupeWindow second.seen event.eventId := by
      rw [hwindow, hseen]
    rw [← hpass]
    cases hpassed : pass first.dedupeWindow first.seen event.eventId with
    | none =>
      rw [hpassed] at hstep
      cases hstep
      exact ⟨_, rfl, hwindow, hsubscriptions, hseen⟩
    | some seen =>
      simp only [hpassed] at hstep
      cases hstep
      have hdelivered : (deliver { first with seen := seen } event).2 =
          (deliver { second with seen := seen } event).2 := by
        simp only [deliver, hsubscriptions]
      rw [hdelivered]
      exact ⟨(deliver { second with seen := seen } event).1, rfl, hwindow, hsubscriptions, rfl⟩

theorem SameLive.past_step {first second first' : EventRouter} (h : SameLive first second)
    (hpast : event.isLive = false) (hstep : first.step event = (first', out)) :
    SameLive first' second := by
  cases event with
  | subscribe subscription => cases hpast
  | unsubscribe subscriberId => cases hpast
  | publish event =>
    have hhistorical : event.historical = true := by simpa [RouterEvent.isLive] using hpast
    simp only [step, publish, hhistorical, if_true] at hstep
    cases hstep
    exact ⟨h.dedupeWindow, h.subscriptions, h.seen⟩

/-- Without the history a run goes the same way. -/
theorem live_run (h : eventRouter.Run trace router) :
    ∃ plain, eventRouter.Run (trace.filter fun entry => entry.1.isLive) plain ∧
      SameLive router plain := by
  refine Machine.Run.induct (M := eventRouter)
    (P := fun trace router => ∃ plain,
      eventRouter.Run (trace.filter fun entry => entry.1.isLive) plain ∧ SameLive router plain)
    ?_ ?_ h
  · intro router hinit
    exact ⟨router, ⟨router, hinit, .nil⟩, rfl, rfl, rfl⟩
  · rintro trace router event router' out _ ⟨plain, ⟨start, hinit, hsteps⟩, hsame⟩ hstep
    rw [List.filter_append]
    cases hlive : event.isLive with
    | true =>
      obtain ⟨plain', hplain, hsame'⟩ := hsame.live_step hlive hstep
      refine ⟨plain', ⟨start, hinit, ?_⟩, hsame'⟩
      have hkept : [(event, out)].filter (fun entry => entry.1.isLive) = [(event, out)] := by
        simp [hlive]
      rw [hkept]
      exact hsteps.snoc hplain
    | false =>
      refine ⟨plain, ⟨start, hinit, ?_⟩, hsame.past_step hlive hstep⟩
      have hdropped : [(event, out)].filter (fun entry => entry.1.isLive) = [] := by
        simp [hlive]
      rw [hdropped, List.append_nil]
      exact hsteps

/-- An event is suppressed when it is live, and one of the last live deliveries that the window
has room for had its identity. -/
theorem suppressed_iff (h : eventRouter.Run trace router) (event : DeviceEvent) :
    (router.publish event).2 = none ↔ event.historical = false ∧
      event.eventId ∈ (liveIds (Machine.outputs trace)).rtake router.dedupeWindow := by
  rw [← (windowed h).holds, publish, DedupeWindow.pass]
  cases event.historical with
  | true => simp
  | false => by_cases hseen : event.eventId ∈ router.seen <;> simp [hseen]

/-- In every run, between two live deliveries of an identity as many others are delivered as the
window has room for; publishing history changes neither the identities that are suppressed nor
what is delivered live. -/
theorem events_deduplicated {trace : List (RouterEvent × List Delivery)}
    (h : eventRouter.Run trace router) :
    Separated router.dedupeWindow (liveIds (Machine.outputs trace)) ∧
    (∀ past live : DeviceEvent, past.historical = true → live.historical = false →
      (((router.publish past).1.publish live).2 = none ↔ (router.publish live).2 = none)) ∧
    ∃ plain, eventRouter.Run (trace.filter fun entry => entry.1.isLive) plain ∧
      ∀ live : DeviceEvent, live.historical = false →
        ((plain.publish live).2 = none ↔ (router.publish live).2 = none) := by
  have hsuppressed (first second : EventRouter) (hsame : SameLive first second)
      (live : DeviceEvent) (hlive : live.historical = false) :
      (second.publish live).2 = none ↔ (first.publish live).2 = none := by
    simp only [publish, hlive, Bool.false_eq_true, if_false, hsame.seen, hsame.dedupeWindow]
    cases pass second.dedupeWindow second.seen live.eventId with
    | none => simp
    | some seen => simp
  refine ⟨(windowed h).separated, ?_, ?_⟩
  · intro past live hpast hlive
    refine hsuppressed router _ ⟨?_, ?_, ?_⟩ live hlive
    · rw [publish, if_pos hpast]
      rfl
    · rw [publish, if_pos hpast]
      rfl
    · exact (seen_of_historical hpast).symm
  · obtain ⟨plain, hrun, hsame⟩ := live_run h
    exact ⟨plain, hrun, hsuppressed router plain hsame⟩

end EventRouter

section Example

def pressed (eventId : String) (historical : Bool := false) : DeviceEvent where
  eventId := eventId
  deviceId := "robot"
  category := .input
  name := "button.pressed"
  values := .empty
  receivedAt := 0
  historical := historical

/-- A press is delivered again once another one has been. -/
theorem events_deduplicated_presses : ∃ trace router, eventRouter.Run trace router ∧
    liveIds (Machine.outputs trace) = ["first", "second", "first"] ∧
    Separated router.dedupeWindow (liveIds (Machine.outputs trace)) := by
  have hexec : ((Machine.execute (fun router event => some (EventRouter.step router event))
      (fun _ _ => True) { dedupeWindow := 1 }
      [RouterEvent.publish (pressed "first"), .publish (pressed "first"),
        .publish (pressed "first" true), .publish (pressed "second"),
        .publish (pressed "first")]).any fun last =>
          decide (liveIds (Machine.outputs last.2) = ["first", "second", "first"])) = true := by
    decide
  obtain ⟨last, hlast, hids⟩ := (Option.any_eq_true ..).mp hexec
  have hrun := (Machine.run_of_execute (M := eventRouter) ⟨rfl, rfl, rfl⟩ Option.some.inj
    hlast).of_restrict
  exact ⟨_, _, hrun, of_decide_eq_true hids, (EventRouter.events_deduplicated hrun).1⟩

theorem suppressed_iff_presses : ∃ trace router, eventRouter.Run trace router ∧
    ((router.publish (pressed "first")).2 = none ↔ (pressed "first").historical = false ∧
      "first" ∈ (liveIds (Machine.outputs trace)).rtake router.dedupeWindow) := by
  have hrun : eventRouter.Run _ _ :=
    ⟨{}, ⟨rfl, rfl, rfl⟩, Machine.Steps.nil.snoc (e := .publish (pressed "first")) rfl⟩
  exact ⟨_, _, hrun, EventRouter.suppressed_iff hrun _⟩

end Example

theorem classroom_router_agrees {classroom : Runtime.EventRouter} {router : EventRouter}
    (hwindow : router.dedupeWindow = Runtime.EventRouter.dedupeWindow)
    (hseen : router.seen = classroom.seen) (event : ReceivedEvent) :
    (router.publish event.toDeviceEvent).1.seen = (classroom.publish event).1.seen ∧
      ((router.publish event.toDeviceEvent).2 = none ↔ (classroom.publish event).2 = 0) := by
  cases hhistorical : event.historical with
  | true => simp [EventRouter.publish, Runtime.EventRouter.publish, EventRouter.deliver,
      hhistorical, hseen]
  | false =>
    by_cases hduplicate : event.eventId ∈ classroom.seen
    · simp [EventRouter.publish, Runtime.EventRouter.publish, DedupeWindow.pass, hhistorical,
        hseen, hduplicate]
    · simp [EventRouter.publish, Runtime.EventRouter.publish, EventRouter.deliver,
        DedupeWindow.pass, hhistorical, hseen, hduplicate, hwindow, Runtime.EventRouter.lastOf, List.rtake]

end CitPhysicalXR.Runtime.Events
