import CitPhysicalXR.Foundation.Execution
import Mathlib.Tactic.Common

/-! The clients of the vendor workers of the Tello and the RoboMaster: concurrent requests that
take turns on one pipe, and what a response that nobody read does to the later ones. -/
namespace CitPhysicalXR.Adapters
open Foundation

inductive WorkerContent where
  /-- A JSON object with the `requestId` of a request. -/
  | response (requestId : ℕ) (ok : Bool) (message : Option String)
  /-- What is left of a line whose beginning was thrown away. -/
  | fragment

structure WorkerLine where
  content : WorkerContent
  length : ℕ

def WorkerLine.requestId? (line : WorkerLine) : Option ℕ :=
  match line.content with
  | .response requestId _ _ => some requestId
  | .fragment => none

/-- Why a request fails. -/
inductive WorkerFailure where
  | timedOut
  /-- `ValueError` of `readline`: the line is longer than the limit of the stream; `cut` when
  its rest had not arrived yet. -/
  | overrun (cut : Bool)
  | invalidJson
  | identity
  | rejected (message : Option String)
  deriving DecidableEq

structure WorkerTexts where
  timedOut : String → String
  invalidJson : String
  identity : String
  rejected : String

def WorkerFailure.message (texts : WorkerTexts) (operation : String) : WorkerFailure → String
  | .timedOut => texts.timedOut operation
  | .overrun true => "Separator is not found, and chunk exceed the limit"
  | .overrun false => "Separator is found, but chunk is longer than limit"
  | .invalidJson => texts.invalidJson
  | .identity => texts.identity
  | .rejected message => String.ofList ((message.getD texts.rejected).toList.take 500)

def Brain2DevicesTelloProcess.texts : WorkerTexts where
  timedOut operation := "Tello worker timed out during " ++ operation
  invalidJson := "Tello worker returned invalid JSON"
  identity := "Tello worker response identity did not match"
  rejected := "Tello operation failed"

def VendorRobotProcess.texts : WorkerTexts where
  timedOut operation :=
    "Robot worker timed out during " ++ operation ++ "; its local watchdog stops motion"
  invalidJson := "Robot worker returned an invalid JSON frame"
  identity := "Robot worker response identity did not match its request"
  rejected := "Robot worker rejected the request"

inductive WorkerPhase where
  | draining
  | reading
  deriving DecidableEq

/-- A client with its worker: the requests before the lock, the one that holds it, and the
lines of the pipe in both directions. -/
structure WorkerClient where
  waiting : List ℕ := []
  holder : Option (ℕ × WorkerPhase) := none
  written : List ℕ := []
  stdout : List WorkerLine := []
  nextRequest : ℕ := 0

inductive WorkerReport where
  | returned (request : ℕ) (line : WorkerLine)
  | failed (request : ℕ) (failure : WorkerFailure)
  /-- `written` tells whether the line of the request had been written. -/
  | cancelled (request : ℕ) (written : Bool)

namespace WorkerReport

/-- The request ends and leaves (a part of) its response in the pipe. -/
def abandons : WorkerReport → Bool
  | .failed _ .timedOut | .failed _ (.overrun true) | .cancelled _ true => true
  | _ => false

/-- The request ends with a response of the worker to it, a refusal included. -/
def answers : WorkerReport → Bool
  | .returned _ _ | .failed _ (.rejected _) => true
  | _ => false

end WorkerReport

inductive WorkerEvent where
  | request
  | acquire (request : ℕ)
  | drained
  /-- The worker answers the oldest line that it has not answered yet. -/
  | respond (ok : Bool) (message : Option String) (length : ℕ)
  /-- `readline` finds a line, or too much of one, whose rest is then `rest` long. -/
  | read (rest : Option ℕ)
  | timeout
  | cancel (request : ℕ)

namespace WorkerClient
variable (limit : ℕ) (s : WorkerClient)

/-- What `_request` makes of a line. -/
def receive (request : ℕ) (line : WorkerLine) : WorkerReport :=
  match line.content with
  | .fragment => .failed request .invalidJson
  | .response requestId ok message =>
    if requestId ≠ request then .failed request .identity
    else if ok then .returned request line
    else .failed request (.rejected message)

def step : WorkerEvent → Option (WorkerClient × List WorkerReport)
  | .request =>
    some ({ s with
      waiting := s.waiting ++ [s.nextRequest], nextRequest := s.nextRequest + 1 }, [])
  | .acquire request =>
    if s.holder = none ∧ request ∈ s.waiting then
      some ({ s with
        waiting := s.waiting.filter (· ≠ request)
        holder := some (request, .draining)
        written := s.written ++ [request] }, [])
    else none
  | .drained =>
    match s.holder with
    | some (request, .draining) => some ({ s with holder := some (request, .reading) }, [])
    | _ => none
  | .respond ok message length =>
    match s.written with
    | request :: written =>
      some ({ s with
        written := written
        stdout := s.stdout ++ [⟨.response request ok message, length⟩] }, [])
    | [] => none
  | .read rest =>
    match s.holder, s.stdout with
    | some (request, .reading), line :: stdout =>
      if line.length ≤ limit then
        some ({ s with holder := none, stdout := stdout }, [receive request line])
      else
        match rest with
        | none => some ({ s with holder := none, stdout := stdout },
            [.failed request (.overrun false)])
        | some length => some ({ s with holder := none, stdout := ⟨.fragment, length⟩ :: stdout },
            [.failed request (.overrun true)])
    | _, _ => none
  | .timeout =>
    match s.holder with
    | some (request, .reading) => some ({ s with holder := none }, [.failed request .timedOut])
    | _ => none
  | .cancel request =>
    if s.holder.any fun holder => decide (holder.1 = request) then
      some ({ s with holder := none }, [.cancelled request true])
    else if request ∈ s.waiting then
      some ({ s with waiting := s.waiting.filter (· ≠ request) }, [.cancelled request false])
    else none

end WorkerClient

/-- The client from the start of its worker, which answers every request with one line and in
order, under every pattern of timeouts and cancellations. -/
def workerClient (limit : ℕ) : Machine WorkerClient WorkerEvent WorkerReport where
  Initial s := s = {}
  Step s e s' out := s.step limit e = some (s', out)

/-- The requests whose responses are in the pipe or on their way into it, in order. -/
def WorkerClient.outstanding (s : WorkerClient) : List (Option ℕ) :=
  s.stdout.map WorkerLine.requestId? ++ s.written.map some

/-- What requests left in the pipe stands before the response to the request that reads. -/
structure WorkerAligned (out : List WorkerReport) (s : WorkerClient) (left : List (Option ℕ)) :
    Prop where
  outstanding : s.outstanding = left ++ s.holder.toList.map fun holder => some holder.1
  abandoned : left = [] ↔ ∀ report ∈ out, report.abandons = false
  holder : ∀ holder, s.holder = some holder → some holder.1 ∉ left ∧ holder.1 ∉ s.waiting ∧
    holder.1 < s.nextRequest
  waiting : ∀ request ∈ s.waiting, some request ∉ left ∧ request < s.nextRequest
  left : ∀ request, some request ∈ left → request < s.nextRequest

namespace WorkerAligned
variable {limit : ℕ} {out : List WorkerReport} {s s' : WorkerClient} {left : List (Option ℕ)}

theorem initial : WorkerAligned [] {} [] := ⟨rfl, by simp, nofun, nofun, nofun⟩

/-- The pipe keeps something for nobody once a request is abandoned. -/
theorem abandoned_append {report : WorkerReport} {left' : List (Option ℕ)}
    (h : left = [] ↔ ∀ report ∈ out, report.abandons = false)
    (hleft : left' = [] ↔ left = [] ∧ report.abandons = false) :
    left' = [] ↔ ∀ other ∈ out ++ [report], other.abandons = false := by
  rw [hleft, h]
  constructor
  · intro ⟨hout, hreport⟩ other hother
    rcases List.mem_append.mp hother with hother | hother
    · exact hout other hother
    · obtain rfl := List.mem_singleton.mp hother
      exact hreport
  · intro hall
    exact ⟨fun other hother => hall other (List.mem_append_left _ hother),
      hall report (by simp)⟩

variable {request : ℕ} {phase : WorkerPhase}

/-- The request that holds the lock ends, and its response, if it is still to be read, stays
behind. -/
theorem release (h : WorkerAligned out s left)
    (hholder : s.holder = some (request, phase)) {report : WorkerReport}
    {left' : List (Option ℕ)} (houtstanding : s'.outstanding = left')
    (hwaiting : s'.waiting = s.waiting) (hnext : s'.nextRequest = s.nextRequest)
    (hfree : s'.holder = none) (hempty : left' = [] ↔ left = [] ∧ report.abandons = false)
    (hmem : ∀ id, some id ∈ left' → some id ∈ left ∨ id = request) :
    WorkerAligned (out ++ [report]) s' left' := by
  obtain ⟨_, hnot, hlt⟩ := h.holder _ hholder
  refine ⟨by simp [houtstanding, hfree], abandoned_append h.abandoned hempty, ?_, ?_, ?_⟩
  · intro holder hsome
    rw [hfree] at hsome
    cases hsome
  · intro id hid
    rw [hwaiting] at hid
    rw [hnext]
    refine ⟨fun hin => ?_, (h.waiting id hid).2⟩
    rcases hmem id hin with hin | rfl
    · exact (h.waiting id hid).1 hin
    · exact hnot hid
  · intro id hid
    rw [hnext]
    rcases hmem id hid with hid | rfl
    · exact h.left id hid
    · exact hlt

/-- The line at the head of the pipe is the response to the request that reads exactly if no
request was abandoned. -/
theorem head (h : WorkerAligned out s left)
    (hholder : s.holder = some (request, phase)) {line : WorkerLine} {stdout : List WorkerLine}
    (hstdout : s.stdout = line :: stdout) :
    line.requestId? = some request ↔ left = [] := by
  have houtstanding := h.outstanding
  simp only [WorkerClient.outstanding, hstdout, hholder, List.map_cons, List.cons_append,
    Option.toList_some, List.map_nil] at houtstanding
  cases left with
  | nil =>
    have hhead : line.requestId? = some request := by
      simpa using (List.cons.inj houtstanding).1
    simp [hhead]
  | cons first rest =>
    have hhead : line.requestId? = first := (List.cons.inj houtstanding).1
    have hnot := (h.holder _ hholder).1
    simp only [reduceCtorEq, iff_false, hhead]
    intro hfirst
    exact hnot (by simp [hfirst])

/-- The rest of the pipe once its head was taken by the request that reads. -/
theorem tail (h : WorkerAligned out s left)
    (hholder : s.holder = some (request, phase)) {line : WorkerLine} {stdout : List WorkerLine}
    (hstdout : s.stdout = line :: stdout) :
    ∃ left', stdout.map WorkerLine.requestId? ++ s.written.map some = left' ∧
      (left' = [] ↔ left = []) ∧ ∀ id, some id ∈ left' → some id ∈ left ∨ id = request := by
  have houtstanding := h.outstanding
  simp only [WorkerClient.outstanding, hstdout, hholder, List.map_cons, List.cons_append,
    Option.toList_some, List.map_nil] at houtstanding
  cases left with
  | nil =>
    refine ⟨_, rfl, ?_, ?_⟩
    · simpa using (List.cons.inj houtstanding).2
    · intro id hid
      rw [(List.cons.inj houtstanding).2] at hid
      cases hid
  | cons first rest =>
    refine ⟨_, rfl, ?_, ?_⟩
    · rw [(List.cons.inj houtstanding).2]
      simp
    · intro id hid
      rw [(List.cons.inj houtstanding).2] at hid
      rcases List.mem_append.mp hid with hid | hid
      · exact .inl (List.mem_cons_of_mem _ hid)
      · exact .inr (by simpa using hid)

private theorem receive_abandons (request : ℕ) (line : WorkerLine) :
    (WorkerClient.receive request line).abandons = false := by
  unfold WorkerClient.receive
  split
  · rfl
  · split_ifs <;> rfl

/-- The request that reads gives up, and its response stays in the pipe. -/
private theorem giveUp (h : WorkerAligned out s left) (phase : WorkerPhase)
    (hholder : s.holder = some (request, phase)) {report : WorkerReport}
    (hreport : report.abandons = true) :
    WorkerAligned (out ++ [report]) { s with holder := none } (left ++ [some request]) := by
  refine h.release hholder ?_ rfl rfl rfl (by simp [hreport]) ?_
  · show s.outstanding = _
    rw [h.outstanding, hholder]
    rfl
  · intro id hid
    rcases List.mem_append.mp hid with hid | hid
    · exact .inl hid
    · exact .inr (by simpa using hid)

private theorem read (h : WorkerAligned out s left) {rest : Option ℕ} {reports : List WorkerReport}
    (hs : s.step limit (.read rest) = some (s', reports)) :
    ∃ left', WorkerAligned (out ++ reports) s' left' := by
  simp only [WorkerClient.step] at hs
  split at hs
  · rename_i request line stdout hholder hstdout
    obtain ⟨left', hleft, hempty, hmem⟩ := h.tail hholder hstdout
    split at hs
    · cases hs
      refine ⟨left', h.release hholder hleft rfl rfl rfl ?_ hmem⟩
      simp [hempty, receive_abandons]
    · split at hs
      · cases hs
        exact ⟨left', h.release hholder hleft rfl rfl rfl (by simp [hempty, WorkerReport.abandons])
          hmem⟩
      · cases hs
        refine ⟨none :: left', h.release hholder ?_ rfl rfl rfl ?_ ?_⟩
        · show none :: (stdout.map WorkerLine.requestId? ++ s.written.map some) = _
          rw [hleft]
        · simp [WorkerReport.abandons]
        · intro id hid
          exact hmem id (by simpa using hid)
  · cases hs

/-- Every step of the client keeps the order of the pipe. -/
theorem step (h : WorkerAligned out s left) {e : WorkerEvent} {reports : List WorkerReport}
    (hs : s.step limit e = some (s', reports)) :
    ∃ left', WorkerAligned (out ++ reports) s' left' := by
  cases e with
  | request =>
    cases hs
    rw [List.append_nil]
    refine ⟨left, h.outstanding, h.abandoned, ?_, ?_, ?_⟩
    · intro holder hholder
      obtain ⟨hleft, hnot, hlt⟩ := h.holder holder hholder
      refine ⟨hleft, ?_, Nat.lt_succ_of_lt hlt⟩
      simp only [List.mem_append, List.mem_singleton, not_or]
      exact ⟨hnot, Nat.ne_of_lt hlt⟩
    · intro request hrequest
      rcases List.mem_append.mp hrequest with hrequest | hrequest
      · exact ⟨(h.waiting request hrequest).1, Nat.lt_succ_of_lt (h.waiting request hrequest).2⟩
      · obtain rfl := List.mem_singleton.mp hrequest
        exact ⟨fun hin => absurd (h.left _ hin) (Nat.lt_irrefl _), Nat.lt_succ_self _⟩
    · exact fun request hrequest => Nat.lt_succ_of_lt (h.left request hrequest)
  | acquire request =>
    simp only [WorkerClient.step] at hs
    split at hs
    · rename_i hfree
      cases hs
      rw [List.append_nil]
      obtain ⟨hleft, hlt⟩ := h.waiting request hfree.2
      refine ⟨left, ?_, h.abandoned, ?_, ?_, h.left⟩
      · have houtstanding := h.outstanding
        simp only [hfree.1, Option.toList_none, List.map_nil, List.append_nil,
          WorkerClient.outstanding] at houtstanding
        simp [WorkerClient.outstanding, ← houtstanding]
      · intro holder hholder
        cases hholder
        exact ⟨hleft, by simp, hlt⟩
      · intro other hother
        exact h.waiting other (List.mem_filter.mp hother).1
    · cases hs
  | drained =>
    simp only [WorkerClient.step] at hs
    split at hs
    · rename_i request hholder
      cases hs
      rw [List.append_nil]
      refine ⟨left, ?_, h.abandoned, ?_, h.waiting, h.left⟩
      · show s.outstanding = _
        rw [h.outstanding, hholder]
        rfl
      · intro holder hsome
        cases hsome
        exact h.holder (request, .draining) hholder
    · cases hs
  | respond ok message length =>
    simp only [WorkerClient.step] at hs
    split at hs
    · rename_i request written hwritten
      cases hs
      rw [List.append_nil]
      refine ⟨left, ?_, h.abandoned, h.holder, h.waiting, h.left⟩
      have houtstanding := h.outstanding
      rw [WorkerClient.outstanding, hwritten] at houtstanding
      simp only [WorkerClient.outstanding, List.map_append, List.map_cons, List.map_nil,
        WorkerLine.requestId?, List.append_assoc, List.singleton_append]
      exact houtstanding
    · cases hs
  | read rest => exact h.read hs
  | timeout =>
    simp only [WorkerClient.step] at hs
    split at hs
    · cases hs
      exact ⟨_, h.giveUp _ ‹_› rfl⟩
    · cases hs
  | cancel request =>
    simp only [WorkerClient.step] at hs
    split at hs
    · rename_i hany
      cases hs
      obtain ⟨holder, hholder, hrequest⟩ := (Option.any_eq_true ..).mp hany
      exact ⟨_, h.giveUp holder.2 hholder rfl⟩
    · split at hs
      · cases hs
        refine ⟨left, h.outstanding, ?_, ?_, ?_, h.left⟩
        · refine abandoned_append h.abandoned ?_
          simp [WorkerReport.abandons]
        · intro holder hholder
          obtain ⟨hleft, hnot, hlt⟩ := h.holder holder hholder
          exact ⟨hleft, fun hin => hnot (List.mem_filter.mp hin).1, hlt⟩
        · exact fun other hother => h.waiting other (List.mem_filter.mp hother).1
      · cases hs

end WorkerAligned

variable {limit : ℕ} {s : WorkerClient}

theorem worker_aligned {trace : List (WorkerEvent × List WorkerReport)}
    (hrun : (workerClient limit).Run trace s) :
    ∃ left, WorkerAligned (Machine.outputs trace) s left := by
  refine hrun.induct (P := fun trace s => ∃ left, WorkerAligned (Machine.outputs trace) s left)
    ?_ ?_
  · rintro s rfl
    exact ⟨[], .initial⟩
  · intro trace s e s' out _ ih hstep
    obtain ⟨left, h⟩ := ih
    rw [Machine.outputs_append, Machine.outputs_singleton]
    exact h.step hstep

theorem receive_answers (request : ℕ) (line : WorkerLine) :
    (WorkerClient.receive request line).answers = true ↔ line.requestId? = some request := by
  unfold WorkerClient.receive WorkerLine.requestId?
  cases line.content with
  | fragment => simp [WorkerReport.answers]
  | response requestId ok message =>
    simp only
    split_ifs with hother hok <;> simp_all [WorkerReport.answers]

private theorem step_returned {s' : WorkerClient} {e : WorkerEvent}
    {reports : List WorkerReport} (hs : s.step limit e = some (s', reports)) {request : ℕ}
    {line : WorkerLine} (hreturned : .returned request line ∈ reports) :
    line.requestId? = some request := by
  cases e with
  | read rest =>
    simp only [WorkerClient.step] at hs
    split at hs
    · rename_i reader head _ _ _
      split at hs
      · cases hs
        have hreport : WorkerReport.returned request line = WorkerClient.receive reader head :=
          List.mem_singleton.mp hreturned
        have hown := (receive_answers reader head).mp (by rw [← hreport]; rfl)
        unfold WorkerClient.receive at hreport
        split at hreport
        · cases hreport
        · split_ifs at hreport
          cases hreport
          exact hown
      · split at hs <;> cases hs <;> simp at hreturned
    · cases hs
  | _ =>
    simp only [WorkerClient.step] at hs
    repeat' split at hs
    all_goals cases hs
    all_goals simp at hreturned

theorem returned_own {trace : List (WorkerEvent × List WorkerReport)}
    (hrun : (workerClient limit).Run trace s) {request : ℕ} {line : WorkerLine}
    (hreturned : .returned request line ∈ Machine.outputs trace) :
    line.requestId? = some request := by
  revert hreturned
  refine hrun.induct (P := fun trace _ => .returned request line ∈ Machine.outputs trace →
    line.requestId? = some request) (by simp) ?_
  intro trace s e s' out _ ih hstep hreturned
  rw [Machine.outputs_append, Machine.outputs_singleton] at hreturned
  rcases List.mem_append.mp hreturned with hold | hnew
  · exact ih hold
  · exact step_returned hstep hnew

/-- In every run a request returns only its own response, and the request that reads gets it,
be it a result or a refusal, exactly if no earlier request was abandoned and the line fits into
the stream: once the worker has answered everything there is a line to read. -/
theorem requests_aligned {limit : ℕ} {trace : List (WorkerEvent × List WorkerReport)}
    {s : WorkerClient} (hrun : (workerClient limit).Run trace s) :
    (∀ request line, .returned request line ∈ Machine.outputs trace →
      line.requestId? = some request) ∧
    ∀ request, s.holder = some (request, .reading) →
      (s.written = [] → s.stdout ≠ []) ∧
      ∀ rest s' out, (workerClient limit).Step s (.read rest) s' out →
        (out.any WorkerReport.answers = true ↔
          (∀ report ∈ Machine.outputs trace, report.abandons = false) ∧
            ∀ line ∈ s.stdout.head?, line.length ≤ limit) := by
  refine ⟨fun request line => returned_own hrun, ?_⟩
  intro request hholder
  obtain ⟨left, h⟩ := worker_aligned hrun
  refine ⟨?_, ?_⟩
  · intro hwritten hstdout
    have houtstanding := h.outstanding
    simp [WorkerClient.outstanding, hwritten, hstdout, hholder] at houtstanding
  · intro rest s' out hstep
    change s.step limit (.read rest) = some (s', out) at hstep
    simp only [WorkerClient.step, hholder] at hstep
    cases hstdout : s.stdout with
    | nil => simp [hstdout] at hstep
    | cons line stdout =>
      simp only [hstdout] at hstep
      have hhead := h.head hholder hstdout
      rw [← h.abandoned]
      by_cases hfits : line.length ≤ limit
      · rw [if_pos hfits] at hstep
        cases hstep
        simp [receive_answers, hhead, hfits]
      · rw [if_neg hfits] at hstep
        cases rest with
        | none =>
          cases hstep
          simp [WorkerReport.answers, hfits]
        | some length =>
          cases hstep
          simp [WorkerReport.answers, hfits]

/-- The limit of a stream of `asyncio`. -/
def streamLimit : ℕ := 65536

/-- A telemetry request times out before its response comes; the emergency stop after it reads
that response and fails, and so would every later request. -/
theorem emergency_stop_misaligned : ∃ trace s,
    (workerClient streamLimit).Run trace s ∧
      .failed 1 .identity ∈ Machine.outputs trace := by
  have hexec : ((Machine.execute (WorkerClient.step streamLimit) (fun _ _ => True) {}
      [.request, .acquire 0, .drained, .timeout, .request, .acquire 1, .drained,
        .respond true none 100, .respond true none 100, .read none]).any fun last =>
      (Machine.outputs last.2).any fun report =>
        match report with
        | .failed 1 .identity => true
        | _ => false) = true := by decide +kernel
  obtain ⟨last, hlast, hend⟩ := (Option.any_eq_true ..).mp hexec
  have hrun := (Machine.run_of_execute (M := workerClient streamLimit) rfl id hlast).of_restrict
  obtain ⟨report, hreport, hkind⟩ := List.any_eq_true.mp hend
  refine ⟨_, _, hrun, ?_⟩
  split at hkind
  · exact hreport
  · cases hkind

/-- A client whose first request has its response in the pipe. -/
private def answeredConnect : WorkerClient where
  holder := some (0, .reading)
  stdout := [⟨.response 0 true none, 100⟩]
  nextRequest := 1

/-- The first request on a fresh worker reads its own response. -/
theorem requests_aligned_connect : ∃ trace, (workerClient streamLimit).Run trace answeredConnect ∧
    ∀ rest s' out, (workerClient streamLimit).Step answeredConnect (.read rest) s' out →
      (out.any WorkerReport.answers = true ↔
        (∀ report ∈ Machine.outputs trace, report.abandons = false) ∧
          ∀ line ∈ answeredConnect.stdout.head?, line.length ≤ streamLimit) := by
  have hexec : Machine.execute (WorkerClient.step streamLimit) (fun _ _ => True) {}
      [.request, .acquire 0, .drained, .respond true none 100] =
      some (answeredConnect, [(.request, []), (.acquire 0, []), (.drained, []),
          (.respond true none 100, [])]) := rfl
  have hrun := (Machine.run_of_execute (M := workerClient streamLimit) rfl id hexec).of_restrict
  exact ⟨_, hrun, ((requests_aligned hrun).2 0 rfl).2⟩

end CitPhysicalXR.Adapters
