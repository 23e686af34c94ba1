import CitPhysicalXR.Foundation.Execution
import CitPhysicalXR.Lego.HubAdapter

/-! Whether the answer to a request reaches the call that sent it: it waits in the buffer of
the transport, which every call of the adapter empties. -/
namespace CitPhysicalXR.Lego
open Foundation

/-- A line at which no batch stops: a frame that names a request if it is an answer, and an
event with a valid name otherwise, or a bad frame. -/
def Readable (line : String) : Prop :=
  match decode line with
  | .ok frame =>
    (frame.isReply = true → (frame.integer 0).isOk = true) ∧ (queueUnsolicited frame).isOk = true
  | .error (.frame _) => True
  | .error _ => False

instance : DecidablePred Readable := fun line => by
  unfold Readable
  split <;> infer_instance

/-- The same for a frame that was read. -/
def Frame.Harmless (frame : Frame) : Prop :=
  (frame.isReply = true → (frame.integer 0).isOk = true) ∧ (queueUnsolicited frame).isOk = true

theorem readFrames_readable {lines : List String} (h : ∀ line ∈ lines, Readable line) :
    ∃ frames, (readFrames lines).1 = .ok frames ∧ (∀ frame ∈ frames, frame.Harmless) ∧
      ∀ line ∈ lines, ∀ frame, decode line = .ok frame → frame ∈ frames := by
  induction lines with
  | nil => exact ⟨[], rfl, by simp, by simp⟩
  | cons line lines ih =>
    obtain ⟨frames, hframes, hharmless, hread⟩ := ih fun l hl => h l (List.mem_cons_of_mem _ hl)
    have hline := h line List.mem_cons_self
    unfold Readable at hline
    cases hdecode : decode line with
    | ok frame =>
      rw [hdecode] at hline
      refine ⟨frame :: frames, ?_, ?_, ?_⟩
      · simp only [readFrames, hdecode, hframes]
        rfl
      · intro f hf
        rcases List.mem_cons.mp hf with rfl | hf
        · exact hline
        · exact hharmless f hf
      · intro l hl f hf
        rcases List.mem_cons.mp hl with rfl | hl
        · obtain rfl : frame = f := by simpa [hdecode] using hf
          exact List.mem_cons_self
        · exact List.mem_cons_of_mem _ (hread l hl f hf)
    | error e =>
      cases e with
      | frame message =>
        refine ⟨frames, by simp only [readFrames, hdecode, hframes], hharmless, ?_⟩
        intro l hl f hf
        rcases List.mem_cons.mp hl with rfl | hl
        · simp [hdecode] at hf
        · exact hread l hl f hf
      | value message => simp [hdecode] at hline
      | index message => simp [hdecode] at hline

theorem Frame.replyTo?_eq {frame : Frame} {sequence : ℤ} (hreply : frame.isReply = true)
    (hinteger : frame.integer 0 = .ok sequence) : frame.replyTo? = some sequence := by
  simp [Frame.replyTo?, hreply, hinteger, Except.toOption]

/-- What a batch keeps is an answer to the request. -/
theorem awaitFrame_replyTo {sequence : ℤ} {matched : Option Frame} {frames : List Frame}
    (hmatched : ∀ reply, matched = some reply → reply.replyTo? = some sequence) {reply : Frame}
    (h : (awaitFrame sequence matched frames).1 = .ok (some reply)) :
    reply.replyTo? = some sequence := by
  induction frames generalizing matched with
  | nil => exact hmatched reply (by simpa [awaitFrame] using h)
  | cons frame frames ih =>
    have hskip (hrest : (awaitFrame.unsolicited frame (awaitFrame sequence matched frames)).1 =
        .ok (some reply)) : reply.replyTo? = some sequence := by
      unfold awaitFrame.unsolicited at hrest
      split at hrest
      · cases hrest
      · exact ih hmatched hrest
    unfold awaitFrame at h
    split at h
    · rename_i hcandidate
      have hreply : frame.isReply = true := (by simpa using hcandidate : _ ∧ _).2
      split at h
      · cases h
      · rename_i named hinteger
        split at h
        · rename_i hnamed
          have hfirst : ∀ first, some frame = some first → first.replyTo? = some sequence := by
            intro first hfirst
            cases hfirst
            exact Frame.replyTo?_eq hreply (hnamed ▸ hinteger)
          exact ih hfirst h
        · exact hskip h
    · exact hskip h

/-- A batch of harmless frames that holds an answer, or has kept one, ends with an answer. -/
theorem awaitFrame_found {sequence : ℤ} (matched : Option Frame) {frames : List Frame}
    (hharmless : ∀ frame ∈ frames, frame.Harmless)
    (hfound : matched.isSome = true ∨ ∃ frame ∈ frames, frame.replyTo? = some sequence) :
    ∃ reply, (awaitFrame sequence matched frames).1 = .ok (some reply) := by
  induction frames generalizing matched with
  | nil =>
    rcases hfound with hmatched | ⟨frame, hframe, _⟩
    · obtain ⟨reply, rfl⟩ := Option.isSome_iff_exists.mp hmatched
      exact ⟨reply, rfl⟩
    · cases hframe
  | cons frame frames ih =>
    have hrest : ∀ f ∈ frames, f.Harmless := fun f hf => hharmless f (List.mem_cons_of_mem _ hf)
    obtain ⟨hinteger, hqueued⟩ := hharmless frame List.mem_cons_self
    have hskip (hfound : matched.isSome = true ∨ ∃ f ∈ frames, f.replyTo? = some sequence) :
        ∃ reply, (awaitFrame.unsolicited frame (awaitFrame sequence matched frames)).1 =
          .ok (some reply) := by
      unfold awaitFrame.unsolicited
      cases hevents : queueUnsolicited frame with
      | error e => simp [hevents, Except.isOk, Except.toBool] at hqueued
      | ok events => exact ih _ hrest hfound
    unfold awaitFrame
    split
    · rename_i hcandidate
      obtain ⟨hnone, hreply⟩ : matched.isNone = true ∧ frame.isReply = true := by
        simpa using hcandidate
      cases hnamed : frame.integer 0 with
      | error e =>
        have hok := hinteger hreply
        simp [hnamed, Except.isOk, Except.toBool] at hok
      | ok named =>
        simp only
        split
        · exact ih _ hrest (.inl rfl)
        · rename_i hother
          refine hskip (.inr ?_)
          rcases hfound with hmatched | ⟨answer, hanswer, hsequence⟩
          · simp [Option.isNone_iff_eq_none.mp hnone] at hmatched
          · rcases List.mem_cons.mp hanswer with rfl | hanswer
            · rw [Frame.replyTo?_eq hreply hnamed] at hsequence
              exact absurd (Option.some.inj hsequence) hother
            · exact ⟨answer, hanswer, hsequence⟩
    · rename_i hcandidate
      refine hskip ?_
      rcases hfound with hmatched | ⟨answer, hanswer, hsequence⟩
      · exact .inl hmatched
      · rcases List.mem_cons.mp hanswer with rfl | hanswer
        · have hreply : answer.isReply = true := by
            by_contra hnot
            simp [Frame.replyTo?, hnot] at hsequence
          left
          cases matched with
          | none => simp [hreply] at hcandidate
          | some reply => rfl
        · exact .inr ⟨answer, hanswer, hsequence⟩

namespace HubAdapter
variable {settings : HubSettings} {s : HubAdapter}

/-- The buffer holds an answer to the request. -/
def Holds (s : HubAdapter) (sequence : ℤ) : Prop :=
  ∃ line ∈ s.lines, (replyIn? line).bind Frame.replyTo? = some sequence

instance (s : HubAdapter) : DecidablePred s.Holds := fun _ => inferInstanceAs (Decidable (∃ _ ∈ _, _))

theorem replyIn?_bind {line : String} {sequence : ℤ}
    (h : (replyIn? line).bind Frame.replyTo? = some sequence) :
    ∃ frame, decode line = .ok frame ∧ frame.replyTo? = some sequence := by
  unfold replyIn? at h
  split at h
  · rename_i frame hdecode
    split at h
    · exact ⟨frame, hdecode, h⟩
    · cases h
  · cases h

/-- A call that finds its answer among readable lines returns it. -/
theorem poll_received {request : HubRequest} (hholds : s.Holds request.sequence)
    (hreadable : ∀ line ∈ s.lines, Readable line) (deadline now : ℚ) :
    ∃ reply, reply.replyTo? = some request.sequence ∧
      (s.poll request deadline now).2 = [.received request.call reply] := by
  obtain ⟨frames, hframes, hharmless, hread⟩ := readFrames_readable hreadable
  obtain ⟨line, hline, hreply⟩ := hholds
  obtain ⟨frame, hdecode, hsequence⟩ := replyIn?_bind hreply
  obtain ⟨reply, hfound⟩ := awaitFrame_found none hharmless
    (.inr ⟨frame, hread line hline frame hdecode, hsequence⟩)
  refine ⟨reply, awaitFrame_replyTo (by simp) hfound, ?_⟩
  simp only [poll, takeFrames, hframes, hfound]

/-- A call that looks into the buffer goes on, or ends with an answer to its request, by its
timeout or with an exception. -/
theorem poll_cases (s : HubAdapter) (request : HubRequest) (deadline now : ℚ) :
    ((s.poll request deadline now).2 = [] ∧
      (s.poll request deadline now).1.nextCall = s.nextCall ∧
      (s.poll request deadline now).1.requests = s.requests) ∨
    ∃ report, (s.poll request deadline now).2 = [report] ∧
      (s.poll request deadline now).1.nextCall = s.nextCall ∧
      (s.poll request deadline now).1.requests = s.drop request.call ∧
      ((∃ reply, report = .received request.call reply ∧
          reply.replyTo? = some request.sequence) ∨
        report = .offline request.call ∨ report = .raised request.call) := by
  unfold poll takeFrames
  generalize readFrames s.lines = read
  obtain ⟨frames, diagnostics⟩ := read
  cases frames with
  | error e => exact .inr ⟨_, rfl, rfl, rfl, .inr (.inr rfl)⟩
  | ok frames =>
    simp only
    have hreply (reply : Frame) (h : (awaitFrame request.sequence none frames).1 =
        .ok (some reply)) : reply.replyTo? = some request.sequence :=
      awaitFrame_replyTo (by simp) h
    generalize awaitFrame request.sequence none frames = batch at hreply ⊢
    obtain ⟨result, events⟩ := batch
    rcases result with e | _ | reply
    · exact .inr ⟨_, rfl, rfl, rfl, .inr (.inr rfl)⟩
    · simp only
      split
      · exact .inr ⟨_, rfl, rfl, rfl, .inr (.inl rfl)⟩
      · exact .inl ⟨rfl, rfl, rfl⟩
    · refine .inr ⟨_, rfl, ?_, ?_, .inl ⟨reply, rfl, hreply reply rfl⟩⟩
      · simp only [completeExecute]
        split <;> rfl
      · simp only [completeExecute]
        split <;> rfl

/-- The steps that take no answer from the request that waits for it. While the buffer holds
one, no other call empties it, no line of the buffer raises, none is dropped for lack of room,
and the send of the request does not fail. -/
def Undisturbed (settings : HubSettings) (s : HubAdapter) : HubStep → Prop
  | .poll call _ => ∀ request ∈ s.requests, s.Holds request.sequence →
      request.call = call ∧ ∀ line ∈ s.lines, Readable line
  | .tick transportConnected _ => s.connected = true → transportConnected = true →
      ∀ request ∈ s.requests, ¬ s.Holds request.sequence
  | .heartbeatSent _ => ∀ request ∈ s.requests, ¬ s.Holds request.sequence
  | .sendFailed call => ∀ request ∈ s.requests, request.call = call → ¬ s.Holds request.sequence
  | .arrive line _ => ∀ request ∈ s.requests,
      s.Holds request.sequence ∨ (replyIn? line).bind Frame.replyTo? = some request.sequence →
        settings.capacity.all fun capacity => decide (s.lines.length < capacity)
  | _ => True

instance (settings : HubSettings) (s : HubAdapter) : DecidablePred (Undisturbed settings s)
  | .poll _ _ => inferInstanceAs (Decidable (∀ _ ∈ _, _ → _ ∧ ∀ _ ∈ _, _))
  | .tick _ _ => inferInstanceAs (Decidable (_ → _ → ∀ _ ∈ _, ¬ _))
  | .heartbeatSent _ => inferInstanceAs (Decidable (∀ _ ∈ _, ¬ _))
  | .sendFailed _ => inferInstanceAs (Decidable (∀ _ ∈ _, _ → ¬ _))
  | .arrive _ _ => inferInstanceAs (Decidable (∀ _ ∈ _, _ ∨ _ → _))
  | .execute _ _ _ | .sent _ _ | .cancel _ | .stop | .stopSent _ =>
    inferInstanceAs (Decidable True)

end HubAdapter

namespace HubReport

def call : HubReport → ℕ
  | .answered call _ | .received call _ | .offline call | .raised call | .cancelled call => call

/-- The call of the report is over. -/
def ends : HubReport → Bool
  | .answered _ _ => false
  | .received _ _ | .offline _ | .raised _ | .cancelled _ => true

end HubReport

structure Accounted (out : List HubReport) (s : HubAdapter) : Prop where
  unique : (s.requests.map HubRequest.call).Nodup
  fresh : ∀ request ∈ s.requests, request.call < s.nextCall
  known : ∀ report ∈ out, report.call < s.nextCall
  ended : ∀ report ∈ out, report.ends = true → ∀ request ∈ s.requests, request.call ≠ report.call
  answered : ∀ call reply, .answered call reply ∈ out →
    (∃ request ∈ s.requests, request.call = call ∧ reply.replyTo? = some request.sequence ∧
      s.Holds request.sequence) ∨
    (∃ received, .received call received ∈ out ∧ received.replyTo? = reply.replyTo?) ∨
    .cancelled call ∈ out
  kept : ∀ call reply, .answered call reply ∈ out → .offline call ∉ out ∧ .raised call ∉ out

namespace Accounted
variable {settings : HubSettings} {out : List HubReport} {s s' : HubAdapter}

theorem initial (hrequests : s.requests = []) : Accounted [] s := by
  constructor <;> simp [hrequests]

theorem eq_of_call (h : Accounted out s) {first second : HubRequest} (hfirst : first ∈ s.requests)
    (hsecond : second ∈ s.requests) (hcall : first.call = second.call) : first = second :=
  List.inj_on_of_nodup_map h.unique hfirst hsecond hcall

/-- A step that ends no call keeps the account if it keeps the answers that are waiting. -/
theorem of_requests (h : Accounted out s) (hnext : s'.nextCall = s.nextCall)
    (hrequests : s'.requests.map (fun r => (r.call, r.sequence)) =
      s.requests.map fun r => (r.call, r.sequence))
    (hholds : ∀ request ∈ s.requests, s.Holds request.sequence → s'.Holds request.sequence) :
    Accounted out s' := by
  have hcalls : s'.requests.map HubRequest.call = s.requests.map HubRequest.call := by
    have := congrArg (List.map Prod.fst) hrequests
    simpa [List.map_map, Function.comp_def] using this
  have hmem (request : HubRequest) (hrequest : request ∈ s'.requests) :
      ∃ before ∈ s.requests, before.call = request.call := by
    have hcall : request.call ∈ s.requests.map HubRequest.call :=
      hcalls ▸ List.mem_map_of_mem hrequest
    exact List.mem_map.mp hcall
  refine ⟨hcalls ▸ h.unique, ?_, ?_, ?_, ?_, h.kept⟩
  · intro request hrequest
    obtain ⟨before, hbefore, hcall⟩ := hmem request hrequest
    rw [hnext, ← hcall]
    exact h.fresh before hbefore
  · intro report hreport
    rw [hnext]
    exact h.known report hreport
  · intro report hreport hends request hrequest
    obtain ⟨before, hbefore, hcall⟩ := hmem request hrequest
    rw [← hcall]
    exact h.ended report hreport hends before hbefore
  · intro call reply hanswered
    rcases h.answered call reply hanswered with ⟨request, hrequest, hcall, hreply, hwaits⟩ | hdone
    · left
      have hpair : (request.call, request.sequence) ∈
          s'.requests.map fun r => (r.call, r.sequence) :=
        hrequests ▸ List.mem_map_of_mem (f := fun r => (r.call, r.sequence)) hrequest
      obtain ⟨after, hafter, heq⟩ := List.mem_map.mp hpair
      obtain ⟨hsame, hsequence⟩ := Prod.mk.inj heq
      exact ⟨after, hafter, hsame.trans hcall, hsequence ▸ hreply,
        hsequence ▸ hholds request hrequest hwaits⟩
    · exact .inr hdone

/-- A step that ends one call: it has received its answer or was cancelled, or none was
waiting for it. -/
theorem drop (h : Accounted out s) {request : HubRequest} (hrequest : request ∈ s.requests)
    {report : HubReport} (hnext : s'.nextCall = s.nextCall)
    (hrequests : s'.requests = s.drop request.call)
    (hholds : ∀ other ∈ s.requests, other.call ≠ request.call → s.Holds other.sequence →
      s'.Holds other.sequence)
    (hreport : (∃ reply, report = .received request.call reply ∧
        reply.replyTo? = some request.sequence) ∨
      report = .cancelled request.call ∨
      (report = .offline request.call ∨ report = .raised request.call) ∧
        ¬ s.Holds request.sequence) :
    Accounted (out ++ [report]) s' := by
  have hcall : report.call = request.call := by
    rcases hreport with ⟨_, rfl, _⟩ | rfl | ⟨rfl | rfl, _⟩ <;> rfl
  have hplain (call : ℕ) (reply : Frame) (hmem : HubReport.answered call reply ∈ out ++ [report]) :
      .answered call reply ∈ out := by
    rcases List.mem_append.mp hmem with hmem | hmem
    · exact hmem
    · obtain rfl := List.mem_singleton.mp hmem
      rcases hreport with ⟨_, hr, _⟩ | hr | ⟨hr | hr, _⟩ <;> cases hr
  have hkeep {other : HubRequest} (hother : other ∈ s'.requests) :
      other ∈ s.requests ∧ other.call ≠ request.call := by
    rw [hrequests] at hother
    simpa [HubAdapter.drop] using hother
  -- an answered call that is over now was answered to itself
  have hself (reply : Frame) (hmem : .answered request.call reply ∈ out) :
      reply.replyTo? = some request.sequence ∧ s.Holds request.sequence := by
    rcases h.answered _ reply hmem with ⟨waiting, hwaiting, hsame, hreply, hwaits⟩ |
      ⟨received, hreceived, _⟩ | hcancelled
    · obtain rfl := h.eq_of_call hwaiting hrequest hsame
      exact ⟨hreply, hwaits⟩
    · exact absurd rfl (h.ended _ hreceived rfl request hrequest)
    · exact absurd rfl (h.ended _ hcancelled rfl request hrequest)
  refine ⟨?_, ?_, ?_, ?_, ?_, ?_⟩
  · rw [hrequests]
    exact h.unique.sublist (List.filter_sublist.map _)
  · intro other hother
    rw [hnext]
    exact h.fresh other (hkeep hother).1
  · intro other hother
    rw [hnext]
    rcases List.mem_append.mp hother with hother | hother
    · exact h.known other hother
    · obtain rfl := List.mem_singleton.mp hother
      rw [hcall]
      exact h.fresh request hrequest
  · intro other hother hends pending hpending
    rcases List.mem_append.mp hother with hother | hother
    · exact h.ended other hother hends pending (hkeep hpending).1
    · obtain rfl := List.mem_singleton.mp hother
      rw [hcall]
      exact (hkeep hpending).2
  · intro call reply hmem
    have hold := hplain call reply hmem
    by_cases hthis : call = request.call
    · subst hthis
      right
      obtain ⟨hreply, hwaits⟩ := hself reply hold
      rcases hreport with ⟨received, rfl, hreceived⟩ | rfl | ⟨_, hnone⟩
      · exact .inl ⟨received, by simp, hreceived.trans hreply.symm⟩
      · exact .inr (by simp)
      · exact absurd hwaits hnone
    · rcases h.answered call reply hold with ⟨waiting, hwaiting, hsame, hreply, hwaits⟩ |
        ⟨received, hreceived, hsame⟩ | hcancelled
      · left
        have hother : waiting.call ≠ request.call := hsame ▸ hthis
        refine ⟨waiting, ?_, hsame, hreply, hholds waiting hwaiting hother hwaits⟩
        rw [hrequests]
        simp [HubAdapter.drop, hwaiting, hother]
      · exact .inr (.inl ⟨received, List.mem_append_left _ hreceived, hsame⟩)
      · exact .inr (.inr (List.mem_append_left _ hcancelled))
  · intro call reply hmem
    have hold := hplain call reply hmem
    have hnot {lost : HubReport} (hlost : lost = .offline call ∨ lost = .raised call) :
        lost ∉ [report] := by
      intro hin
      obtain rfl := List.mem_singleton.mp hin
      rcases hreport with ⟨_, hr, _⟩ | hr | ⟨_, hnone⟩
      · rcases hlost with hl | hl <;> rw [hr] at hl <;> cases hl
      · rcases hlost with hl | hl <;> rw [hr] at hl <;> cases hl
      · have hthis : call = request.call := by
          rw [← hcall]
          rcases hlost with hl | hl <;> rw [hl] <;> rfl
        subst hthis
        exact hnone (hself reply hold).2
    have hbefore := h.kept call reply hold
    refine ⟨?_, ?_⟩
    · exact fun hin => (List.mem_append.mp hin).elim hbefore.1 (hnot (.inl rfl))
    · exact fun hin => (List.mem_append.mp hin).elim hbefore.2 (hnot (.inr rfl))

theorem of_drained (h : Accounted out s) (hnext : s'.nextCall = s.nextCall)
    (hrequests : s'.requests = s.requests)
    (hnone : ∀ request ∈ s.requests, ¬ s.Holds request.sequence) : Accounted out s' :=
  h.of_requests hnext (by rw [hrequests]) fun request hrequest hwaits =>
    absurd hwaits (hnone request hrequest)

theorem of_lines (h : Accounted out s) (hnext : s'.nextCall = s.nextCall)
    (hrequests : s'.requests = s.requests) (hlines : s'.lines = s.lines) : Accounted out s' := by
  refine h.of_requests hnext (by rw [hrequests]) ?_
  intro request _ hwaits
  unfold HubAdapter.Holds
  rw [hlines]
  exact hwaits

private theorem drainTransport_eq (s : HubAdapter) :
    s.drainTransport.1.requests = s.requests ∧ s.drainTransport.1.nextCall = s.nextCall := by
  unfold HubAdapter.drainTransport HubAdapter.takeFrames
  generalize readFrames s.lines = read
  obtain ⟨frames, diagnostics⟩ := read
  cases frames with
  | error e => exact ⟨rfl, rfl⟩
  | ok frames =>
    simp only
    generalize HubAdapter.queueAll frames = queued
    obtain ⟨result, events⟩ := queued
    cases result <;> exact ⟨rfl, rfl⟩

private theorem beginExecute (h : Accounted out s) (operation : Operation)
    (arguments : List String) (now : ℚ) :
    Accounted out (s.beginExecute operation arguments now) := by
  unfold HubAdapter.beginExecute
  simp only
  split
  · exact h
  · split
    · exact h.of_lines rfl rfl rfl
    · rename_i frame _
      refine ⟨?_, ?_, ?_, ?_, ?_, h.kept⟩
      · rw [List.map_append]
        refine List.nodup_append'.mpr ⟨h.unique, List.nodup_singleton _, ?_⟩
        intro call hcall hnew
        obtain ⟨request, hrequest, rfl⟩ := List.mem_map.mp hcall
        have hlt := h.fresh request hrequest
        simp at hnew
        omega
      · intro request hrequest
        rcases List.mem_append.mp hrequest with hrequest | hrequest
        · exact Nat.lt_succ_of_lt (h.fresh request hrequest)
        · obtain rfl := List.mem_singleton.mp hrequest
          exact Nat.lt_succ_self _
      · intro report hreport
        exact Nat.lt_succ_of_lt (h.known report hreport)
      · intro report hreport hends request hrequest
        rcases List.mem_append.mp hrequest with hrequest | hrequest
        · exact h.ended report hreport hends request hrequest
        · obtain rfl := List.mem_singleton.mp hrequest
          exact (h.known report hreport).ne'
      · intro call reply hanswered
        rcases h.answered call reply hanswered with ⟨request, hrequest, hwaits⟩ | hdone
        · exact .inl ⟨request, List.mem_append_left _ hrequest, hwaits⟩
        · exact .inr hdone

private theorem beginTick (h : Accounted out s) {transportConnected : Bool} {now : ℚ}
    (hok : s.Undisturbed settings (.tick transportConnected now)) :
    Accounted out (s.beginTick settings transportConnected now) := by
  unfold HubAdapter.beginTick
  split
  · exact h
  · rename_i hconnected
    split
    · exact h.of_lines rfl rfl rfl
    · rename_i htransport
      have hnone := hok (by simpa using hconnected) (by simpa using htransport)
      have hdrained := drainTransport_eq s
      generalize s.drainTransport = result at hdrained ⊢
      obtain ⟨drained, returned⟩ := result
      cases returned with
      | false => exact h.of_drained hdrained.2 hdrained.1 hnone
      | true =>
        simp only
        split
        · exact h.of_drained hdrained.2 hdrained.1 hnone
        · exact h.of_drained hdrained.2 hdrained.1 hnone

private theorem poll (h : Accounted out s) {request : HubRequest} (deadline : ℚ) {now : ℚ}
    (hrequest : request ∈ s.requests) (hok : s.Undisturbed settings (.poll request.call now)) :
    Accounted (out ++ (s.poll request deadline now).2) (s.poll request deadline now).1 := by
  have hother : ∀ other ∈ s.requests, other.call ≠ request.call → s.Holds other.sequence →
      (s.poll request deadline now).1.Holds other.sequence := by
    intro other hmem hne hwaits
    exact absurd (hok other hmem hwaits).1 hne
  have hreceived (hwaits : s.Holds request.sequence) :
      ∃ reply, reply.replyTo? = some request.sequence ∧
        (s.poll request deadline now).2 = [.received request.call reply] :=
    HubAdapter.poll_received hwaits (hok request hrequest hwaits).2 deadline now
  rcases s.poll_cases request deadline now with ⟨hout, hnext, hrequests⟩ |
    ⟨report, hout, hnext, hrequests, hreport⟩
  · have hnone : ∀ other ∈ s.requests, ¬ s.Holds other.sequence := by
      intro other hmem hwaits
      obtain rfl := h.eq_of_call hmem hrequest (hok other hmem hwaits).1
      obtain ⟨reply, _, hfound⟩ := hreceived hwaits
      rw [hout] at hfound
      cases hfound
    rw [hout, List.append_nil]
    exact h.of_drained hnext hrequests hnone
  · rw [hout]
    refine h.drop hrequest hnext hrequests hother ?_
    rcases hreport with hreply | hlost
    · exact .inl hreply
    · refine .inr (.inr ⟨hlost, fun hwaits => ?_⟩)
      obtain ⟨reply, _, hfound⟩ := hreceived hwaits
      rw [hout] at hfound
      rcases hlost with rfl | rfl <;> cases hfound

private theorem mem_answersTo {line : String} {now : ℚ} {report : HubReport}
    (hreport : report ∈ s.answersTo line now) :
    ∃ request ∈ s.requests, ∃ reply, report = .answered request.call reply ∧
      HubAdapter.replyIn? line = some reply ∧ reply.replyTo? = some request.sequence := by
  unfold HubAdapter.answersTo at hreport
  split at hreport
  · cases hreport
  · rename_i reply hline
    obtain ⟨request, hrequest, rfl⟩ := List.mem_map.mp hreport
    obtain ⟨hmem, hanswers⟩ := List.mem_filter.mp hrequest
    simp only [Bool.and_eq_true, decide_eq_true_eq] at hanswers
    exact ⟨request, hmem, reply, rfl, hline, hanswers.1⟩

private theorem arrive (h : Accounted out s) {line : String} {now : ℚ}
    (hok : s.Undisturbed settings (.arrive line now)) :
    Accounted (out ++ s.answersTo line now) { s with lines := s.keepLine settings line } := by
  have hroom (request : HubRequest) (hrequest : request ∈ s.requests)
      (hneeds : s.Holds request.sequence ∨
        (HubAdapter.replyIn? line).bind Frame.replyTo? = some request.sequence) :
      s.keepLine settings line = s.lines ++ [line] := by
    have hfree := hok request hrequest hneeds
    unfold HubAdapter.keepLine
    cases hcapacity : settings.capacity with
    | none => rfl
    | some capacity =>
      have hlt : s.lines.length < capacity := by simpa [hcapacity] using hfree
      have hzero : s.lines.length + 1 - capacity = 0 := by omega
      simp only [hzero, List.drop_zero]
  have hplain {report : HubReport} (hends : report.ends = true)
      (hmem : report ∈ out ++ s.answersTo line now) : report ∈ out := by
    rcases List.mem_append.mp hmem with hmem | hmem
    · exact hmem
    · obtain ⟨_, _, _, rfl, _⟩ := mem_answersTo hmem
      cases hends
  refine ⟨h.unique, h.fresh, ?_, ?_, ?_, ?_⟩
  · intro report hreport
    rcases List.mem_append.mp hreport with hreport | hreport
    · exact h.known report hreport
    · obtain ⟨request, hrequest, _, rfl, _⟩ := mem_answersTo hreport
      exact h.fresh request hrequest
  · intro report hreport hends
    exact h.ended report (hplain hends hreport) hends
  · intro call reply hanswered
    rcases List.mem_append.mp hanswered with hold | hnew
    · rcases h.answered call reply hold with
        ⟨request, hrequest, hcall, hreply, line', hline', hwaits⟩ |
        ⟨received, hreceived, hsame⟩ | hcancelled
      · refine .inl ⟨request, hrequest, hcall, hreply, line', ?_, hwaits⟩
        show line' ∈ s.keepLine settings line
        rw [hroom request hrequest (.inl ⟨line', hline', hwaits⟩)]
        exact List.mem_append_left _ hline'
      · exact .inr (.inl ⟨received, List.mem_append_left _ hreceived, hsame⟩)
      · exact .inr (.inr (List.mem_append_left _ hcancelled))
    · obtain ⟨request, hrequest, found, heq, hline, hreply⟩ := mem_answersTo hnew
      cases heq
      have hanswers : (HubAdapter.replyIn? line).bind Frame.replyTo? = some request.sequence := by
        rw [hline]
        exact hreply
      refine .inl ⟨request, hrequest, rfl, hreply, line, ?_, hanswers⟩
      show line ∈ s.keepLine settings line
      rw [hroom request hrequest (.inr hanswers)]
      simp
  · intro call reply hanswered
    have hbefore : .offline call ∉ out ∧ .raised call ∉ out := by
      rcases List.mem_append.mp hanswered with hold | hnew
      · exact h.kept call reply hold
      · obtain ⟨request, hrequest, _, heq, _⟩ := mem_answersTo hnew
        cases heq
        exact ⟨fun hin => h.ended _ hin rfl request hrequest rfl,
          fun hin => h.ended _ hin rfl request hrequest rfl⟩
    exact ⟨fun hin => hbefore.1 (hplain rfl hin), fun hin => hbefore.2 (hplain rfl hin)⟩

theorem step (h : Accounted out s) {e : HubStep} {reports : List HubReport}
    (hok : s.Undisturbed settings e) (hs : s.step settings e = some (s', reports)) :
    Accounted (out ++ reports) s' := by
  cases e with
  | execute operation arguments now =>
    cases hs
    rw [List.append_nil]
    exact h.beginExecute operation arguments now
  | sent call now =>
    simp only [HubAdapter.step] at hs
    split at hs
    · cases hs
      rw [List.append_nil]
      refine h.of_requests rfl ?_ fun _ _ hwaits => hwaits
      rw [List.map_map]
      refine List.map_congr_left fun request _ => ?_
      simp only [Function.comp_apply]
      split <;> rfl
    · cases hs
  | sendFailed call =>
    simp only [HubAdapter.step] at hs
    split at hs
    · rename_i hany
      cases hs
      obtain ⟨request, hrequest, hsending⟩ := List.any_eq_true.mp hany
      obtain ⟨rfl, _⟩ := of_decide_eq_true hsending
      exact h.drop hrequest rfl rfl (fun _ _ _ hwaits => hwaits)
        (.inr (.inr ⟨.inl rfl, hok request hrequest rfl⟩))
    · cases hs
  | poll call now =>
    simp only [HubAdapter.step] at hs
    split at hs
    · rename_i request hfind
      obtain ⟨deadline, _, hresult⟩ := Option.map_eq_some_iff.mp hs
      have hrequest := List.mem_of_find?_eq_some hfind
      obtain rfl : request.call = call := by simpa using List.find?_some hfind
      have hpoll := h.poll deadline hrequest hok
      rw [hresult] at hpoll
      exact hpoll
    · cases hs
  | cancel call =>
    simp only [HubAdapter.step] at hs
    split at hs
    · rename_i hany
      cases hs
      obtain ⟨request, hrequest, hcall⟩ := List.any_eq_true.mp hany
      obtain rfl := of_decide_eq_true hcall
      exact h.drop hrequest rfl rfl (fun _ _ _ hwaits => hwaits) (.inr (.inl rfl))
    · cases hs
  | tick transportConnected now =>
    cases hs
    rw [List.append_nil]
    exact h.beginTick hok
  | heartbeatSent reached =>
    simp only [HubAdapter.step] at hs
    split at hs
    · cases hs
      rw [List.append_nil]
      have hdrained := drainTransport_eq
        ({ s with heartbeats := s.heartbeats - 1 }.sentBestEffort reached)
      exact h.of_drained hdrained.2 hdrained.1 hok
    · cases hs
  | stop =>
    cases hs
    rw [List.append_nil]
    exact h.of_lines rfl rfl rfl
  | stopSent reached =>
    simp only [HubAdapter.step] at hs
    split at hs
    · cases hs
      rw [List.append_nil]
      exact h.of_lines rfl rfl rfl
    · cases hs
  | arrive line now =>
    cases hs
    exact h.arrive hok

end Accounted

/-- In every run in which no call takes the answer of another: an answer that arrived at the
transport before the timeout of its request was received by the call that sent the request,
unless that call was cancelled or still waits with the answer in the buffer; and no such call
ended as DEVICE_OFFLINE or with an exception. -/
theorem acknowledgement_received {settings : HubSettings}
    {trace : List (HubStep × List HubReport)} {s : HubAdapter}
    (hrun : ((hubAdapter settings).restrict fun s e => s.Undisturbed settings e).Run trace s)
    {call : ℕ} {reply : Frame} (hanswered : .answered call reply ∈ Machine.outputs trace) :
    ((∃ request ∈ s.requests, request.call = call ∧ s.Holds request.sequence) ∨
      (∃ received, .received call received ∈ Machine.outputs trace ∧
        received.replyTo? = reply.replyTo?) ∨
      .cancelled call ∈ Machine.outputs trace) ∧
    .offline call ∉ Machine.outputs trace ∧ .raised call ∉ Machine.outputs trace := by
  have haccounted : Accounted (Machine.outputs trace) s := by
    refine hrun.induct (P := fun trace s => Accounted (Machine.outputs trace) s) ?_ ?_
    · intro s hinit
      exact .initial hinit.1
    · intro trace s e s' out _ ih hstep
      rw [Machine.outputs_append, Machine.outputs_singleton]
      exact ih.step hstep.1 hstep.2
  refine ⟨?_, haccounted.kept call reply hanswered⟩
  rcases haccounted.answered call reply hanswered with
    ⟨request, hrequest, hcall, _, hwaits⟩ | hdone
  · exact .inl ⟨request, hrequest, hcall, hwaits⟩
  · exact .inr hdone

/-- A hub on the shipped limits, connected at time 0. -/
private def shippedSettings : HubSettings := ⟨1 / 2, 1 / 5, some 256⟩

private def freshHub : HubAdapter :=
  { connected := true, available := true, sequence := 1, lastHeartbeatAt := some 0 }

private def acknowledgedStop : List HubStep :=
  [.execute .motorStop ["ALL"] (1 / 10), .sent 0 (1 / 10), .poll 0 (1 / 10),
    .arrive "C1|9|ACK|2\n" (11 / 100)]

private def isOffline : HubReport → Bool
  | .offline _ => true
  | _ => false

private def isAnswered : HubReport → Bool
  | .answered _ _ => true
  | _ => false

/-- A tick between two looks into the buffer takes the acknowledgement: the command is
reported as DEVICE_OFFLINE and the link is lost. -/
theorem acknowledgement_stolen : ∃ trace s, (hubAdapter shippedSettings).Run trace s ∧
    s.connected = false ∧ (Machine.outputs trace).any isAnswered = true ∧
    (Machine.outputs trace).any isOffline = true := by
  have hexec : ((Machine.execute (HubAdapter.step shippedSettings) (fun _ _ => True) freshHub
      (acknowledgedStop ++ [HubStep.tick true (12 / 100), .poll 0 (61 / 100)])).any fun last =>
      !last.1.connected && (Machine.outputs last.2).any isAnswered &&
        (Machine.outputs last.2).any isOffline) = true := by
    decide +kernel
  obtain ⟨last, hlast, hend⟩ := (Option.any_eq_true ..).mp hexec
  have hrun := (Machine.run_of_execute (M := hubAdapter shippedSettings)
    ⟨rfl, rfl, rfl, rfl⟩ id hlast).of_restrict
  refine ⟨_, _, hrun, ?_⟩
  simpa [and_assoc] using hend

/-- Without the tick the call receives the acknowledgement. -/
theorem acknowledgement_received_stop : ∃ trace s call reply,
    ((hubAdapter shippedSettings).restrict fun s e =>
      s.Undisturbed shippedSettings e).Run trace s ∧
    .answered call reply ∈ Machine.outputs trace ∧
    .offline call ∉ Machine.outputs trace ∧ .raised call ∉ Machine.outputs trace := by
  have hexec : ((Machine.execute (HubAdapter.step shippedSettings)
      (fun s e => s.Undisturbed shippedSettings e) freshHub
      (acknowledgedStop ++ [HubStep.poll 0 (12 / 100)])).any fun last =>
      (Machine.outputs last.2).any isAnswered) = true := by
    decide +kernel
  obtain ⟨last, hlast, hend⟩ := (Option.any_eq_true ..).mp hexec
  have hrun := Machine.run_of_execute (M := hubAdapter shippedSettings)
    ⟨rfl, rfl, rfl, rfl⟩ id hlast
  obtain ⟨report, hreport, hkind⟩ := List.any_eq_true.mp hend
  cases report with
  | answered call reply =>
    exact ⟨_, _, call, reply, hrun, hreport, (acknowledgement_received hrun hreport).2⟩
  | _ => cases hkind

end CitPhysicalXR.Lego
