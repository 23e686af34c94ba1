import CitPhysicalXR.Lego.Acknowledgement
import CitPhysicalXR.Lego.HubLink
import CitPhysicalXR.Lego.MalformedLines

/-! How a reply comes about: which line of the buffer a call takes it from, which frames the hub
answers by a line, and which lines and requests a step of the adapter leaves. -/
namespace CitPhysicalXR.Lego
open Foundation

theorem namesRequest_eq {sequence : ℤ} {line : String} : namesRequest sequence line =
    match decode line with
    | .ok frame => decide (frame.replyTo? = some sequence)
    | .error _ => false := by
  unfold namesRequest HubAdapter.replyIn?
  cases decode line with
  | error e => rfl
  | ok frame =>
    simp only
    split
    · rfl
    · rename_i hreply
      simp [Frame.replyTo?, hreply]

theorem readFrames_find {lines : List String} {frames : List Frame}
    (h : (readFrames lines).1 = .ok frames) {p : Frame → Bool} {reply : Frame}
    (hfind : frames.find? p = some reply) : ∃ line, decode line = .ok reply ∧
      lines.find? (fun line => match decode line with
        | .ok frame => p frame
        | .error _ => false) = some line := by
  induction lines generalizing frames with
  | nil =>
    obtain rfl : [] = frames := Except.ok.inj h
    cases hfind
  | cons line lines ih =>
    cases hdecode : decode line with
    | error e =>
      cases e with
      | frame message =>
        simp only [readFrames, hdecode] at h
        obtain ⟨found, hfound, hline⟩ := ih h hfind
        exact ⟨found, hfound, by simp [hdecode, hline]⟩
      | value message => simp [readFrames, hdecode] at h
      | index message => simp [readFrames, hdecode] at h
    | ok frame =>
      simp only [readFrames, hdecode] at h
      obtain ⟨rest, hrest, rfl⟩ := map_eq_ok.mp h
      rw [List.find?_cons] at hfind
      cases hp : p frame with
      | true =>
        simp only [hp, Option.some.injEq] at hfind
        subst hfind
        exact ⟨line, hdecode, by simp [hdecode, hp]⟩
      | false =>
        simp only [hp] at hfind
        obtain ⟨found, hfound, hline⟩ := ih hrest hfind
        exact ⟨found, hfound, by simp [hdecode, hp, hline]⟩

theorem awaitFrame_matched {sequence : ℤ} {first reply : Frame} {frames : List Frame}
    (h : (awaitFrame sequence (some first) frames).1 = .ok (some reply)) : first = reply := by
  induction frames with
  | nil => simpa [awaitFrame] using h
  | cons frame frames ih =>
    simp only [awaitFrame, Option.isNone_some, Bool.false_and, Bool.false_eq_true, if_false,
      awaitFrame.unsolicited] at h
    split at h
    · cases h
    · exact ih h

/-- A request takes the first frame of the batch that names it. -/
theorem awaitFrame_find {sequence : ℤ} {frames : List Frame} {reply : Frame}
    (h : (awaitFrame sequence none frames).1 = .ok (some reply)) :
    frames.find? (fun frame => decide (frame.replyTo? = some sequence)) = some reply := by
  induction frames with
  | nil => simp [awaitFrame] at h
  | cons frame frames ih =>
    have hskip (hnot : frame.replyTo? ≠ some sequence)
        (hrest : (awaitFrame.unsolicited frame (awaitFrame sequence none frames)).1 =
          .ok (some reply)) : (frame :: frames).find? (fun frame =>
            decide (frame.replyTo? = some sequence)) = some reply := by
      unfold awaitFrame.unsolicited at hrest
      split at hrest
      · cases hrest
      · rw [List.find?_cons_of_neg (by simpa using hnot)]
        exact ih hrest
    simp only [awaitFrame, Option.isNone_none, Bool.true_and] at h
    split at h
    · rename_i hreply
      split at h
      · cases h
      · rename_i named hnamed
        have hname := Frame.replyTo?_eq hreply hnamed
        split at h
        · rename_i heq
          obtain rfl := awaitFrame_matched h
          rw [List.find?_cons_of_pos (by simp [hname, heq])]
        · rename_i hne
          refine hskip ?_ h
          rw [hname]
          exact fun heq => hne (Option.some.inj heq)
    · rename_i hreply
      refine hskip ?_ h
      simp [Frame.replyTo?, hreply]

theorem awaitHello_matched {recording : Bool} {first reply : Frame} {frames : List Frame}
    (h : (awaitHello recording (some first) frames).1 = .ok (some reply)) : first = reply := by
  induction frames with
  | nil => simpa [awaitHello] using h
  | cons frame frames ih =>
    simp only [awaitHello, Option.isNone_some, Bool.false_and, Bool.false_eq_true, if_false] at h
    split at h
    · cases h
    · exact ih h

/-- A handshake takes the first `HELLO` of the batch. -/
theorem awaitHello_find {recording : Bool} {frames : List Frame} {reply : Frame}
    (h : (awaitHello recording none frames).1 = .ok (some reply)) :
    frames.find? (fun frame => decide (frame.operation = .hello)) = some reply := by
  induction frames with
  | nil => simp [awaitHello] at h
  | cons frame frames ih =>
    simp only [awaitHello, Option.isNone_none, Bool.true_and] at h
    split at h
    · rename_i hhello
      obtain rfl := awaitHello_matched h
      exact List.find?_cons_of_pos hhello
    · rename_i hhello
      rw [List.find?_cons_of_neg (by simpa using hhello)]
      split at h
      · cases h
      · exact ih h

namespace Hub
variable {operation line : String} {number : ℤ}

theorem IsAnswerLine.decode (h : IsAnswerLine number operation line) :
    ∃ frame, decode line = .ok frame ∧
      IsAnswer number operation frame.operation.value frame.arguments := by
  obtain ⟨own, name, arguments, hanswer, hline⟩ := h
  obtain ⟨frame, -, rfl, rfl, rfl⟩ := encodeFrame_ok hline
  exact ⟨frame, decode_of_strip (stripLineEnd_text frame), hanswer⟩

theorem IsAnswerLine.namesRequest {n : ℕ} (h : IsAnswerLine n operation line) {sequence : ℤ}
    (hnames : namesRequest sequence line = true) : sequence = n := by
  obtain ⟨frame, hdecode, hanswer⟩ := h.decode
  rw [namesRequest_eq, hdecode, decide_eq_true_eq] at hnames
  have hnumber {arguments : List String}
      (hfirst : frame.arguments = toString (n : ℤ) :: arguments) : sequence = n := by
    have hint : TextRules.cpython.toInt? (toString (n : ℤ)) = some (n : ℤ) :=
      TextRules.cpython.toInt?_toString n
    have hargument : frame.argument 0 = .ok (toString (n : ℤ)) := by
      simp [Frame.argument, hfirst]
    have hinteger : frame.integer 0 = .ok (n : ℤ) := by
      rw [Frame.integer, bind_eq_ok]
      exact ⟨_, hargument, by rw [hint]⟩
    unfold Frame.replyTo? at hnames
    split at hnames
    · rw [hinteger] at hnames
      exact (Option.some.inj hnames).symm
    · cases hnames
  have hnot (other : Operation) (hother : other ≠ .ack ∧ other ≠ .error)
      (hvalue : frame.operation.value = other.value) : sequence = n := by
    have hsame := Operation.value_injective hvalue
    simp [Frame.replyTo?, Frame.isReply, hsame, hother] at hnames
  generalize hname : frame.operation.value = name at hanswer
  generalize harguments : frame.arguments = arguments at hanswer
  cases hanswer with
  | ack => exact hnumber harguments
  | error code => exact hnumber harguments
  | telemetry => exact hnot .telemetry (by decide) hname
  | hello => exact hnot .hello (by decide) hname

theorem IsAnswerLine.bringsHello (h : IsAnswerLine number operation line)
    (hhello : bringsHello line = true) : operation = "HELLO" := by
  obtain ⟨frame, hdecode, hanswer⟩ := h.decode
  rw [Lego.bringsHello, hdecode, decide_eq_true_eq] at hhello
  rw [hhello] at hanswer
  generalize hname : Operation.hello.value = name at hanswer
  generalize frame.arguments = arguments at hanswer
  cases hanswer with
  | ack => exact absurd hname (by decide)
  | error code => exact absurd hname (by decide)
  | telemetry arguments => exact absurd hname (by decide)
  | hello arguments h => exact h

theorem answeredAs?_nonneg {rules : TextRules} (hknown : rules ∈ TextRules.interpreters)
    {answered : ℤ × String} (h : answeredAs? rules line = some answered) :
    ∃ n : ℕ, answered.1 = n := by
  unfold answeredAs? at h
  split at h
  · rename_i number operation arguments hdecode
    obtain ⟨sequence, _, hsequence, _⟩ :=
      decodeFrame_isLine (TextRules.plainDigits_of_mem hknown) hdecode
    cases h
    exact ⟨sequence, hsequence⟩
  · cases h
    exact ⟨0, rfl⟩
  · cases h

theorem answeredAs?_encodeLine {rules : TextRules} (hknown : rules ∈ TextRules.interpreters)
    (frame : Frame) : answeredAs? rules frame.encodeLine =
      some (frame.sequence, frame.operation.value) := by
  have hplain := TextRules.plainDigits_of_mem hknown
  obtain ⟨sequence, arguments, hsequence, hline⟩ := IsLine.of_frame hplain frame
  rw [answeredAs?, decodeFrame_of_isLine hplain hline, hsequence]

end Hub

namespace HubAdapter
variable {settings : HubSettings} {s s' : HubAdapter}

/-- A step reads all of its lines or none, and brings no new request. -/
structure Settles (s s' : HubAdapter) : Prop where
  lines : s'.lines = s.lines ∨ s'.lines = []
  requests : ∀ request ∈ s'.requests, ∃ before ∈ s.requests,
    before.call = request.call ∧ before.sequence = request.sequence

theorem Settles.of_same (hlines : s'.lines = s.lines ∨ s'.lines = [])
    (hrequests : s'.requests ⊆ s.requests) : Settles s s' :=
  ⟨hlines, fun request hrequest => ⟨request, hrequests hrequest, rfl, rfl⟩⟩

theorem drop_subset (s : HubAdapter) (call : ℕ) : s.drop call ⊆ s.requests :=
  List.filter_subset_self _

theorem drainTransport_settles (s : HubAdapter) : Settles s s.drainTransport.1 := by
  unfold drainTransport takeFrames
  generalize readFrames s.lines = read
  obtain ⟨frames, diagnostics⟩ := read
  cases frames with
  | error e => exact .of_same (.inr rfl) (List.Subset.refl _)
  | ok frames =>
    simp only
    generalize queueAll frames = queued
    obtain ⟨result, events⟩ := queued
    cases result <;> exact .of_same (.inr rfl) (List.Subset.refl _)

theorem poll_lines (s : HubAdapter) (request : HubRequest) (deadline now : ℚ) :
    (s.poll request deadline now).1.lines = [] := by
  unfold poll takeFrames
  generalize readFrames s.lines = read
  obtain ⟨frames, diagnostics⟩ := read
  cases frames with
  | error e => rfl
  | ok frames =>
    simp only
    generalize awaitFrame request.sequence none frames = batch
    obtain ⟨result, events⟩ := batch
    rcases result with e | _ | reply
    · rfl
    · simp only
      split <;> rfl
    · simp only [completeExecute]
      split <;> rfl

theorem poll_settles (s : HubAdapter) (request : HubRequest) (deadline now : ℚ) :
    Settles s (s.poll request deadline now).1 := by
  apply Settles.of_same (.inr (s.poll_lines request deadline now))
  rcases s.poll_cases request deadline now with ⟨-, -, hrequests⟩ | ⟨_, -, -, hrequests, -⟩
  · rw [hrequests]
    exact List.Subset.refl _
  · rw [hrequests]
    exact s.drop_subset request.call

/-- What a look into the buffer hands over is the first line of it that names the request. -/
theorem poll_taken {request : HubRequest} {deadline now : ℚ} {call : ℕ} {reply : Frame}
    (h : .received call reply ∈ (s.poll request deadline now).2) : ∃ line,
    decode line = .ok reply ∧
      s.lines.find? (fun line => namesRequest request.sequence line) = some line := by
  unfold poll takeFrames at h
  cases hread : (readFrames s.lines).1 with
  | error e => simp [hread] at h
  | ok frames =>
    simp only [hread] at h
    cases hbatch : (awaitFrame request.sequence none frames).1 with
    | error e => simp [hbatch] at h
    | ok found =>
      cases found with
      | none =>
        simp only [hbatch] at h
        split at h <;> simp at h
      | some first =>
        simp only [hbatch, List.mem_singleton] at h
        obtain ⟨rfl, rfl⟩ := HubReport.received.inj h
        obtain ⟨line, hline, hfind⟩ := readFrames_find hread (awaitFrame_find hbatch)
        refine ⟨line, hline, ?_⟩
        simpa only [namesRequest_eq] using hfind

/-- A tick sends a heartbeat only when one is due on a link that is up. -/
theorem beginTick_cases (transportConnected : Bool) (now : ℚ) :
    Settles s (s.beginTick settings transportConnected now) ∧
    (s.heartbeats < (s.beginTick settings transportConnected now).heartbeats →
      s.connected = true ∧ transportConnected = true ∧
        (s.lastHeartbeatAt.all fun last =>
          decide (settings.heartbeatIntervalSeconds ≤ now - last)) = true ∧
        (s.beginTick settings transportConnected now).sequence = nextSequence s.sequence) := by
  have hdrained := s.drainTransport_settles
  have hbeats : s.drainTransport.1.heartbeats = s.heartbeats := by
    unfold drainTransport takeFrames
    generalize readFrames s.lines = read
    obtain ⟨frames, diagnostics⟩ := read
    cases frames with
    | error e => rfl
    | ok frames =>
      simp only
      generalize queueAll frames = queued
      obtain ⟨result, events⟩ := queued
      cases result <;> rfl
  unfold beginTick
  split
  · exact ⟨.of_same (.inl rfl) (List.Subset.refl _), fun h => absurd h (lt_irrefl _)⟩
  · rename_i hconnected
    split
    · exact ⟨.of_same (.inl rfl) (List.Subset.refl _), fun h => absurd h (lt_irrefl _)⟩
    · rename_i htransport
      generalize s.drainTransport = result at hdrained hbeats ⊢
      obtain ⟨drained, returned⟩ := result
      cases returned with
      | false => exact ⟨hdrained, fun h => absurd h hbeats.not_gt⟩
      | true =>
        simp only
        split
        · rename_i hdue
          exact ⟨⟨hdrained.lines, hdrained.requests⟩, fun _ =>
            ⟨by simpa using hconnected, by simpa using htransport, hdue, rfl⟩⟩
        · exact ⟨hdrained, fun h => absurd h hbeats.not_gt⟩

/-- A step that is no `execute`, and brings no line, settles. -/
theorem step_settles {e : HubStep} {out : List HubReport} (h : s.step settings e = some (s', out))
    (hexecute : ∀ operation arguments now, e ≠ .execute operation arguments now)
    (harrive : ∀ line now, e ≠ .arrive line now) : Settles s s' := by
  cases e with
  | execute operation arguments now => exact absurd rfl (hexecute operation arguments now)
  | arrive line now => exact absurd rfl (harrive line now)
  | sent call now =>
    simp only [step] at h
    split at h
    · cases h
      refine ⟨.inl rfl, ?_⟩
      intro request hrequest
      obtain ⟨before, hbefore, rfl⟩ := List.mem_map.mp hrequest
      refine ⟨before, hbefore, ?_⟩
      split <;> exact ⟨rfl, rfl⟩
    · cases h
  | sendFailed call =>
    simp only [step] at h
    split at h
    · cases h
      exact .of_same (.inl rfl) (s.drop_subset call)
    · cases h
  | poll call now =>
    simp only [step] at h
    split at h
    · rename_i request hfind
      obtain ⟨deadline, -, hresult⟩ := Option.map_eq_some_iff.mp h
      have hpoll := s.poll_settles request deadline now
      rw [hresult] at hpoll
      exact hpoll
    · cases h
  | cancel call =>
    simp only [step] at h
    split at h
    · cases h
      exact .of_same (.inl rfl) (s.drop_subset call)
    · cases h
  | tick transportConnected now =>
    cases h
    exact (beginTick_cases transportConnected now).1
  | heartbeatSent reached =>
    simp only [step] at h
    split at h
    · cases h
      have hdrained := drainTransport_settles
        ({ s with heartbeats := s.heartbeats - 1 }.sentBestEffort reached)
      exact ⟨hdrained.lines, hdrained.requests⟩
    · cases h
  | stop =>
    cases h
    exact .of_same (.inl rfl) (List.Subset.refl _)
  | stopSent reached =>
    simp only [step] at h
    split at h
    · cases h
      exact .of_same (.inl rfl) (List.Subset.refl _)
    · cases h

/-- Only a look into the buffer hands a reply over. -/
theorem step_received {e : HubStep} {out : List HubReport} {call : ℕ} {reply : Frame}
    (h : s.step settings e = some (s', out)) (hreceived : .received call reply ∈ out) :
    ∃ request line, (s.requests.find? fun request => request.call = call) = some request ∧
      decode line = .ok reply ∧
      s.lines.find? (fun line => namesRequest request.sequence line) = some line := by
  have hquiet {P : Prop} [Decidable P] {next : HubAdapter} {reports : List HubReport}
      (h : (if P then some (next, reports) else none) = some (s', out))
      (hnone : HubReport.received call reply ∉ reports) : False := by
    split at h
    · cases h
      exact hnone hreceived
    · cases h
  cases e with
  | poll id now =>
    simp only [step] at h
    split at h
    · rename_i request hfind
      obtain ⟨deadline, -, hresult⟩ := Option.map_eq_some_iff.mp h
      have hmem : HubReport.received call reply ∈ (s.poll request deadline now).2 := by
        rw [hresult]
        exact hreceived
      obtain ⟨line, hdecode, hline⟩ := poll_taken hmem
      obtain rfl : call = id := by
        have hid : request.call = id := by simpa using List.find?_some hfind
        rcases s.poll_cases request deadline now with ⟨hout, -⟩ | ⟨report, hout, -, -, hreport⟩
        · rw [hout] at hmem
          cases hmem
        · rw [hout] at hmem
          obtain rfl := List.mem_singleton.mp hmem
          rcases hreport with ⟨_, heq, -⟩ | heq | heq
          · cases heq
            exact hid
          · cases heq
          · cases heq
      exact ⟨request, line, hfind, hdecode, hline⟩
    · cases h
  | arrive line now =>
    cases h
    unfold answersTo at hreceived
    split at hreceived
    · cases hreceived
    · obtain ⟨_, _, heq⟩ := List.mem_map.mp hreceived
      cases heq
  | execute operation arguments now =>
    cases h
    cases hreceived
  | tick transportConnected now =>
    cases h
    cases hreceived
  | stop =>
    cases h
    cases hreceived
  | sent call now => exact (hquiet h (by simp)).elim
  | sendFailed call => exact (hquiet h (by simp)).elim
  | cancel call => exact (hquiet h (by simp)).elim
  | heartbeatSent reached => exact (hquiet h (by simp)).elim
  | stopSent reached => exact (hquiet h (by simp)).elim

end HubAdapter

end CitPhysicalXR.Lego
