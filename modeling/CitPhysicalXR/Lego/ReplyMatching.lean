import CitPhysicalXR.Foundation.Execution
import CitPhysicalXR.Lego.ReplyTaking

/-! Whether a reply that is handed to a call answers what that call sent. A request knows its
answer by its number, which comes round again and may be 0, the number of the reports that the hub
sends by itself; a handshake takes any `HELLO`. -/
namespace CitPhysicalXR.Lego
open Foundation

/-- The reply came in a line that answers what the call sent. -/
def Taken.Matched (taken : Taken) : Prop :=
  ∃ sent, taken.line = some sent ∧ decode sent.text = .ok taken.reply ∧
    sent.origin = taken.waiting

/-- What a call waits for: the answer of a number, or a `HELLO`. -/
inductive Wanted where
  | answer (sequence : ℤ)
  | hello

namespace Wanted

def Asked (rules : TextRules) (line : String) : Wanted → Prop
  | answer sequence => (Hub.answeredAs? rules line).map Prod.fst = some sequence
  | hello => (Hub.answeredAs? rules line).map Prod.snd = some "HELLO"

/-- The line may be taken for what is wanted. -/
def Brought (line : String) : Wanted → Prop
  | answer sequence => namesRequest sequence line = true
  | hello => bringsHello line = true

instance (rules : TextRules) (line : String) : DecidablePred (Asked rules line)
  | answer _ => inferInstanceAs (Decidable (_ = _))
  | hello => inferInstanceAs (Decidable (_ = _))

instance (line : String) : DecidablePred (Brought line)
  | answer _ => inferInstanceAs (Decidable (_ = _))
  | hello => inferInstanceAs (Decidable (_ = _))

theorem asked_of_brought {rules : TextRules} (hknown : rules ∈ TextRules.interpreters)
    {asking reply : String} {answered : ℤ × String}
    (hanswered : Hub.answeredAs? rules asking = some answered)
    (hreply : Hub.IsAnswerLine answered.1 answered.2 reply) {wanted : Wanted}
    (h : wanted.Brought reply) : wanted.Asked rules asking := by
  cases wanted with
  | answer sequence =>
    obtain ⟨n, hn⟩ := Hub.answeredAs?_nonneg hknown hanswered
    rw [hn] at hreply
    have hsequence := hreply.namesRequest h
    simp [Asked, hanswered, hn, hsequence]
  | hello =>
    have hhello := hreply.bringsHello h
    simp [Asked, hanswered, hhello]

end Wanted

namespace HubLink
variable {settings : LinkSettings} {s : HubLink}

/-- The calls that wait, each with what it waits for. -/
def waiting (s : HubLink) : List (Origin × Wanted) :=
  s.host.requests.map (fun request => (.request request.call, .answer request.sequence)) ++
    s.handshakes.map fun handshake => (.handshake handshake.id, .hello)

structure Attributed (settings : LinkSettings) (s : HubLink) : Prop where
  lines : s.buffered.map Sent.text = s.host.lines
  asked : ∀ sent ∈ s.toHub, ∀ call ∈ s.waiting,
    call.2.Asked settings.rules sent.text → sent.origin = call.1
  brought : ∀ sent ∈ s.toHost ++ s.buffered, ∀ call ∈ s.waiting,
    call.2.Brought sent.text → sent.origin = call.1

/-- No call waits for the answer of that number. -/
def Unused (s : HubLink) (sequence : ℤ) : Prop :=
  ∀ request ∈ s.host.requests, request.sequence ≠ sequence

instance (s : HubLink) : DecidablePred s.Unused := fun _ => inferInstanceAs (Decidable (∀ _ ∈ _, _))

/-- No line on its way asks for it or brings it. -/
def Clear (settings : LinkSettings) (s : HubLink) (wanted : Wanted) : Prop :=
  (∀ sent ∈ s.toHub, ¬ wanted.Asked settings.rules sent.text) ∧
    ∀ sent ∈ s.toHost ++ s.buffered, ¬ wanted.Brought sent.text

instance (settings : LinkSettings) (s : HubLink) : DecidablePred (s.Clear settings) :=
  fun _ => inferInstanceAs (Decidable ((∀ _ ∈ _, _) ∧ ∀ _ ∈ _, _))

/-- The steps after which every reply can be told apart. A request gets a number that no other
one waits for and of which no line is on its way; a handshake is the only one, with no `HELLO` on
its way; and the hub reports nothing by itself with a number that a request waits for. -/
def Distinct (settings : LinkSettings) (s : HubLink) : LinkStep → Prop
  | .call (.execute _ _ _) => s.host.connected = true →
      s.Unused (nextSequence s.host.sequence) ∧
        s.Clear settings (.answer (nextSequence s.host.sequence))
  | .call (.tick transportConnected now) =>
      s.host.connected = true → transportConnected = true →
        s.host.lastHeartbeatAt.all (fun last =>
          decide (settings.adapter.heartbeatIntervalSeconds ≤ now - last)) = true →
        s.Unused (nextSequence s.host.sequence)
  | .stop _ => s.Unused (nextSequence s.host.sequence)
  | .disconnect => s.host.connected = true → s.Unused (nextSequence s.host.sequence)
  | .greet reconciling _ => (reconciling = true → s.host.connected = true) →
      s.Unused (nextSequence s.host.sequence) ∧ s.handshakes = [] ∧ s.Clear settings .hello
  | .garbled text _ _ => ∀ call ∈ s.waiting, ¬ call.2.Asked settings.rules text
  | .hubPoll now readings => Hub.watchdogFires s.hub readings now = true → s.Unused 0
  | _ => True

namespace Attributed

theorem initial (hub : HubAgent) : Attributed settings { host := .new, hub := hub } := by
  constructor
  · rfl
  · intro sent hsent
    cases hsent
  · intro sent hsent
    cases hsent

variable {s' : HubLink} {operation : Operation} {host : HubAdapter} {e : LinkStep}
  {out : List Taken}

/-- Fewer lines and fewer calls that wait. -/
theorem mono (h : Attributed settings s)
    (hlines : s'.buffered.map Sent.text = s'.host.lines) (htoHub : s'.toHub ⊆ s.toHub)
    (htoHost : s'.toHost ++ s'.buffered ⊆ s.toHost ++ s.buffered)
    (hwaiting : s'.waiting ⊆ s.waiting) : Attributed settings s' := by
  refine ⟨hlines, ?_, ?_⟩
  · intro sent hsent call hcall
    exact h.asked sent (htoHub hsent) call (hwaiting hcall)
  · intro sent hsent call hcall
    exact h.brought sent (htoHost hsent) call (hwaiting hcall)

/-- A line that no waiting call takes the answer of, or that is its own. -/
theorem send (h : Attributed settings s) {lines : List Sent}
    (hlines : ∀ sent ∈ lines, ∀ call ∈ s.waiting,
      call.2.Asked settings.rules sent.text → sent.origin = call.1) :
    Attributed settings (s.send lines) := by
  refine ⟨h.lines, ?_, h.brought⟩
  intro sent hsent call hcall
  rcases List.mem_append.mp hsent with hsent | hsent
  · exact h.asked sent hsent call hcall
  · exact hlines sent hsent call hcall

/-- Another call waits for what no line on its way may bring. -/
theorem wait (h : Attributed settings s) {origin : Origin} {wanted : Wanted}
    (hlines : s'.buffered.map Sent.text = s'.host.lines) (htoHub : s'.toHub = s.toHub)
    (htoHost : s'.toHost ++ s'.buffered = s.toHost ++ s.buffered)
    (hwaiting : s'.waiting ⊆ (origin, wanted) :: s.waiting) (hclear : s.Clear settings wanted) :
    Attributed settings s' := by
  refine ⟨hlines, ?_, ?_⟩
  · intro sent hsent call hcall hasked
    rw [htoHub] at hsent
    rcases List.mem_cons.mp (hwaiting hcall) with rfl | hcall
    · exact absurd hasked (hclear.1 sent hsent)
    · exact h.asked sent hsent call hcall hasked
  · intro sent hsent call hcall hbrought
    rw [htoHost] at hsent
    rcases List.mem_cons.mp (hwaiting hcall) with rfl | hcall
    · exact absurd hbrought (hclear.2 sent hsent)
    · exact h.brought sent hsent call hcall hbrought

theorem frameLine_origin {sequence : ℤ} {arguments : List String}
    {origin : Origin} {sent : Sent} (hsent : sent ∈ frameLine sequence operation arguments origin) :
    sent.origin = origin := by
  unfold frameLine at hsent
  split at hsent
  · rw [List.mem_singleton.mp hsent]
  · cases hsent

theorem frameLine_asked {sequence : ℤ} {arguments : List String}
    {origin : Origin} {sent : Sent} (hsent : sent ∈ frameLine sequence operation arguments origin) :
    Hub.answeredAs? settings.rules sent.text = some (sequence, operation.value) := by
  unfold frameLine at hsent
  split at hsent
  · rename_i frame hframe
    obtain rfl := List.mem_singleton.mp hsent
    obtain ⟨rfl, rfl, rfl⟩ := create_eq_ok.mp hframe
    exact Hub.answeredAs?_encodeLine settings.known frame
  · cases hsent

/-- A line with a number that no request waits for, and no `HELLO`, is asked for by nobody. -/
theorem frameLine_unasked {sequence : ℤ} {arguments : List String}
    {origin : Origin} (hunused : s.Unused sequence) (hhello : operation ≠ .hello) :
    ∀ sent ∈ frameLine sequence operation arguments origin, ∀ call ∈ s.waiting,
      ¬ call.2.Asked settings.rules sent.text := by
  intro sent hsent call hcall hasked
  have hanswered : Hub.answeredAs? settings.rules sent.text = some (sequence, operation.value) :=
    frameLine_asked hsent
  rcases List.mem_append.mp hcall with hcall | hcall
  · obtain ⟨request, hrequest, rfl⟩ := List.mem_map.mp hcall
    simp only [Wanted.Asked, hanswered, Option.map_some, Option.some.injEq] at hasked
    exact hunused request hrequest hasked.symm
  · obtain ⟨handshake, -, rfl⟩ := List.mem_map.mp hcall
    simp only [Wanted.Asked, hanswered, Option.map_some, Option.some.injEq] at hasked
    have hsame : operation = .hello := Operation.value_injective hasked
    exact hhello hsame

theorem answer (h : Attributed settings s) {replies : List Sent} (hub : HubAgent)
    (hreplies : ∀ sent ∈ replies, ∀ call ∈ s.waiting,
      call.2.Brought sent.text → sent.origin = call.1) :
    Attributed settings { s with hub := hub, toHost := s.toHost ++ replies } := by
  refine ⟨h.lines, h.asked, ?_⟩
  intro sent hsent call hcall hbrought
  rw [List.mem_append, List.mem_append] at hsent
  rcases hsent with (hsent | hsent) | hsent
  · exact h.brought sent (List.mem_append_left _ hsent) call hcall hbrought
  · exact hreplies sent hsent call hcall hbrought
  · exact h.brought sent (List.mem_append_right _ hsent) call hcall hbrought

theorem handle (h : Attributed settings s) {text : String} {origin : Origin}
    (horigin : ∀ call ∈ s.waiting, call.2.Asked settings.rules text → origin = call.1) (now : ℤ)
    (readings : Hub.HubReadings) :
    Attributed settings (s.handle settings text origin now readings) := by
  have hanswers := @Hub.handleLine_answers settings.rules settings.machine readings text now s.hub
    trivial
  unfold HubLink.handle
  generalize Hub.handleLine settings.rules settings.machine readings text now s.hub = result
    at hanswers ⊢
  apply h.answer
  intro sent hsent call hcall hbrought
  obtain ⟨reply, hreply, rfl⟩ := List.mem_map.mp hsent
  cases result with
  | error e agent => cases hreply
  | ok replies agent =>
    obtain ⟨answered, hanswered, hline⟩ := hanswers reply hreply
    exact horigin call hcall (Wanted.asked_of_brought settings.known hanswered hline hbrought)

/-- What the hub sends by itself is nothing that is waited for, unless its watchdog expires. -/
theorem pollHub (h : Attributed settings s) {now : ℤ} {readings : Hub.HubReadings}
    (hunused : Hub.watchdogFires s.hub readings now = true → s.Unused 0) :
    Attributed settings (s.pollHub now readings) := by
  have hanswers (n : ℕ) (operation : String)
      (hzero : Hub.watchdogFires s.hub readings now = true → (n : ℤ) = 0) :=
    @Hub.poll_answers readings n operation s.hub now hzero s.hub rfl
  unfold HubLink.pollHub
  generalize Hub.poll readings now s.hub = result at hanswers ⊢
  apply h.answer
  intro sent hsent call hcall hbrought
  exfalso
  obtain ⟨reply, hreply, rfl⟩ := List.mem_map.mp hsent
  have hline (n : ℕ) (operation : String)
      (hzero : Hub.watchdogFires s.hub readings now = true → (n : ℤ) = 0) :
      Hub.IsAnswerLine n operation reply := by
    have hlines := hanswers n operation hzero
    cases result with
    | error e agent => cases hreply
    | ok replies agent => exact hlines reply hreply
  rcases List.mem_append.mp hcall with hcall | hcall
  · obtain ⟨request, hrequest, rfl⟩ := List.mem_map.mp hcall
    cases hfires : Hub.watchdogFires s.hub readings now with
    | true =>
      have hsequence := (hline 0 "" fun _ => rfl).namesRequest hbrought
      exact hunused hfires request hrequest hsequence
    | false =>
      -- a line that answers two numbers names neither
      have hone := (hline 1 "" fun htrue => by simp [hfires] at htrue).namesRequest hbrought
      have htwo := (hline 2 "" fun htrue => by simp [hfires] at htrue).namesRequest hbrought
      rw [hone] at htwo
      exact absurd htwo (by decide)
  · obtain ⟨handshake, -, rfl⟩ := List.mem_map.mp hcall
    have hhello := (hline 0 "" fun _ => rfl).bringsHello hbrought
    exact absurd hhello (by decide)

theorem follow_buffered (host : HubAdapter) (arrived : List Sent) :
    (s.follow host arrived).buffered ⊆ s.buffered ++ arrived := by
  intro sent hsent
  exact List.mem_of_mem_drop hsent

theorem follow_lines (h : Attributed settings s)
    (hlines : host.lines = s.host.lines ∨ host.lines = []) :
    (s.follow host).buffered.map Sent.text = host.lines := by
  have hlength : s.buffered.length = s.host.lines.length := by
    rw [← h.lines, List.length_map]
  rcases hlines with hsame | hnone
  · have hself : (s.follow host).buffered = s.buffered := by
      simp [follow, hsame, List.rtake, hlength]
    rw [hself, hsame, h.lines]
  · simp [follow, hnone]

theorem follow_waiting (hrequests : ∀ request ∈ host.requests,
    ∃ before ∈ s.host.requests, before.call = request.call ∧ before.sequence = request.sequence) :
    (s.follow host).waiting ⊆ s.waiting := by
  intro call hcall
  rcases List.mem_append.mp hcall with hcall | hcall
  · obtain ⟨request, hrequest, rfl⟩ := List.mem_map.mp hcall
    obtain ⟨before, hbefore, hcall, hsequence⟩ := hrequests request hrequest
    rw [← hcall, ← hsequence]
    exact List.mem_append_left _ (List.mem_map.mpr ⟨before, hbefore, rfl⟩)
  · exact List.mem_append_right _ hcall

theorem follow (h : Attributed settings s)
    (hlines : host.lines = s.host.lines ∨ host.lines = [])
    (hrequests : ∀ request ∈ host.requests, ∃ before ∈ s.host.requests,
      before.call = request.call ∧ before.sequence = request.sequence) :
    Attributed settings (s.follow host) := by
  refine h.mono (h.follow_lines hlines) (List.Subset.refl _) ?_ (follow_waiting hrequests)
  intro sent hsent
  rcases List.mem_append.mp hsent with hsent | hsent
  · exact List.mem_append_left _ hsent
  · have hkept := follow_buffered host [] hsent
    rw [List.append_nil] at hkept
    exact List.mem_append_right _ hkept

theorem of_settles (h : Attributed settings s)
    (hsettles : s.host.Settles host) : Attributed settings (s.follow host) :=
  h.follow hsettles.lines hsettles.requests

/-- The adapter changes neither its lines nor its requests. -/
theorem of_host (h : Attributed settings s) (hbuffered : s'.buffered = s.buffered)
    (hlines : s'.host.lines = s.host.lines) (htoHub : s'.toHub = s.toHub)
    (htoHost : s'.toHost = s.toHost) (hwaiting : s'.waiting ⊆ s.waiting) :
    Attributed settings s' := by
  refine h.mono ?_ (fun _ hsent => htoHub ▸ hsent) ?_ hwaiting
  · rw [hbuffered, hlines, h.lines]
  · rw [htoHost, hbuffered]
    exact List.Subset.refl _

theorem dropHandshake_waiting (id : ℕ)
    (hrequests : s'.host.requests = s.host.requests)
    (hhandshakes : s'.handshakes = s.dropHandshake id) : s'.waiting ⊆ s.waiting := by
  intro call hcall
  unfold waiting at hcall
  rw [hrequests, hhandshakes] at hcall
  rcases List.mem_append.mp hcall with hcall | hcall
  · exact List.mem_append_left _ hcall
  · obtain ⟨handshake, hmem, rfl⟩ := List.mem_map.mp hcall
    exact List.mem_append_right _ (List.mem_map.mpr ⟨handshake, (List.mem_filter.mp hmem).1, rfl⟩)

theorem execute (h : Attributed settings s) {arguments : List String}
    {now : ℚ} (hcommand : operation.isCommand = true)
    (hdistinct : s.Distinct settings (.call (.execute operation arguments now))) :
    Attributed settings ((s.follow (s.host.beginExecute operation arguments now)).send
      (s.sentBy settings (s.host.beginExecute operation arguments now)
        (.execute operation arguments now))) := by
  have hhello : operation ≠ .hello := by
    rintro rfl
    cases hcommand
  have hkept : ∀ host : HubAdapter, host.lines = s.host.lines → host.requests = s.host.requests →
      host.nextCall = s.host.nextCall → Attributed settings ((s.follow host).send
        (s.sentBy settings host (.execute operation arguments now))) := by
    intro host hlines hrequests hnext
    have hnone : s.sentBy settings host (.execute operation arguments now) = [] := by
      simp [sentBy, hnext]
    rw [hnone]
    apply Attributed.send
    · exact h.of_settles (.of_same (.inl hlines) fun _ hrequest => hrequests ▸ hrequest)
    · intro sent hsent
      cases hsent
  unfold HubAdapter.beginExecute
  simp only
  split
  · exact hkept s.host rfl rfl rfl
  · rename_i hconnected
    obtain ⟨hunused, hclear⟩ := hdistinct (by simpa using hconnected)
    split
    · exact hkept _ rfl rfl rfl
    · rename_i frame hframe
      obtain ⟨hsequence, rfl, rfl⟩ := create_eq_ok.mp hframe
      have hlength : s.buffered.length = s.host.lines.length := by
        rw [← h.lines, List.length_map]
      -- the request waits, and then its line goes out
      have hwaits : Attributed settings (s.follow { s.host with
          sequence := nextSequence s.host.sequence
          requests := s.host.requests ++ [⟨s.host.nextCall, frame.sequence, now, none⟩]
          nextCall := s.host.nextCall + 1 }) := by
        have hnew : (s.follow { s.host with
            sequence := nextSequence s.host.sequence
            requests := s.host.requests ++ [⟨s.host.nextCall, frame.sequence, now, none⟩]
            nextCall := s.host.nextCall + 1 }).waiting ⊆
              (.request s.host.nextCall, .answer (nextSequence s.host.sequence)) :: s.waiting := by
          intro call hcall
          simp only [waiting, HubLink.follow, List.map_append, List.map_cons, List.map_nil,
            List.mem_append, List.mem_singleton] at hcall
          rcases hcall with (hcall | rfl) | hcall
          · exact List.mem_cons_of_mem _ (List.mem_append_left _ hcall)
          · rw [hsequence]
            exact List.mem_cons_self
          · exact List.mem_cons_of_mem _ (List.mem_append_right _ hcall)
        refine h.wait (h.follow_lines (.inl rfl)) rfl ?_ hnew hclear
        simp [HubLink.follow, List.rtake, hlength]
      apply hwaits.send
      intro sent hsent call hcall hasked
      simp only [sentBy, if_pos (Nat.lt_succ_self _)] at hsent
      have hnobody : ∀ call ∈ s.waiting, ¬ call.2.Asked settings.rules sent.text :=
        frameLine_unasked hunused hhello sent hsent
      simp only [waiting, HubLink.follow, List.map_append, List.map_cons, List.map_nil,
        List.mem_append, List.mem_singleton] at hcall
      rcases hcall with (hcall | rfl) | hcall
      · exact absurd hasked (hnobody call (List.mem_append_left _ hcall))
      · exact (frameLine_origin hsent)
      · exact absurd hasked (hnobody call (List.mem_append_right _ hcall))

theorem sendOther (h : Attributed settings s) {sequence : ℤ}
    {arguments : List String} (hunused : s.Unused sequence) (hhello : operation ≠ .hello) :
    Attributed settings (s.send (frameLine sequence operation arguments .other)) := by
  apply h.send
  intro sent hsent call hcall hasked
  exact absurd hasked (frameLine_unasked hunused hhello sent hsent call hcall)

/-- A handshake that is the only one waits, and then its line goes out. -/
theorem greet (h : Attributed settings s) {reconciling : Bool} {now : ℚ}
    (hdistinct : s.Distinct settings (.greet reconciling now)) :
    Attributed settings (s.beginHandshake reconciling now) := by
  unfold beginHandshake
  split
  · exact h
  · rename_i hsends
    obtain ⟨hunused, hnone, hclear⟩ := hdistinct (by
      intro hreconciling
      by_contra hconnected
      exact hsends (by simp [hreconciling, hconnected]))
    let begun : HubLink := { s with
      host := { s.host with sequence := nextSequence s.host.sequence }
      handshakes := s.handshakes ++ [⟨s.nextHandshake, reconciling, now, none⟩]
      nextHandshake := s.nextHandshake + 1 }
    have hnew : begun.waiting ⊆ (.handshake s.nextHandshake, .hello) :: s.waiting := by
      intro call hcall
      simp only [begun, waiting, List.map_append, List.map_cons, List.map_nil, List.mem_append,
        List.mem_singleton] at hcall
      rcases hcall with hcall | hcall | rfl
      · exact List.mem_cons_of_mem _ (List.mem_append_left _ hcall)
      · exact List.mem_cons_of_mem _ (List.mem_append_right _ hcall)
      · exact List.mem_cons_self
    have hwaits : Attributed settings begun := h.wait h.lines rfl rfl hnew hclear
    apply hwaits.send
    intro sent hsent call hcall hasked
    have hanswered : Hub.answeredAs? settings.rules sent.text =
        some (nextSequence s.host.sequence, Operation.hello.value) := frameLine_asked hsent
    rw [frameLine_origin hsent]
    simp only [begun, waiting, hnone, List.nil_append, List.map_cons, List.map_nil,
      List.mem_append, List.mem_singleton] at hcall
    rcases hcall with hcall | rfl
    · obtain ⟨request, hrequest, rfl⟩ := List.mem_map.mp hcall
      simp only [Wanted.Asked, hanswered, Option.map_some, Option.some.injEq] at hasked
      exact absurd hasked.symm (hunused request hrequest)
    · rfl

theorem arrive (h : Attributed settings s) {sent : Sent} {rest : List Sent}
    (htoHost : s.toHost = sent :: rest)
    (hlines : host.lines = s.host.keepLine settings.adapter sent.text)
    (hrequests : host.requests = s.host.requests) :
    Attributed settings ({ s with toHost := rest }.follow host [sent]) := by
  have hbuffer : (s.buffered ++ [sent]).map Sent.text = s.host.lines ++ [sent.text] := by
    rw [List.map_append, h.lines]
    rfl
  refine h.mono ?_ (List.Subset.refl _) ?_ ?_
  · -- the buffer of the transport is the end of what was there and what came
    have hsuffix : host.lines = (s.host.lines ++ [sent.text]).rtake host.lines.length := by
      rw [hlines]
      unfold HubAdapter.keepLine
      split
      · simp [List.rtake]
      · rw [List.rtake, List.length_drop]
        congr 1
        simp only [List.length_append, List.length_singleton]
        omega
    change ((s.buffered ++ [sent]).rtake host.lines.length).map Sent.text = host.lines
    rw [List.rtake, List.map_drop, hbuffer, ← List.length_map (f := Sent.text), hbuffer]
    exact hsuffix.symm
  · intro line hline
    rcases List.mem_append.mp hline with hline | hline
    · rw [htoHost]
      exact List.mem_append_left _ (List.mem_cons_of_mem _ hline)
    · rcases List.mem_append.mp (follow_buffered host [sent] hline) with hline | hline
      · exact List.mem_append_right _ hline
      · rw [htoHost, List.mem_singleton.mp hline]
        exact List.mem_append_left _ List.mem_cons_self
  · intro call hcall
    simp only [waiting, HubLink.follow, hrequests] at hcall
    exact hcall

theorem completeHandshake_eq (host : HubAdapter) (handshake : Handshake) (reply : Frame) :
    (completeHandshake settings host handshake reply).lines = host.lines ∧
      (completeHandshake settings host handshake reply).requests = host.requests := by
  unfold completeHandshake completeReconcile completeConnect
  split
  · split <;> exact ⟨rfl, rfl⟩
  · split
    · exact ⟨rfl, rfl⟩
    · split <;> exact ⟨rfl, rfl⟩

theorem failHandshake_eq (host : HubAdapter) (handshake : Handshake) :
    (failHandshake host handshake).lines = host.lines ∧
      (failHandshake host handshake).requests = host.requests := by
  unfold failHandshake
  split <;> exact ⟨rfl, rfl⟩

/-- A handshake that ends, or reads the whole buffer. -/
theorem pollHandshake (h : Attributed settings s) (handshake : Handshake) (deadline now : ℚ) :
    Attributed settings (s.pollHandshake settings handshake deadline now).1 := by
  have hkept {host : HubAdapter} (hlines : host.lines = [])
      (hrequests : host.requests = s.host.requests) : Attributed settings (s.follow host) :=
    h.of_settles (.of_same (.inr hlines) fun _ hrequest => hrequests ▸ hrequest)
  have hended {host : HubAdapter} (hlines : host.lines = [])
      (hrequests : host.requests = s.host.requests) : Attributed settings
        ({ s with handshakes := s.dropHandshake handshake.id }.follow host) := by
    refine (hkept hlines hrequests).mono (hkept hlines hrequests).lines (List.Subset.refl _)
      (List.Subset.refl _) ?_
    exact dropHandshake_waiting handshake.id rfl rfl
  unfold HubLink.pollHandshake HubAdapter.takeFrames
  generalize readFrames s.host.lines = read
  obtain ⟨frames, diagnostics⟩ := read
  cases frames with
  | error e => exact hended rfl rfl
  | ok frames =>
    simp only
    generalize awaitHello s.host.lastHeartbeatAt.isSome none frames = batch
    obtain ⟨result, events⟩ := batch
    rcases result with e | _ | reply
    · exact hended rfl rfl
    · simp only
      split
      · exact hended (failHandshake_eq _ handshake).1 (failHandshake_eq _ handshake).2
      · exact hkept rfl rfl
    · exact hended (completeHandshake_eq _ handshake reply).1
        (completeHandshake_eq _ handshake reply).2

/-- Every distinct step keeps the attribution. -/
theorem step (h : Attributed settings s)
    (hdistinct : s.Distinct settings e) (hs : s.step settings e = some (s', out)) :
    Attributed settings s' := by
  cases e with
  | call step =>
    simp only [HubLink.step] at hs
    split at hs
    · rename_i hcall
      obtain ⟨after, hafter, heq⟩ := Option.map_eq_some_iff.mp hs
      obtain ⟨rfl, -⟩ := Prod.mk.inj heq
      have hquiet (hexecute : ∀ operation arguments now, step ≠ .execute operation arguments now)
          (hsends : s.sentBy settings after.1 step = []) :
          Attributed settings ((s.follow after.1).send (s.sentBy settings after.1 step)) := by
        have hsettles : s.host.Settles after.1 := by
          apply HubAdapter.step_settles hafter hexecute
          rintro line now rfl
          cases hcall
        rw [hsends]
        apply (h.of_settles hsettles).send
        intro sent hsent
        cases hsent
      cases step with
      | execute operation arguments now =>
        cases hafter
        exact h.execute hcall hdistinct
      | tick transportConnected now =>
        cases hafter
        obtain ⟨hsettles, hbeats⟩ :=
          @HubAdapter.beginTick_cases settings.adapter s.host transportConnected now
        simp only [sentBy]
        split
        · rename_i hbeat
          obtain ⟨hconnected, htransport, hdue, hsequence⟩ := hbeats hbeat
          rw [hsequence]
          have hunused := hdistinct hconnected htransport hdue
          apply (h.of_settles hsettles).sendOther _ (by decide)
          intro request hrequest
          obtain ⟨before, hbefore, -, hnumber⟩ := hsettles.requests request hrequest
          rw [← hnumber]
          exact hunused before hbefore
        · apply (h.of_settles hsettles).send
          intro sent hsent
          cases hsent
      | sent call now => exact hquiet (fun _ _ _ => by simp) rfl
      | sendFailed call => exact hquiet (fun _ _ _ => by simp) rfl
      | poll call now => exact hquiet (fun _ _ _ => by simp) rfl
      | cancel call => exact hquiet (fun _ _ _ => by simp) rfl
      | heartbeatSent reached => exact hquiet (fun _ _ _ => by simp) rfl
      | stop => exact hquiet (fun _ _ _ => by simp) rfl
      | stopSent reached => exact hquiet (fun _ _ _ => by simp) rfl
      | arrive line now => exact hquiet (fun _ _ _ => by simp) rfl
    · cases hs
  | stop reason =>
    cases hs
    have hsettles : s.host.Settles { s.host with
        sequence := nextSequence s.host.sequence, stops := s.host.stops + 1 } :=
      .of_same (.inl rfl) (List.Subset.refl _)
    exact (h.of_settles hsettles).sendOther hdistinct (by decide)
  | greet reconciling now =>
    cases hs
    exact h.greet hdistinct
  | greetSent id now =>
    simp only [HubLink.step] at hs
    split at hs
    · cases hs
      refine h.of_host rfl rfl rfl rfl ?_
      intro call hcall
      rcases List.mem_append.mp hcall with hcall | hcall
      · exact List.mem_append_left _ hcall
      · obtain ⟨handshake, hhandshake, rfl⟩ := List.mem_map.mp hcall
        obtain ⟨before, hbefore, rfl⟩ := List.mem_map.mp hhandshake
        refine List.mem_append_right _ (List.mem_map.mpr ⟨before, hbefore, ?_⟩)
        split <;> rfl
    · cases hs
  | greetFailed id =>
    simp only [HubLink.step] at hs
    split at hs
    · rename_i handshake _
      cases hs
      exact h.of_host rfl (failHandshake_eq s.host handshake).1 rfl rfl
        (dropHandshake_waiting id (failHandshake_eq s.host handshake).2 rfl)
    · cases hs
  | greetPoll id now =>
    simp only [HubLink.step] at hs
    split at hs
    · rename_i handshake _
      obtain ⟨deadline, -, hresult⟩ := Option.map_eq_some_iff.mp hs
      have hpolled := h.pollHandshake handshake deadline now
      rw [hresult] at hpolled
      exact hpolled
    · cases hs
  | greetCancelled id =>
    cases hs
    exact h.of_host rfl rfl rfl rfl (dropHandshake_waiting id rfl rfl)
  | disconnect =>
    simp only [HubLink.step] at hs
    split at hs
    · rename_i hconnected
      cases hs
      have hbegun : Attributed settings { s with
          host := { s.host with sequence := nextSequence s.host.sequence }
          leaving := s.leaving + 1 } :=
        h.of_host rfl rfl rfl rfl (List.Subset.refl _)
      exact hbegun.sendOther (hdistinct hconnected) (by decide)
    · cases hs
      exact h.of_host rfl rfl rfl rfl (List.Subset.refl _)
  | disconnected reached =>
    simp only [HubLink.step] at hs
    split at hs
    · cases hs
      exact h.of_host rfl rfl rfl rfl (List.Subset.refl _)
    · cases hs
  | recover =>
    cases hs
    exact h.of_host rfl rfl rfl rfl (List.Subset.refl _)
  | deliver now readings =>
    simp only [HubLink.step] at hs
    split at hs
    · cases hs
    · rename_i sent rest htoHub
      cases hs
      have hrest : Attributed settings { s with toHub := rest } := by
        refine h.mono h.lines ?_ (List.Subset.refl _) (List.Subset.refl _)
        intro line hline
        rw [htoHub]
        exact List.mem_cons_of_mem _ hline
      apply hrest.handle
      intro call hcall hasked
      exact h.asked sent (by simp [htoHub]) call hcall hasked
  | garbled text now readings =>
    cases hs
    apply h.handle
    intro call hcall hasked
    exact absurd hasked (hdistinct call hcall)
  | hubPoll now readings =>
    cases hs
    exact h.pollHub hdistinct
  | arrive now =>
    simp only [HubLink.step] at hs
    split at hs
    · cases hs
    · rename_i sent rest htoHost
      cases hs
      exact h.arrive htoHost rfl rfl
  | lose =>
    simp only [HubLink.step] at hs
    split at hs
    · cases hs
    · rename_i sent rest htoHub
      cases hs
      refine h.mono h.lines ?_ (List.Subset.refl _) (List.Subset.refl _)
      intro line hline
      rw [htoHub]
      exact List.mem_cons_of_mem _ hline
  | loseReply =>
    simp only [HubLink.step] at hs
    split at hs
    · cases hs
    · rename_i sent rest htoHost
      cases hs
      refine h.mono h.lines (List.Subset.refl _) ?_ (List.Subset.refl _)
      intro line hline
      rw [htoHost, List.cons_append]
      exact List.mem_cons_of_mem _ hline

theorem find_buffered (h : Attributed settings s) {p : String → Bool} {line : String}
    (hfind : s.host.lines.find? p = some line) :
    ∃ sent ∈ s.buffered, s.buffered.find? (fun sent => p sent.text) = some sent ∧
      sent.text = line ∧ p sent.text = true := by
  rw [← h.lines, List.find?_map] at hfind
  obtain ⟨sent, hsent, rfl⟩ := Option.map_eq_some_iff.mp hfind
  have hmem := List.mem_of_find?_eq_some hsent
  have hp : (p ∘ Sent.text) sent = true := List.find?_some hsent
  exact ⟨sent, hmem, hsent, rfl, hp⟩

theorem received_matched (h : Attributed settings s) {call : ℕ} {reply : Frame}
    {request : HubRequest} {line : String}
    (hrequest : (s.host.requests.find? fun request => request.call = call) = some request)
    (hdecode : decode line = .ok reply)
    (hfind : s.host.lines.find? (fun line => namesRequest request.sequence line) = some line) :
    ∀ taken ∈ s.takenBy (.received call reply), taken.Matched := by
  intro taken htaken
  obtain rfl := List.mem_singleton.mp htaken
  obtain ⟨sent, hsent, hanswer, rfl, hnames⟩ := h.find_buffered hfind
  have hcall : request.call = call := by simpa using List.find?_some hrequest
  have hwaits : (Origin.request request.call, Wanted.answer request.sequence) ∈ s.waiting :=
    List.mem_append_left _ (List.mem_map.mpr ⟨request, List.mem_of_find?_eq_some hrequest, rfl⟩)
  refine ⟨sent, ?_, hdecode, ?_⟩
  · simp only [hrequest, Option.bind_some]
    exact hanswer
  · rw [h.brought sent (List.mem_append_right _ hsent) _ hwaits hnames, hcall]

theorem pollHandshake_matched (h : Attributed settings s) {handshake : Handshake}
    (hhandshake : handshake ∈ s.handshakes) (deadline now : ℚ) :
    ∀ taken ∈ (s.pollHandshake settings handshake deadline now).2, taken.Matched := by
  intro taken htaken
  unfold HubLink.pollHandshake HubAdapter.takeFrames at htaken
  cases hread : (readFrames s.host.lines).1 with
  | error e => simp [hread] at htaken
  | ok frames =>
    simp only [hread] at htaken
    cases hbatch : (awaitHello s.host.lastHeartbeatAt.isSome none frames).1 with
    | error e => simp [hbatch] at htaken
    | ok found =>
      cases found with
      | none =>
        simp only [hbatch] at htaken
        split at htaken <;> simp at htaken
      | some reply =>
        simp only [hbatch, List.mem_singleton] at htaken
        subst htaken
        obtain ⟨line, hdecode, hfind⟩ := readFrames_find hread (awaitHello_find hbatch)
        replace hfind : s.host.lines.find? bringsHello = some line := hfind
        obtain ⟨sent, hsent, hanswer, rfl, hhello⟩ := h.find_buffered hfind
        have hwaits : (Origin.handshake handshake.id, Wanted.hello) ∈ s.waiting :=
          List.mem_append_right _ (List.mem_map.mpr ⟨handshake, hhandshake, rfl⟩)
        exact ⟨sent, hanswer, hdecode,
          h.brought sent (List.mem_append_right _ hsent) _ hwaits hhello⟩

/-- Only a call or a handshake is handed a reply. -/
theorem step_quiet
    (hs : s.step settings e = some (s', out)) (hcall : ∀ step, e ≠ .call step)
    (hgreetPoll : ∀ id now, e ≠ .greetPoll id now) : out = [] := by
  cases e with
  | call step => exact absurd rfl (hcall step)
  | greetPoll id now => exact absurd rfl (hgreetPoll id now)
  | stop reason =>
    cases hs
    rfl
  | greet reconciling now =>
    cases hs
    rfl
  | greetCancelled id =>
    cases hs
    rfl
  | recover =>
    cases hs
    rfl
  | garbled text now readings =>
    cases hs
    rfl
  | hubPoll now readings =>
    cases hs
    rfl
  | greetSent id now =>
    simp only [HubLink.step] at hs
    split at hs <;> cases hs
    rfl
  | greetFailed id =>
    simp only [HubLink.step] at hs
    split at hs <;> cases hs
    rfl
  | disconnect =>
    simp only [HubLink.step] at hs
    split at hs <;> cases hs <;> rfl
  | disconnected reached =>
    simp only [HubLink.step] at hs
    split at hs <;> cases hs
    rfl
  | deliver now readings =>
    simp only [HubLink.step] at hs
    split at hs <;> cases hs
    rfl
  | arrive now =>
    simp only [HubLink.step] at hs
    split at hs <;> cases hs
    rfl
  | lose =>
    simp only [HubLink.step] at hs
    split at hs <;> cases hs
    rfl
  | loseReply =>
    simp only [HubLink.step] at hs
    split at hs <;> cases hs
    rfl

theorem step_matched (h : Attributed settings s)
    (hs : s.step settings e = some (s', out)) : ∀ taken ∈ out, taken.Matched := by
  cases e with
  | call step =>
    simp only [HubLink.step] at hs
    split at hs
    · obtain ⟨after, hafter, heq⟩ := Option.map_eq_some_iff.mp hs
      obtain ⟨-, rfl⟩ := Prod.mk.inj heq
      intro taken htaken
      obtain ⟨report, hreport, htaken⟩ := List.mem_flatMap.mp htaken
      cases report with
      | received call reply =>
        obtain ⟨request, line, hrequest, hdecode, hfind⟩ :=
          HubAdapter.step_received hafter hreport
        exact h.received_matched hrequest hdecode hfind taken htaken
      | answered call reply => cases htaken
      | offline call => cases htaken
      | raised call => cases htaken
      | cancelled call => cases htaken
    · cases hs
  | greetPoll id now =>
    simp only [HubLink.step] at hs
    split at hs
    · rename_i handshake hfind
      obtain ⟨deadline, -, hresult⟩ := Option.map_eq_some_iff.mp hs
      have hpolled := h.pollHandshake_matched (List.mem_of_find?_eq_some hfind) deadline now
      rw [hresult] at hpolled
      exact hpolled
    · cases hs
  | _ =>
    have hnone := step_quiet hs (by simp) (by simp)
    simp [hnone]

end Attributed

end HubLink

/-- In every run in which the numbers are told apart, a reply is handed to a call only out of a
line that the hub sent in answer to what this very call sent. -/
theorem replies_matched {settings : LinkSettings} {trace : List (LinkStep × List Taken)}
    {s : HubLink}
    (hrun : ((hubLink settings).restrict fun s e => s.Distinct settings e).Run trace s) :
    ∀ taken ∈ Machine.outputs trace, taken.Matched := by
  have hmatched : s.Attributed settings ∧ ∀ taken ∈ Machine.outputs trace, taken.Matched := by
    refine hrun.induct (P := fun trace s => HubLink.Attributed settings s ∧
      ∀ taken ∈ Machine.outputs trace, taken.Matched) ?_ ?_
    · rintro s ⟨hub, rfl⟩
      exact ⟨.initial hub, by simp⟩
    · intro trace s e s' out _ ih hstep
      refine ⟨ih.1.step hstep.1 hstep.2, ?_⟩
      intro taken htaken
      rw [Machine.outputs_append, Machine.outputs_singleton] at htaken
      rcases List.mem_append.mp htaken with htaken | htaken
      · exact ih.2 taken htaken
      · exact ih.1.step_matched hstep.2 taken htaken
  exact hmatched.2

instance (settings : LinkSettings) (s : HubLink) : DecidablePred (HubLink.Distinct settings s)
  | .call (.execute _ _ _) =>
    inferInstanceAs (Decidable (s.host.connected = true → s.Unused _ ∧ s.Clear settings _))
  | .call (.tick up _) =>
    inferInstanceAs (Decidable (s.host.connected = true → up = true → _ = true → s.Unused _))
  | .stop _ => inferInstanceAs (Decidable (s.Unused _))
  | .disconnect => inferInstanceAs (Decidable (s.host.connected = true → s.Unused _))
  | .greet _ _ =>
    haveI : Decidable (s.handshakes = []) := decidable_of_iff _ List.isEmpty_iff
    inferInstanceAs (Decidable ((_ = true → s.host.connected = true) →
      s.Unused _ ∧ s.handshakes = [] ∧ s.Clear settings _))
  | .garbled text _ _ =>
    inferInstanceAs (Decidable (∀ call ∈ s.waiting, ¬ call.2.Asked settings.rules text))
  | .hubPoll _ _ => inferInstanceAs (Decidable (_ = true → s.Unused 0))
  | .call (.sent _ _) | .call (.sendFailed _) | .call (.poll _ _) | .call (.cancel _)
  | .call (.heartbeatSent _) | .call .stop | .call (.stopSent _) | .call (.arrive _ _)
  | .greetSent _ _ | .greetFailed _ | .greetPoll _ _ | .greetCancelled _ | .disconnected _
  | .recover | .deliver _ _ | .arrive _ | .lose | .loseReply => inferInstanceAs (Decidable True)

/-- A SPIKE hub with two motors, on the shipped limits. -/
private def spikeHub : LinkSettings where
  adapter := ⟨1 / 2, 1 / 5, some 256⟩
  handshakeTimeoutSeconds := 3
  modelId := "spike-prime"
  portCount := 6
  rules := .micropython
  known := by simp [TextRules.interpreters]
  machine := Hub.robot

private def switchedOn : HubLink := { host := .new, hub := HubAgent.initial 500 }

private def connecting : List LinkStep :=
  [.greet false 0, .deliver 0 Hub.idle, .greetSent 0 0, .arrive 0, .greetPoll 0 0]

private def startMotor (now : ℚ) : List LinkStep :=
  [.call (.execute .motorRun ["A", "40", "2000"] now), .deliver 0 Hub.idle, .call (.sent 0 now),
    .arrive now, .call (.poll 0 now)]

private def mismatched (taken : Taken) : Bool :=
  taken.line.any fun sent => decide (sent.origin ≠ taken.waiting)

/-- A hub is connected and starts a motor: both replies are handed over. -/
theorem replies_matched_spike : ∃ trace s,
    ((hubLink spikeHub).restrict fun s e => s.Distinct spikeHub e).Run trace s ∧
      (Machine.outputs trace).length = 2 ∧ ∀ taken ∈ Machine.outputs trace, taken.Matched := by
  have hexec : ((Machine.execute (HubLink.step spikeHub) (fun s e => s.Distinct spikeHub e)
      switchedOn (connecting ++ startMotor 0)).any fun last =>
        decide ((Machine.outputs last.2).length = 2)) = true := by
    decide
  obtain ⟨last, hlast, hlength⟩ := (Option.any_eq_true ..).mp hexec
  have hrun := Machine.run_of_execute (M := hubLink spikeHub) ⟨_, rfl⟩ id hlast
  exact ⟨_, _, hrun, of_decide_eq_true hlength, replies_matched hrun⟩

@[irreducible] private def connectedHub : HubLink :=
  ((Machine.execute (HubLink.step spikeHub) (fun _ _ => True) switchedOn connecting).map
    Prod.fst).getD switchedOn

/-- The hub that was connected, after `n` heartbeats that were lost or not yet answered. -/
private def tended (n : ℕ) : HubLink :=
  { connectedHub with
    host := { connectedHub.host with
      sequence := n + 1
      lastHeartbeatAt := some (n / 5) } }

private theorem heartbeat_frame {number : ℤ} (hnonneg : 0 ≤ number)
    (hbounded : number < sequenceModulus) :
    ∃ frame, Frame.create number .heartbeat ["200"] = .ok frame := by
  have hnumber := Hub.length_number_le hnonneg hbounded
  have hwire : IsWireFrame number .heartbeat ["200"] := by
    refine ⟨hnonneg, hbounded, by decide, ?_, ?_⟩
    · simp only [List.mem_singleton, forall_eq]
      exact ⟨by decide, by decide⟩
    · have htag : protocolTag.length = 2 := by decide
      have hname : Operation.heartbeat.value.length = 9 := by decide
      have hargument : "200".length = 3 := by decide
      have hmax : maxFrameChars = 96 := rfl
      rw [encode]
      simp only [PyString.length_join_cons_cons, PyString.join_singleton]
      omega
  exact ⟨⟨_, _, _, validateFrame_ok.mpr hwire⟩, create_eq_ok.mpr ⟨rfl, rfl, rfl⟩⟩

/-- A heartbeat that is lost changes the number, and nothing else but the time. -/
private theorem heartbeat_lost {s : HubLink} {t : ℚ} (hnonneg : 0 ≤ s.host.sequence)
    (hbounded : s.host.sequence + 1 < sequenceModulus) (hlast : s.host.lastHeartbeatAt = some t)
    (hconnected : s.host.connected = true) (hlines : s.host.lines = [])
    (hdiagnostics : s.host.diagnostics = []) (hbeats : s.host.heartbeats = 0)
    (hbuffered : s.buffered = []) (htoHub : s.toHub = []) :
    ∃ trace, (hubLink spikeHub).Steps s trace { s with
      host := { s.host with
        sequence := s.host.sequence + 1
        lastHeartbeatAt := some (t + 1 / 5) } } := by
  obtain ⟨⟨connected, available, number, last, lines, diagnostics, events, requests, beats, stops,
    nextCall⟩, hub, handshakes, nextHandshake, leaving, toHub, toHost, buffered⟩ := s
  simp only at hnonneg hbounded hlast hconnected hlines hdiagnostics hbeats hbuffered htoHub
  subst hlast hconnected hlines hdiagnostics hbeats hbuffered htoHub
  obtain ⟨frame, hframe⟩ := heartbeat_frame (Int.add_nonneg hnonneg one_pos.le) hbounded
  have hnext : nextSequence number = number + 1 :=
    Int.emod_eq_of_lt (Int.add_nonneg hnonneg one_pos.le) hbounded
  have hinterval : toString ⌊spikeHub.adapter.heartbeatIntervalSeconds * 1000⌋ = "200" := by
    have hfloor : ⌊(1 / 5 : ℚ) * 1000⌋ = 200 := by norm_num
    change toString ⌊(1 / 5 : ℚ) * 1000⌋ = "200"
    rw [hfloor]
    rfl
  let idle (number : ℤ) (last : ℚ) (beats : ℕ) (toHub : List Sent) : HubLink :=
    ⟨⟨true, available, number, some last, [], [], events, requests, beats, stops, nextCall⟩, hub,
      handshakes, nextHandshake, leaving, toHub, toHost, []⟩
  have hdrained (number : ℤ) (last : ℚ) (beats : ℕ) (toHub : List Sent) :
      (idle number last beats toHub).host.drainTransport =
        ((idle number last beats toHub).host, true) := by
    simp [idle, HubAdapter.drainTransport, HubAdapter.takeFrames, readFrames, HubAdapter.queueAll,
      HubAdapter.recordDiagnostics]
  have hbegun : (idle number t 0 []).host.beginTick spikeHub.adapter true (t + 1 / 5) =
      (idle (number + 1) (t + 1 / 5) 1 []).host := by
    unfold HubAdapter.beginTick
    rw [hdrained]
    simp [idle, spikeHub, hnext]
  have htick : HubLink.step spikeHub (idle number t 0 []) (.call (.tick true (t + 1 / 5))) =
      some (idle (number + 1) (t + 1 / 5) 1 [⟨frame.encodeLine, .other⟩], []) := by
    simp only [HubLink.step, HubLink.ofCall, HubAdapter.step, hbegun]
    simp [idle, HubLink.follow, HubLink.send, HubLink.sentBy, hinterval, frameLine, hframe]
  have hlose : HubLink.step spikeHub (idle (number + 1) (t + 1 / 5) 1 [⟨frame.encodeLine, .other⟩])
      .lose = some (idle (number + 1) (t + 1 / 5) 1 [], []) := rfl
  have hsent : HubLink.step spikeHub (idle (number + 1) (t + 1 / 5) 1 [])
      (.call (.heartbeatSent true)) = some (idle (number + 1) (t + 1 / 5) 0 [], []) := by
    have hhost : HubAdapter.step spikeHub.adapter (idle (number + 1) (t + 1 / 5) 1 []).host
        (.heartbeatSent true) = some ((idle (number + 1) (t + 1 / 5) 0 []).host, []) := by
      change some ((((idle (number + 1) (t + 1 / 5) 0 []).host).drainTransport).1, []) = _
      rw [hdrained]
    simp only [HubLink.step, HubLink.ofCall, hhost]
    simp [idle, HubLink.follow, HubLink.send, HubLink.sentBy]
  exact ⟨_, ((Machine.Steps.nil.snoc (M := hubLink spikeHub) htick).snoc hlose).snoc hsent⟩

private theorem connected_reachable :
    ∃ trace, (hubLink spikeHub).Run trace connectedHub := by
  have hexec : (Machine.execute (HubLink.step spikeHub) (fun _ _ => True) switchedOn
      connecting).isSome = true := by decide
  obtain ⟨last, hlast⟩ := Option.isSome_iff_exists.mp hexec
  have hrun := (Machine.run_of_execute (M := hubLink spikeHub) ⟨_, rfl⟩ id hlast).of_restrict
  have hstate : connectedHub = last.1 := by
    unfold connectedHub
    rw [hlast]
    rfl
  exact ⟨_, hstate ▸ hrun⟩

private theorem connectedHub_idle :
    (connectedHub.host.connected && connectedHub.host.lines.isEmpty &&
      connectedHub.host.diagnostics.isEmpty && connectedHub.buffered.isEmpty &&
      connectedHub.toHub.isEmpty && decide (connectedHub.host.heartbeats = 0 ∧
        connectedHub.host.sequence = 1 ∧ connectedHub.host.lastHeartbeatAt = some 0)) = true := by
  decide +kernel

/-- Heartbeats bring the adapter to every number. -/
private theorem tended_reachable {n : ℕ} (h : n + 1 < sequenceModulus) :
    ∃ trace, (hubLink spikeHub).Run trace (tended n) := by
  have hidle := connectedHub_idle
  simp only [Bool.and_eq_true, decide_eq_true_eq, List.isEmpty_iff] at hidle
  obtain ⟨⟨⟨⟨⟨hconnected, hlines⟩, hdiagnostics⟩, hbuffered⟩, htoHub⟩, hbeats, hsequence, hlast⟩ :=
    hidle
  induction n with
  | zero =>
    obtain ⟨trace, hrun⟩ := connected_reachable
    have hstate : tended 0 = connectedHub := by
      unfold tended
      simp only [Nat.cast_zero, zero_add, zero_div]
      rw [← hsequence, ← hlast]
    exact ⟨trace, hstate ▸ hrun⟩
  | succ n ih =>
    obtain ⟨trace, initial, hinitial, hsteps⟩ := ih (by omega)
    have hbounded : ((n : ℤ) + 1) + 1 < sequenceModulus := by
      have hcast : (((n + 1 + 1 : ℕ)) : ℤ) < (sequenceModulus : ℕ) := Int.ofNat_lt.mpr h
      push_cast at hcast
      exact hcast
    have hnonneg : 0 ≤ (tended n).host.sequence := by
      simp only [tended]
      omega
    obtain ⟨last, hlost⟩ := heartbeat_lost hnonneg hbounded rfl hconnected hlines hdiagnostics hbeats
      hbuffered htoHub
    have hstate : tended (n + 1) = { tended n with
        host := { (tended n).host with
          sequence := (tended n).host.sequence + 1
          lastHeartbeatAt := some ((n : ℚ) / 5 + 1 / 5) } } := by
      simp only [tended, Nat.cast_add, Nat.cast_one, add_div]
    exact ⟨_, initial, hinitial, hsteps.trans (hstate ▸ hlost)⟩

/-- The motor that was started is to be stopped; before the hub reads the command, of number 0,
its watchdog expires. -/
private def stopLate : List LinkStep :=
  [.call (.execute .motorStop ["ALL"] 2001), .call (.sent 1 2001), .hubPoll 501 Hub.idle,
    .arrive 2001, .call (.poll 1 2001)]

/-- The report of the watchdog is handed to the request of number 0 as its reply. -/
theorem watchdog_taken_as_reply : ∃ trace s, (hubLink spikeHub).Run trace s ∧
    ∃ taken ∈ Machine.outputs trace, ¬ taken.Matched := by
  obtain ⟨trace, initial, hinitial, hsteps⟩ := tended_reachable (n := 9997) (by decide)
  have hexec : ((Machine.execute (HubLink.step spikeHub) (fun _ _ => True) (tended 9997)
      (startMotor 2000 ++ stopLate)).any fun last =>
        (Machine.outputs last.2).any mismatched) = true := by
    decide +kernel
  obtain ⟨last, hlast, hend⟩ := (Option.any_eq_true ..).mp hexec
  have hlate := (Machine.steps_of_execute (M := hubLink spikeHub) id hlast).of_restrict
  obtain ⟨taken, htaken, hother⟩ := List.any_eq_true.mp hend
  refine ⟨_, _, ⟨initial, hinitial, hsteps.trans hlate⟩, taken, ?_, ?_⟩
  · rw [Machine.outputs_append]
    exact List.mem_append_right _ htaken
  · rintro ⟨sent, hline, -, horigin⟩
    simp [mismatched, hline, horigin] at hother

end CitPhysicalXR.Lego
