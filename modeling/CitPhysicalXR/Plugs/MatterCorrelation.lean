import CitPhysicalXR.Foundation.Execution
import CitPhysicalXR.Plugs.MatterClient

/-! Every command is answered by its own response. A connection that fails or is closed by the
client leaves no command waiting; one that the server closes in order does. -/
namespace CitPhysicalXR.Plugs
open Foundation
namespace MatterClient

/-- What a step sets the future of a call to, when it is not set yet. -/
def decisive (number : ℕ) : MatterStep → Option MatterAnswer
  | .receive _ (.error error) => some (failReason error)
  | .receive _ (.ok message) =>
    if (message.get? "event").isSome then (eventError? message).map failReason
    else match message.get? "message_id" with
      | some (.str messageId) =>
        if messageId = toString number then responseAnswer? message else none
      | _ => none
  | .failed _ error => some (failReason error)
  | .closeIdle | .closed _ => some closeReason
  | _ => none

/-- A response that names another command decides nothing. -/
theorem decisive_other {number other connection : ℕ} {message : JsonObject}
    (hevent : message.get? "event" = none)
    (hid : message.get? "message_id" = some (.str (toString other))) (hne : number ≠ other) :
    decisive number (.receive connection (.ok message)) = none := by
  have hname : toString other ≠ toString number :=
    fun h => hne (TextRules.toString_injective h).symm
  simp only [decisive, hevent, hid, Option.isSome_none, Bool.false_eq_true, if_false, if_neg hname]

/-- What decides is the command's own response, or the end of a connection. -/
theorem decisive_own {number : ℕ} {e : MatterStep} {answer : MatterAnswer}
    (h : decisive number e = some answer) :
    (∃ connection message, e = .receive connection (.ok message) ∧
      message.get? "message_id" = some (.str (toString number)) ∧
      responseAnswer? message = some answer) ∨ ∃ reason, answer = .lost reason := by
  cases e with
  | receive connection message =>
    cases message with
    | error error => exact .inr ⟨_, (Option.some.inj h).symm⟩
    | ok message =>
      simp only [decisive] at h
      split at h
      · obtain ⟨error, -, rfl⟩ := Option.map_eq_some_iff.mp h
        exact .inr ⟨_, rfl⟩
      · split at h
        · rename_i messageId hid
          split at h
          · rename_i hown
            rw [hown] at hid
            exact .inl ⟨connection, message, rfl, hid, h⟩
          · cases h
        · cases h
  | failed connection error => exact .inr ⟨_, (Option.some.inj h).symm⟩
  | closeIdle | closed connection => exact .inr ⟨_, (Option.some.inj h).symm⟩
  | _ => cases h

/-- Every call that waits has its entry. -/
def Registered (s : MatterClient) : Prop :=
  ∀ call ∈ s.calls, call.future = none → call.number ∈ s.pending

structure Continues (e : MatterStep) (call call' : MatterCall) : Prop where
  number : call'.number = call.number
  connection : call'.connection = call.connection
  future : call'.future = (call.future <|> decisive call.number e)

structure CallsAfter (s : MatterClient) (e : MatterStep) (s' : MatterClient) : Prop where
  calls : ∀ call' ∈ s'.calls, (∃ call ∈ s.calls, Continues e call call') ∨
    (e = .call true ∧ call'.number = s.nextMessageId + 1 ∧ s.socket = some call'.connection ∧
      call'.future = none)
  registered : Registered s'

section Calls
variable {s s' : MatterClient} {e : MatterStep} {out : List MatterReport}

theorem Continues.refl {call : MatterCall} (h : decisive call.number e = none) :
    Continues e call call :=
  ⟨rfl, rfl, by simp [h]⟩

/-- A step that is decisive for no call and only adds entries. -/
theorem callsAfter_quiet (hregistered : Registered s)
    (hdecisive : ∀ number, decisive number e = none)
    (hcalls : s'.calls = s.calls) (hpending : ∀ number ∈ s.pending, number ∈ s'.pending) :
    CallsAfter s e s' := by
  constructor
  · intro call hcall
    rw [hcalls] at hcall
    exact .inl ⟨call, hcall, .refl (hdecisive call.number)⟩
  · intro call hcall hfuture
    rw [hcalls] at hcall
    exact hpending _ (hregistered call hcall hfuture)

theorem callsAfter_endCall (hregistered : Registered s)
    (hdecisive : ∀ number, decisive number e = none) (number : ℕ) :
    CallsAfter s e (s.endCall number) := by
  constructor
  · intro call hcall
    exact .inl ⟨call, (List.mem_filter.mp hcall).1, .refl (hdecisive call.number)⟩
  · intro call hcall hfuture
    obtain ⟨hold, hother⟩ := List.mem_filter.mp hcall
    exact List.mem_filter.mpr ⟨hregistered call hold hfuture, hother⟩

theorem callsAfter_failPending (hregistered : Registered s) {answer : MatterAnswer}
    (hdecisive : ∀ number, decisive number e = some answer)
    (hcalls : s'.calls = (s.failPending answer).calls) : CallsAfter s e s' := by
  have hcontinues : ∀ call' ∈ s'.calls, ∃ call ∈ s.calls, Continues e call call' := by
    intro call' hcall'
    rw [hcalls] at hcall'
    obtain ⟨call, hcall, rfl⟩ := List.mem_map.mp hcall'
    refine ⟨call, hcall, ?_⟩
    split
    · exact ⟨rfl, rfl, by rw [hdecisive, MatterCall.settle]⟩
    · rename_i hnot
      refine ⟨rfl, rfl, ?_⟩
      cases hfuture : call.future with
      | none => exact absurd (hregistered call hcall hfuture) hnot
      | some other => rfl
  constructor
  · exact fun call' hcall' => .inl (hcontinues call' hcall')
  · intro call' hcall' hfuture
    obtain ⟨call, -, hcall⟩ := hcontinues call' hcall'
    rw [hcall.future, hdecisive] at hfuture
    cases hold : call.future <;> simp [hold] at hfuture

/-- The send of a message leaves the futures as they are. -/
theorem callsAfter_sent (hregistered : Registered s) (number : ℕ) :
    CallsAfter s (.sent number) { s with
      calls := KeyedList.update MatterCall.number number (fun call => { call with sent := true })
        s.calls } := by
  have hcontinues (call : MatterCall) : Continues (.sent number) call
      (if call.number = number then { call with sent := true } else call) := by
    split <;> exact ⟨rfl, rfl, by simp [decisive]⟩
  constructor
  · intro call' hcall'
    obtain ⟨call, hcall, rfl⟩ := KeyedList.mem_update.mp hcall'
    exact .inl ⟨call, hcall, hcontinues call⟩
  · intro call' hcall' hfuture
    obtain ⟨call, hcall, rfl⟩ := KeyedList.mem_update.mp hcall'
    rw [(hcontinues call).number]
    apply hregistered call hcall
    rw [(hcontinues call).future] at hfuture
    simpa [decisive] using hfuture

/-- A response sets the future of the command that it names. -/
theorem callsAfter_settle (hregistered : Registered s) {connection : ℕ} {message : JsonObject}
    {messageId : String} (hevent : (message.get? "event").isSome = false)
    (hid : message.get? "message_id" = some (.str messageId)) :
    CallsAfter s (.receive connection (.ok message))
      (s.settle messageId (responseAnswer? message)) := by
  have hdecisive (number : ℕ) : decisive number (.receive connection (.ok message)) =
      if messageId = toString number then responseAnswer? message else none := by
    simp [decisive, hevent, hid]
  unfold settle
  split
  · rename_i number hfind
    have hnamed : toString number = messageId := by simpa using List.find?_some hfind
    have hcontinues (call : MatterCall) : Continues (.receive connection (.ok message)) call
        (if call.number = number then call.settle (responseAnswer? message) else call) := by
      split
      · rename_i hnumber
        refine ⟨rfl, rfl, ?_⟩
        rw [hdecisive, hnumber, if_pos hnamed.symm]
        rfl
      · rename_i hnumber
        apply Continues.refl
        rw [hdecisive, if_neg]
        intro heq
        exact hnumber (TextRules.toString_injective (hnamed.trans heq)).symm
    constructor
    · intro call' hcall'
      obtain ⟨call, hcall, rfl⟩ := KeyedList.mem_update.mp hcall'
      exact .inl ⟨call, hcall, hcontinues call⟩
    · intro call' hcall' hfuture
      obtain ⟨call, hcall, rfl⟩ := KeyedList.mem_update.mp hcall'
      rw [(hcontinues call).number]
      apply hregistered call hcall
      rw [(hcontinues call).future] at hfuture
      cases hold : call.future with
      | none => rfl
      | some answer => simp [hold] at hfuture
  · rename_i hfind
    refine ⟨?_, hregistered⟩
    intro call hcall
    refine .inl ⟨call, hcall, rfl, rfl, ?_⟩
    cases hfuture : call.future with
    | some answer => rfl
    | none =>
      have hmem := hregistered call hcall hfuture
      have hother : ¬ toString call.number = messageId := by
        simpa using List.find?_eq_none.mp hfind _ hmem
      rw [hdecisive, if_neg fun heq => hother heq.symm]
      rfl

theorem callsAfter_receive (hregistered : Registered s) (connection : ℕ)
    (message : Except String JsonObject) :
    CallsAfter s (.receive connection message) (s.receive connection message) := by
  cases message with
  | error error => exact callsAfter_failPending hregistered (fun _ => rfl) rfl
  | ok message =>
    unfold receive
    by_cases hevent : (message.get? "event").isSome = true
    · simp only [hevent, if_true]
      cases herror : eventError? message with
      | some error =>
        have hdecisive (number : ℕ) : decisive number (.receive connection (.ok message)) =
            some (failReason error) := by
          simp [decisive, hevent, herror]
        exact callsAfter_failPending hregistered hdecisive rfl
      | none =>
        refine callsAfter_quiet hregistered ?_ rfl fun _ h => h
        intro number
        simp [decisive, hevent, herror]
    · rw [Bool.not_eq_true] at hevent
      simp only [hevent, Bool.false_eq_true, if_false]
      split
      · rename_i messageId hid
        exact callsAfter_settle hregistered hevent hid
      · rename_i hid
        refine callsAfter_quiet hregistered ?_ rfl fun _ h => h
        intro number
        simp only [decisive, hevent, Bool.false_eq_true, if_false]

theorem callsAfter_beginCall (hregistered : Registered s) {connection : ℕ}
    (hsocket : s.socket = some connection) (writable : Bool) :
    CallsAfter s (.call writable) (s.beginCall connection writable) := by
  have hpending : ∀ number ∈ s.pending, number ∈ (s.beginCall connection writable).pending :=
    fun number hnumber => List.mem_append_left _ hnumber
  cases writable with
  | false => exact callsAfter_quiet hregistered (fun _ => rfl) rfl hpending
  | true =>
    constructor
    · intro call hcall
      rcases List.mem_append.mp hcall with hold | hnew
      · exact .inl ⟨call, hold, .refl rfl⟩
      · obtain rfl := List.mem_singleton.mp hnew
        exact .inr ⟨rfl, rfl, hsocket, rfl⟩
    · intro call hcall hfuture
      rcases List.mem_append.mp hcall with hold | hnew
      · exact hpending _ (hregistered call hold hfuture)
      · obtain rfl := List.mem_singleton.mp hnew
        exact List.mem_append_right _ (List.mem_singleton_self _)

theorem resume_cases {number : ℕ} (h : s.step (.resume number) = some (s', out)) :
    ∃ call answer, call ∈ s.calls ∧ call.number = number ∧ call.future = some answer ∧
      s' = s.endCall number ∧ out = [.ended number (.answered answer)] := by
  simp only [step] at h
  split at h
  · rename_i call hfind
    split at h
    · obtain ⟨answer, hanswer, heq⟩ := Option.map_eq_some_iff.mp h
      cases heq
      have hnumber : call.number = number := by simpa using List.find?_some hfind
      exact ⟨call, answer, List.mem_of_find?_eq_some hfind, hnumber, hanswer, rfl, rfl⟩
    · cases h
  · cases h

theorem step_answered {number : ℕ} {answer : MatterAnswer} (h : s.step e = some (s', out))
    (hended : MatterReport.ended number (.answered answer) ∈ out) : e = .resume number := by
  cases e with
  | resume other =>
    obtain ⟨call, given, -, -, -, -, rfl⟩ := resume_cases h
    cases List.mem_singleton.mp hended
    rfl
  | call writable =>
    simp only [step] at h
    split at h
    · cases h
      cases List.mem_singleton.mp hended
    · cases h
      cases writable with
      | true => cases hended
      | false => cases List.mem_singleton.mp hended
  | abandon =>
    cases h
    cases hended
  | close =>
    obtain ⟨connection, -, heq⟩ := Option.map_eq_some_iff.mp h
    cases heq
    cases hended
  | sendFailed other | timeout other | cancel other =>
    simp only [step] at h
    split at h
    · cases h
      cases List.mem_singleton.mp hended
    · cases h
  | _ =>
    simp only [step] at h
    split at h
    · cases h
      cases hended
    · cases h

theorem step_callsAfter (hregistered : Registered s) (h : s.step e = some (s', out)) :
    CallsAfter s e s' := by
  cases e with
  | connect =>
    simp only [step] at h
    split at h
    · cases h
      exact callsAfter_quiet hregistered (fun _ => rfl) rfl fun _ hnumber => hnumber
    · cases h
  | abandon =>
    cases h
    exact callsAfter_quiet hregistered (fun _ => rfl) rfl fun _ hnumber => hnumber
  | call writable =>
    simp only [step] at h
    split at h
    · cases h
      exact callsAfter_quiet hregistered (fun _ => rfl) rfl fun _ hnumber => hnumber
    · rename_i connection hsocket
      cases h
      exact callsAfter_beginCall hregistered hsocket writable
  | sent number =>
    simp only [step] at h
    split at h
    · cases h
      exact callsAfter_sent hregistered number
    · cases h
  | sendFailed number | timeout number | cancel number =>
    simp only [step] at h
    split at h
    · cases h
      exact callsAfter_endCall hregistered (fun _ => rfl) number
    · cases h
  | resume number =>
    obtain ⟨call, answer, -, -, -, rfl, -⟩ := resume_cases h
    exact callsAfter_endCall hregistered (fun _ => rfl) number
  | receive connection message =>
    simp only [step] at h
    split at h
    · cases h
      exact callsAfter_receive hregistered connection message
    · cases h
  | failed connection error =>
    simp only [step] at h
    split at h
    · cases h
      exact callsAfter_failPending hregistered (fun _ => rfl) rfl
    · cases h
  | closedInOrder connection | loopCancelled connection =>
    simp only [step] at h
    split at h
    · cases h
      exact callsAfter_quiet hregistered (fun _ => rfl) rfl fun _ hnumber => hnumber
    · cases h
  | close =>
    obtain ⟨connection, -, heq⟩ := Option.map_eq_some_iff.mp h
    cases heq
    exact callsAfter_quiet hregistered (fun _ => rfl) rfl fun _ hnumber => hnumber
  | closeIdle | closed connection =>
    simp only [step] at h
    split at h
    · cases h
      exact callsAfter_failPending hregistered (fun _ => rfl) rfl
    · cases h

end Calls
/-- The socket in use has its loop, and a loop is cancelled only for a `close` that waits. -/
structure Linked (s : MatterClient) : Prop where
  socket : ∀ connection, s.socket = some connection → ⟨connection, false⟩ ∈ s.loops
  cancelled : ∀ loop ∈ s.loops, loop.cancelled = true → loop.connection ∈ s.closings

/-- A connection that has not ended: its loop runs, or a `close` waits for it. -/
def Live (s : MatterClient) (connection : ℕ) : Prop :=
  (∃ loop ∈ s.loops, loop.connection = connection) ∨ connection ∈ s.closings

/-- No command waits for a connection that has ended: its future is set. -/
def Prompt (s : MatterClient) : Prop :=
  ∀ call ∈ s.calls, ¬ Live s call.connection → call.future.isSome = true

instance (s : MatterClient) : DecidablePred (Live s) := fun _ => inferInstanceAs (Decidable (_ ∨ _))

instance (s : MatterClient) : Decidable (Prompt s) :=
  inferInstanceAs (Decidable (∀ call ∈ s.calls, _ → call.future.isSome = true))

structure LinksAfter (s : MatterClient) (e : MatterStep) (s' : MatterClient) : Prop where
  linked : Linked s'
  live : ∀ number connection, decisive number e = none → e ≠ .closedInOrder connection →
    Live s connection → Live s' connection

section Links
variable {s s' : MatterClient} {e : MatterStep} {out : List MatterReport}

theorem Linked.congr (hlinked : Linked s) (hsocket : s'.socket = s.socket ∨ s'.socket = none)
    (hloops : s'.loops = s.loops) (hclosings : s'.closings = s.closings) : Linked s' := by
  constructor
  · intro connection hconnection
    rw [hloops]
    rcases hsocket with hsame | hnone
    · exact hlinked.socket connection (hsame.symm.trans hconnection)
    · rw [hnone] at hconnection
      cases hconnection
  · rw [hloops, hclosings]
    exact hlinked.cancelled

theorem linksAfter_same (hlinked : Linked s) (hsocket : s'.socket = s.socket ∨ s'.socket = none)
    (hloops : s'.loops = s.loops) (hclosings : s'.closings = s.closings) : LinksAfter s e s' := by
  refine ⟨hlinked.congr hsocket hloops hclosings, ?_⟩
  intro number connection _ _ hlive
  rwa [Live, hloops, hclosings]

theorem Linked.endLoop (hlinked : Linked s) (connection : ℕ) :
    Linked (s.endLoop connection) := by
  constructor
  · intro other hother
    simp only [MatterClient.endLoop] at hother ⊢
    split at hother
    · cases hother
    · rename_i hne
      have hdistinct : other ≠ connection := by
        rintro rfl
        exact hne hother
      exact List.mem_filter.mpr ⟨hlinked.socket other hother, by simpa using hdistinct⟩
  · intro loop hloop
    exact hlinked.cancelled loop (List.mem_filter.mp hloop).1

theorem Live.endLoop {connection other : ℕ} (hlive : Live s other)
    (hother : other ≠ connection ∨ other ∈ s.closings) : Live (s.endLoop connection) other := by
  rcases hlive with ⟨loop, hloop, rfl⟩ | hclosing
  · rcases hother with hne | hclosing
    · exact .inl ⟨loop, List.mem_filter.mpr ⟨hloop, by simpa using hne⟩, rfl⟩
    · exact .inr hclosing
  · exact .inr hclosing

theorem linksAfter_failLoop (hlinked : Linked s) (connection : ℕ) (error : String)
    (hdecisive : ∀ number, decisive number e ≠ none) :
    LinksAfter s e (s.failLoop connection error) := by
  have hfailed : Linked (s.failPending (failReason error)) := hlinked.congr (.inl rfl) rfl rfl
  exact ⟨hfailed.endLoop connection, fun number _ hnone => absurd hnone (hdecisive number)⟩

theorem linksAfter_connect (hlinked : Linked s) :
    LinksAfter s .connect { s with
      socket := some s.nextConnection
      receiver := some s.nextConnection
      loops := s.loops ++ [⟨s.nextConnection, false⟩]
      nextConnection := s.nextConnection + 1 } := by
  refine ⟨⟨?_, ?_⟩, ?_⟩
  · intro connection hconnection
    cases hconnection
    exact List.mem_append_right _ (List.mem_singleton_self _)
  · intro loop hloop hcancelled
    rcases List.mem_append.mp hloop with hold | hnew
    · exact hlinked.cancelled loop hold hcancelled
    · rw [List.mem_singleton.mp hnew] at hcancelled
      cases hcancelled
  · intro number connection _ _ hlive
    rcases hlive with ⟨loop, hloop, hconnection⟩ | hclosing
    · exact .inl ⟨loop, List.mem_append_left _ hloop, hconnection⟩
    · exact .inr hclosing

theorem linksAfter_beginClose (hlinked : Linked s) (connection : ℕ) :
    LinksAfter s .close (s.beginClose connection) := by
  refine ⟨⟨?_, ?_⟩, ?_⟩
  · intro other hother
    cases hother
  · intro loop hloop hcancelled
    obtain ⟨old, hold, rfl⟩ := List.mem_map.mp hloop
    by_cases hsame : old.connection = connection
    · rw [if_pos hsame, hsame]
      exact List.mem_append_right _ (List.mem_singleton_self _)
    · rw [if_neg hsame] at hcancelled ⊢
      exact List.mem_append_left _ (hlinked.cancelled old hold hcancelled)
  · intro number other _ _ hlive
    rcases hlive with ⟨loop, hloop, rfl⟩ | hclosing
    · refine .inl ⟨_, List.mem_map_of_mem hloop, ?_⟩
      split <;> rfl
    · exact .inr (List.mem_append_left _ hclosing)

theorem linksAfter_receive (hlinked : Linked s) (connection : ℕ)
    (message : Except String JsonObject) :
    LinksAfter s (.receive connection message) (s.receive connection message) := by
  cases message with
  | error error =>
    apply linksAfter_failLoop hlinked
    intro number
    simp [decisive]
  | ok message =>
    unfold receive
    by_cases hevent : (message.get? "event").isSome = true
    · simp only [hevent, if_true]
      cases herror : eventError? message with
      | some error =>
        apply linksAfter_failLoop hlinked
        intro number
        simp [decisive, hevent, herror]
      | none => exact linksAfter_same hlinked (.inl rfl) rfl rfl
    · simp only [Bool.not_eq_true] at hevent
      simp only [hevent, Bool.false_eq_true, if_false]
      split
      · unfold settle
        split <;> exact linksAfter_same hlinked (.inl rfl) rfl rfl
      · exact linksAfter_same hlinked (.inl rfl) rfl rfl

theorem linksAfter_closed (hlinked : Linked s) {connection : ℕ}
    (hended : (s.loops.all fun loop => loop.connection ≠ connection) = true) :
    LinksAfter s (.closed connection) ({ s with
      closings := s.closings.filter fun other => other ≠ connection }.failPending closeReason) := by
  refine ⟨⟨hlinked.socket, ?_⟩, ?_⟩
  · intro loop hloop hcancelled
    have hother := List.all_eq_true.mp hended loop hloop
    exact List.mem_filter.mpr ⟨hlinked.cancelled loop hloop hcancelled, hother⟩
  · intro number other hdecisive
    cases hdecisive

theorem step_linksAfter (hlinked : Linked s) (h : s.step e = some (s', out)) :
    LinksAfter s e s' := by
  cases e with
  | connect =>
    simp only [step] at h
    split at h
    · cases h
      exact linksAfter_connect hlinked
    · cases h
  | abandon =>
    cases h
    exact linksAfter_same hlinked (.inr rfl) rfl rfl
  | call writable =>
    simp only [step] at h
    split at h <;>
    · cases h
      exact linksAfter_same hlinked (.inl rfl) rfl rfl
  | sent number | sendFailed number | timeout number | cancel number =>
    simp only [step] at h
    split at h
    · cases h
      exact linksAfter_same hlinked (.inl rfl) rfl rfl
    · cases h
  | resume number =>
    obtain ⟨call, answer, -, -, -, rfl, -⟩ := resume_cases h
    exact linksAfter_same hlinked (.inl rfl) rfl rfl
  | receive connection message =>
    simp only [step] at h
    split at h
    · cases h
      exact linksAfter_receive hlinked connection message
    · cases h
  | failed connection error =>
    simp only [step] at h
    split at h
    · cases h
      apply linksAfter_failLoop hlinked
      intro number
      simp [decisive]
    · cases h
  | closedInOrder connection =>
    simp only [step] at h
    split at h
    · cases h
      refine ⟨hlinked.endLoop connection, ?_⟩
      intro number other _ hother hlive
      exact hlive.endLoop (.inl fun heq => hother (by rw [heq]))
    · cases h
  | loopCancelled connection =>
    simp only [step] at h
    split at h
    · rename_i hcancelled
      cases h
      have hclosing := hlinked.cancelled _ (List.contains_iff_mem.mp hcancelled) rfl
      refine ⟨hlinked.endLoop connection, ?_⟩
      intro number other _ _ hlive
      by_cases hsame : other = connection
      · exact hlive.endLoop (.inr (by rwa [hsame]))
      · exact hlive.endLoop (.inl hsame)
    · cases h
  | close =>
    obtain ⟨connection, -, heq⟩ := Option.map_eq_some_iff.mp h
    cases heq
    exact linksAfter_beginClose hlinked connection
  | closeIdle =>
    simp only [step] at h
    split at h
    · cases h
      refine ⟨hlinked.congr (.inr rfl) rfl rfl, ?_⟩
      intro number other hdecisive
      cases hdecisive
    · cases h
  | closed connection =>
    simp only [step] at h
    split at h
    · rename_i hclosed
      cases h
      exact linksAfter_closed hlinked hclosed.2
    · cases h

end Links

/-- The call with a message id was begun in the trace, and this is the first answer that anything
has given it since. -/
def DecidedSince (trace : List (MatterStep × List MatterReport)) (number : ℕ)
    (answer : Option MatterAnswer) : Prop :=
  ∃ pre out post s, trace = pre ++ (.call true, out) :: post ∧ matterClient.Run pre s ∧
    number = s.nextMessageId + 1 ∧
    post.findSome? (fun entry => decisive number entry.1) = answer

section Runs
variable {trace : List (MatterStep × List MatterReport)} {s : MatterClient}

theorem DecidedSince.step {number : ℕ} {answer : Option MatterAnswer} (e : MatterStep)
    (out : List MatterReport) (h : DecidedSince trace number answer) :
    DecidedSince (trace ++ [(e, out)]) number (answer <|> decisive number e) := by
  obtain ⟨pre, first, post, s, rfl, hrun, hnumber, rfl⟩ := h
  refine ⟨pre, first, post ++ [(e, out)], s, by simp, hrun, hnumber, ?_⟩
  rw [List.findSome?_append]
  simp only [List.findSome?_cons, List.findSome?_nil]
  cases decisive number e <;> cases List.findSome? (fun entry => decisive number entry.1) post <;>
    rfl

/-- Every future in flight is the first answer since its command was begun. -/
theorem run_decided (h : matterClient.Run trace s) :
    Registered s ∧ ∀ call ∈ s.calls, DecidedSince trace call.number call.future := by
  refine h.induct (P := fun trace s => Registered s ∧
    ∀ call ∈ s.calls, DecidedSince trace call.number call.future) ?_ ?_
  · intro s hinit
    obtain rfl : s = {} := hinit
    exact ⟨by simp [Registered], by simp⟩
  · intro trace s e s' out hrun ih hstep
    have hafter := step_callsAfter ih.1 hstep
    refine ⟨hafter.registered, ?_⟩
    intro call' hcall'
    rcases hafter.calls call' hcall' with ⟨call, hcall, hcontinues⟩ | ⟨rfl, hnumber, -, hfuture⟩
    · rw [hcontinues.number, hcontinues.future]
      exact (ih.2 call hcall).step e out
    · exact ⟨trace, out, [], s, rfl, hrun, hnumber, by rw [hfuture]; rfl⟩

theorem run_linked (h : matterClient.Run trace s) : Linked s := by
  refine h.reachable.invariant (P := Linked) ?_ ?_
  · intro s hinit
    obtain rfl : s = {} := hinit
    exact ⟨by simp, by simp⟩
  · intro s e s' out hlinked hstep
    exact (step_linksAfter hlinked hstep).linked

/-- An answered command got the first answer since it was begun. -/
theorem step_decided {s' : MatterClient} {e : MatterStep} {out : List MatterReport} {number : ℕ}
    {answer : MatterAnswer} (hrun : matterClient.Run trace s)
    (hstep : matterClient.Step s e s' out)
    (hended : MatterReport.ended number (.answered answer) ∈ out) :
    DecidedSince trace number (some answer) := by
  obtain rfl := step_answered hstep hended
  obtain ⟨call, given, hcall, rfl, hfuture, -, rfl⟩ := resume_cases hstep
  have hdecided := (run_decided hrun).2 call hcall
  rw [hfuture] at hdecided
  cases List.mem_singleton.mp hended
  exact hdecided

end Runs

/-- No connection is closed in order while a command waits for it. -/
def NoneWaiting (s : MatterClient) (e : MatterStep) : Prop :=
  ∀ connection, e = .closedInOrder connection →
    ∀ call ∈ s.calls, call.connection = connection → call.future.isSome = true

instance (s : MatterClient) (e : MatterStep) : Decidable (NoneWaiting s e) :=
  match e with
  | .closedInOrder connection =>
    decidable_of_iff (∀ call ∈ s.calls, call.connection = connection → call.future.isSome = true)
      ⟨fun h _ heq => by
        cases heq
        exact h, fun h => h connection rfl⟩
  | .connect | .abandon | .call _ | .sent _ | .sendFailed _ | .resume _ | .timeout _ | .cancel _
  | .receive _ _ | .failed _ _ | .loopCancelled _ | .close | .closeIdle | .closed _ =>
    isTrue fun _ heq => by cases heq

/-- While no connection is closed in order over a waiting command, none waits for one that has
ended. -/
theorem restricted_prompt {trace : List (MatterStep × List MatterReport)} {s : MatterClient}
    (h : (matterClient.restrict NoneWaiting).Run trace s) : Prompt s := by
  refine h.induct (P := fun _ s => Prompt s) ?_ ?_
  · intro s hinit
    obtain rfl : s = {} := hinit
    simp [Prompt]
  · intro trace s e s' out hrun ih hstep
    obtain ⟨hnone, hstep⟩ := hstep
    have hafter := step_callsAfter (run_decided hrun.of_restrict).1 hstep
    have hlinks := step_linksAfter (run_linked hrun.of_restrict) hstep
    intro call' hcall' hended
    rcases hafter.calls call' hcall' with ⟨call, hcall, hcontinues⟩ | ⟨rfl, -, hsocket, -⟩
    · rw [hcontinues.future]
      rw [hcontinues.connection] at hended
      cases hfuture : call.future with
      | some answer => rfl
      | none =>
        cases hdecisive : decisive call.number e with
        | some answer => rfl
        | none =>
          -- the step decides nothing, so it would have to be an orderly close of this connection
          have hopen : e ≠ .closedInOrder call.connection := by
            intro heq
            have hset := hnone call.connection heq call hcall rfl
            rw [hfuture] at hset
            cases hset
          have hlive : Live s call.connection := by
            by_contra hnot
            have hset := ih call hcall hnot
            rw [hfuture] at hset
            cases hset
          exact absurd (hlinks.live call.number _ hdecisive hopen hlive) hended
    · have hloop := (run_linked hrun.of_restrict).socket _ hsocket
      have hlive := hlinks.live 0 call'.connection rfl (by simp) (.inl ⟨_, hloop, rfl⟩)
      exact absurd hlive hended

end MatterClient

open MatterClient

/-- An answered command got the first answer that was given since it was begun, which is its own
response or the end of a connection; the response of another command decides nothing for it. And
while no connection is closed in order over a waiting command, no command waits for a connection
that has ended. -/
theorem commands_correlated {trace : List (MatterStep × List MatterReport)} {s : MatterClient}
    (hrun : matterClient.Run trace s) :
    (∀ e s' out, matterClient.Step s e s' out →
      ∀ number answer, MatterReport.ended number (.answered answer) ∈ out →
        DecidedSince trace number (some answer)) ∧
    (∀ number e answer, decisive number e = some answer →
      (∃ connection message, e = .receive connection (.ok message) ∧
        message.get? "message_id" = some (.str (toString number)) ∧
        responseAnswer? message = some answer) ∨ ∃ reason, answer = .lost reason) ∧
    (∀ number other connection message, message.get? "event" = none →
      message.get? "message_id" = some (.str (toString other)) → number ≠ other →
        decisive number (.receive connection (.ok message)) = none) ∧
    ((matterClient.restrict NoneWaiting).Run trace s → Prompt s) := by
  refine ⟨?_, ?_, ?_, ?_⟩
  · intro e s' out hstep number answer hended
    exact step_decided hrun hstep hended
  · intro number e answer h
    exact decisive_own h
  · intro number other connection message hevent hid hne
    exact decisive_other hevent hid hne
  · intro hrun
    exact restricted_prompt hrun

private def response (messageId : String) : JsonObject :=
  (JsonObject.empty.set "message_id" (.str messageId)).set "result" (.bool true)

/-- Two commands at once, of which the second is answered first. -/
private def exchange : List MatterStep :=
  [MatterStep.connect, .call true, .call true, .sent 2, .sent 1, .receive 0 (.ok (response "2"))]

/-- The first runs into its timeout, its late response is dropped, and the client is closed over
a third command. -/
private def ending : List MatterStep :=
  [MatterStep.resume 2, .timeout 1, .receive 0 (.ok (response "1")), .call true, .close,
    .loopCancelled 0, .closed 0]

private def isAnswered : List MatterReport → Bool
  | [.ended 2 (.answered (.result (.bool true)))] => true
  | _ => false

theorem commands_correlated_session :
    (∃ trace s s' out, matterClient.Run trace s ∧ matterClient.Step s (.resume 2) s' out ∧
      isAnswered out = true ∧ DecidedSince trace 2 (some (.result (.bool true)))) ∧
    ∃ trace s, (matterClient.restrict NoneWaiting).Run trace s ∧ s.calls.length = 1 ∧
      s.loops = [] ∧ Prompt s := by
  constructor
  · have hexec : ((Machine.execute MatterClient.step NoneWaiting {} exchange).any fun last =>
        (last.1.step (.resume 2)).any fun next => isAnswered next.2) = true := by decide
    obtain ⟨last, hlast, hnext⟩ := (Option.any_eq_true ..).mp hexec
    obtain ⟨next, hstep, hout⟩ := (Option.any_eq_true ..).mp hnext
    have hrun := (Machine.run_of_execute (M := matterClient) rfl id hlast).of_restrict
    refine ⟨last.2, last.1, next.1, next.2, hrun, hstep, hout, ?_⟩
    apply (commands_correlated hrun).1 _ _ _ hstep
    unfold isAnswered at hout
    split at hout
    · rename_i heq
      rw [heq]
      exact List.mem_singleton_self _
    · cases hout
  · have hexec : ((Machine.execute MatterClient.step NoneWaiting {} (exchange ++ ending)).any
        fun last => decide (last.1.calls.length = 1 ∧ last.1.loops = [])) = true := by
      decide
    obtain ⟨last, hlast, hended⟩ := (Option.any_eq_true ..).mp hexec
    have hrun := Machine.run_of_execute (M := matterClient) rfl id hlast
    obtain ⟨hlength, hloops⟩ := of_decide_eq_true hended
    exact ⟨last.2, last.1, hrun, hlength, hloops,
      (commands_correlated hrun.of_restrict).2.2.2 hrun⟩

/-- The controller closes the connection in order while a command waits: the command still waits
after the end, and runs into its timeout. -/
theorem command_outlives_connection : ∃ s s',
    matterClient.Run [(.connect, []), (.call true, []), (.sent 1, []), (.closedInOrder 0, [])] s ∧
      ¬ Prompt s ∧ matterClient.Step s (.timeout 1) s' [.ended 1 .timedOut] := by
  have hconnect : matterClient.Step {} .connect
      { socket := some 0, receiver := some 0, loops := [⟨0, false⟩], nextConnection := 1 } [] := rfl
  have hcall : matterClient.Step
      { socket := some 0, receiver := some 0, loops := [⟨0, false⟩], nextConnection := 1 }
      (.call true)
      { socket := some 0, receiver := some 0, loops := [⟨0, false⟩], nextConnection := 1,
        pending := [1], calls := [⟨1, 0, false, none⟩], nextMessageId := 1 } [] := rfl
  have hsent : matterClient.Step
      { socket := some 0, receiver := some 0, loops := [⟨0, false⟩], nextConnection := 1,
        pending := [1], calls := [⟨1, 0, false, none⟩], nextMessageId := 1 } (.sent 1)
      { socket := some 0, receiver := some 0, loops := [⟨0, false⟩], nextConnection := 1,
        pending := [1], calls := [⟨1, 0, true, none⟩], nextMessageId := 1 } [] := rfl
  have hclosed : matterClient.Step
      { socket := some 0, receiver := some 0, loops := [⟨0, false⟩], nextConnection := 1,
        pending := [1], calls := [⟨1, 0, true, none⟩], nextMessageId := 1 } (.closedInOrder 0)
      { receiver := some 0, nextConnection := 1, pending := [1], calls := [⟨1, 0, true, none⟩],
        nextMessageId := 1 } [] := rfl
  have hsteps := (((Machine.Steps.nil.snoc hconnect).snoc hcall).snoc hsent).snoc hclosed
  exact ⟨_, _, ⟨{}, rfl, hsteps⟩, by decide, rfl⟩

end CitPhysicalXR.Plugs
