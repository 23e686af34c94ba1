import CitPhysicalXR.Fabric.Identities
import CitPhysicalXR.Foundation.Execution
import CitPhysicalXR.Foundation.KeyedTable
import CitPhysicalXR.Foundation.OneUse

/-! Console tickets: short-lived links to the console of an identity, created by the launcher
and used up by a redemption. -/
namespace CitPhysicalXR.Fabric
open Foundation

structure FabricConsoleGrant where
  identityId : String
  actorType : String
  permissions : List String
  siteId : Option String
  roomId : Option String
  ticketExpiresAt : Instant
  persistentSession : Bool
  deriving DecidableEq

structure ConsoleTicket where
  ticketHash : String
  grant : FabricConsoleGrant

abbrev ConsoleTickets := Table ConsoleTicket.ticketHash

namespace FabricAuthService

structure ConsoleTicketArguments where
  identityId : String
  permissions : List String
  siteId : Option String
  roomId : Option String
  ttl : Duration := seconds 90
  actorType : String := "instructor"
  persistentSession : Bool := false

def ConsoleTicketArguments.check (args : ConsoleTicketArguments) : Except FabricAuthError Unit := do
  raiseIf (args.ttl < seconds 15 ∨ minutes 5 < args.ttl)
    (.value "Console ticket TTL must be between 15 seconds and five minutes")
  raiseIf (args.actorType ∉ ["instructor", "android_controller"])
    (.value "Console ticket actor type is invalid")
  validateIdentityValues ["instructor"] args.permissions

def ConsoleTicketArguments.grant (args : ConsoleTicketArguments) (at_ : Instant) :
    FabricConsoleGrant where
  identityId := args.identityId
  actorType := args.actorType
  permissions := args.permissions
  siteId := args.siteId
  roomId := args.roomId
  ticketExpiresAt := at_ + args.ttl
  persistentSession := args.persistentSession

abbrev TicketM := Effect ConsoleTickets FabricAuthError

/-- `_hash_console_ticket`; the digest is SHA-256 in the domain of the console tickets. -/
def hashConsoleTicket (digest : String → String) (ticket : String) :
    Except FabricAuthError String := do
  raiseIf (¬ (32 ≤ ticket.length ∧ ticket.length ≤ 128))
    (.authentication "Console access link is invalid")
  raiseIf (ticket.toList.any PyString.isSpace) (.authentication "Console access link is invalid")
  .ok (digest ticket)

def dropExpiredConsoleTickets (at_ : Instant) (tickets : ConsoleTickets) : ConsoleTickets :=
  tickets.filterRows fun row => ¬ row.grant.ticketExpiresAt ≤ at_

variable (digest : String → String)

/-- `ticket` is the token that is drawn. -/
def createConsoleTicket (args : ConsoleTicketArguments) (ticket : String) (at_ : Instant) :
    TicketM (String × Instant) := do
  Effect.read fun _ => args.check
  Effect.update (dropExpiredConsoleTickets at_)
  let ticketHash ← Effect.read fun _ => hashConsoleTicket digest ticket
  Effect.update fun tickets => tickets.upsert ⟨ticketHash, args.grant at_⟩
  return (ticket, at_ + args.ttl)

/-- `_console_tickets.pop(ticket_hash, None)`. -/
def popConsoleTicket (ticketHash : String) : TicketM (Option FabricConsoleGrant) := do
  let row ← Effect.read fun tickets => .ok (tickets.get? ticketHash)
  Effect.update fun tickets => tickets.filterRows fun row => row.ticketHash ≠ ticketHash
  return row.map (·.grant)

def redeemConsoleTicket (ticket : String) (at_ : Instant) : TicketM FabricConsoleGrant := do
  let ticketHash ← Effect.read fun _ => hashConsoleTicket digest ticket
  let grant ← popConsoleTicket ticketHash
  Effect.update (dropExpiredConsoleTickets at_)
  match grant with
  | none => throw (.authentication "Console access link is invalid or expired")
  | some grant =>
    if grant.ticketExpiresAt ≤ at_ then
      throw (.authentication "Console access link is invalid or expired")
    else return grant

end FabricAuthService

/-- Calls at any instants, in any order; a start of the process begins without tickets. -/
inductive ConsoleTicketEvent where
  | start
  | create (args : FabricAuthService.ConsoleTicketArguments) (ticket : String) (at_ : Instant)
  | redeem (ticket : String) (at_ : Instant)

abbrev ConsoleTicketReport := GrantReport String FabricConsoleGrant

namespace ConsoleTickets
open FabricAuthService
variable (digest : String → String)

def step (tickets : ConsoleTickets) :
    ConsoleTicketEvent → ConsoleTickets × List ConsoleTicketReport
  | .start => (.empty, [])
  | .create args ticket at_ =>
    match createConsoleTicket digest args ticket at_ tickets with
    | .ok _ after => (after, [GrantReport.granted (digest ticket) (args.grant at_)])
    | .error _ after => (after, [])
  | .redeem ticket at_ =>
    match redeemConsoleTicket digest ticket at_ tickets with
    | .ok grant after => (after, [GrantReport.redeemed (digest ticket) grant])
    | .error _ after => (after, [])

end ConsoleTickets

def consoleTickets (digest : String → String) :
    Machine ConsoleTickets ConsoleTicketEvent ConsoleTicketReport where
  Initial tickets := tickets = .empty
  Step tickets event tickets' out := tickets.step digest event = (tickets', out)

namespace ConsoleTickets
open FabricAuthService

/-- Every ticket in the table is an open grant. -/
def Backed (history : List ConsoleTicketReport) (tickets : ConsoleTickets) : Prop :=
  ∀ row ∈ tickets, GrantReport.Open history row.ticketHash row.grant

section Calls
variable {digest : String → String} {history : List ConsoleTicketReport}
  {tickets : ConsoleTickets}

theorem Backed.filter (h : Backed history tickets) (p : ConsoleTicket → Bool) :
    Backed history (tickets.filterRows p) :=
  fun row hrow => h row ((Table.mem_filterRows tickets).mp hrow).1

theorem hashConsoleTicket_ok {ticket ticketHash : String}
    (h : hashConsoleTicket digest ticket = .ok ticketHash) : ticketHash = digest ticket := by
  obtain ⟨_, h⟩ := seq_eq_ok.mp h
  obtain ⟨_, h⟩ := seq_eq_ok.mp h
  exact (Except.ok.inj h).symm

/-- A new ticket takes the place of an older one with its hash. -/
theorem Backed.upsert (h : Backed history tickets) (row : ConsoleTicket) :
    Backed (history ++ [GrantReport.granted row.ticketHash row.grant]) (tickets.upsert row) := by
  intro other hother
  rcases Table.mem_upsert.mp hother with rfl | ⟨hother, hne⟩
  · exact GrantReport.open_granted history _ _
  · apply (h other hother).append
    intro report hreport
    obtain rfl := List.mem_singleton.mp hreport
    exact Ne.symm hne

theorem createConsoleTicket_backed (args : ConsoleTicketArguments) (ticket : String)
    (at_ : Instant) :
    Effect.Triple (Backed history) (createConsoleTicket digest args ticket at_)
      (fun _ => Backed (history ++ [GrantReport.granted (digest ticket) (args.grant at_)]))
      (fun _ => Backed history) := by
  apply Effect.Triple.bind (Q := fun _ => Backed history)
  · exact Effect.Triple.read (fun _ _ h _ => h) fun _ _ h _ => h
  · intro _
    apply Effect.Triple.bind (Q := fun _ => Backed history)
    · exact Effect.Triple.update fun tickets h => h.filter _
    · intro _
      apply Effect.Triple.bind (Q := fun ticketHash tickets => Backed history tickets ∧
        ticketHash = digest ticket)
      · exact Effect.Triple.read (fun _ _ h hhash => ⟨h, hashConsoleTicket_ok hhash⟩)
          fun _ _ h _ => h
      · intro ticketHash
        apply Effect.Triple.assume
        intro hhash
        subst hhash
        apply Effect.Triple.bind (Q := fun _ => Backed
          (history ++ [GrantReport.granted (digest ticket) (args.grant at_)]))
        · exact Effect.Triple.update fun tickets h => h.upsert ⟨digest ticket, args.grant at_⟩
        · intro _
          exact Effect.Triple.pure fun _ h => h

structure Popped (history : List ConsoleTicketReport) (ticketHash : String)
    (grant : Option FabricConsoleGrant) (tickets : ConsoleTickets) : Prop where
  backed : Backed history tickets
  gone : ∀ row ∈ tickets, row.ticketHash ≠ ticketHash
  open_ : ∀ found ∈ grant, GrantReport.Open history ticketHash found

theorem popConsoleTicket_popped (ticketHash : String) :
    Effect.Triple (Backed history) (popConsoleTicket ticketHash)
      (Popped history ticketHash) (fun _ => Backed history) := by
  apply Effect.Triple.bind (Q := fun row tickets => Backed history tickets ∧
    tickets.get? ticketHash = row)
  · apply Effect.Triple.read
    · intro tickets row h hrow
      exact ⟨h, Except.ok.inj hrow⟩
    · exact fun _ _ h _ => h
  · intro row
    apply Effect.Triple.bind (Q := fun _ => Popped history ticketHash (row.map (·.grant)))
    · apply Effect.Triple.update
      intro tickets h
      obtain ⟨hbacked, hrow⟩ := h
      refine ⟨hbacked.filter _, ?_, ?_⟩
      · intro other hother
        exact of_decide_eq_true ((Table.mem_filterRows tickets).mp hother).2
      · intro found hfound
        obtain ⟨popped, rfl, rfl⟩ := Option.map_eq_some_iff.mp hfound
        obtain ⟨hmem, rfl⟩ := Table.get?_some hrow
        exact hbacked popped hmem
    · intro _
      exact Effect.Triple.pure fun _ h => h

theorem redeemConsoleTicket_backed (ticket : String) (at_ : Instant) :
    Effect.Triple (Backed history) (redeemConsoleTicket digest ticket at_)
      (fun grant tickets => Backed (history ++ [GrantReport.redeemed (digest ticket) grant]) tickets ∧
        GrantReport.Open history (digest ticket) grant ∧ at_ < grant.ticketExpiresAt)
      (fun _ => Backed history) := by
  apply Effect.Triple.bind (Q := fun ticketHash tickets => Backed history tickets ∧
    ticketHash = digest ticket)
  · exact Effect.Triple.read (fun _ _ h hhash => ⟨h, hashConsoleTicket_ok hhash⟩) fun _ _ h _ => h
  · intro ticketHash
    apply Effect.Triple.assume
    intro hhash
    subst hhash
    apply Effect.Triple.bind (popConsoleTicket_popped (digest ticket))
    intro grant
    apply Effect.Triple.bind (Q := fun _ => Popped history (digest ticket) grant)
    · apply Effect.Triple.update
      intro tickets h
      refine ⟨h.backed.filter _, ?_, h.open_⟩
      exact fun row hrow => h.gone row ((Table.mem_filterRows tickets).mp hrow).1
    · intro _
      cases grant with
      | none => exact Effect.Triple.throw fun _ h => h.backed
      | some grant =>
        dsimp only
        split
        · exact Effect.Triple.throw fun _ h => h.backed
        · rename_i hlive
          apply Effect.Triple.pure
          intro tickets h
          refine ⟨?_, h.open_ grant rfl, not_le.mp hlive⟩
          intro row hrow
          apply (h.backed row hrow).append
          intro report hreport
          obtain rfl := List.mem_singleton.mp hreport
          exact (h.gone row hrow).symm

end Calls

/-- What a call may report: a ticket of its own arguments, or the redemption of a live one. -/
def Reports (digest : String → String) :
    ConsoleTicketEvent → List ConsoleTicketReport → Prop
  | .start, out => out = []
  | .create args ticket at_, out =>
    out = [] ∨ out = [GrantReport.granted (digest ticket) (args.grant at_)]
  | .redeem ticket at_, out => out = [] ∨ ∃ grant,
    out = [GrantReport.redeemed (digest ticket) grant] ∧ at_ < grant.ticketExpiresAt

/-- What holds of a history and the table that it left. -/
structure Accounts (history : List ConsoleTicketReport) (tickets : ConsoleTickets) : Prop where
  backed : Backed history tickets
  once : GrantReport.OnceEach history

theorem Accounts.step {digest : String → String} {history out : List ConsoleTicketReport}
    {tickets tickets' : ConsoleTickets} {event : ConsoleTicketEvent}
    (h : Accounts history tickets) (hstep : tickets.step digest event = (tickets', out)) :
    Accounts (history ++ out) tickets' ∧ Reports digest event out := by
  cases event with
  | start =>
    cases hstep
    rw [List.append_nil]
    exact ⟨⟨fun row hrow => absurd hrow (Table.not_mem_empty row), h.once⟩, rfl⟩
  | create args ticket at_ =>
    have hbacked := @createConsoleTicket_backed digest history args ticket at_ tickets h.backed
    unfold ConsoleTickets.step at hstep
    dsimp only at hstep
    split at hstep
    · rename_i hrun
      rw [hrun] at hbacked
      cases hstep
      refine ⟨⟨hbacked, h.once.snoc ?_⟩, .inr rfl⟩
      intro key grant hreport
      cases hreport
    · rename_i hrun
      rw [hrun] at hbacked
      cases hstep
      rw [List.append_nil]
      exact ⟨⟨hbacked, h.once⟩, .inl rfl⟩
  | redeem ticket at_ =>
    have hbacked := @redeemConsoleTicket_backed digest history ticket at_ tickets h.backed
    unfold ConsoleTickets.step at hstep
    dsimp only at hstep
    split at hstep
    · rename_i grant after hrun
      rw [hrun] at hbacked
      obtain ⟨hbacked, hopen, hlive⟩ := hbacked
      cases hstep
      refine ⟨⟨hbacked, h.once.snoc ?_⟩, .inr ⟨grant, rfl, hlive⟩⟩
      intro key found hreport
      cases hreport
      exact hopen
    · rename_i hrun
      rw [hrun] at hbacked
      cases hstep
      rw [List.append_nil]
      exact ⟨⟨hbacked, h.once⟩, .inl rfl⟩

end ConsoleTickets

/-- In every run a redemption uses up the latest ticket with its hash before that expires, and
answers with what it was created for; tickets that are all different are redeemed at most once
each. -/
theorem console_tickets_single_use {digest : String → String}
    {trace : List (ConsoleTicketEvent × List ConsoleTicketReport)} {tickets : ConsoleTickets}
    (hrun : (consoleTickets digest).Run trace tickets) :
    GrantReport.OnceEach (Machine.outputs trace) ∧
    (∀ entry ∈ trace, ConsoleTickets.Reports digest entry.1 entry.2) ∧
    (((Machine.outputs trace).filterMap GrantReport.grantedKey).Nodup →
      ((Machine.outputs trace).filterMap GrantReport.redeemedKey).Nodup) := by
  have hall : ConsoleTickets.Accounts (Machine.outputs trace) tickets ∧
      ∀ entry ∈ trace, ConsoleTickets.Reports digest entry.1 entry.2 := by
    refine hrun.induct (P := fun trace tickets =>
      ConsoleTickets.Accounts (Machine.outputs trace) tickets ∧
        ∀ entry ∈ trace, ConsoleTickets.Reports digest entry.1 entry.2) ?_ ?_
    · intro tickets hinit
      cases hinit
      exact ⟨⟨fun row hrow => absurd hrow (Table.not_mem_empty row), .nil⟩,
        fun _ h => absurd h List.not_mem_nil⟩
    · intro trace tickets event tickets' out _ ih hstep
      obtain ⟨haccounts, hreports⟩ := ih.1.step hstep
      refine ⟨?_, ?_⟩
      · rw [Machine.outputs_append, Machine.outputs_singleton]
        exact haccounts
      · intro entry hentry
        rcases List.mem_append.mp hentry with hentry | hentry
        · exact ih.2 entry hentry
        · obtain rfl := List.mem_singleton.mp hentry
          exact hreports
  exact ⟨hall.1.once, hall.2, hall.1.once.nodup⟩

namespace TutorConsole

def ticket : String := "Q2xhc3Nyb29tLWNvbnNvbGUtdGlja2V0LW51bWJlci0x"

def ticketHash : String := "935c25f77a039dfa6b7c57fda4ec8f8649232129b7d4de54f4b1044cc1cdc812"

def arguments : FabricAuthService.ConsoleTicketArguments where
  identityId := "tutor-console-1"
  permissions := ["fabric.sessions.read"]
  siteId := some "site-1"
  roomId := none

/-- The link is opened twice. -/
def events : List ConsoleTicketEvent :=
  [.create arguments ticket 0, .redeem ticket (seconds 10), .redeem ticket (seconds 11)]

end TutorConsole

theorem console_tickets_single_use_tutor : ∃ trace tickets,
    (consoleTickets fun _ => TutorConsole.ticketHash).Run trace tickets ∧
    Machine.outputs trace = [
      GrantReport.granted TutorConsole.ticketHash (TutorConsole.arguments.grant 0),
      .redeemed TutorConsole.ticketHash (TutorConsole.arguments.grant 0)] ∧
    ((Machine.outputs trace).filterMap GrantReport.redeemedKey).Nodup := by
  let digest := fun _ : String => TutorConsole.ticketHash
  have hexec : ((Machine.execute (fun tickets event =>
      some (ConsoleTickets.step digest tickets event)) (fun _ _ => True) .empty
      TutorConsole.events).any fun last => Machine.outputs last.2 = [
        GrantReport.granted TutorConsole.ticketHash (TutorConsole.arguments.grant 0),
        .redeemed TutorConsole.ticketHash (TutorConsole.arguments.grant 0)]) = true := by
    decide +kernel
  obtain ⟨last, hlast, hend⟩ := (Option.any_eq_true ..).mp hexec
  have houtputs := of_decide_eq_true hend
  have hrun := (Machine.run_of_execute (M := consoleTickets digest) rfl Option.some.inj
    hlast).of_restrict
  obtain ⟨_, _, hnodup⟩ := console_tickets_single_use hrun
  refine ⟨_, _, hrun, houtputs, hnodup ?_⟩
  rw [houtputs]
  exact List.nodup_singleton _

end CitPhysicalXR.Fabric
