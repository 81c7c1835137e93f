import ChatLedger.Command.Perform
import ChatLedger.Proofs.Service.FailedCalls
import ChatLedger.Proofs.Store.Alone

/-!
# The output mode

How a report is written is no concern of the store: a command line does the same to the tables in
either mode, and it fails in both modes or in none, with the same error.

1. `Command.perform_forced`: the mode decides nothing but whether a deletion needs a confirmation,
   and one that is forced needs none.
2. `Errand.Refused`: a confirmation that is needed fails before anything is changed.
3. `Command.reads_of_isInquiry`: commands that only ask ask the store for reads alone.
-/

namespace ChatLedger

open Store Operation

/-! ## Errands -/

namespace Errand

variable {α β : Type} {e : Errand α} {f : α → Errand β} {t t' : Tables}

/-- The outcome of an errand that runs alone, with the tables that it leaves behind. -/
def on (e : Errand α) (t : Tables) : Except CommandError α × Tables := Program.run e.run t

theorem on_bind_ok {a : α} (h : e.on t = (.ok a, t')) : (e >>= f).on t = (f a).on t' := by
  unfold on at h ⊢
  show Program.runWith _ (Program.bind e.run _) t = _
  rw [Program.runWith_bind, show Program.runWith _ e.run t = _ from h]
  rfl

theorem on_bind_error {error : CommandError} (h : e.on t = (.error error, t')) :
    (e >>= f).on t = (.error error, t') := by
  unfold on at h ⊢
  show Program.runWith _ (Program.bind e.run _) t = _
  rw [Program.runWith_bind, show Program.runWith _ e.run t = _ from h]
  rfl

/-! ### Errands that only read -/

/-- Every store call that the errand may ever make is a read. -/
structure Reads (e : Errand α) : Prop where
  asks : Program.Asks (fun r => r.access = .reader) e.run

/-- What only reads leaves the tables as they are. -/
theorem Reads.on (h : Reads e) (t : Tables) : (e.on t).2 = t := Program.run_of_reads h.asks t

theorem reads_pure (a : α) : Reads (pure a : Errand α) := ⟨trivial⟩

theorem reads_fail (error : CommandError) : Reads (fail error : Errand α) := ⟨trivial⟩

theorem reads_user (user : Option UserId) : Reads (Errand.user user) := by
  cases user with
  | none => exact reads_fail _
  | some user => exact reads_pure user

theorem reads_bind (h : Reads e) (hf : ∀ a, Reads (f a)) : Reads (e >>= f) := by
  refine ⟨Program.Asks.bind (p := e.run) h.asks fun outcome => ?_⟩
  cases outcome with
  | ok a => exact (hf a).asks
  | error error => exact trivial

theorem reads_call {op : Operation α} (h : op.Asks fun r => r.access = .reader) : Reads (call op) :=
  ⟨Program.Asks.bind (p := op.run) h.asks fun _ => trivial⟩

/-- An operation that only reads, and a report on what it answers. -/
theorem reads_report {op : Operation α} {report : α → Report}
    (h : op.Asks fun r => r.access = .reader) : Reads (do return report (← call op)) :=
  reads_bind (reads_call h) fun a => reads_pure (report a)

/-! ### Errands that are refused -/

/-- The errand fails on whatever tables, and leaves them as they are. -/
def Refused (e : Errand α) : Prop := ∀ t, ∃ error, e.on t = (.error error, t)

theorem refused_confirm : Refused (confirm false) := fun _ => ⟨.noTerminal, rfl⟩

/-- What comes behind a failure is not begun. -/
theorem Refused.bind (h : Refused e) : Refused (e >>= f) := fun t => by
  obtain ⟨error, herror⟩ := h t
  exact ⟨error, on_bind_error herror⟩

/-- What has only read before it fails has changed nothing. -/
theorem Refused.after (h : Reads e) (hf : ∀ a, Refused (f a)) : Refused (e >>= f) := fun t => by
  have hsame : (e.on t).2 = t := h.on t
  cases hon : e.on t with
  | mk outcome t' =>
    rw [hon] at hsame
    subst hsame
    cases outcome with
    | ok a =>
      obtain ⟨error, herror⟩ := hf a t'
      exact ⟨error, (on_bind_ok hon).trans herror⟩
    | error error => exact ⟨error, on_bind_error hon⟩

end Errand

open Errand

/-! ## Deletions -/

/-- The command is a deletion that has to be confirmed. -/
def Command.awaitsConfirmation : Command → Bool
  | .session (.delete _ force) | .session (.deleteAll force) | .message (.delete _ force)
  | .subscription (.delete _ force) => !force
  | _ => false

/-- The command with the flag that forces it, if it has that flag. -/
def Command.forced : Command → Command
  | .session (.delete id _) => .session (.delete id true)
  | .session (.deleteAll _) => .session (.deleteAll true)
  | .message (.delete id _) => .message (.delete id true)
  | .subscription (.delete id _) => .subscription (.delete id true)
  | command => command

/-- **The mode decides about confirmations only**: what needs none is the same in both modes. -/
theorem Command.perform_forced (o : Occasion) (user : Option UserId) (c : Command) :
    c.forced.perform o user true = c.forced.perform o user false := by
  cases c with
  | session command => cases command <;> rfl
  | message command =>
    cases command with
    | stats session => cases session <;> rfl
    | _ => rfl
  | subscription command =>
    cases command with
    | articles id page => cases id <;> rfl
    | _ => rfl
  | article command => rfl
  | settings command => rfl
  | stats => rfl
  | completions shell => rfl

/-- A confirmation that is needed fails before the deletion begins. -/
theorem Command.refused_of_awaitsConfirmation (o : Occasion) (user : Option UserId) {c : Command}
    (h : c.awaitsConfirmation = true) : Refused (c.perform o user false) := by
  have unforced {force : Bool} (h : (!force) = true) : force = false := by simpa using h
  cases c with
  | session command =>
    cases command with
    | delete id force =>
      obtain rfl := unforced h
      exact .after (reads_user user) fun user => .after (reads_call reads_ownedSession) fun _ =>
        refused_confirm.bind
    | deleteAll force =>
      obtain rfl := unforced h
      exact .after (reads_user user) fun user => refused_confirm.bind
    | _ => cases h
  | message command =>
    cases command with
    | delete id force =>
      obtain rfl := unforced h
      exact .after (reads_user user) fun user => .after (reads_call reads_ownedMessage) fun _ =>
        refused_confirm.bind
    | _ => cases h
  | subscription command =>
    cases command with
    | delete id force =>
      obtain rfl := unforced h
      exact refused_confirm.bind
    | _ => cases h
  | _ => cases h

/-! ## Inquiries -/

/-- The command only asks about sessions. -/
def SessionCommand.isInquiry : SessionCommand → Bool
  | .inspect _ | .list _ | .search .. | .usage => true
  | _ => false

/-- The command only asks about messages. -/
def MessageCommand.isInquiry : MessageCommand → Bool
  | .inspect _ | .list .. | .listAll _ | .search .. | .recent _ | .errors _ | .stats _ => true
  | _ => false

/-- The command only asks about subscriptions. -/
def SubscriptionCommand.isInquiry : SubscriptionCommand → Bool
  | .list _ | .articles .. => true
  | _ => false

/-- The command only asks. -/
def Command.isInquiry : Command → Bool
  | .session command => command.isInquiry
  | .message command => command.isInquiry
  | .subscription command => command.isInquiry
  | .article _ => false
  | .settings _ | .stats | .completions _ => true

section Inquiries

variable (o : Occasion) (json : Bool)

/-- A call that reads, and a page of what it answers. -/
theorem reads_page {r : Request} {α : Type} {page : r.Answer → Page α} (h : r.access = .reader) :
    Asks (fun r => r.access = .reader) (do return page (← ask r)) :=
  asks_bind (asks_ask h) fun _ => asks_pure _

theorem SessionCommand.reads_of_isInquiry (user : UserId) {c : SessionCommand}
    (h : c.isInquiry = true) : Reads (c.perform o user json) := by
  cases c with
  | inspect id => exact reads_report reads_ownedSession
  | list page => exact reads_report (reads_page rfl)
  | search keyword page => exact reads_report (asks_bind (asks_check _) fun _ => reads_page rfl)
  | usage => exact reads_report (asks_ask rfl)
  | _ => cases h

theorem MessageCommand.reads_of_isInquiry (user : UserId) {c : MessageCommand}
    (h : c.isInquiry = true) : Reads (c.perform o user json) := by
  cases c with
  | inspect id => exact reads_report reads_ownedMessage
  | list session page =>
    exact reads_report (asks_bind reads_ownedSession fun _ => reads_page rfl)
  | listAll page => exact reads_report (reads_page rfl)
  | search keyword page => exact reads_report (asks_bind (asks_check _) fun _ => reads_page rfl)
  | recent limit => exact reads_report (asks_ask rfl)
  | errors page => exact reads_report (reads_page rfl)
  | stats session =>
    cases session with
    | some session => exact reads_report (asks_bind reads_ownedSession fun _ => asks_ask rfl)
    | none => exact reads_report (asks_ask rfl)
  | _ => cases h

theorem SubscriptionCommand.reads_of_isInquiry (user : Option UserId) {c : SubscriptionCommand}
    (h : c.isInquiry = true) : Reads (c.perform o user json) := by
  cases c with
  | list page => exact reads_bind (reads_user user) fun user => reads_report (reads_page rfl)
  | articles id page =>
    cases id with
    | some id =>
      refine reads_bind (reads_user user) fun user => reads_report ?_
      refine asks_bind (asks_opened rfl) fun _ => asks_bind (asks_ask rfl) fun link => ?_
      split
      · exact asks_bind (asks_check _) fun _ => reads_page rfl
      · exact reads_page rfl
    | none => exact reads_bind (reads_user user) fun user => reads_report (reads_page rfl)
  | _ => cases h

/-- **Commands that only ask** ask the store for reads alone, in either mode. -/
theorem Command.reads_of_isInquiry (user : Option UserId) {c : Command}
    (h : c.isInquiry = true) : Reads (c.perform o user json) := by
  cases c with
  | session command =>
    exact reads_bind (reads_user user) fun user => command.reads_of_isInquiry o json user h
  | message command =>
    exact reads_bind (reads_user user) fun user => command.reads_of_isInquiry o json user h
  | subscription command => exact command.reads_of_isInquiry o json user h
  | article command => cases h
  | settings command => exact reads_pure _
  | stats =>
    refine reads_bind (reads_user user) fun user => ?_
    refine reads_bind (reads_call (asks_ask rfl)) fun _ => ?_
    refine reads_bind (reads_call (asks_ask rfl)) fun _ => ?_
    exact reads_bind (reads_call (reads_page rfl)) fun _ => reads_pure _
  | completions shell => exact reads_pure _

end Inquiries

/-! ## Command lines -/

/-- The command line in the given mode: with a document as its answer, or with lines of text. -/
def Invocation.inMode (i : Invocation) (json : Bool) : Invocation := { i with json := json }

/-- The command line with the flag that forces its command, if the command has that flag. -/
def Invocation.forced (i : Invocation) : Invocation := { i with command := i.command.forced }

/-- Two runs differ in nothing but the text that they write: both succeed, or both fail with the
same error. -/
structure SameButText (a b : Except CommandError String × Tables) : Prop where
  tables : a.2 = b.2
  outcome : a.1.map (fun _ => ()) = b.1.map fun _ => ()

/-- A command line does what its command does, and writes what that has to say. -/
theorem Invocation.on_perform (o : Occasion) (i : Invocation) (t : Tables) :
    (i.perform o).on t =
      (((i.command.perform o i.user i.json).on t).1.map (·.render i.json),
        ((i.command.perform o i.user i.json).on t).2) := by
  cases hon : (i.command.perform o i.user i.json).on t with
  | mk outcome t' =>
    cases outcome with
    | ok report => exact on_bind_ok hon
    | error error => exact on_bind_error hon

/-- **The output mode changes nothing but the output.** On whatever tables, with the same user, time
and identifiers:

1. A command line, forced where its command can be, leaves the same tables in both modes, and it
   succeeds in both or fails in both with the same error.
2. A deletion that is neither forced nor reported as a document fails and changes nothing.
3. A command line that only asks changes nothing, in either mode. -/
theorem output_mode_changes_nothing (o : Occasion) (i : Invocation) (t : Tables) :
    SameButText (((i.forced.inMode true).perform o).on t)
        (((i.forced.inMode false).perform o).on t) ∧
      (i.command.awaitsConfirmation = true →
        ∃ error, ((i.inMode false).perform o).on t = (.error error, t)) ∧
      (i.command.isInquiry = true → ∀ json, (((i.inMode json).perform o).on t).2 = t) := by
  refine ⟨?_, fun h => ?_, fun h json => ?_⟩
  · rw [Invocation.on_perform, Invocation.on_perform]
    have same := Command.perform_forced o i.user i.command
    simp only [Invocation.inMode, Invocation.forced] at same ⊢
    rw [same]
    refine ⟨rfl, ?_⟩
    cases ((i.command.forced.perform o i.user false).on t).1 <;> rfl
  · obtain ⟨error, herror⟩ := Command.refused_of_awaitsConfirmation o i.user h t
    refine ⟨error, ?_⟩
    rw [Invocation.on_perform]
    simp only [Invocation.inMode, herror]
    rfl
  · rw [Invocation.on_perform]
    exact (Command.reads_of_isInquiry o json i.user h).on t

/-- A moment in 2026 at which everything is as it is set at first. -/
def firstOccasion : Occasion where
  settings := {}
  now := .start2026
  fresh := .ofNat 9
  directory := "data"

/-- A store with one open session. -/
def sessionTables : Tables where
  sessions := [.ofSession 1 ⟨.ofNat 1, ⟨1⟩, "plans", "gpt", 1, 0, 0, 0.0, .active, .start2026,
    .start2026, none⟩]

/-- A session is not deleted without confirmation, though it is deleted when that is forced, and a
list of sessions leaves them as they are. -/
theorem output_mode_changes_nothing_of_deletion :
    let deletion : Invocation := { command := .session (.delete (.ofNat 1) false), user := some ⟨1⟩ }
    let listing : Invocation := { command := .session (.list {}), user := some ⟨1⟩ }
    (∃ error, ((deletion.inMode false).perform firstOccasion).on sessionTables =
        (.error error, sessionTables)) ∧
      (((deletion.forced.inMode true).perform firstOccasion).on sessionTables).2 ≠ sessionTables ∧
      (((deletion.forced.inMode false).perform firstOccasion).on sessionTables).2 ≠ sessionTables ∧
      ∀ json, (((listing.inMode json).perform firstOccasion).on sessionTables).2 = sessionTables := by
  intro deletion listing
  obtain ⟨same, refused, -⟩ := output_mode_changes_nothing firstOccasion deletion sessionTables
  obtain ⟨-, -, asks⟩ := output_mode_changes_nothing firstOccasion listing sessionTables
  have deleted : (((deletion.forced.inMode true).perform firstOccasion).on sessionTables).2 ≠
      sessionTables := by
    decide +kernel
  exact ⟨refused rfl, deleted, same.tables ▸ deleted, asks rfl⟩

end ChatLedger
