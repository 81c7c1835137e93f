import ChatLedger.Proofs.Chat.Deletion
import ChatLedger.Proofs.Chat.MessageUpdates
import ChatLedger.Proofs.Membership.Links
import ChatLedger.Proofs.Membership.Reachable
import ChatLedger.Proofs.Service.Calls

/-!
# Failed calls change nothing

A call that runs alone and ends in an error has left the tables as they were, whichever of its store
calls have failed.

1. `Careful` operations make no change before an error: they only read until their one change, and
   come to a value after it.
2. An update of a message is the exception. It may take effect although its row cannot be read back,
   but this row was read shortly before, and all that the update writes can be read
   (`MessageRow.message_update`).
3. Whatever a call ends in, what it has changed is whole (`Tables.WholeSince`): there is no new
   subscription without the link of its creator, and no newly deleted session with a live message.
-/

namespace ChatLedger

open Store Time Operation

/-! ## Careful operations -/

section Careful

variable {α β : Type} {op : Operation α} {f : α → Operation β}

/-- An operation that has changed nothing when it ends in an error. -/
structure Careful (op : Operation α) : Prop where
  quiet : ∀ {l : List Exchange} {e : ServiceError}, op.Ends l (.error e) → Quiet l

/-- An operation that never ends in an error. -/
structure Sure (op : Operation α) : Prop where
  never : ∀ {l : List Exchange} {e : ServiceError}, ¬ op.Ends l (.error e)

theorem quiet_of_reads (h : op.Asks fun r => r.access = .reader) {l : List Exchange}
    {outcome : Except ServiceError α} (hl : op.Ends l outcome) : Quiet l :=
  fun x hx => .read (h.asks.mem_path hl x hx)

theorem careful_of_reads (h : op.Asks fun r => r.access = .reader) : Careful op :=
  ⟨fun hl => quiet_of_reads h hl⟩

theorem careful_askWith {explain : StoreError → ServiceError} {r : Request}
    (hr : r.isAtomic = true) : Careful (askWith explain r) := by
  refine ⟨fun h => ?_⟩
  obtain ⟨a, rfl, ha⟩ := ends_askWith.1 h
  cases a with
  | ok a => cases ha
  | error e => exact (Exchange.Silent.failed hr).quiet

theorem careful_ask {r : Request} (hr : r.isAtomic = true) : Careful (ask r) := careful_askWith hr

/-- Reading first does no harm. -/
theorem careful_after_reads (h : op.Asks fun r => r.access = .reader)
    (hf : ∀ a, Careful (f a)) : Careful (op >>= f) := by
  refine ⟨fun hl => ?_⟩
  rcases ends_bind hl with ⟨e, hl, -⟩ | ⟨a, l₁, l₂, rfl, h₁, h₂⟩
  · exact quiet_of_reads h hl
  · exact (quiet_of_reads h h₁).append ((hf a).quiet h₂)

/-- What comes after a change must not fail. -/
theorem careful_then_sure (h : Careful op) (hf : ∀ a, Sure (f a)) : Careful (op >>= f) := by
  refine ⟨fun hl => ?_⟩
  rcases ends_bind hl with ⟨e, hl, -⟩ | ⟨a, l₁, l₂, rfl, h₁, h₂⟩
  · exact h.quiet hl
  · exact absurd h₂ (hf a).never

theorem careful_map {g : α → β} (h : Careful op) : Careful (g <$> op) := by
  refine ⟨fun hl => ?_⟩
  obtain ⟨a, hl, ha⟩ := ends_map hl
  cases a with
  | ok a => cases ha
  | error e => exact h.quiet hl

theorem sure_pure {a : α} : Sure (pure a : Operation α) :=
  ⟨fun hl => by cases (ends_pure.1 hl).2⟩

/-- A refresh is no reason to fail. -/
theorem sure_refreshed {value : α} {id : Uuid} {now : Instant} :
    Sure (do return ({ value := value, rollup := ← ofProgram (Sessions.refresh id now) } :
      Refreshed α)) := by
  refine ⟨fun hl => ?_⟩
  rcases ends_bind hl with ⟨e, hl, -⟩ | ⟨a, l₁, l₂, rfl, -, hl⟩
  · obtain ⟨o, -, ho⟩ := ends_ofProgram hl
    cases ho
  · exact sure_pure.never hl

end Careful

/-! ## Calls that end in an error -/

/-- What a call may have done that ends in an error. -/
inductive Stopped : List Exchange → Prop where
  | quiet {l : List Exchange} (h : Quiet l) : Stopped l
  | noArticle {id : Int} {now : Instant} : Stopped [⟨.deleteArticle id now, .ok false⟩]
  | update {id : Uuid} {u : MessageUpdate} {now : Instant} {m : Message} {s : Session}
      {e : StoreError} :
      Stopped [⟨.getMessage id, .ok (some m)⟩, ⟨.getSession m.session, .ok (some s)⟩,
        ⟨.updateMessage id u now, .error e⟩]

section Calls

variable {settings : Settings} {user : UserId} {id : Uuid} {clock : Clock} {now : Instant}

theorem reads_ownedSession : (Sessions.owned user id).Asks fun r => r.access = .reader :=
  ChatCall.asks_ownedSession fun _ h => h.reader

theorem reads_ownedMessage : (Messages.owned user id).Asks fun r => r.access = .reader :=
  ChatCall.asks_ownedMessage fun _ h => h.reader

theorem careful_createSession {input : NewSession} :
    Careful (Sessions.create settings user input now id) := by
  unfold Sessions.create
  refine careful_after_reads (asks_check _) fun topic => ?_
  cases input.model with
  | some model =>
    refine careful_after_reads (asks_check _) fun model => ?_
    exact careful_then_sure (careful_askWith rfl) fun _ => sure_pure
  | none =>
    refine careful_after_reads (asks_pure _) fun model => ?_
    exact careful_then_sure (careful_askWith rfl) fun _ => sure_pure

theorem careful_createMessage {input : NewMessage} {fresh : Uuid} :
    Careful (Messages.create settings user id input clock fresh) := by
  refine careful_after_reads (asks_check _) fun _ => careful_after_reads reads_ownedSession ?_
  exact fun _ => careful_then_sure (careful_askWith rfl) fun _ => sure_refreshed

theorem careful_deleteMessage : Careful (Messages.delete user id clock) := by
  refine careful_after_reads reads_ownedMessage fun _ => ?_
  exact careful_then_sure (careful_ask rfl) fun _ => sure_refreshed

theorem careful_finish : Careful (Sessions.finish user id now) := by
  refine careful_after_reads reads_ownedSession fun session => ?_
  split
  · exact careful_of_reads (asks_pure _)
  · exact careful_then_sure (careful_ask rfl) fun _ => sure_pure

/-- An update may fail late, when the message and its session have been found. -/
theorem stopped_update {u : MessageUpdate} {l : List Exchange} {e : ServiceError}
    (h : (Messages.update settings user id u clock).Ends l (.error e)) : Stopped l := by
  rcases ends_bind h with ⟨e, hcheck, -⟩ | ⟨_, l₁, l₂, rfl, hcheck, hafter⟩
  · exact .quiet (quiet_check hcheck)
  rw [(ends_check.1 hcheck).1, List.nil_append]
  rcases ends_bind hafter with ⟨e, howned, -⟩ | ⟨m, l₃, l₄, rfl, howned, hchange⟩
  · exact .quiet (quiet_of_reads reads_ownedMessage howned)
  rcases ends_bind hchange with ⟨e, hask, -⟩ | ⟨m', l₅, l₆, rfl, -, hrest⟩
  · obtain ⟨s, rfl⟩ := ChatCall.ends_ownedMessage howned
    obtain ⟨a, rfl, ha⟩ := ends_ask.1 hask
    cases a with
    | ok a => cases ha
    | error e => exact .update
  · exact absurd hrest sure_refreshed.never

/-- A call of the chat service that ends in an error. -/
theorem ChatCall.ends_error {c : ChatCall} {l : List Exchange} {e : ServiceError}
    (h : (c.operation settings).Ends l (.error e)) : Stopped l := by
  have careful (hc : Careful (c.operation settings)) : Stopped l := .quiet (hc.quiet h)
  cases c with
  | createSession user input now fresh => exact careful (careful_map careful_createSession)
  | finishSession user id now => exact careful (careful_map careful_finish)
  | createMessage user session input clock fresh =>
    exact careful (careful_map careful_createMessage)
  | deleteMessage user id clock => exact careful (careful_map careful_deleteMessage)
  | updateMessage user id update clock =>
    obtain ⟨outcome, h, he⟩ := ends_map h
    cases outcome with
    | ok a => cases he
    | error e => exact stopped_update h
  | updateTopic user id topic now =>
    refine careful (careful_map (careful_after_reads (asks_check _) fun _ => ?_))
    refine careful_after_reads reads_ownedSession fun _ => ?_
    exact careful_then_sure (careful_ask rfl) fun _ => sure_pure
  | deleteSession user id now =>
    exact careful (careful_map (careful_after_reads reads_ownedSession fun _ => careful_ask rfl))
  | deleteAllSessions user now => exact careful (careful_map (careful_ask rfl))
  | recompute user id now =>
    refine careful (careful_map (careful_after_reads reads_ownedSession fun _ => ⟨fun hl => ?_⟩))
    obtain ⟨o, -, ho⟩ := ends_ofProgram hl
    cases ho
  | _ =>
    -- all other calls only read
    refine .quiet fun x hx => .read ?_
    rcases (asks_makes settings _).mem_path h x hx with hread | hwrite
    · exact hread.reader
    · cases hwrite

/-- **What a call may have done that ends in an error.** -/
theorem ServiceCall.ends_error {c : ServiceCall} {l : List Exchange} {e : ServiceError}
    (h : (c.operation settings).Ends l (.error e)) : Stopped l := by
  have reads (hc : ∀ r, c.Makes r → r.access = .reader) : Stopped l :=
    .quiet fun x hx => .read (hc _ ((c.asks_makes settings).mem_path h x hx))
  cases c with
  | chat call =>
    obtain ⟨outcome, h, he⟩ := ends_map h
    cases outcome with
    | ok a => cases he
    | error e => exact call.ends_error h
  | membership call =>
    obtain ⟨outcome, h, he⟩ := ends_map h
    cases outcome with
    | ok a => cases he
    | error e =>
      rcases MembershipCall.ends_accounts h with haccounts | ⟨⟨s, hs⟩, -⟩
      · cases call <;> exact .quiet haccounts.quiet_of_none
      · cases hs
  | createArticle subscription article now =>
    have careful : Careful (Articles.create subscription article now) :=
      careful_after_reads (asks_check _) fun _ =>
        careful_after_reads (asks_opened rfl) fun _ => careful_ask rfl
    exact .quiet ((careful_map careful).quiet h)
  | deleteArticle id now =>
    obtain ⟨outcome, h, he⟩ := ends_map h
    cases outcome with
    | ok a => cases he
    | error e =>
    rcases ends_bind h with ⟨e, h, -⟩ | ⟨hit, l₁, l₂, rfl, h₁, h⟩
    · exact .quiet (quiet_failure rfl h)
    · rw [ends_ask_ok h₁]
      cases hit with
      | true => exact absurd h sure_pure.never
      | false =>
        rw [(ends_fail.1 h).1]
        exact .noArticle
  | listMemberships user page size => exact reads fun _ ⟨_, h⟩ => h ▸ rfl
  | listArticles user subscription page size =>
    refine reads fun r h => ?_
    rcases h with rfl | rfl | ⟨_, rfl⟩ <;> rfl
  | listAllArticles user page size => exact reads fun _ ⟨_, h⟩ => h ▸ rfl

end Calls

/-! ## Updates of messages -/

namespace Store

variable {ι : Type} {t t' : Tables}

/-- An update of a message that has been found fails without effect, or not at all. -/
theorem Request.updateMessage_error (unique : (t.messages.map (·.id)).Nodup) {id : Uuid}
    {m : Message} (found : (Request.getMessage id).perform t = (.ok (some m), t))
    {u : MessageUpdate} {now : Instant} (clock : now.HasFourDigitYear) {e : StoreError}
    (h : (Request.updateMessage id u now).perform t = (.error e, t')) : t' = t := by
  obtain ⟨row, hrow, hid, hread⟩ := Request.getMessage_found found
  change settleRow (Tables.updateMessage id u now) (·.message) t = _ at h
  unfold settleRow at h
  cases hchange : Tables.updateMessage id u now t with
  | error error =>
    rw [hchange] at h
    exact (congrArg Prod.snd h).symm
  | ok p =>
    -- the row that has changed is the one that was found
    obtain ⟨old, hold, hidold, -, hnew, -⟩ := Tables.updateMessage_ok hchange
    have hsame : old = row := by
      refine List.inj_on_of_nodup_map unique hold hrow ?_
      rw [beq_iff_eq.1 hid, beq_iff_eq.1 hidold]
    obtain ⟨status, hstatus⟩ := Tables.isMessageStatus_iff.1 (Tables.updateMessage_status hchange)
    rw [hnew, hsame] at hstatus
    rw [hchange] at h
    have hfails : p.1.message = .error e := congrArg Prod.fst h
    rw [hnew, hsame, MessageRow.message_update hread clock hstatus] at hfails
    cases hfails

/-- An article that was not there is not deleted. -/
theorem Request.deleteArticle_missed {id : Int} {now : Instant}
    (h : (Request.deleteArticle id now).perform t = (.ok false, t')) : t' = t := by
  have hchange : Tables.deleteArticle id now t = .ok (false, t') := settle_eq_ok.1 h
  have hmissed : ∀ r ∈ t.articles, ((r.row : Int) == id && r.isLive) = false := by
    intro r hr
    have hnone : (t.articles.any fun r => (r.row : Int) == id && r.isLive) = false :=
      congrArg Prod.fst (Except.ok.inj hchange)
    exact Bool.eq_false_iff.2 (List.any_eq_false.1 hnone r hr)
  rw [Tables.deleteArticle_ok hchange, changeWhere_eq_self hmissed]

/-! ## Whole changes -/

/-- Each subscription is an earlier one, or has the link of its creator. -/
def Tables.LinkedSince (t t' : Tables) : Prop :=
  ∀ s ∈ t'.subscriptions, (∃ s₀ ∈ t.subscriptions, s₀.key = s.key) ∨
    ∃ l ∈ t'.links, l.user = s.creator ∧ l.subscription = s.row

/-- Each deleted session was deleted earlier, or has no live message. -/
def Tables.ClearedSince (t t' : Tables) : Prop :=
  ∀ session, t'.Closed session → t.Closed session ∨
    ∀ m ∈ t'.messages, m.session = session → m.isLive = false

/-- What has been changed between the tables is whole: subscriptions have come with a link, and
sessions have gone with their messages. -/
structure Tables.WholeSince (t t' : Tables) : Prop where
  linked : t.LinkedSince t'
  cleared : t.ClearedSince t'

theorem Tables.LinkedSince.of_keys
    (h : t'.subscriptions.map SubscriptionRow.key = t.subscriptions.map SubscriptionRow.key) :
    t.LinkedSince t' := by
  refine fun s hs => .inl (List.mem_map.1 ?_)
  rw [← h]
  exact List.mem_map_of_mem hs

/-- A subscription is added with a link of its creator. -/
theorem Request.perform_linked (r : Request) (t : Tables) : t.LinkedSince (r.perform t).2 := by
  have step := r.perform_members t
  generalize (r.perform t).2 = t' at step ⊢
  cases step with
  | apart subscriptions => exact .of_keys (congrArg (List.map _) subscriptions)
  | createSubscription =>
    intro s hs
    rcases List.mem_append.1 hs with hs | hs
    · exact .inl ⟨s, hs, rfl⟩
    · rw [List.mem_singleton.1 hs]
      exact .inr ⟨_, List.mem_append_right _ (List.mem_singleton_self _), rfl, rfl⟩
  | updateDescription => exact .of_keys (map_changeWhere fun _ => rfl)
  | cancelSubscription => exact .of_keys (map_changeWhere fun _ => rfl)
  | _ => exact .of_keys rfl

/-- Later changes keep the links that new subscriptions have come with. -/
theorem Tables.LinkedSince.trans {t'' : Tables} (h₁ : t.LinkedSince t') (h₂ : t'.LinkedSince t'')
    (extends' : t'.Extends t'') : t.LinkedSince t'' := by
  intro s hs
  rcases h₂ s hs with ⟨s₀, h₀, hkey⟩ | hlink
  · rcases h₁ s₀ h₀ with ⟨s₁, h₁, hkey₁⟩ | ⟨l, hl, huser, hsubscription⟩
    · exact .inl ⟨s₁, h₁, hkey₁.trans hkey⟩
    · obtain ⟨l', hl', hsame⟩ := extends'.link hl
      refine .inr ⟨l', hl', ?_, ?_⟩
      · rw [show l'.user = l.user from congrArg (·.2.1) hsame, huser]
        exact congrArg (·.2.1) hkey
      · rw [show l'.subscription = l.subscription from congrArg (·.2.2.1) hsame, hsubscription]
        exact congrArg (fun k => (k.1 : Int)) hkey
  · exact .inr hlink

theorem Trace.linked {history : List (Event ι)} (trace : Trace t history t') :
    t.LinkedSince t' := by
  refine trace.invariant (P := t.LinkedSince) (.of_keys rfl) fun e _ lawful before => ?_
  refine lawful.after_of before (before.trans (e.request.perform_linked e.before) ?_)
  exact .of_grows (e.request.perform_grows e.before)

/-- A session without live messages gets none as long as none is added. -/
theorem Trace.cleared {history : List (Event ι)} (trace : Trace t history t')
    (adds : ∀ e ∈ history, ∀ m, e.request ≠ .insertMessage m) {session : String}
    (first : ∀ m ∈ t.messages, m.session = session → m.isLive = false) :
    ∀ m ∈ t'.messages, m.session = session → m.isLive = false := by
  refine trace.invariant (P := fun t => ∀ m ∈ t.messages, m.session = session → m.isLive = false)
    first fun e he lawful before m hm hsession => ?_
  by_contra hlive
  rcases lawful.live_message hm (Bool.not_eq_false _ ▸ hlive) with ⟨m₀, h₀, hlive₀, hkey⟩ |
    ⟨new, hx, -, -⟩
  · have hdead := before m₀ h₀ ((congrArg (·.2.2.1) hkey).trans hsession)
    rw [hlive₀] at hdead
    cases hdead
  · exact adds e he new (congrArg Exchange.request hx)

end Store

/-! ## Calls that run alone -/

/-- A call that runs with no other on the given tables. A turn says whether its next store call
fails. -/
def ServiceCall.alone (settings : Settings) (c : ServiceCall) (t : Tables)
    (schedule : List (Turn Unit)) : World Unit (Except ServiceError ServiceReply) :=
  (World.mk t (fun _ => c.program settings) []).run schedule

theorem exchangesOf_unit (history : List (Event Unit)) :
    exchangesOf () history = history.map Event.exchange := by
  unfold exchangesOf
  rw [List.filter_eq_self.2 fun _ _ => decide_eq_true rfl]

section Alone

variable {t t' : Tables} {history : List (Event Unit)}

theorem Store.Trace.eq_of_quiet (trace : Trace t history t')
    (h : Quiet (history.map Event.exchange)) : t' = t := by
  refine trace.invariant (P := fun t' => t' = t) rfl fun e he lawful before => ?_
  rw [lawful.after_eq_of_silent (h _ (List.mem_map_of_mem he)), before]

theorem Store.Trace.cons_cases {e : Event Unit} (trace : Trace t (e :: history) t') :
    e.before = t ∧ e.Lawful ∧ Trace e.after history t' := by
  rw [← List.nil_append (e :: history)] at trace
  obtain ⟨first, lawful, rest⟩ := trace.split
  exact ⟨first.eq_of_quiet quiet_nil, lawful, rest⟩

/-- What a call has done that has stopped with an error left the tables as they were. -/
theorem Store.Trace.eq_of_stopped (trace : Trace t history t')
    (unique : (t.messages.map (·.id)).Nodup) (h : Stopped (history.map Event.exchange))
    (clock : ∀ x ∈ history, ∀ id u now, x.request = .updateMessage id u now →
      now.HasFourDigitYear) : t' = t := by
  generalize hl : history.map Event.exchange = l at h
  cases h with
  | quiet h => exact trace.eq_of_quiet (hl ▸ h)
  | noArticle =>
    obtain ⟨e, rest, rfl, hx, hrest⟩ := List.map_eq_cons_iff.1 hl
    obtain rfl := List.map_eq_nil_iff.1 hrest
    obtain ⟨rfl, lawful, last⟩ := trace.cons_cases
    obtain ⟨i, request, answer, before, after⟩ := e
    cases hx
    rw [last.eq_of_quiet quiet_nil]
    exact Request.deleteArticle_missed (lawful.perform_of_ok rfl)
  | @update id u now m s error =>
    obtain ⟨e₁, rest, rfl, hx₁, hrest⟩ := List.map_eq_cons_iff.1 hl
    obtain ⟨e₂, rest, rfl, hx₂, hrest⟩ := List.map_eq_cons_iff.1 hrest
    obtain ⟨e₃, rest, rfl, hx₃, hrest⟩ := List.map_eq_cons_iff.1 hrest
    obtain rfl := List.map_eq_nil_iff.1 hrest
    obtain ⟨hfirst, lawful₁, trace⟩ := trace.cons_cases
    obtain ⟨hsecond, lawful₂, trace⟩ := trace.cons_cases
    obtain ⟨hthird, lawful₃, last⟩ := trace.cons_cases
    have hread₁ : e₁.after = e₁.before := lawful₁.after_eq_of_silent (hx₁ ▸ .read rfl)
    have hread₂ : e₂.after = e₂.before := lawful₂.after_eq_of_silent (hx₂ ▸ .read rfl)
    have hbefore : e₃.before = t := by rw [hthird, hread₂, hsecond, hread₁, hfirst]
    have hclock := clock e₃ (by simp) id u now (congrArg Exchange.request hx₃)
    rw [last.eq_of_quiet quiet_nil, ← hbefore]
    rcases lawful₃ with hperform | ⟨-, -, hsame⟩
    · obtain ⟨i₁, request₁, answer₁, before₁, after₁⟩ := e₁
      obtain ⟨i₃, request₃, answer₃, before₃, after₃⟩ := e₃
      cases hx₁
      cases hx₃
      have hfound : (Request.getMessage id).perform before₃ = (.ok (some m), before₃) := by
        have hfound := lawful₁.perform_of_ok rfl
        rw [hread₁, hfirst, ← hbefore] at hfound
        exact hfound
      exact Request.updateMessage_error (hbefore ▸ unique) hfound hclock hperform
    · exact hsame

end Alone

namespace ServiceCall

theorem Makes.deletesWhole {c : ServiceCall} {r : Request} (h : c.Makes r) : r.DeletesWhole := by
  cases r with
  | createSession s =>
    obtain ⟨call, -, hcall⟩ := h.chat rfl not_false
    exact hcall.deletesWhole
  | setSessionStatus id status now =>
    obtain ⟨call, -, hcall⟩ := h.chat rfl not_false
    exact hcall.deletesWhole
  | _ => trivial

/-- A call that deletes sessions adds no messages. -/
theorem Makes.adds_none {c : ServiceCall} {r : Request} (h : c.Makes r) (hdeletes : r.Deletes)
    (m : Message) : ¬ c.Makes (.insertMessage m) := by
  intro hadds
  obtain ⟨call, rfl, hadds⟩ := hadds.chat rfl not_false
  obtain ⟨user, session, input, clock, fresh, rfl, -⟩ := hadds.insert
  rcases ChatCall.Makes.deletes h hdeletes with ⟨_, _, _, hcall⟩ | ⟨_, _, hcall⟩ <;> cases hcall

/-- An update of a message is written with a time that the call reads. -/
theorem Makes.clock_update {c : ServiceCall} {id : Uuid} {u : MessageUpdate} {now : Instant}
    (h : c.Makes (.updateMessage id u now)) : now ∈ c.readings := by
  obtain ⟨call, rfl, hread | hwrite⟩ := h.chat rfl not_false
  · cases hread
  · cases call with
    | updateMessage user id' u' clock => exact List.mem_cons.2 (.inl hwrite.2.2)
    | _ => cases hwrite

/-- **A failed call changes nothing.** A call runs alone on tables with any rows, whether or not
they can be read, with no two messages of one identifier. Its store calls may fail at any of their
statements, each without effect of its own.

1. If the call ends in an error, the tables are as they were.
2. At any moment, what it has changed is whole. -/
theorem failed_calls_change_nothing (settings : Settings) (c : ServiceCall) (t : Tables)
    (unique : (t.messages.map (·.id)).Nodup) (clock : ∀ now ∈ c.readings, now.HasFourDigitYear)
    (schedule : List (Turn Unit)) :
    let w := c.alone settings t schedule
    (∀ e, w.outcome? () = some (.error e) → w.tables = t) ∧ t.WholeSince w.tables := by
  intro w
  have trace : Trace t w.history w.tables := World.trace_run _ _ schedule
  have makes : ∀ e ∈ w.history, c.Makes e.request := fun e he =>
    World.asks_of_mem (fun _ => c.asks_makes settings) he
  refine ⟨fun e hended => ?_, trace.linked, fun session closed => ?_⟩
  · have hends : (c.operation settings).Ends (exchangesOf () w.history) (.error e) :=
      World.path_of_outcome hended
    rw [exchangesOf_unit] at hends
    refine trace.eq_of_stopped unique (ends_error hends) fun x hx id u now hrequest => ?_
    exact clock now (Makes.clock_update (hrequest ▸ makes x hx))
  · by_cases hfirst : t.Closed session
    · exact .inl hfirst
    · obtain ⟨h₁, d, h₂, hsplit, hdeletes⟩ := trace.exists_deletion hfirst closed
      obtain ⟨-, lawful, later⟩ := (hsplit ▸ trace).split
      have hmakes := makes d (by simp [hsplit])
      obtain ⟨hasked, hdead⟩ := lawful.of_deletes hmakes.deletesWhole hdeletes
      refine .inr (later.cleared (fun e he m hadds => ?_) hdead)
      exact hmakes.adds_none hasked m (hadds ▸ makes e (by simp [hsplit, he]))

theorem error_of_isOk {outcome : Option (Except ServiceError ServiceReply)}
    (h : outcome.map Except.isOk = some false) : ∃ e, outcome = some (.error e) := by
  cases outcome with
  | none => cases h
  | some result =>
    cases result with
    | ok reply => cases h
    | error e => exact ⟨e, rfl⟩

/-- A store with an open session and a message in it whose time cannot be read. -/
def damagedTables : Tables where
  sessions := [.ofSession 1 ⟨.ofNat 1, ⟨1⟩, "plans", "gpt", 1, 0, 0, 0.0, .active, .start2026,
    .start2026, none⟩]
  messages := [{ MessageRow.ofMessage 1 ⟨.ofNat 2, .ofNat 1, .user, "hello", 3, 0.5, .normal, none,
    .start2026, .start2026⟩ with createdAt := "yesterday" }]

/-- An update of a message that cannot be read fails, and so does a deletion that the store loses.
Both leave the store as it was. -/
theorem failed_calls_change_nothing_in_damaged_store :
    let update : ServiceCall := .chat (.updateMessage ⟨1⟩ (.ofNat 2) ⟨none, some 5, none, none, none⟩
      .start2026)
    let deletion : ServiceCall := .chat (.deleteSession ⟨1⟩ (.ofNat 1) .start2026)
    (update.alone {} damagedTables [.calm (), .calm (), .calm ()]).tables = damagedTables ∧
      (deletion.alone {} damagedTables [.calm (), ⟨(), some (.connection "lost")⟩]).tables =
        damagedTables := by
  intro update deletion
  have hunique : (damagedTables.messages.map (·.id)).Nodup := List.nodup_singleton _
  have hupdate := failed_calls_change_nothing {} update damagedTables hunique (by decide)
    [.calm (), .calm (), .calm ()]
  have hdeletion := failed_calls_change_nothing {} deletion damagedTables hunique (by decide)
    [.calm (), ⟨(), some (.connection "lost")⟩]
  obtain ⟨hfailed, hlost⟩ : ((update.alone {} damagedTables
        [.calm (), .calm (), .calm ()]).outcome? ()).map Except.isOk = some false ∧
      ((deletion.alone {} damagedTables
        [.calm (), ⟨(), some (.connection "lost")⟩]).outcome? ()).map Except.isOk = some false := by
    decide +kernel
  obtain ⟨e, hfailed⟩ := error_of_isOk hfailed
  obtain ⟨e', hlost⟩ := error_of_isOk hlost
  exact ⟨hupdate.1 e hfailed, hdeletion.1 e' hlost⟩

end ServiceCall

end ChatLedger
