import ChatLedger.Proofs.Chat.FreshAnswers
import ChatLedger.Proofs.Chat.Views
import ChatLedger.Proofs.Store.Alone

/-!
# Refreshes that fail

A change of a message is followed by a refresh of the roll-up of its session. Here two runs of one
change are set side by side, one in which the refresh is made and one in which it fails.

1. `Operation.onStale` runs an operation alone, and lets every refresh fail.
2. `Tables.DiffersInRollup` says that two stores differ in nothing but the roll-up of one session,
   and in the times that a refresh writes with it.
3. `MessageChange.softFailure`: the failure of the refresh is seen in the answer as a warning, and
   in the store as a roll-up that stays behind. Value and messages are the same.
-/

namespace ChatLedger

open Store Time Operation

namespace Store

/-- The call refreshes a roll-up. -/
def Request.isRefresh : Request → Bool
  | .refreshRollup .. => true
  | _ => false

/-- Carries a call out, unless it refreshes a roll-up: this fails. -/
def Request.performStale (error : StoreError) (r : Request) (t : Tables) :
    Except StoreError r.Answer × Tables :=
  if r.isRefresh then (.error error, t) else r.perform t

/-- Two ways to carry calls out are the same for a program that makes only calls on which they
agree. -/
theorem Program.Asks.runWith_eq {α σ : Type}
    {perform perform' : (r : Request) → σ → Except StoreError r.Answer × σ} {P : Request → Prop}
    {p : Program α} (asks : p.Asks P) (agree : ∀ r, P r → perform r = perform' r) (state : σ) :
    p.runWith perform state = p.runWith perform' state := by
  induction p generalizing state with
  | done a => rfl
  | call r next ih =>
    unfold Program.runWith
    rw [agree r asks.1]
    exact ih _ (asks.2 _) _

end Store

/-! ## Operations that run alone -/

namespace Operation

variable {α β : Type} {op : Operation α} {f : α → Operation β} {t t' : Tables} {e : StoreError}

/-- The outcome of an operation that runs alone and whose refreshes fail. -/
def onStale (error : StoreError) (op : Operation α) (t : Tables) :
    Except ServiceError α × Tables := op.run.runWith (Request.performStale error) t

/-- What comes before the refresh is not affected. -/
theorem onStale_bind_ok {a : α} (asks : op.Asks fun r => r.isRefresh = false)
    (h : op.on t = (.ok a, t')) : (op >>= f).onStale e t = (f a).onStale e t' := by
  have hsame : op.run.runWith (Request.performStale e) t = (.ok a, t') := by
    rw [← h]
    refine asks.asks.runWith_eq (fun r hr => ?_) t
    funext t
    exact if_neg (by simp [hr])
  unfold onStale
  show Program.runWith _ (Program.bind op.run _) t = _
  rw [Program.runWith_bind, hsame]
  rfl

/-- A sequence that ends in a value has come to it through a value of its first part. -/
theorem on_bind_eq_ok {b : β} (h : (op >>= f).on t = (.ok b, t')) :
    ∃ a t₁, op.on t = (.ok a, t₁) ∧ (f a).on t₁ = (.ok b, t') := by
  rcases hop : op.on t with ⟨outcome, t₁⟩
  cases outcome with
  | error error =>
    rw [on_bind_error hop] at h
    cases h
  | ok a => exact ⟨a, t₁, rfl, (on_bind_ok hop).symm.trans h⟩

theorem on_check_eq_ok {outcome : Except ServiceError α} {a : α}
    (h : (check outcome).on t = (.ok a, t')) : outcome = .ok a ∧ t' = t := by
  rw [on_check] at h
  cases h
  exact ⟨rfl, rfl⟩

/-- A call that is answered with a value was answered so by the store. -/
theorem on_askWith_eq_ok {r : Request} {explain : StoreError → ServiceError} {a : r.Answer}
    (h : (askWith explain r).on t = (.ok a, t')) : r.perform t = (.ok a, t') := by
  rcases hperform : r.perform t with ⟨answer, t₁⟩
  rw [on_askWith hperform] at h
  cases answer with
  | error error => cases h
  | ok b => cases h; rfl

end Operation

/-! ## What a refresh writes -/

namespace Store

/-- The row without what a refresh of the roll-up writes. -/
def SessionRow.lasting (r : SessionRow) : SessionRow :=
  { r with
    messageCount := 0
    tokenCount := 0
    totalCost := 0.0
    lastMessageAt := none
    updatedAt := "" }

namespace Tables

variable {t t' : Tables} {id : Uuid} {now : Instant}

/-- The tables are the same but for what a refresh of the roll-up of this session writes. -/
structure DiffersInRollup (t : Tables) (id : Uuid) (t' : Tables) : Prop where
  tables : t' = { t with sessions := t'.sessions }
  columns : t'.sessions.map SessionRow.lasting = t.sessions.map SessionRow.lasting
  others : ∀ (i : Nat) (s : SessionRow), t.sessions[i]? = some s → s.has id = false →
    t'.sessions[i]? = some s

theorem DiffersInRollup.refl (t : Tables) (id : Uuid) : t.DiffersInRollup id t :=
  ⟨rfl, rfl, fun _ _ hs _ => hs⟩

/-- A refresh, carried out or not. -/
theorem differs_refreshRollup (t : Tables) (id : Uuid) (now : Instant) :
    t.DiffersInRollup id ((Request.refreshRollup id now).perform t).2 := by
  refine Request.settle_tables (.refl t id) fun a t' h => ?_
  rcases refreshRollup_ok h with ⟨-, rfl⟩ | ⟨tokens, -, -, -, rfl⟩
  · exact .refl _ _
  · refine ⟨rfl, map_changeWhere fun _ => rfl, fun i s hs hhas => ?_⟩
    unfold changeWhere
    rw [List.getElem?_map, hs]
    simp [hhas]

/-- A refresh of a live session that does not fail answers with figures. -/
theorem exists_rollup (live : (t.session? id).isSome = true) {figures : Option Rollup}
    (h : ((Request.refreshRollup id now).perform t).1 = .ok figures) :
    ∃ rollup, figures = some rollup := by
  obtain ⟨t', hperform⟩ : ∃ t', (Request.refreshRollup id now).perform t = (.ok figures, t') :=
    ⟨_, Prod.ext h rfl⟩
  have hrefresh := Request.settle_eq_ok.1 hperform
  have hthere : (t.session? id).isNone = false := by simp [Option.isNone_eq_false_iff, live]
  unfold refreshRollup at hrefresh
  simp only [hthere, Bool.false_eq_true, if_false, bind_eq_ok] at hrefresh
  obtain ⟨tokens, -, hrefresh⟩ := hrefresh
  cases hrefresh
  exact ⟨_, rfl⟩

end Tables

end Store

/-- What a refresh is to the caller. -/
def RollupOutcome.ofAnswer (id : Uuid) : Except StoreError (Option Rollup) → RollupOutcome
  | .ok (some rollup) => .fresh rollup
  | .ok none => .stale ("session " ++ id.text ++ " is missing or deleted")
  | .error error => .stale ("aggregate recompute failed: " ++ error.message)

/-! ## Changes of messages -/

/-- A change of a message, with the clock of the call, followed by a refresh. The answer tells the
session. -/
inductive MessageChange (clock : Clock) : {α : Type} → Operation (Refreshed α) → (α → Uuid) → Prop
  | create (settings : Settings) (user : UserId) (session : Uuid) (input : NewMessage)
      (fresh : Uuid) :
      MessageChange clock (Messages.create settings user session input clock fresh) Message.session
  | update (settings : Settings) (user : UserId) (message : Uuid) (u : MessageUpdate) :
      MessageChange clock (Messages.update settings user message u clock) Message.session
  | delete (user : UserId) (message : Uuid) :
      MessageChange clock (Messages.delete user message clock) id

/-- A run of a change that has ended with an answer, next to the run in which the refresh fails, which is
made at this time. -/
structure SoftFailure {α : Type} (op : Operation (Refreshed α)) (own : α → Uuid) (now : Instant)
    (t : Tables) (error : StoreError) (answer : Refreshed α) (t' : Tables) : Prop where
  /-- Where the refresh fails, the value and the messages are the same, nothing else has changed,
  and there is a warning in place of figures. -/
  stale : op.onStale error t =
    (.ok ⟨answer.value, .stale ("aggregate recompute failed: " ++ error.message)⟩,
      { t with messages := t'.messages })
  /-- Where it does not fail, there are figures and no warning, and the stores differ in the roll-up
  of the session alone. -/
  fresh : (∃ figures, ((Request.refreshRollup (own answer.value) now).perform
      { t with messages := t'.messages }).1 = .ok figures) →
    answer.rollup.isFresh = true ∧ answer.rollup.warning? = none ∧
      { t with messages := t'.messages }.DiffersInRollup (own answer.value) t'

section Changes

variable {α : Type} {t t' : Tables} {user : UserId} {id : Uuid} {now : Instant} {e : StoreError}

/-- The end of a change: the refresh, and its outcome beside the value. -/
def refreshed (value : α) (id : Uuid) (now : Instant) : Operation (Refreshed α) := do
  return { value := value, rollup := ← ofProgram (Sessions.refresh id now) }

theorem runWith_refreshed (perform : (r : Request) → Tables → Except StoreError r.Answer × Tables)
    (value : α) (t : Tables) : (refreshed value id now).run.runWith perform t =
      (.ok ⟨value, .ofAnswer id (perform (.refreshRollup id now) t).1⟩,
        (perform (.refreshRollup id now) t).2) := by
  unfold refreshed
  show Program.runWith perform
    (Program.bind (Program.bind (Program.bind (Program.ask _) _) _) _) t = _
  simp only [Program.runWith_bind]
  rcases hperform : perform (.refreshRollup id now) t with ⟨answer, t'⟩
  have hask : (Program.ask (.refreshRollup id now)).runWith perform t = (answer, t') := by
    unfold Program.ask Program.runWith
    rw [hperform]
    rfl
  rw [hask]
  rcases answer with error | _ | rollup <;> rfl

theorem on_refreshed (value : α) (id : Uuid) (now : Instant) (t : Tables) :
    (refreshed value id now).on t =
      (.ok ⟨value, .ofAnswer id ((Request.refreshRollup id now).perform t).1⟩,
        ((Request.refreshRollup id now).perform t).2) := runWith_refreshed ..

theorem onStale_refreshed (value : α) (id : Uuid) (now : Instant) (e : StoreError) (t : Tables) :
    (refreshed value id now).onStale e t =
      (.ok ⟨value, .stale ("aggregate recompute failed: " ++ e.message)⟩, t) :=
  runWith_refreshed ..

/-- **The end of a change** whose session is live. -/
theorem softFailure_of_refreshed {op : Operation (Refreshed α)} {own : α → Uuid}
    {answer : Refreshed α} (value : α) (messages : List MessageRow)
    (live : (t.session? (own value)).isSome = true)
    (changed : op.onStale e t =
      (refreshed value (own value) now).onStale e { t with messages := messages })
    (h : (refreshed value (own value) now).on { t with messages := messages } = (.ok answer, t')) :
    SoftFailure op own now t e answer t' := by
  rw [on_refreshed] at h
  cases h
  have differs := Tables.differs_refreshRollup { t with messages := messages } (own value) now
  have hmessages : ((Request.refreshRollup (own value) now).perform
      { t with messages := messages }).2.messages = messages :=
    congrArg Tables.messages differs.tables
  refine ⟨changed.trans ?_, fun ⟨figures, hfigures⟩ => ?_⟩
  · rw [hmessages, onStale_refreshed]
  · rw [hmessages] at hfigures ⊢
    obtain ⟨rollup, rfl⟩ :=
      Tables.exists_rollup (t := { t with messages := messages }) live hfigures
    dsimp only
    rw [hfigures]
    exact ⟨rfl, rfl, differs⟩

/-- A session that is handed over to its owner is what a live row is read as. -/
theorem on_owned_row {s : Session} (h : (Sessions.owned user id).on t = (.ok s, t')) :
    t' = t ∧ ∃ row, t.session? id = some row ∧ row.session = .ok s := by
  obtain ⟨found, t₁, hask, h₁⟩ := on_bind_eq_ok h
  obtain ⟨session, t₂, hfound, h₂⟩ := on_bind_eq_ok h₁
  obtain ⟨_, t₃, howner, h₃⟩ := on_bind_eq_ok h₂
  obtain ⟨hsome, rfl⟩ := on_check_eq_ok hfound
  obtain ⟨-, rfl⟩ := on_check_eq_ok howner
  cases h₃
  have hperform := on_askWith_eq_ok hask
  refine ⟨(congrArg Prod.snd hperform).symm, ?_⟩
  cases found with
  | none => cases hsome
  | some s =>
    cases hsome
    exact mapM_eq_some.1 (congrArg Prod.fst hperform)

/-- A session that is handed over to its owner is live. -/
theorem on_owned_ok {s : Session} (h : (Sessions.owned user id).on t = (.ok s, t')) :
    t' = t ∧ (t.session? id).isSome = true := by
  obtain ⟨rfl, row, hrow, -⟩ := on_owned_row h
  exact ⟨rfl, Option.isSome_of_eq_some hrow⟩

/-- A message that is handed over to its owner is a live row of a live session. -/
theorem on_ownedMessage_ok {m : Message} (h : (Messages.owned user id).on t = (.ok m, t')) :
    t' = t ∧ (t.session? m.session).isSome = true ∧
      ∃ row ∈ t.messages, row.has id = true ∧ row.isLive = true ∧ row.message = .ok m := by
  obtain ⟨found, t₁, hask, h₁⟩ := on_bind_eq_ok h
  obtain ⟨message, t₂, hfound, h₂⟩ := on_bind_eq_ok h₁
  obtain ⟨_, t₃, howned, h₃⟩ := on_bind_eq_ok h₂
  obtain ⟨hsome, rfl⟩ := on_check_eq_ok hfound
  have hperform := on_askWith_eq_ok hask
  obtain rfl : t₂ = t := (congrArg Prod.snd hperform).symm
  obtain ⟨rfl, hlive⟩ := on_owned_ok howned
  cases h₃
  refine ⟨rfl, hlive, ?_⟩
  cases found with
  | none => cases hsome
  | some m =>
    cases hsome
    obtain ⟨row, hrow, hread⟩ := mapM_eq_some.1 (congrArg Prod.fst hperform)
    obtain ⟨hmem, hshown⟩ := List.mem_filter.1 (List.mem_of_find?_eq_some hrow)
    have hid := List.find?_some hrow
    exact ⟨row, hmem, hid, (Tables.shows_eq_true.1 hshown).1, hread⟩

/-- A session is looked up without a refresh. -/
theorem asks_owned_calm : (Sessions.owned user id).Asks fun r => r.isRefresh = false :=
  ChatCall.asks_ownedSession fun r h => by cases r <;> first | rfl | cases h

theorem asks_ownedMessage_calm : (Messages.owned user id).Asks fun r => r.isRefresh = false :=
  ChatCall.asks_ownedMessage fun r h => by cases r <;> first | rfl | cases h

/-- The message that an update answers with belongs to the session that it belonged to before. -/
theorem session_of_updated {u : MessageUpdate} {before after : Message} {row : MessageRow}
    (keyed : t.Keyed) (hrow : row ∈ t.messages) (hid : row.has id = true)
    (hread : row.message = .ok before)
    (h : (Request.updateMessage id u now).perform t = (.ok after, t')) :
    after.session = before.session := by
  obtain ⟨updated, hupdate, hupdated⟩ := Request.settleRow_ok h
  obtain ⟨old, hold, hhas, -, rfl, -⟩ := Tables.updateMessage_ok hupdate
  have hids : old.id = row.id := (beq_iff_eq.1 hhas).trans (beq_iff_eq.1 hid).symm
  obtain rfl := keyed.message_eq hold hrow hids
  -- an update leaves the column alone that names the session
  have hsame : readId "session_id" (old.update u now).session = readId "session_id" old.session :=
    rfl
  rw [(MessageRow.message_eq_ok_iff.1 hupdated).session,
    (MessageRow.message_eq_ok_iff.1 hread).session] at hsame
  exact Except.ok.inj hsame

/-- **The failure of a refresh is soft**, whatever the change was. -/
theorem MessageChange.softFailure {clock : Clock} {op : Operation (Refreshed α)} {own : α → Uuid}
    (change : MessageChange clock op own) (keyed : t.Keyed) {answer : Refreshed α}
    (h : op.on t = (.ok answer, t')) (e : StoreError) :
    SoftFailure op own (clock 1) t e answer t' := by
  cases change with
  | create settings user session input fresh =>
    obtain ⟨_, t₁, hvalid, h₁⟩ := on_bind_eq_ok h
    obtain ⟨s, t₂, howned, h₂⟩ := on_bind_eq_ok h₁
    obtain ⟨_, t₃, hask, h₃⟩ := on_bind_eq_ok h₂
    obtain ⟨-, rfl⟩ := on_check_eq_ok hvalid
    obtain ⟨rfl, hlive⟩ := on_owned_ok howned
    have hinsert := on_askWith_eq_ok hask
    obtain ⟨-, -, rfl⟩ := Tables.insertMessage_ok (Request.settle_eq_ok.1 hinsert)
    refine softFailure_of_refreshed (Messages.ofInput session input (clock 0) fresh) _ hlive ?_ h₃
    unfold Messages.create
    rw [onStale_bind_ok (asks_check _) hvalid, onStale_bind_ok asks_owned_calm howned]
    exact onStale_bind_ok (asks_askWith rfl) hask
  | update settings user message u =>
    obtain ⟨_, t₁, hvalid, h₁⟩ := on_bind_eq_ok h
    obtain ⟨m₀, t₂, howned, h₂⟩ := on_bind_eq_ok h₁
    obtain ⟨m, t₃, hask, h₃⟩ := on_bind_eq_ok h₂
    obtain ⟨-, rfl⟩ := on_check_eq_ok hvalid
    obtain ⟨rfl, hlive, row, hrow, hid, -, hread⟩ := on_ownedMessage_ok howned
    have hupdate := on_askWith_eq_ok hask
    have hsession := session_of_updated keyed hrow hid hread hupdate
    obtain ⟨_, hchange, -⟩ := Request.settleRow_ok hupdate
    obtain ⟨-, -, -, -, -, rfl⟩ := Tables.updateMessage_ok hchange
    refine softFailure_of_refreshed m _ (hsession ▸ hlive) ?_ h₃
    unfold Messages.update
    rw [onStale_bind_ok (asks_check _) hvalid, onStale_bind_ok asks_ownedMessage_calm howned]
    exact onStale_bind_ok (asks_askWith rfl) hask
  | delete user message =>
    obtain ⟨m, t₁, howned, h₁⟩ := on_bind_eq_ok h
    obtain ⟨_, t₂, hask, h₂⟩ := on_bind_eq_ok h₁
    obtain ⟨rfl, hlive, -⟩ := on_ownedMessage_ok howned
    have hdelete := on_askWith_eq_ok hask
    have htables := Tables.deleteMessage_ok (Request.settle_eq_ok.1 hdelete)
    subst htables
    refine softFailure_of_refreshed m.session _ hlive ?_ h₂
    unfold Messages.delete
    rw [onStale_bind_ok asks_ownedMessage_calm howned]
    exact onStale_bind_ok (asks_askWith rfl) hask

end Changes

end ChatLedger
