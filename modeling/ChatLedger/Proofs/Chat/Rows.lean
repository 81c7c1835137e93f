import ChatLedger.Proofs.Reading.Identifiers
import ChatLedger.Proofs.Store.Interleaving
import ChatLedger.Proofs.Store.Persistence

/-!
# Rows of sessions and messages

Where the rows of sessions and messages come from, call by call.

1. `Request.perform_chat`: all that a call can do to sessions and messages.
2. `Request.perform_messages`: a call adds one message or changes messages in place.
3. `Request.perform_sessions`: a call opens one session, writes the roll-up of one, or leaves the
   figures of all live sessions alone.
4. `Tables.Orderly` holds of all tables that calls can lead to: messages belong to sessions that
   exist, and no two of them share an identifier.
-/

namespace ChatLedger.Store

open Time

/-! ## What a call does -/

/-- What a call does to sessions and messages, where it does anything to them. -/
inductive Tables.ChatStep (t : Tables) : Request → Tables → Prop where
  | apart {r : Request} {t' : Tables} (sessions : t'.sessions = t.sessions)
      (messages : t'.messages = t.messages) : ChatStep t r t'
  | createSession {s : Session} (fresh : ∀ r ∈ t.sessions, r.has s.id = false) :
      ChatStep t (.createSession s)
        { t with sessions := t.sessions ++ [.ofSession (nextRow t.sessions) s] }
  | updateSessionTopic {id : Uuid} {topic : String} {now : Instant} :
      ChatStep t (.updateSessionTopic id topic now)
        { t with
          sessions := changeWhere (fun r => r.has id && r.isLive) (·.setTopic topic now) t.sessions }
  | setSessionStatus {id : Uuid} {status : SessionStatus} {now : Instant} :
      ChatStep t (.setSessionStatus id status now)
        { t with
          sessions :=
            changeWhere (fun r => r.has id && r.isLive) (·.setStatus status now) t.sessions }
  | deleteSession {id : Uuid} {now : Instant} :
      ChatStep t (.deleteSession id now)
        { t with
          sessions :=
            changeWhere (fun r => r.has id && r.isLive) (·.setStatus .deleted now) t.sessions
          messages :=
            changeWhere (fun m => m.session == id.text && m.isLive) (·.delete now) t.messages }
  | deleteUserSessions {user : UserId} {now : Instant} :
      ChatStep t (.deleteUserSessions user now)
        { t with
          sessions := changeWhere (fun r => r.isLive && r.owner == user.number)
            (·.setStatus .deleted now) t.sessions
          messages := changeWhere
            (fun m => (t.sessions.any fun s =>
              (s.isLive && s.owner == user.number) && s.id == m.session) && m.isLive)
            (·.delete now) t.messages }
  | refreshRollup {id : Uuid} {now : Instant} {tokens : Int}
      (sum : Tables.sumOf ((t.kept id.text).map (·.tokens)) = .ok tokens) :
      ChatStep t (.refreshRollup id now)
        { t with
          sessions := changeWhere (fun r => r.has id && r.isLive)
            (Tables.rolledUp (t.kept id.text) tokens now) t.sessions }
  | insertMessage {m : Message} (fresh : ∀ r ∈ t.messages, r.has m.id = false)
      (known : ∃ s ∈ t.sessions, s.has m.session = true) :
      ChatStep t (.insertMessage m)
        { t with messages := t.messages ++ [.ofMessage (nextRow t.messages) m] }
  | updateMessage {id : Uuid} {u : MessageUpdate} {now : Instant} :
      ChatStep t (.updateMessage id u now)
        { t with
          messages := changeWhere (fun r => r.has id && r.isLive) (·.update u now) t.messages }
  | deleteMessage {id : Uuid} {now : Instant} :
      ChatStep t (.deleteMessage id now)
        { t with
          messages := changeWhere (fun r => r.has id && r.isLive) (·.delete now) t.messages }

open Tables in
/-- **One call**, seen from the sessions and messages. -/
theorem Request.perform_chat (r : Request) (t : Tables) : t.ChatStep r (r.perform t).2 := by
  cases r with
  | createSession session =>
    refine settle_tables (.apart rfl rfl) fun a t' h => ?_
    obtain ⟨fresh, rfl⟩ := insertSession_ok h
    exact .createSession fresh
  | updateSessionTopic id topic now =>
    exact settle_tables (.apart rfl rfl) fun a t' h => changeSession_ok h ▸ .updateSessionTopic
  | setSessionStatus id status now =>
    exact settle_tables (.apart rfl rfl) fun a t' h => changeSession_ok h ▸ .setSessionStatus
  | deleteSession id now =>
    exact settle_tables (.apart rfl rfl) fun a t' h => deleteSession_ok h ▸ .deleteSession
  | deleteUserSessions user now =>
    exact settle_tables (.apart rfl rfl) fun a t' h => deleteSessionsOf_ok h ▸ .deleteUserSessions
  | refreshRollup session now =>
    refine settle_tables (.apart rfl rfl) fun a t' h => ?_
    rcases refreshRollup_ok h with ⟨-, rfl⟩ | ⟨tokens, -, hsum, -, rfl⟩
    · exact .apart rfl rfl
    · exact .refreshRollup hsum
  | insertMessage message =>
    refine settle_tables (.apart rfl rfl) fun a t' h => ?_
    obtain ⟨fresh, known, rfl⟩ := insertMessage_ok h
    exact .insertMessage fresh known
  | updateMessage id update now =>
    refine settleRow_tables (.apart rfl rfl) fun a t' h => ?_
    obtain ⟨-, -, -, -, -, rfl⟩ := updateMessage_ok h
    exact .updateMessage
  | deleteMessage id now =>
    exact settle_tables (.apart rfl rfl) fun a t' h => deleteMessage_ok h ▸ .deleteMessage
  | createSubscription input now =>
    refine settle_tables (.apart rfl rfl) fun a t' h => ?_
    rw [(insertSubscription_ok h).2.2.2]
    exact .apart rfl rfl
  | insertLink user subscription now =>
    refine settle_tables (.apart rfl rfl) fun a t' h => ?_
    rw [(insertLink_ok h).2.2.2]
    exact .apart rfl rfl
  | updateDescription id description now =>
    refine settle_tables (.apart rfl rfl) fun a t' h => ?_
    rw [describe_ok h]
    exact .apart rfl rfl
  | insertArticle subscription article now =>
    refine settle_tables (.apart rfl rfl) fun a t' h => ?_
    rw [(insertArticle_ok h).2.2]
    exact .apart rfl rfl
  | _ => exact .apart rfl rfl

/-! ## Messages -/

/-- The rows of the messages of a session, deleted or not. -/
def Tables.rowsOf (t : Tables) (session : String) : List MessageRow :=
  t.messages.filter (·.session == session)

/-- The change keeps what never changes of a message, and makes no number of tokens negative. -/
structure MessageRow.Amends (change : MessageRow → MessageRow) : Prop where
  key (m : MessageRow) : (change m).key = m.key
  tokens (m : MessageRow) : 0 ≤ m.tokens → 0 ≤ (change m).tokens

theorem MessageRow.amends_delete (now : Instant) : Amends (·.delete now) :=
  ⟨fun _ => rfl, fun _ h => h⟩

theorem MessageRow.amends_update (u : MessageUpdate) (now : Instant) : Amends (·.update u now) := by
  refine ⟨fun _ => rfl, fun m h => ?_⟩
  unfold MessageRow.update
  cases u.tokens with
  | none => exact h
  | some n => exact Int.natCast_nonneg _

theorem MessageRow.Amends.id {change : MessageRow → MessageRow} (h : Amends change)
    (m : MessageRow) : (change m).id = m.id := congrArg (·.2.1) (h.key m)

theorem MessageRow.Amends.session {change : MessageRow → MessageRow} (h : Amends change)
    (m : MessageRow) : (change m).session = m.session := congrArg (·.2.2.1) (h.key m)

/-- The messages are those from before, some of them changed in place. -/
def Tables.Amended (t t' : Tables) : Prop :=
  ∃ condition change, MessageRow.Amends change ∧
    t'.messages = changeWhere condition change t.messages

theorem Tables.Amended.of_eq {t t' : Tables} (h : t'.messages = t.messages) : t.Amended t' :=
  ⟨fun _ => false, id, ⟨fun _ => rfl, fun _ h => h⟩,
    h.trans (changeWhere_eq_self fun _ _ => rfl).symm⟩

/-- The call has added this message, to a session that exists and under a new identifier. -/
structure Tables.Inserted (t : Tables) (m : Message) (t' : Tables) : Prop where
  fresh : ∀ r ∈ t.messages, r.has m.id = false
  known : ∃ s ∈ t.sessions, s.has m.session = true
  messages : t'.messages = t.messages ++ [.ofMessage (nextRow t.messages) m]
  sessions : t'.sessions = t.sessions

/-- A call adds one message or changes messages in place. -/
theorem Request.perform_messages (r : Request) (t : Tables) :
    (∃ m, r = .insertMessage m ∧ t.Inserted m (r.perform t).2) ∨ t.Amended (r.perform t).2 := by
  have step := r.perform_chat t
  generalize (r.perform t).2 = t' at step ⊢
  cases step with
  | apart sessions messages => exact .inr (.of_eq messages)
  | insertMessage fresh known => exact .inl ⟨_, rfl, fresh, known, rfl, rfl⟩
  | updateMessage => exact .inr ⟨_, _, MessageRow.amends_update .., rfl⟩
  | deleteMessage => exact .inr ⟨_, _, MessageRow.amends_delete _, rfl⟩
  | deleteSession => exact .inr ⟨_, _, MessageRow.amends_delete _, rfl⟩
  | deleteUserSessions => exact .inr ⟨_, _, MessageRow.amends_delete _, rfl⟩
  | _ => exact .inr (.of_eq rfl)

/-! ## Sessions -/

/-- The roll-up of a session row. -/
def SessionRow.figures (s : SessionRow) : Int × Int × Float :=
  (s.messageCount, s.tokenCount, s.totalCost)

/-- Live sessions may be changed, but keep their roll-ups. -/
structure Tables.KeepsFigures (t t' : Tables) : Prop where
  of_live : ∀ s ∈ t'.sessions, s.isLive = true →
    ∃ s₀ ∈ t.sessions, s₀.isLive = true ∧ s₀.id = s.id ∧ s₀.figures = s.figures

theorem Tables.KeepsFigures.of_eq {t t' : Tables} (h : t'.sessions = t.sessions) :
    t.KeepsFigures t' :=
  ⟨fun s hs hlive => ⟨s, h ▸ hs, hlive, rfl, rfl⟩⟩

theorem Tables.KeepsFigures.of_changeWhere {t t' : Tables} {condition : SessionRow → Bool}
    {change : SessionRow → SessionRow}
    (h : t'.sessions = changeWhere condition change t.sessions)
    (live : ∀ s, condition s = true → s.isLive = true)
    (same : ∀ s, (change s).id = s.id ∧ (change s).figures = s.figures) : t.KeepsFigures t' := by
  refine ⟨fun s hs hlive => ?_⟩
  rw [h, mem_changeWhere] at hs
  rcases hs with ⟨s₀, h₀, hc, rfl⟩ | ⟨h₀, -⟩
  · exact ⟨s₀, h₀, live s₀ hc, (same s₀).1.symm, (same s₀).2.symm⟩
  · exact ⟨s, h₀, hlive, rfl, rfl⟩

/-- The call has opened this session, under a new identifier. -/
structure Tables.Opened (t : Tables) (s : Session) (t' : Tables) : Prop where
  fresh : ∀ r ∈ t.sessions, r.has s.id = false
  sessions : t'.sessions = t.sessions ++ [.ofSession (nextRow t.sessions) s]
  messages : t'.messages = t.messages

/-- The call has written the roll-up of this session over its live messages. -/
structure Tables.Refreshed (t : Tables) (id : Uuid) (now : Instant) (tokens : Int) (t' : Tables) :
    Prop where
  sum : sumOf ((t.kept id.text).map (·.tokens)) = .ok tokens
  tables : t' = { t with
    sessions := changeWhere (fun r => r.has id && r.isLive) (rolledUp (t.kept id.text) tokens now)
      t.sessions }

/-- A call opens one session, writes the roll-up of one, or keeps the roll-ups of live sessions. -/
theorem Request.perform_sessions (r : Request) (t : Tables) :
    (∃ s, r = .createSession s ∧ t.Opened s (r.perform t).2) ∨
      (∃ id now tokens, r = .refreshRollup id now ∧
        t.Refreshed id now tokens (r.perform t).2) ∨
      t.KeepsFigures (r.perform t).2 := by
  have met (c : SessionRow → Bool) (s : SessionRow) (h : (c s && s.isLive) = true) :
      s.isLive = true := (Bool.and_eq_true_iff.1 h).2
  have step := r.perform_chat t
  generalize (r.perform t).2 = t' at step ⊢
  cases step with
  | apart sessions messages => exact .inr (.inr (.of_eq sessions))
  | createSession fresh => exact .inl ⟨_, rfl, fresh, rfl, rfl⟩
  | refreshRollup sum => exact .inr (.inl ⟨_, _, _, rfl, sum, rfl⟩)
  | updateSessionTopic =>
    exact .inr (.inr (.of_changeWhere rfl (met fun s => s.has _) fun _ => ⟨rfl, rfl⟩))
  | setSessionStatus =>
    exact .inr (.inr (.of_changeWhere rfl (met fun s => s.has _) fun _ => ⟨rfl, rfl⟩))
  | deleteSession =>
    exact .inr (.inr (.of_changeWhere rfl (met fun s => s.has _) fun _ => ⟨rfl, rfl⟩))
  | deleteUserSessions =>
    refine .inr (.inr (.of_changeWhere rfl (fun s h => ?_) fun _ => ⟨rfl, rfl⟩))
    exact (Bool.and_eq_true_iff.1 h).1
  | _ => exact .inr (.inr (.of_eq rfl))

/-! ## Order -/

/-- What holds of the messages in all tables that calls can lead to. -/
structure Tables.Orderly (t : Tables) : Prop where
  /-- A message belongs to a session that exists. -/
  known : ∀ m ∈ t.messages, ∃ s ∈ t.sessions, s.id = m.session
  /-- It names its session by the text of an identifier. -/
  named : ∀ m ∈ t.messages, ∃ id : Uuid, m.session = id.text
  /-- No two messages share an identifier. -/
  apart : (t.messages.map (·.id)).Nodup
  /-- No message has a negative number of tokens. -/
  counted : ∀ m ∈ t.messages, 0 ≤ m.tokens

namespace Tables.Orderly

theorem empty : Tables.Orderly {} := by
  constructor <;> simp

variable {t t' : Tables}

/-- Sessions stay, so that messages of theirs stay known. -/
theorem known_of_grows (h : t.Orderly) (hg : t.Grows t') {m : MessageRow} (hm : m ∈ t.messages) :
    ∃ s ∈ t'.sessions, s.id = m.session := by
  obtain ⟨s, hs, hid⟩ := h.known m hm
  obtain ⟨s', hs', hkey⟩ := List.mem_map.1 (hg.sessions.keys_prefix.subset (List.mem_map_of_mem hs))
  exact ⟨s', hs', (congrArg (·.2.1) hkey).trans hid⟩

theorem of_amended (h : t.Orderly) (hg : t.Grows t') (ha : t.Amended t') : t'.Orderly := by
  obtain ⟨condition, change, amends, hmessages⟩ := ha
  have old (m : MessageRow) (hm : m ∈ t'.messages) :
      ∃ m₀ ∈ t.messages, m₀.session = m.session ∧ (0 ≤ m₀.tokens → 0 ≤ m.tokens) := by
    rw [hmessages, mem_changeWhere] at hm
    rcases hm with ⟨m₀, h₀, -, rfl⟩ | ⟨h₀, -⟩
    · exact ⟨m₀, h₀, (amends.session m₀).symm, amends.tokens m₀⟩
    · exact ⟨m, h₀, rfl, fun h => h⟩
  constructor
  · intro m hm
    obtain ⟨m₀, h₀, hsession, -⟩ := old m hm
    exact hsession ▸ h.known_of_grows hg h₀
  · intro m hm
    obtain ⟨m₀, h₀, hsession, -⟩ := old m hm
    exact hsession ▸ h.named m₀ h₀
  · rw [hmessages, map_changeWhere amends.id]
    exact h.apart
  · intro m hm
    obtain ⟨m₀, h₀, -, htokens⟩ := old m hm
    exact htokens (h.counted m₀ h₀)

theorem of_inserted (h : t.Orderly) (hg : t.Grows t') {m : Message} (hi : t.Inserted m t') :
    t'.Orderly := by
  have either (x : MessageRow) (hx : x ∈ t'.messages) :
      x ∈ t.messages ∨ x = .ofMessage (nextRow t.messages) m := by
    rw [hi.messages] at hx
    simpa using hx
  constructor
  · intro x hx
    rcases either x hx with hx | rfl
    · exact h.known_of_grows hg hx
    · obtain ⟨s, hs, hid⟩ := hi.known
      exact ⟨s, hi.sessions ▸ hs, beq_iff_eq.1 hid⟩
  · intro x hx
    rcases either x hx with hx | rfl
    · exact h.named x hx
    · exact ⟨m.session, rfl⟩
  · rw [hi.messages, List.map_append]
    refine List.Nodup.append h.apart (List.nodup_singleton _) ?_
    intro id hid hnew
    obtain ⟨r, hr, rfl⟩ := List.mem_map.1 hid
    have hfresh := hi.fresh r hr
    have hsame : r.id = m.id.text := List.mem_singleton.1 hnew
    simp [MessageRow.has, hsame] at hfresh
  · intro x hx
    rcases either x hx with hx | rfl
    · exact h.counted x hx
    · exact Int.natCast_nonneg _

/-- Calls keep messages orderly. -/
theorem perform (h : t.Orderly) (r : Request) : (r.perform t).2.Orderly := by
  have hg := r.perform_grows t
  rcases r.perform_messages t with ⟨m, -, hi⟩ | ha
  · exact h.of_inserted hg hi
  · exact h.of_amended hg ha

/-- The messages of one identifier belong to one session. -/
theorem session_eq (h : t.Orderly) {id : Uuid} {a b : MessageRow} (ha : a ∈ t.messages)
    (hb : b ∈ t.messages) (hida : a.has id = true) (hidb : b.has id = true) :
    a.session = b.session := by
  have hid : a.id = b.id := by simp_all [MessageRow.has]
  rw [List.inj_on_of_nodup_map h.apart ha hb hid]

end Tables.Orderly

end ChatLedger.Store
