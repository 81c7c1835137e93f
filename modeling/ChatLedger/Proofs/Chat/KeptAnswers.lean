import ChatLedger.Proofs.Chat.Acceptance
import ChatLedger.Proofs.Chat.Lookups
import ChatLedger.Proofs.Chat.SoftRefresh
import ChatLedger.Proofs.Store.ReadBack

/-!
# Answers about sessions and messages are kept

Most calls do not read back what they have written. They put their answer together from their input, or
from what they had read before.

1. `Tables.ChatSound` is what this rests on, and every store call keeps it (`Tables.ChatSound.perform`).
   `on_owned_read` and `on_ownedMessage_read`: on such tables a user is handed the record that the row
   of an own session or message is read as.
2. The `…_keeps` lemmas, one for each operation that answers with a session or a message.
-/

namespace ChatLedger

open Store Time Operation

namespace Store

variable {t t' : Tables}

/-! ## Sound tables -/

/-- The column of the cost holds what can be written to it. -/
def SessionRow.Written (r : SessionRow) : Prop := storedAmount? r.totalCost = some r.totalCost

theorem SessionRow.written_ofSession (row : Nat) (s : Session) : (ofSession row s).Written :=
  storedAmount?_storedAmount s.totalCost

theorem SessionRow.written_rolledUp (rows : List MessageRow) (tokens : Int) (now : Instant)
    (r : SessionRow) : (Tables.rolledUp rows tokens now r).Written :=
  storedAmount?_storedAmount _

/-- **One call** leaves the costs of sessions as they can be written. -/
theorem Request.sessions_written (q : Request) (h : ∀ r ∈ t.sessions, r.Written) :
    ∀ r ∈ (q.perform t).2.sessions, r.Written := by
  have step := q.perform_chat t
  generalize (q.perform t).2 = t' at step ⊢
  cases step with
  | apart sessions messages => exact sessions ▸ h
  | createSession fresh => exact forall_concat h (SessionRow.written_ofSession _ _)
  | refreshRollup sum =>
    exact forall_changeWhere h fun r _ => SessionRow.written_rolledUp _ _ _ r
  | updateSessionTopic => exact forall_changeWhere h fun _ hr => hr
  | setSessionStatus => exact forall_changeWhere h fun _ hr => hr
  | deleteSession => exact forall_changeWhere h fun _ hr => hr
  | deleteUserSessions => exact forall_changeWhere h fun _ hr => hr
  | _ => exact h

/-- **Any number of calls** leave the costs of sessions as they can be written. -/
theorem Trace.sessions_written {ι : Type} {history : List (Event ι)} (trace : Trace t history t')
    (first : ∀ r ∈ t.sessions, r.Written) : ∀ r ∈ t'.sessions, r.Written :=
  trace.invariant (P := fun t => ∀ r ∈ t.sessions, r.Written) first fun e _ lawful before =>
    lawful.after_of (P := fun t => ∀ r ∈ t.sessions, r.Written) before
      (e.request.sessions_written before)

/-- What sessions and messages have to keep to, so that what is read of them is what was written. -/
structure Tables.ChatSound (t : Tables) : Prop where
  keyed : t.Keyed
  legible : t.ChatLegible
  sessions : ∀ r ∈ t.sessions, r.Written
  messages : ∀ r ∈ t.messages, r.Written

namespace Tables.ChatSound

/-- **One call** with times that are read back keeps the tables sound. -/
theorem perform (h : t.ChatSound) {q : Request} {answer : Except StoreError q.Answer}
    (hperform : q.perform t = (answer, t')) (readable : ∀ t ∈ q.chatTimes, t.HasFourDigitYear) :
    t'.ChatSound := by
  obtain rfl : (q.perform t).2 = t' := congrArg Prod.snd hperform
  exact
    { keyed := h.keyed.perform q
      legible := (q.perform_chat t).legible h.legible readable
      sessions := q.sessions_written h.sessions
      messages := q.perform_written h.messages }

variable {user : UserId} {id : Uuid}

/-! ## Reading -/

/-- The session that an owner is handed is what the one live row of the identifier is read as. -/
theorem row_of_owned (h : t.ChatSound) {s : Session}
    (hon : (Sessions.owned user id).on t = (.ok s, t')) :
    t' = t ∧ s.id = id ∧ ∃ r ∈ t.sessions, r.isLive = true ∧ r.id = id.text ∧
      r.owner = user.number ∧ r.session = .ok s := by
  obtain ⟨⟨r, hr, hlive, hid, hmine⟩, rfl⟩ :=
    (looksUp_session h.keyed h.legible).owned_of_ok hon
  obtain ⟨-, row, hrow, hread⟩ := on_owned_row hon
  rw [session?_eq_some h.keyed hr hlive hid] at hrow
  obtain rfl := Option.some.inj hrow
  exact ⟨rfl, SessionRow.id_of_read hread hid, r, hr, hlive, hid, hmine, hread⟩

/-- **An own session is handed over** as its row is read. -/
theorem on_owned_read (h : t.ChatSound) {r : SessionRow} (hr : r ∈ t.sessions)
    (hlive : r.isLive = true) (hid : r.id = id.text) (hmine : r.owner = user.number) {s : Session}
    (hread : r.session = .ok s) : (Sessions.owned user id).on t = (.ok s, t) := by
  obtain ⟨found, hon⟩ := (looksUp_session h.keyed h.legible).passes ⟨r, hr, hlive, hid, hmine⟩
  obtain ⟨-, row, hrow, hfound⟩ := on_owned_row hon
  rw [session?_eq_some h.keyed hr hlive hid] at hrow
  obtain rfl := Option.some.inj hrow
  rw [hread] at hfound
  rwa [← Except.ok.inj hfound] at hon

/-- Read as a record of numbers, it is the same as itself. -/
theorem reads_session (h : t.ChatSound) {r : SessionRow} (hr : r ∈ t.sessions)
    (hlive : r.isLive = true) (hid : r.id = id.text) (hmine : r.owner = user.number) {s : Session}
    (hread : r.session = .ok s) :
    ∃ found, (Sessions.owned user id).on t = (.ok found, t) ∧ found.SameAs s := by
  have number : s.totalCost.isNaN = false :=
    (SessionRow.session_eq_ok_iff.1 hread).totalCost ▸ number_of_storedAmount? (h.sessions r hr)
  exact ⟨s, h.on_owned_read hr hlive hid hmine hread, .refl number⟩

/-- The message that an owner is handed is kept in a live row of an own session. -/
theorem row_of_ownedMessage (h : t.ChatSound) {m : Message}
    (hon : (Messages.owned user id).on t = (.ok m, t')) :
    t' = t ∧ ∃ r ∈ t.messages, r.isLive = true ∧ r.id = id.text ∧
      t.SessionWhere (·.owner = user.number) r.session := by
  obtain ⟨⟨r, hr, hlive, hid, hsession⟩, rfl⟩ :=
    (looksUp_message h.keyed h.legible).owned_of_ok hon
  exact ⟨rfl, r, hr, hlive, hid, hsession⟩

/-- **An own message is handed over** as its row is read. -/
theorem on_ownedMessage_read (h : t.ChatSound) {r : MessageRow} (hr : r ∈ t.messages)
    (hlive : r.isLive = true) (hid : r.id = id.text)
    (hsession : t.SessionWhere (·.owner = user.number) r.session) {m : Message}
    (hread : r.message = .ok m) : (Messages.owned user id).on t = (.ok m, t) := by
  obtain ⟨found, hon⟩ :=
    (looksUp_message h.keyed h.legible).passes ⟨r, hr, hlive, hid, hsession⟩
  obtain ⟨-, -, row, hrow, hhas, -, hfound⟩ := on_ownedMessage_ok hon
  obtain rfl := h.keyed.message_eq hrow hr ((beq_iff_eq.1 hhas).trans hid.symm)
  rw [hread] at hfound
  rwa [← Except.ok.inj hfound] at hon

end Tables.ChatSound

/-- The live session of the identifier has been changed. -/
theorem Tables.mem_of_changeSession {id : Uuid} {change : SessionRow → SessionRow} {u : Unit}
    (h : t.changeSession id change = .ok (u, t')) {r : SessionRow} (hr : r ∈ t.sessions)
    (hlive : r.isLive = true) (hid : r.id = id.text) : change r ∈ t'.sessions := by
  have hmet : (r.has id && r.isLive) = true := by simp [SessionRow.has, hid, hlive]
  rw [Tables.changeSession_ok h]
  exact mem_changeWhere.2 (.inl ⟨r, hr, hmet, rfl⟩)

/-- Whose a live session is does not depend on its roll-up. -/
theorem Tables.DiffersInRollup.sessionWhere {user : UserId} {refreshed : Uuid} {id : String}
    (differs : t.DiffersInRollup refreshed t')
    (h : t.SessionWhere (·.owner = user.number) id) :
    t'.SessionWhere (·.owner = user.number) id := by
  obtain ⟨s, hs, hlive, hid, hmine⟩ := h
  have hmem : s.lasting ∈ t'.sessions.map SessionRow.lasting :=
    differs.columns ▸ List.mem_map_of_mem hs
  obtain ⟨s', hs', hsame⟩ := List.mem_map.1 hmem
  have hstatus : s'.status = s.status := congrArg (·.status) hsame
  have hid' : s'.id = s.id := congrArg (·.id) hsame
  have hmine' : s'.owner = s.owner := congrArg (·.owner) hsame
  refine ⟨s', hs', ?_, hid'.trans hid, hmine'.trans hmine⟩
  unfold SessionRow.isLive at hlive ⊢
  rwa [hstatus]

end Store

/-! ## Each operation -/

/-- A session that is answered has been added to the store, just opened. -/
theorem on_createSession_ok {t t' : Tables} {settings : Settings} {user : UserId}
    {input : NewSession} {now : Instant} {fresh : Uuid} {s : Session}
    (hon : (Sessions.create settings user input now fresh).on t = (.ok s, t')) :
    (Request.createSession s).perform t = (.ok (), t') ∧ s.status = .active ∧ s.owner = user ∧
      s.totalCost = 0.0 ∧ s.createdAt = now ∧ s.updatedAt = now ∧ s.lastMessageAt = none := by
  obtain ⟨topic, t₁, htopic, h₁⟩ := on_bind_eq_ok hon
  obtain ⟨-, rfl⟩ := on_check_eq_ok htopic
  -- whichever model is taken, the session is added next
  cases hinput : input.model with
  | none =>
    rw [hinput] at h₁
    obtain ⟨model, t₂, hmodel, h₂⟩ := on_bind_eq_ok h₁
    obtain ⟨_, t₃, hask, hanswer⟩ := on_bind_eq_ok h₂
    cases hmodel
    cases hanswer
    exact ⟨on_askWith_eq_ok hask, rfl, rfl, rfl, rfl, rfl, rfl⟩
  | some model =>
    rw [hinput] at h₁
    obtain ⟨model, t₂, hmodel, h₂⟩ := on_bind_eq_ok h₁
    obtain ⟨_, t₃, hask, hanswer⟩ := on_bind_eq_ok h₂
    obtain ⟨-, rfl⟩ := on_check_eq_ok hmodel
    cases hanswer
    exact ⟨on_askWith_eq_ok hask, rfl, rfl, rfl, rfl, rfl, rfl⟩

/-- The session that is answered is the one that its owner finds next. -/
def Operation.KeepsSession (op : Operation Session) (t : Tables) (user : UserId) : Prop :=
  op.ReadsBack t (fun s => Sessions.owned user s.id) fun s found => found.SameAs s.truncated

/-- The message that is answered is the one that its owner finds next. -/
def Operation.KeepsMessage (op : Operation (Refreshed Message)) (t : Tables) (user : UserId) :
    Prop :=
  op.ReadsBack t (fun answer => Messages.owned user answer.value.id) fun answer found =>
    found.SameAs answer.value.truncated

section Operations

variable {t : Tables} (h : t.ChatSound) (settings : Settings) (user : UserId)

section SessionCalls

variable {now : Instant} (storable : now.IsStorable)

include h storable

theorem createSession_keeps (input : NewSession) (fresh : Uuid) :
    (Sessions.create settings user input now fresh).KeepsSession t user := by
  intro s t' hon
  obtain ⟨hperform, hstatus, hmine, hcost, hcreated, hupdated, hlast⟩ := on_createSession_ok hon
  have created : s.createdAt.IsStorable := hcreated ▸ storable
  have updated : s.updatedAt.IsStorable := hupdated ▸ storable
  have sound := h.perform hperform (by simp [Request.chatTimes, created.year, updated.year, hlast])
  obtain ⟨-, rfl⟩ := Tables.insertSession_ok (Request.settle_eq_ok.1 hperform)
  have hread := SessionRow.session_ofSession (nextRow t.sessions) created updated (by simp [hlast])
  have hlive : (SessionRow.ofSession (nextRow t.sessions) s).isLive = true := by
    unfold SessionRow.isLive SessionRow.ofSession
    rw [hstatus]
    rfl
  refine ⟨_, sound.on_owned_read (List.mem_append_right _ List.mem_cons_self) hlive rfl
    (congrArg UserId.number hmine) hread, storedAmount_beq ?_, rfl⟩
  rw [hcost]
  decide +kernel

theorem updateTopic_keeps (id : Uuid) (topic : String) :
    (Sessions.updateTopic user id topic now).KeepsSession t user := by
  intro answer t' hon
  obtain ⟨topic, t₁, htopic, h₁⟩ := on_bind_eq_ok hon
  obtain ⟨s, t₂, howned, h₂⟩ := on_bind_eq_ok h₁
  obtain ⟨_, t₃, hask, hanswer⟩ := on_bind_eq_ok h₂
  cases hanswer
  obtain ⟨-, rfl⟩ := on_check_eq_ok htopic
  obtain ⟨rfl, rfl, r, hr, hlive, hid, hmine, hread⟩ := h.row_of_owned howned
  have hperform := on_askWith_eq_ok hask
  have sound := h.perform hperform (by simpa [Request.chatTimes] using storable.year)
  have hmem : r.setTopic topic now ∈ t'.sessions :=
    Tables.mem_of_changeSession (Request.settle_eq_ok.1 hperform) hr hlive hid
  refine sound.reads_session hmem hlive hid hmine ?_
  rw [SessionRow.session_setTopic hread topic storable]
  show _ = Except.ok { s.truncated with topic := topic, updatedAt := now.toMicros }
  rw [(h.legible.sessions r hr).truncated_of_read hread]

theorem finish_keeps (id : Uuid) : (Sessions.finish user id now).KeepsSession t user := by
  intro answer t' hon
  obtain ⟨s, t₁, howned, h₁⟩ := on_bind_eq_ok hon
  obtain ⟨rfl, rfl, r, hr, hlive, hid, hmine, hread⟩ := h.row_of_owned howned
  have hkept := (h.legible.sessions r hr).truncated_of_read hread
  split at h₁
  · -- what has ended already is answered as it was found
    cases h₁
    refine h.reads_session hr hlive hid hmine ?_
    rw [hkept]
    exact hread
  · obtain ⟨_, t₂, hask, hanswer⟩ := on_bind_eq_ok h₁
    cases hanswer
    have hperform := on_askWith_eq_ok hask
    have sound := h.perform hperform (by simpa [Request.chatTimes] using storable.year)
    have hmem : r.setStatus .ended now ∈ t'.sessions :=
      Tables.mem_of_changeSession (Request.settle_eq_ok.1 hperform) hr hlive hid
    refine sound.reads_session hmem rfl hid hmine ?_
    rw [SessionRow.session_setStatus hread .ended storable]
    show _ = Except.ok { s.truncated with status := .ended, updatedAt := now.toMicros }
    rw [hkept]

omit h storable in
/-- What has been finished has ended. -/
theorem ended_of_finish {id : Uuid} {s : Session} {t' : Tables}
    (hon : (Sessions.finish user id now).on t = (.ok s, t')) : s.status = .ended := by
  obtain ⟨s₀, t₁, -, h₁⟩ := on_bind_eq_ok hon
  split at h₁
  · cases h₁
    assumption
  · obtain ⟨_, t₂, -, hanswer⟩ := on_bind_eq_ok h₁
    cases hanswer
    rfl

end SessionCalls

section MessageCalls

variable {clock : Clock} (storable : clock.IsStorable)

include h

/-- A refresh leaves tables on which an own message is handed over as before. -/
theorem on_ownedMessage_refreshed {now : Instant} (timely : now.HasFourDigitYear)
    {id session : Uuid} {r : MessageRow} (hr : r ∈ t.messages)
    (hlive : r.isLive = true) (hid : r.id = id.text)
    (hsession : t.SessionWhere (·.owner = user.number) r.session) {m : Message}
    (hread : r.message = .ok m) :
    let t' := ((Request.refreshRollup session now).perform t).2
    (Messages.owned user id).on t' = (.ok m, t') := by
  intro t'
  have differs := t.differs_refreshRollup session now
  have sound : t'.ChatSound :=
    h.perform (q := .refreshRollup session now) rfl (by simpa [Request.chatTimes] using timely)
  have hmessages : t'.messages = t.messages := congrArg (·.messages) differs.tables
  exact sound.on_ownedMessage_read (hmessages ▸ hr) hlive hid (differs.sessionWhere hsession) hread

include storable

theorem createMessage_keeps (session : Uuid) (input : NewMessage) (fresh : Uuid) :
    (Messages.create settings user session input clock fresh).KeepsMessage t user := by
  intro answer t' hon
  obtain ⟨_, t₁, hchecked, h₁⟩ := on_bind_eq_ok hon
  obtain ⟨s, t₂, howned, h₂⟩ := on_bind_eq_ok h₁
  obtain ⟨_, t₃, hask, h₃⟩ := on_bind_eq_ok h₂
  obtain ⟨hvalid, rfl⟩ := on_check_eq_ok hchecked
  obtain ⟨rfl, -, r, hr, hlive, hid, hmine, -⟩ := h.row_of_owned howned
  obtain ⟨accepted, -⟩ := (Messages.validateNew_decides settings input).of_ok hvalid
  have hperform := on_askWith_eq_ok hask
  have sound := h.perform hperform (by
    simpa [Request.chatTimes, Messages.ofInput] using (storable.reading 0).year)
  have hinsert := Tables.insertMessage_ok (Request.settle_eq_ok.1 hperform)
  change (refreshed (Messages.ofInput session input (clock 0) fresh) session (clock 1)).on t₃ = _
    at h₃
  rw [on_refreshed] at h₃
  cases h₃
  obtain ⟨-, -, rfl⟩ := hinsert
  have hread := MessageRow.message_ofMessage (m := Messages.ofInput session input (clock 0) fresh)
    (nextRow t₂.messages) (storable.reading 0) (storable.reading 0)
  refine ⟨_, on_ownedMessage_refreshed sound user (storable.reading 1).year
    (List.mem_append_right _ List.mem_cons_self) rfl rfl ⟨r, hr, hlive, hid, hmine⟩ hread, ?_⟩
  exact ⟨storedAmount_beq (number_of_isFinite accepted.cost.finite), rfl⟩

theorem updateMessage_keeps (id : Uuid) (u : MessageUpdate) :
    (Messages.update settings user id u clock).KeepsMessage t user := by
  intro answer t' hon
  obtain ⟨_, t₁, hvalid, h₁⟩ := on_bind_eq_ok hon
  obtain ⟨m₀, t₂, howned, h₂⟩ := on_bind_eq_ok h₁
  obtain ⟨m, t₃, hask, h₃⟩ := on_bind_eq_ok h₂
  obtain ⟨-, rfl⟩ := on_check_eq_ok hvalid
  obtain ⟨rfl, r, hr, hlive, hid, hsession⟩ := h.row_of_ownedMessage howned
  have hperform := on_askWith_eq_ok hask
  have sound := h.perform hperform (by simpa [Request.chatTimes] using (storable.reading 0).year)
  obtain ⟨row, hchange, hread⟩ := Request.settleRow_ok hperform
  obtain ⟨old, hold, hhas, -, rfl, htables⟩ := Tables.updateMessage_ok hchange
  obtain rfl := h.keyed.message_eq hold hr ((beq_iff_eq.1 hhas).trans hid.symm)
  change (refreshed m m.session (clock 1)).on t₃ = _ at h₃
  rw [on_refreshed] at h₃
  cases h₃
  have hmem : old.update u (clock 0) ∈ t₃.messages := by
    rw [htables]
    exact mem_changeWhere.2 (.inl ⟨old, hold, by simp [hhas, hlive], rfl⟩)
  have hsession' : t₃.SessionWhere (·.owner = user.number) old.session := by
    rw [htables]
    exact hsession
  have hid' : (old.update u (clock 0)).id = m.id.text := by
    rw [MessageRow.id_of_read hread hid]
    exact hid
  have number : m.cost.isNaN = false :=
    (MessageRow.message_eq_ok_iff.1 hread).cost ▸
      number_of_storedAmount? (sound.messages _ hmem).cost
  refine ⟨m, on_ownedMessage_refreshed sound user (storable.reading 1).year hmem hlive hid'
    hsession' hread, ?_⟩
  dsimp only
  rw [(sound.legible.messages _ hmem).truncated_of_read hread]
  exact .refl number

end MessageCalls

end Operations

end ChatLedger
