import ChatLedger.Proofs.Chat.FreshAnswers
import ChatLedger.Proofs.Chat.Views
import ChatLedger.Proofs.Store.Alone
import ChatLedger.Proofs.Store.Legible

/-!
# Looking up what a call is about

A call that is about a session or a message looks it up before anything else is asked of the store.

1. `Subject.Found` and `Subject.Owned` say of a session or message that it is there, and that it is a
   user's, from the rows alone.
2. `looksUp_session` and `looksUp_message`: a look-up that runs alone finds nothing, or what is not the
   user's, just when this is so, and leaves the tables as they are.
-/

namespace ChatLedger

open Store Time Operation

/-! ## What is there -/

/-- A live session of this identifier meets the condition. -/
def Store.Tables.SessionWhere (t : Tables) (Meets : SessionRow → Prop) (id : String) : Prop :=
  ∃ s ∈ t.sessions, s.isLive = true ∧ s.id = id ∧ Meets s

theorem Store.Tables.SessionWhere.found {t : Tables} {Meets : SessionRow → Prop} {id : String}
    (h : t.SessionWhere Meets id) : t.SessionWhere (fun _ => True) id :=
  h.imp fun _ ⟨hs, hlive, hid, _⟩ => ⟨hs, hlive, hid, trivial⟩

/-- What a call is about, if anything. -/
inductive Subject where
  | nothing
  | session (id : Uuid)
  | message (id : Uuid)
  deriving DecidableEq

/-- The session is live and meets the condition; the message is live, and in such a session. -/
def Subject.In (t : Tables) (Meets : SessionRow → Prop) : Subject → Prop
  | .nothing => True
  | .session id => t.SessionWhere Meets id.text
  | .message id =>
    ∃ m ∈ t.messages, m.isLive = true ∧ m.id = id.text ∧ t.SessionWhere Meets m.session

/-- The session or message is there for someone. -/
def Subject.Found (x : Subject) (t : Tables) : Prop := x.In t fun _ => True

/-- The session or message is there for this user. -/
def Subject.Owned (x : Subject) (t : Tables) (user : UserId) : Prop :=
  x.In t fun s => s.owner = user.number

theorem Subject.Owned.found {x : Subject} {t : Tables} {user : UserId} (h : x.Owned t user) :
    x.Found t := by
  cases x with
  | nothing => trivial
  | session id => exact Tables.SessionWhere.found h
  | message id =>
    obtain ⟨m, hm, hlive, hid, hsession⟩ := h
    exact ⟨m, hm, hlive, hid, hsession.found⟩

/-- A session may be named by the text in a column. -/
theorem Subject.in_session {t : Tables} {Meets : SessionRow → Prop} {id : Uuid} {text : String}
    (h : id.text = text) : (Subject.session id).In t Meets ↔ t.SessionWhere Meets text := by
  rw [← h]
  rfl

/-! ## Look-ups -/

/-- What a look-up for a user ends in, on tables that it leaves as they are. -/
structure LooksUp {α : Type} (op : Operation α) (t : Tables) (user : UserId) (x : Subject) : Prop where
  missing : ¬ x.Found t → ∃ what, op.on t = (.error (.notFound what), t)
  foreign : x.Found t → ¬ x.Owned t user →
    ∃ reason, op.on t = (.error (.permissionDenied reason), t)
  passes : x.Owned t user → ∃ a, op.on t = (.ok a, t)

/-- What is handed over is the user's, on tables that stay as they are. -/
theorem LooksUp.owned_of_ok {α : Type} {op : Operation α} {t t' : Tables} {user : UserId}
    {x : Subject} (h : LooksUp op t user x) {a : α} (hon : op.on t = (.ok a, t')) :
    x.Owned t user ∧ t' = t := by
  have passed : ∀ e, op.on t ≠ (.error e, t) := fun e he => by
    rw [hon] at he
    cases he
  have owned : x.Owned t user := by
    by_contra hnot
    by_cases hfound : x.Found t
    · obtain ⟨reason, hforeign⟩ := h.foreign hfound hnot
      exact passed _ hforeign
    · obtain ⟨what, hmissing⟩ := h.missing hfound
      exact passed _ hmissing
  obtain ⟨b, hb⟩ := h.passes owned
  rw [hon] at hb
  exact ⟨owned, congrArg Prod.snd hb⟩

section LooksUp

variable {t : Tables} {user : UserId} {id : Uuid} (keyed : t.Keyed) (legible : t.ChatLegible)

theorem ensureOwner_of_ne {α : Type} [Owned α] {record : α} (h : Owned.owner record ≠ user) :
    ∃ reason, ensureOwner record user = .error (.permissionDenied reason) :=
  ⟨_, if_neg h⟩

include keyed in
theorem session?_eq_some {s : SessionRow} (hs : s ∈ t.sessions) (hlive : s.isLive = true)
    (hid : s.id = id.text) : t.session? id = some s := by
  refine find?_eq_of_unique hs (by simp [SessionRow.has, hid, hlive]) fun s' hs' hmet => ?_
  have hid' := beq_iff_eq.1 (Bool.and_eq_true_iff.1 hmet).1
  exact keyed.session_eq hs' hs (hid'.trans hid.symm)

theorem session?_eq_none (h : ¬ t.SessionWhere (fun _ => True) id.text) :
    t.session? id = none := by
  refine List.find?_eq_none.2 fun s hs hmet => h ?_
  obtain ⟨hid, hlive⟩ := Bool.and_eq_true_iff.1 hmet
  exact ⟨s, hs, hlive, beq_iff_eq.1 hid, trivial⟩

include keyed in
/-- A live session that is legible is read with its owner. -/
theorem on_getSession {s : SessionRow} (hs : s ∈ t.sessions) (hlive : s.isLive = true)
    (hid : s.id = id.text) (hread : s.Legible) : ∃ session : Session,
      (ask (.getSession id)).on t = (.ok (some session), t) ∧ session.owner.number = s.owner := by
  obtain ⟨session, hread, howner, -⟩ := hread.exists_session
  have hask : (Request.getSession id).perform t = (.ok (some session), t) :=
    Prod.ext (mapM_eq_some.2 ⟨s, session?_eq_some keyed hs hlive hid, hread⟩) rfl
  exact ⟨session, on_ask hask, by rw [howner]⟩

include keyed in
/-- The owner of a live session that is legible is let through, whatever the other rows are. -/
theorem on_owned {s : SessionRow} (hs : s ∈ t.sessions) (hlive : s.isLive = true)
    (hid : s.id = id.text) (hmine : s.owner = user.number) (hread : s.Legible) :
    ∃ session, (Sessions.owned user id).on t = (.ok session, t) := by
  obtain ⟨session, hask, howner⟩ := on_getSession keyed hs hlive hid hread
  have huser : Owned.owner session = user := congrArg UserId.mk (howner.trans hmine)
  have hpassed : ensureOwner session user = .ok () := if_pos huser
  unfold Sessions.owned
  rw [on_bind_ok hask, on_bind_ok (a := session) rfl, hpassed]
  exact ⟨session, rfl⟩

include keyed legible in
/-- **The look-up of a session.** -/
theorem looksUp_session : LooksUp (Sessions.owned user id) t user (.session id) where
  missing hmissing := by
    have hask : (Request.getSession id).perform t = (.ok none, t) :=
      Prod.ext (by simp [Request.perform, session?_eq_none hmissing, pure, Except.pure]) rfl
    unfold Sessions.owned
    rw [on_bind_ok (on_ask hask)]
    exact ⟨_, on_bind_error rfl⟩
  foreign := by
    rintro ⟨s, hs, hlive, hid, -⟩ hforeign
    obtain ⟨session, hask, howner⟩ := on_getSession keyed hs hlive hid (legible.sessions s hs)
    have hne : Owned.owner session ≠ user := by
      rintro rfl
      exact hforeign ⟨s, hs, hlive, hid, howner.symm⟩
    obtain ⟨reason, hrefused⟩ := ensureOwner_of_ne hne
    unfold Sessions.owned
    rw [on_bind_ok hask, on_bind_ok (a := session) rfl, hrefused]
    exact ⟨reason, on_bind_error rfl⟩
  passes := by
    rintro ⟨s, hs, hlive, hid, hmine⟩
    exact on_owned keyed hs hlive hid hmine (legible.sessions s hs)

include keyed legible in
/-- A live message of a live session is read with its session. -/
theorem on_getMessage {m : MessageRow} (hm : m ∈ t.messages) (hlive : m.isLive = true)
    (hid : m.id = id.text) (hsession : t.SessionWhere (fun _ => True) m.session) :
    ∃ message : Message, (ask (.getMessage id)).on t = (.ok (some message), t) ∧
      message.session.text = m.session := by
  obtain ⟨message, hread, -⟩ := (legible.messages m hm).exists_message
  obtain ⟨s, hs, hslive, hsid, -⟩ := hsession
  have hshown : m ∈ t.messagesWhere fun _ => true :=
    List.mem_filter.2 ⟨hm, Tables.shows_eq_true.2 ⟨hlive, s, hs, hsid, hslive, rfl⟩⟩
  have hfound : (t.messagesWhere fun _ => true).find? (·.has id) = some m := by
    refine find?_eq_of_unique hshown (beq_iff_eq.2 hid) fun m' hm' hmet => ?_
    exact keyed.message_eq (List.mem_filter.1 hm').1 hm ((beq_iff_eq.1 hmet).trans hid.symm)
  have hask : (Request.getMessage id).perform t = (.ok (some message), t) :=
    Prod.ext (mapM_eq_some.2 ⟨m, hfound, hread⟩) rfl
  obtain ⟨session, hnamed⟩ := (legible.messages m hm).session
  exact ⟨message, on_ask hask, by rw [hnamed, MessageRow.session_of_read hread hnamed]⟩

include keyed legible in
/-- **The look-up of a message.** What the look-up of its session ends in, it ends in as well. -/
theorem looksUp_message : LooksUp (Messages.owned user id) t user (.message id) where
  missing hmissing := by
    have hnone : (t.messagesWhere fun _ => true).find? (·.has id) = none := by
      refine List.find?_eq_none.2 fun m hm hmet => hmissing ?_
      obtain ⟨hmem, hshown⟩ := List.mem_filter.1 hm
      obtain ⟨hlive, s, hs, hsid, hslive, -⟩ := Tables.shows_eq_true.1 hshown
      exact ⟨m, hmem, hlive, beq_iff_eq.1 hmet, s, hs, hslive, hsid, trivial⟩
    have hask : (Request.getMessage id).perform t = (.ok none, t) :=
      Prod.ext (by simp [Request.perform, hnone, pure, Except.pure]) rfl
    unfold Messages.owned
    rw [on_bind_ok (on_ask hask)]
    exact ⟨_, on_bind_error rfl⟩
  foreign := by
    rintro ⟨m, hm, hlive, hid, hsession⟩ hforeign
    obtain ⟨message, hask, hnamed⟩ := on_getMessage keyed legible hm hlive hid hsession
    have hnot : ¬ (Subject.session message.session).Owned t user := fun h =>
      hforeign ⟨m, hm, hlive, hid, (Subject.in_session hnamed).1 h⟩
    obtain ⟨reason, hrefused⟩ :=
      (looksUp_session keyed legible).foreign ((Subject.in_session hnamed).2 hsession) hnot
    unfold Messages.owned
    rw [on_bind_ok hask, on_bind_ok (a := message) rfl]
    exact ⟨reason, on_bind_error hrefused⟩
  passes := by
    rintro ⟨m, hm, hlive, hid, hmine⟩
    obtain ⟨message, hask, hnamed⟩ := on_getMessage keyed legible hm hlive hid hmine.found
    obtain ⟨session, hpassed⟩ :=
      (looksUp_session keyed legible).passes ((Subject.in_session hnamed).2 hmine)
    unfold Messages.owned
    rw [on_bind_ok hask, on_bind_ok (a := message) rfl, on_bind_ok hpassed]
    exact ⟨message, rfl⟩

end LooksUp

end ChatLedger
