import ChatLedger.Proofs.Chat.FreshAnswers

/-!
# Deleted sessions and their messages

Deleting a session deletes its messages in the same change, but a call that adds a message looks at
the session first and adds the message later.

1. `Request.perform_deletion`: a session that has just been deleted has no live messages.
2. `Trace.live_message`: a live message was added by a call, and its session has not been deleted
   since then.
3. Hence a live message of a deleted session was added after the deletion, by a call that had looked
   at the session before it (`live_messages_overtaken`). No such message is ever shown.
-/

namespace ChatLedger.Store

open Time

variable {ι : Type}

/-! ## One call -/

/-- The tables have a deleted session of this identifier. -/
def Tables.Closed (t : Tables) (session : String) : Prop :=
  ∃ s ∈ t.sessions, s.id = session ∧ s.isLive = false

/-- The call deletes sessions. -/
def Request.Deletes : Request → Prop
  | .deleteSession .. | .deleteUserSessions .. => True
  | _ => False

/-- The call deletes no session without its messages. -/
def Request.DeletesWhole : Request → Prop
  | .createSession s => s.status ≠ .deleted
  | .setSessionStatus _ status _ => status ≠ .deleted
  | _ => True

theorem SessionStatus.word_deleted {status : SessionStatus}
    (h : (Vocabulary.word status != Vocabulary.word SessionStatus.deleted) = false) :
    status = .deleted := by
  cases status with
  | deleted => rfl
  | _ => exact absurd h (by decide)

section ChangeWhere

variable {condition : SessionRow → Bool} {change : SessionRow → SessionRow}
  {rows : List SessionRow} {session : String}

/-- A session that is deleted after a change was so before, or the change met it. -/
theorem closed_of_changeWhere
    (closed : ∃ s ∈ changeWhere condition change rows, s.id = session ∧ s.isLive = false)
    (sameId : ∀ s, (change s).id = s.id) :
    (∃ s ∈ rows, s.id = session ∧ s.isLive = false) ∨
      ∃ s ∈ rows, condition s = true ∧ s.id = session ∧ (change s).isLive = false := by
  obtain ⟨s, hs, hid, hdead⟩ := closed
  rcases mem_changeWhere.1 hs with ⟨s₀, h₀, hmet, rfl⟩ | ⟨h₀, -⟩
  · exact .inr ⟨s₀, h₀, hmet, (sameId s₀).symm.trans hid, hdead⟩
  · exact .inl ⟨s, h₀, hid, hdead⟩

/-- A change of sessions other than of their status deletes none. -/
theorem closed_of_status_eq
    (closed : ∃ s ∈ changeWhere condition change rows, s.id = session ∧ s.isLive = false)
    (same : ∀ s, (change s).id = s.id ∧ (change s).status = s.status) :
    ∃ s ∈ rows, s.id = session ∧ s.isLive = false := by
  rcases closed_of_changeWhere closed fun s => (same s).1 with closed | ⟨s, hs, -, hid, hdead⟩
  · exact closed
  · refine ⟨s, hs, hid, ?_⟩
    unfold SessionRow.isLive at hdead ⊢
    rw [← (same s).2]
    exact hdead

end ChangeWhere

/-- After the deletion of some messages, those that it was meant for are not live. -/
theorem MessageRow.dead_of_deleted {condition : MessageRow → Bool} {now : Instant}
    {rows : List MessageRow} {m : MessageRow}
    (hm : m ∈ changeWhere (fun r => condition r && r.isLive) (·.delete now) rows)
    (meant : ∀ r, r.session = m.session → condition r = true) : m.isLive = false := by
  rcases mem_changeWhere.1 hm with ⟨m₀, -, -, rfl⟩ | ⟨-, hmissed⟩
  · rfl
  · rw [meant m rfl, Bool.true_and] at hmissed
    exact hmissed

/-- **One call.** A deleted session was so before, or has just been deleted with its messages. -/
theorem Request.perform_deletion {r : Request} (whole : r.DeletesWhole) {t : Tables}
    {session : String} (closed : (r.perform t).2.Closed session) :
    t.Closed session ∨
      r.Deletes ∧ ∀ m ∈ (r.perform t).2.messages, m.session = session → m.isLive = false := by
  have step := r.perform_chat t
  generalize (r.perform t).2 = t' at step closed ⊢
  cases step with
  | apart sessions messages =>
    unfold Tables.Closed at closed ⊢
    exact .inl (sessions ▸ closed)
  | @createSession new fresh =>
    obtain ⟨s, hs, hid, hdead⟩ := closed
    rcases List.mem_append.1 hs with hs | hs
    · exact .inl ⟨s, hs, hid, hdead⟩
    · rw [List.mem_singleton.1 hs] at hdead
      exact absurd (SessionStatus.word_deleted hdead) whole
  | updateSessionTopic => exact .inl (closed_of_status_eq closed fun _ => ⟨rfl, rfl⟩)
  | refreshRollup sum => exact .inl (closed_of_status_eq closed fun _ => ⟨rfl, rfl⟩)
  | setSessionStatus =>
    rcases closed_of_changeWhere closed fun _ => rfl with closed | ⟨s, -, -, -, hdead⟩
    · exact .inl closed
    · exact absurd (SessionStatus.word_deleted hdead) whole
  | @deleteSession id now =>
    rcases closed_of_changeWhere closed fun _ => rfl with closed | ⟨s, -, hmet, hid, -⟩
    · exact .inl closed
    · have hsame : s.id = id.text := beq_iff_eq.1 (Bool.and_eq_true_iff.1 hmet).1
      refine .inr ⟨trivial, fun m hm hsession => MessageRow.dead_of_deleted hm fun r hr => ?_⟩
      rw [beq_iff_eq, hr, hsession, ← hid, hsame]
  | @deleteUserSessions user now =>
    rcases closed_of_changeWhere closed fun _ => rfl with closed | ⟨s, hs, hmet, hid, -⟩
    · exact .inl closed
    · refine .inr ⟨trivial, fun m hm hsession => MessageRow.dead_of_deleted hm fun r hr => ?_⟩
      refine List.any_eq_true.2 ⟨s, hs, ?_⟩
      rw [hmet, Bool.true_and, beq_iff_eq, hid, hr, hsession]
  | insertMessage fresh known => exact .inl closed
  | updateMessage => exact .inl closed
  | deleteMessage => exact .inl closed

/-! ## Histories -/

/-- The event has deleted the session of this identifier. -/
def Event.Deletes (e : Event ι) (session : String) : Prop :=
  ¬ e.before.Closed session ∧ e.after.Closed session

/-- A session that has come to be deleted was deleted by an event. -/
theorem Trace.exists_deletion {history : List (Event ι)} {start t : Tables}
    (trace : Trace start history t) {session : String} (first : ¬ start.Closed session)
    (last : t.Closed session) :
    ∃ h₁ d h₂, history = h₁ ++ d :: h₂ ∧ d.Deletes session := by
  induction trace with
  | nil => exact absurd last first
  | @snoc history e earlier lawful ih =>
    by_cases hbefore : e.before.Closed session
    · obtain ⟨h₁, d, h₂, rfl, hd⟩ := ih hbefore
      exact ⟨h₁, d, h₂ ++ [e], by simp, hd⟩
    · exact ⟨history, e, [], rfl, hbefore, last⟩

/-- The deletion of a session was asked for, and has left none of its messages live. -/
theorem Event.Lawful.of_deletes {e : Event ι} (lawful : e.Lawful) (whole : e.request.DeletesWhole)
    {session : String} (h : e.Deletes session) :
    e.request.Deletes ∧ ∀ m ∈ e.after.messages, m.session = session → m.isLive = false := by
  rcases lawful with hperform | ⟨-, -, hsame⟩
  · have hafter : (e.request.perform e.before).2 = e.after := congrArg Prod.snd hperform
    rw [← hafter]
    exact (Request.perform_deletion whole (hafter ▸ h.2)).resolve_left h.1
  · exact absurd (hsame ▸ h.2) h.1

/-- A live message was live before the event, or has been added by it. -/
theorem Event.Lawful.live_message {e : Event ι} (lawful : e.Lawful) {m : MessageRow}
    (hm : m ∈ e.after.messages) (hlive : m.isLive = true) :
    (∃ m₀ ∈ e.before.messages, m₀.isLive = true ∧ m₀.key = m.key) ∨
      ∃ new, e.exchange = ⟨.insertMessage new, .ok ()⟩ ∧ m.id = new.id.text ∧
        m.session = new.session.text := by
  obtain ⟨i, request, answer, before, after⟩ := e
  rcases lawful with hperform | ⟨-, -, hsame⟩
  · have hafter : (request.perform before).2 = after := congrArg Prod.snd hperform
    have hedit := (request.perform_edits before).messages
    rw [hafter] at hedit
    refine (hedit.mem_of_open hm hlive).imp_right fun hadded => ?_
    rcases request.perform_messages before with ⟨new, rfl, inserted⟩ | ⟨_, _, -, hamended⟩
    · have hrows := inserted.messages
      rw [hafter, hadded] at hrows
      cases List.singleton_injective (List.append_cancel_left hrows)
      cases answer with
      | ok u => exact ⟨new, rfl, rfl, rfl⟩
      | error error =>
        have hsame : after = before := Request.perform_of_error rfl hperform
        exact absurd (congrArg (·.messages.length) hsame) (by simp [hadded])
    · rw [hafter, hadded] at hamended
      exact absurd (congrArg List.length hamended) (by simp)
  · exact .inl ⟨m, hsame ▸ hm, hlive, rfl⟩

/-- **A live message** was added by a call, and its session has not been deleted since then. -/
theorem Trace.live_message {history : List (Event ι)} {t : Tables} (trace : Trace {} history t)
    (whole : ∀ e ∈ history, e.request.DeletesWhole) {m : MessageRow} (hm : m ∈ t.messages)
    (hlive : m.isLive = true) :
    ∃ h₁ e h₂ new, history = h₁ ++ e :: h₂ ∧ e.exchange = ⟨.insertMessage new, .ok ()⟩ ∧
      m.id = new.id.text ∧ m.session = new.session.text ∧
      ∀ d ∈ h₂, ¬ d.Deletes m.session := by
  induction trace generalizing m with
  | nil => cases hm
  | @snoc history e earlier lawful ih =>
    rcases lawful.live_message hm hlive with ⟨m₀, h₀, hlive₀, hkey⟩ | ⟨new, hx, hid, hsession⟩
    · obtain ⟨h₁, e', h₂, new, rfl, hx, hid, hsession, hquiet⟩ :=
        ih (fun x hx => whole x (List.mem_append_left _ hx)) h₀ hlive₀
      have hsame : m₀.session = m.session := congrArg (·.2.2.1) hkey
      refine ⟨h₁, e', h₂ ++ [e], new, by simp, hx, (congrArg (·.2.1) hkey).symm.trans hid,
        hsame ▸ hsession, fun d hd hdeletes => ?_⟩
      rcases List.mem_append.1 hd with hd | hd
      · exact hquiet d hd (hsame ▸ hdeletes)
      · cases List.mem_singleton.1 hd
        have hdead := (lawful.of_deletes (whole e (by simp)) hdeletes).2 m hm rfl
        rw [hdead] at hlive
        cases hlive
    · exact ⟨history, e, [], new, rfl, hx, hid, hsession, by simp⟩

/-- The session of an identifier is deleted, or it is not. -/
theorem Tables.Keyed.not_closed {t : Tables} (keyed : t.Keyed) {s : SessionRow}
    (hs : s ∈ t.sessions) (hlive : s.isLive = true) : ¬ t.Closed s.id := by
  rintro ⟨dead, hdead, hid, hstatus⟩
  rw [keyed.session_eq hdead hs hid, hlive] at hstatus
  cases hstatus

/-- A session that has been found is not a deleted one. -/
theorem Event.Lawful.not_closed_of_found {e : Event ι} (lawful : e.Lawful) (keyed : e.before.Keyed)
    {id : Uuid} {s : Session} (hx : e.exchange = ⟨.getSession id, .ok (some s)⟩) :
    ¬ e.after.Closed id.text := by
  obtain ⟨i, request, answer, before, after⟩ := e
  cases hx
  have hperform := lawful.perform_of_ok rfl
  have hsame : after = before := (congrArg Prod.snd hperform).symm
  obtain ⟨row, hf, -⟩ := mapM_eq_some.1 (congrArg Prod.fst hperform)
  have hrow : row.has id = true ∧ row.isLive = true := by simpa using List.find?_some hf
  rw [hsame, ← beq_iff_eq.1 hrow.1]
  exact keyed.not_closed (List.mem_of_find?_eq_some hf) hrow.2

/-- Messages of a deleted session are not shown. -/
theorem Tables.Keyed.shows_eq_false {t : Tables} (keyed : t.Keyed) {m : MessageRow}
    (closed : t.Closed m.session) (condition : SessionRow → Bool) :
    t.shows condition m = false := by
  by_contra hshown
  unfold Tables.shows at hshown
  simp only [Bool.not_eq_false, Bool.and_eq_true, List.any_eq_true, beq_iff_eq] at hshown
  obtain ⟨-, s, hs, ⟨hid, hlive⟩, -⟩ := hshown
  exact keyed.not_closed hs hlive (hid ▸ closed)

end ChatLedger.Store

/-! ## Calls -/

namespace ChatLedger

open Store Operation

namespace ChatCall

theorem Makes.deletesWhole {c : ChatCall} {r : Request} (h : c.Makes r) : r.DeletesWhole := by
  rcases h with hread | hwrite
  · cases r with
    | createSession => cases hread
    | setSessionStatus => cases hread
    | _ => trivial
  · cases r with
    | createSession s =>
      cases c with
      | createSession user input now fresh => exact fun h => by rw [hwrite.2.2.1] at h; cases h
      | _ => cases hwrite
    | setSessionStatus id status now =>
      cases c with
      | finishSession user id' now' => exact fun h => by rw [hwrite.2.1] at h; cases h
      | _ => cases hwrite
    | _ => trivial

/-- Only a call that adds a message does so. -/
theorem Makes.insert {c : ChatCall} {m : Message} (h : c.Makes (.insertMessage m)) :
    ∃ user session input clock fresh, c = .createMessage user session input clock fresh ∧
      m = Messages.ofInput session input (clock 0) fresh := by
  rcases h with hread | hwrite
  · cases hread
  · cases c with
    | createMessage user session input clock fresh => exact ⟨_, _, _, _, _, rfl, hwrite⟩
    | _ => cases hwrite

/-- Only a call that deletes sessions does so. -/
theorem Makes.deletes {c : ChatCall} {r : Request} (h : c.Makes r) (hr : r.Deletes) :
    (∃ user id now, c = .deleteSession user id now) ∨ ∃ user now, c = .deleteAllSessions user now := by
  cases r with
  | deleteSession id now =>
    rcases h with hread | hwrite
    · cases hread
    · cases c with
      | deleteSession user id' now' => exact .inl ⟨_, _, _, rfl⟩
      | _ => cases hwrite
  | deleteUserSessions user now =>
    rcases h with hread | hwrite
    · cases hread
    · cases c with
      | deleteAllSessions user' now' => exact .inr ⟨_, _, rfl⟩
      | _ => cases hwrite
  | _ => cases hr

/-- A call that adds a message has found the session before. -/
theorem path_createMessage {settings : Settings} {user : UserId} {session : Uuid}
    {input : NewMessage} {clock : Time.Clock} {fresh : Uuid} {l₁ l₂ : List Exchange} {m : Message}
    {a : Except StoreError Unit} {q : Program (Except ServiceError ChatReply)}
    (h : ((createMessage user session input clock fresh).program settings).Path
      (l₁ ++ ⟨.insertMessage m, a⟩ :: l₂) q) :
    ∃ s, ⟨.getSession session, .ok (some s)⟩ ∈ l₁ := by
  -- whatever the rest of the call would do, what it has done by now is what counts
  obtain ⟨l₃, outcome, hrest⟩ := q.exists_path_done
  obtain ⟨result, hends, -⟩ := ends_map (h.append hrest)
  rw [List.append_assoc, List.cons_append] at hends
  generalize hl : l₁ ++ ⟨.insertMessage m, a⟩ :: (l₂ ++ l₃) = l at hends
  unfold Messages.create at hends
  rcases ends_bind hends with ⟨e, hcheck, -⟩ | ⟨_, l₄, l₅, rfl, hcheck, hafter⟩
  · rw [(ends_check.1 hcheck).1] at hl
    simp at hl
  rw [(ends_check.1 hcheck).1, List.nil_append] at hl
  rcases ends_bind hafter with ⟨e, howned, -⟩ | ⟨s, l₆, l₇, rfl, howned, -⟩
  · have hreads : ∀ x ∈ l₅, x.request.access = .reader :=
      Program.Asks.mem_path (asks_ownedSession (P := fun r => r.access = .reader)
        fun _ h => h.reader).asks howned
    have hread := hreads ⟨.insertMessage m, a⟩ (hl ▸ by simp)
    cases hread
  · rw [ends_ownedSession howned] at hl
    cases l₁ with
    | nil => exact absurd (List.cons.inj hl).1 (by simp)
    | cons x l₁ => exact ⟨s, by rw [(List.cons.inj hl).1]; exact List.mem_cons_self⟩

variable {ι : Type} [DecidableEq ι]

/-- The message was added by a call that had found its session before the session was deleted, and
went on after that. -/
def Overtaken (calls : ι → ChatCall) (history : List (Event ι)) (m : MessageRow) : Prop :=
  ∃ i user session input clock fresh, calls i = .createMessage user session input clock fresh ∧
    m.session = session.text ∧
    ∃ h₁ found h₂ deleted h₃ added h₄,
      history = h₁ ++ found :: h₂ ++ deleted :: h₃ ++ added :: h₄ ∧
      (found.process = i ∧ ∃ s, found.exchange = ⟨.getSession session, .ok (some s)⟩) ∧
      deleted.Deletes m.session ∧
      (added.process = i ∧
        ∃ new, added.exchange = ⟨.insertMessage new, .ok ()⟩ ∧ m.id = new.id.text)

/-- The call that added a live message of a deleted session was overtaken by the deletion. -/
theorem overtaken_of_closed {settings : Settings} {calls : ι → ChatCall}
    {history : List (Event ι)} {t : Tables} (trace : Trace {} history t)
    (makes : ∀ e ∈ history, (calls e.process).Makes e.request)
    (paths : ∀ i, ∃ q, ((calls i).program settings).Path (exchangesOf i history) q)
    {m : MessageRow} (hm : m ∈ t.messages) (hlive : m.isLive = true)
    (closed : t.Closed m.session) : Overtaken calls history m := by
  have whole : ∀ e ∈ history, e.request.DeletesWhole := fun e he => (makes e he).deletesWhole
  obtain ⟨h₁, e, h₂, new, rfl, hx, hid, hsession, hquiet⟩ := trace.live_message whole hm hlive
  obtain ⟨earlier, lawful, later⟩ := trace.split
  have hrequest : e.request = .insertMessage new := congrArg Exchange.request hx
  -- the session was deleted before the message was added
  have hafter : e.after.Closed m.session := by
    by_contra hopen
    obtain ⟨l₁, d, l₂, rfl, hd⟩ := later.exists_deletion hopen closed
    exact hquiet d (by simp) hd
  have hbefore : e.before.Closed m.session := by
    by_contra hopen
    have hasked := (lawful.of_deletes (whole e (by simp)) ⟨hopen, hafter⟩).1
    rw [hrequest] at hasked
    exact hasked
  -- and found by the call before it was deleted
  have hmakes := makes e (by simp)
  rw [hrequest] at hmakes
  obtain ⟨user, session, input, clock, fresh, hcall, rfl⟩ := hmakes.insert
  obtain ⟨q, hpath⟩ := paths e.process
  rw [exchangesOf_split, hx, hcall] at hpath
  obtain ⟨s, hfound⟩ := path_createMessage hpath
  obtain ⟨g, hg, hprocess, hgx⟩ := mem_exchangesOf.1 hfound
  obtain ⟨l₁, l₂, rfl⟩ := List.append_of_mem hg
  obtain ⟨first, lawfulg, between⟩ := earlier.split
  have hopen := lawfulg.not_closed_of_found (first.keyed Tables.keyed_empty) hgx
  obtain ⟨l₃, d, l₄, rfl, hd⟩ := between.exists_deletion hopen (hsession ▸ hbefore)
  exact ⟨e.process, user, session, input, clock, fresh, hcall, hsession, l₁, g, l₃, d, l₄, e, h₂,
    by simp, ⟨hprocess, s, hgx⟩, hsession ▸ hd, rfl, _, hx, hid⟩

/-- **Deleted sessions and live messages.** Of any number of calls that run at the same time, at any
moment and whatever store calls have failed:

1. a live message belongs to a session that is not deleted, unless the call that added it was
   overtaken by the deletion; then no read shows the message;
2. a session is deleted by a call for that purpose, which leaves none of its messages live. -/
theorem live_messages_overtaken (settings : Settings) (calls : ι → ChatCall)
    (schedule : List (Turn ι)) :
    let w := together settings calls schedule
    (∀ m ∈ w.tables.messages, m.isLive = true → ∃ s ∈ w.tables.sessions, s.id = m.session ∧
      (s.isLive = true ∨
        Overtaken calls w.history m ∧ w.tables.shows (fun _ => true) m = false)) ∧
    ∀ d ∈ w.history, ∀ session, d.Deletes session →
      ((∃ user id now, calls d.process = .deleteSession user id now) ∨
        ∃ user now, calls d.process = .deleteAllSessions user now) ∧
      ∀ m ∈ d.after.messages, m.session = session → m.isLive = false := by
  intro w
  have trace : Trace {} w.history w.tables := World.trace_run _ _ schedule
  have makes : ∀ e ∈ w.history, (calls e.process).Makes e.request := fun e he =>
    World.asks_of_mem (fun i => (calls i).asks_makes settings) he
  refine ⟨fun m hm hlive => ?_, fun d hd session hdeletes => ?_⟩
  · obtain ⟨s, hs, hid⟩ := trace.orderly.known m hm
    refine ⟨s, hs, hid, ?_⟩
    cases hstatus : s.isLive with
    | true => exact .inl rfl
    | false =>
      have closed : w.tables.Closed m.session := ⟨s, hs, hid, hstatus⟩
      have paths (i : ι) := World.path_run {} (fun i => (calls i).program settings) schedule i
      exact .inr ⟨overtaken_of_closed trace makes (fun i => ⟨_, paths i⟩) hm hlive closed,
        (trace.keyed Tables.keyed_empty).shows_eq_false closed _⟩
  · obtain ⟨hasked, hdead⟩ :=
      (trace.lawful_of_mem hd).of_deletes (makes d hd).deletesWhole hdeletes
    exact ⟨(makes d hd).deletes hasked, hdead⟩

/-- A user opens a session and adds a message to it, while deleting the session. -/
def overtakenSample : Fin 3 → ChatCall
  | 0 => .createSession ⟨1⟩ ⟨"plans", none, none⟩ .start2026 (.ofNat 1)
  | 1 => .createMessage ⟨1⟩ (.ofNat 1) ⟨none, .user, "hello", 3, 0.5, .normal, none⟩ .start2026
      (.ofNat 2)
  | 2 => .deleteSession ⟨1⟩ (.ofNat 1) .start2026

/-- The session is deleted after the message's call has found it, and before it adds the message. -/
theorem overtakenSample_leaves_live_message :
    let w := together {} overtakenSample [.calm 0, .calm 1, .calm 2, .calm 2, .calm 1, .calm 1]
    ∃ m ∈ w.tables.messages, m.isLive = true ∧ ∀ s ∈ w.tables.sessions, s.isLive = false := by
  decide +kernel

/-- A live message may be left in a deleted session. -/
theorem not_live_messages_in_live_sessions :
    ¬ ∀ (settings : Settings) (calls : Fin 3 → ChatCall) (schedule : List (Turn (Fin 3))),
      let w := together settings calls schedule
      ∀ m ∈ w.tables.messages, m.isLive = true →
        ∃ s ∈ w.tables.sessions, s.id = m.session ∧ s.isLive = true := by
  intro claimed
  obtain ⟨m, hm, hlive, hdead⟩ := overtakenSample_leaves_live_message
  obtain ⟨s, hs, -, halive⟩ := claimed {} overtakenSample _ m hm hlive
  rw [hdead s hs] at halive
  cases halive

/-- The message that is left is one whose call was overtaken. -/
theorem live_messages_overtaken_by_deletion :
    let w := together {} overtakenSample [.calm 0, .calm 1, .calm 2, .calm 2, .calm 1, .calm 1]
    ∃ m ∈ w.tables.messages, m.isLive = true ∧ Overtaken overtakenSample w.history m := by
  intro w
  obtain ⟨m, hm, hlive, hdead⟩ := overtakenSample_leaves_live_message
  obtain ⟨s, hs, -, hcases⟩ :=
    (live_messages_overtaken {} overtakenSample _).1 m hm hlive
  refine ⟨m, hm, hlive, ?_⟩
  rcases hcases with halive | ⟨hovertaken, -⟩
  · rw [hdead s hs] at halive
    cases halive
  · exact hovertaken

end ChatCall

end ChatLedger
