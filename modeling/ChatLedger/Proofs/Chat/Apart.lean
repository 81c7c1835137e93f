import ChatLedger.Proofs.Chat.Guarded
import ChatLedger.Proofs.Chat.Within
import ChatLedger.Proofs.Store.Alone

/-!
# Calls as if nobody else had records

A call does to the store what it does to the part of it that belongs to its user.

1. `Operation.Agrees`: an operation ends on the whole store as it ends on the part of some users,
   and does the same there. The one exception is a failure on both, which may be another one where
   the call names a record of others. The `agrees_…` lemmas go along an operation.
2. `ChatCall.agrees`: so does every call of these users, unless it adds a record under the
   identifier of a record of others (`ChatCall.Unclaimed`).
-/

namespace ChatLedger.Store

variable {v : Int → Bool} {t : Tables}

/-! ## The part of some users as a store -/

section Renumber

variable {α : Type} {set : Nat → α → α} {l : List α}

theorem mem_of_renumber {r : α} (h : r ∈ renumber set l) : ∃ n, ∃ r₀ ∈ l, r = set n r₀ := by
  obtain ⟨i, hi, rfl⟩ := List.mem_mapIdx.1 h
  exact ⟨i + 1, l[i], List.getElem_mem hi, rfl⟩

theorem exists_mem_renumber (set : Nat → α → α) {r : α} (h : r ∈ l) :
    ∃ n, set n r ∈ renumber set l := by
  obtain ⟨i, hi, rfl⟩ := List.mem_iff_getElem.1 h
  exact ⟨i + 1, List.mem_mapIdx.2 ⟨i, hi, rfl⟩⟩

theorem numberedBy_renumber {κ : Type} {key : α → Nat × κ} (h : ∀ n r, (key (set n r)).1 = n) :
    NumberedBy key (renumber set l) := by
  refine List.ext_getElem (by simp) fun i h₁ h₂ => ?_
  simp [renumber, h, Nat.add_comm]

end Renumber

namespace Tables

/-- The part of some users is a store by itself. -/
theorem Proper.only (proper : t.Proper) (v : Int → Bool) : (t.only v).Proper where
  numbered :=
    ⟨numberedBy_renumber fun _ _ => rfl, numberedBy_renumber fun _ _ => rfl, rfl, rfl, rfl⟩
  keyed := by
    constructor
    · rw [show ((t.only v).sessions.map (·.id)) = _ from map_renumber fun _ _ => rfl]
      exact (List.filter_sublist.map _).nodup proper.keyed.sessions
    · rw [show ((t.only v).messages.map (·.id)) = _ from map_renumber fun _ _ => rfl]
      exact (List.filter_sublist.map _).nodup proper.keyed.messages
  orderly := by
    have old {m : MessageRow} (hm : m ∈ (t.only v).messages) :
        ∃ n, ∃ m₀ ∈ t.messages, t.belongs v m₀ = true ∧ m = .setRow n m₀ := by
      obtain ⟨n, m₀, h₀, rfl⟩ := mem_of_renumber hm
      obtain ⟨hmem, hmine⟩ := List.mem_filter.1 h₀
      exact ⟨n, m₀, hmem, hmine, rfl⟩
    constructor
    · intro m hm
      obtain ⟨n, m₀, h₀, hmine, rfl⟩ := old hm
      obtain ⟨s, hs, hid, howner⟩ := belongs_eq_true.1 hmine
      obtain ⟨k, hk⟩ := exists_mem_renumber SessionRow.setRow
        (show s ∈ t.sessionsWithin v from List.mem_filter.2 ⟨hs, howner⟩)
      exact ⟨_, hk, hid⟩
    · intro m hm
      obtain ⟨n, m₀, h₀, -, rfl⟩ := old hm
      exact proper.orderly.named m₀ h₀
    · rw [show ((t.only v).messages.map (·.id)) = _ from map_renumber fun _ _ => rfl]
      exact (List.filter_sublist.map _).nodup proper.orderly.apart
    · intro m hm
      obtain ⟨n, m₀, h₀, -, rfl⟩ := old hm
      exact proper.orderly.counted m₀ h₀

/-- What a user holds, all users hold whom he is one of. -/
theorem Holds.of_user {user : UserId} {session : String} (h : t.Holds (· == user.number) session)
    (hv : v user.number = true) : t.Holds v session :=
  h.imp fun o ho => by rw [beq_iff_eq.1 ho, hv]

theorem Holds.of_only {v' : Int → Bool} {session : String} (h : (t.only v).Holds v' session) :
    t.Holds v session := by
  obtain ⟨s, hs, hid, -⟩ := h
  obtain ⟨n, s₀, h₀, rfl⟩ := mem_of_renumber hs
  obtain ⟨hmem, howner⟩ := List.mem_filter.1 h₀
  exact ⟨s₀, hmem, hid, howner⟩

theorem InSession.of_only {id : Uuid} {session : String} (h : (t.only v).InSession id session) :
    t.InSession id session := by
  obtain ⟨m, hm, hid, hsession⟩ := h
  obtain ⟨n, m₀, h₀, rfl⟩ := mem_of_renumber hm
  exact ⟨m₀, (List.mem_filter.1 h₀).1, hid, hsession⟩

end Tables

/-! ## Programs that run alone -/

namespace Program

variable {α : Type}

theorem extends_run (p : Program α) (t : Tables) : t.Extends (p.run t).2 := by
  induction p generalizing t with
  | done a => exact .refl t
  | call request next ih => exact .trans (.of_grows (request.perform_grows t)) (ih _ _)

theorem proper_run (p : Program α) (proper : t.Proper) : (p.run t).2.Proper := by
  induction p generalizing t with
  | done a => exact proper
  | call request next ih => exact ih _ (proper.perform request)

/-- A program of a single store call, which is one on records of the users. -/
theorem run_ask_bind {r : Request} {f : Except StoreError r.Answer → Program α}
    (h : r.perform (t.only v) = ((r.perform t).1, (r.perform t).2.only v))
    (single : ∀ answer, ∃ a, f answer = .done a) :
    ((ask r).bind f).run (t.only v) =
      ((((ask r).bind f).run t).1, (((ask r).bind f).run t).2.only v) := by
  have hrun (t : Tables) : ((ask r).bind f).run t = (f (r.perform t).1).run (r.perform t).2 := rfl
  obtain ⟨a, ha⟩ := single (r.perform t).1
  rw [hrun, hrun, h, ha]
  rfl

end Program

end ChatLedger.Store

/-! ## Along an operation -/

namespace ChatLedger.Operation

open Store

variable {α β : Type} {v : Int → Bool} {foreign : Prop} {t : Tables}

/-- The outcome is an error. -/
def Fails (outcome : Except ServiceError α) : Prop := ∃ e, outcome = .error e

/-- The operation does on the whole store what it does on the part of the users, and ends the same;
where a foreign record is in question, it may fail on both in different ways. -/
structure Agrees (v : Int → Bool) (foreign : Prop) (op : Operation α) (t : Tables) : Prop where
  tables : (op.on (t.only v)).2 = (op.on t).2.only v
  outcome : (op.on (t.only v)).1 = (op.on t).1 ∨
    foreign ∧ Fails (op.on (t.only v)).1 ∧ Fails (op.on t).1

theorem agrees_pure (a : α) : Agrees v foreign (pure a : Operation α) t := ⟨rfl, .inl rfl⟩

theorem agrees_of_perform {explain : StoreError → ServiceError} {r : Request}
    (h : r.perform (t.only v) = ((r.perform t).1, (r.perform t).2.only v)) :
    Agrees v foreign (askWith explain r) t := by
  have hask (t : Tables) : (askWith explain r).on t =
      ((r.perform t).1.mapError explain, (r.perform t).2) := rfl
  refine ⟨?_, .inl ?_⟩ <;> rw [hask, hask, h]

/-- A read of what the users see. -/
theorem agrees_read {r : Request} (proper : t.Proper) (reads : r.ReadsChat)
    (h : r.Confined v t) : Agrees v foreign (ask r) t :=
  agrees_of_perform (Request.perform_confined proper reads h)

/-- A call on records of the users. -/
theorem agrees_ask {r : Request} (proper : t.Proper) (h : r.Within v t) :
    Agrees v foreign (ask r) t := agrees_of_perform (Request.perform_within proper h)

theorem agrees_askToAdd {what : String} {r : Request} (proper : t.Proper) (h : r.Within v t) :
    Agrees v foreign (askToAdd what r) t := agrees_of_perform (Request.perform_within proper h)

theorem agrees_bind {op : Operation α} {f : α → Operation β} (proper : t.Proper)
    (h : Agrees v foreign op t)
    (hf : ∀ a t', op.on t = (.ok a, t') → t.Extends t' → t'.Proper → Agrees v foreign (f a) t') :
    Agrees v foreign (op >>= f) t := by
  obtain ⟨htables, houtcome⟩ := h
  rcases houtcome with hsame | ⟨hforeign, ⟨e', he'⟩, ⟨e, he⟩⟩
  · cases hop : (op.on t).1 with
    | error e =>
      have hwhole : op.on t = (.error e, (op.on t).2) := Prod.ext hop rfl
      have hpart : op.on (t.only v) = (.error e, (op.on t).2.only v) :=
        Prod.ext (hsame.trans hop) htables
      refine ⟨?_, .inl ?_⟩ <;> rw [on_bind_error hwhole, on_bind_error hpart]
    | ok a =>
      have hwhole : op.on t = (.ok a, (op.on t).2) := Prod.ext hop rfl
      have hpart : op.on (t.only v) = (.ok a, (op.on t).2.only v) :=
        Prod.ext (hsame.trans hop) htables
      have hnext := hf a _ hwhole (Program.extends_run op.run t) (Program.proper_run op.run proper)
      refine ⟨?_, ?_⟩ <;> rw [on_bind_ok hwhole, on_bind_ok hpart]
      · exact hnext.tables
      · exact hnext.outcome
  · have hwhole : op.on t = (.error e, (op.on t).2) := Prod.ext he rfl
    have hpart : op.on (t.only v) = (.error e', (op.on t).2.only v) := Prod.ext he' htables
    refine ⟨?_, .inr ⟨hforeign, ?_⟩⟩ <;> rw [on_bind_error hwhole, on_bind_error hpart]
    exact ⟨⟨e', rfl⟩, ⟨e, rfl⟩⟩

/-- An operation after a check. -/
theorem agrees_after_check {outcome : Except ServiceError α} {f : α → Operation β}
    (h : ∀ a, outcome = .ok a → Agrees v foreign (f a) t) :
    Agrees v foreign (check outcome >>= f) t := by
  cases outcome with
  | error e => exact ⟨rfl, .inl rfl⟩
  | ok a => exact ⟨(h a rfl).tables, (h a rfl).outcome⟩

/-- An operation after one that only reads. -/
theorem agrees_after_reads {op : Operation α} {f : α → Operation β} (proper : t.Proper)
    (reads : op.Asks Request.ReadsChat) (h : Agrees v foreign op t)
    (hf : ∀ a, op.on t = (.ok a, t) → Agrees v foreign (f a) t) :
    Agrees v foreign (op >>= f) t := by
  refine agrees_bind proper h fun a t' hop _ _ => ?_
  have hsame : t' = t := (congrArg Prod.snd hop).symm.trans
    (Program.run_of_reads (reads.asks.mono fun _ h => h.reader) t)
  subst hsame
  exact hf a hop

theorem agrees_map {f : α → β} {op : Operation α} (h : Agrees v foreign op t) :
    Agrees v foreign (f <$> op) t := by
  have hwhole : (f <$> op).on t = ((op.on t).1.map f, (op.on t).2) := on_map rfl
  have hpart : (f <$> op).on (t.only v) = ((op.on (t.only v)).1.map f, (op.on (t.only v)).2) :=
    on_map rfl
  refine ⟨?_, ?_⟩ <;> rw [hwhole, hpart]
  · exact h.tables
  · rcases h.outcome with hsame | ⟨hforeign, ⟨e', he'⟩, ⟨e, he⟩⟩
    · exact .inl (congrArg (Except.map f) hsame)
    · exact .inr ⟨hforeign, ⟨e', congrArg (Except.map f) he'⟩, ⟨e, congrArg (Except.map f) he⟩⟩

theorem agrees_ofProgram {p : Program α}
    (h : p.run (t.only v) = ((p.run t).1, (p.run t).2.only v)) :
    Agrees v foreign (ofProgram p) t := by
  have hrun (t : Tables) : (ofProgram p).on t = (.ok (p.run t).1, (p.run t).2) :=
    Program.runWith_bind Request.perform p
      (fun a => .done (.ok a : Except ServiceError α)) t
  refine ⟨?_, .inl ?_⟩ <;> rw [hrun, hrun, h]

theorem on_ask_ok {r : Request} {a : r.Answer} {t' : Tables} (h : (ask r).on t = (.ok a, t')) :
    r.perform t = (.ok a, t') := by
  refine Prod.ext ?_ (congrArg Prod.snd h :)
  have houtcome : (r.perform t).1.mapError ServiceError.ofStore = .ok a := congrArg Prod.fst h
  cases hanswer : (r.perform t).1 with
  | error e =>
    rw [hanswer] at houtcome
    cases houtcome
  | ok b =>
    rw [hanswer] at houtcome
    cases houtcome
    rfl

/-- Alone, an operation ends with a value as wanted. -/
theorem Spares.on_ok {wanted : Tables → α → Prop} {op : Operation α} {t' : Tables} {a : α}
    (h : Spares v wanted op t) (proper : t.Proper) (hop : op.on t = (.ok a, t')) : wanted t' a := by
  have hwanted := h.spares.wanted_run proper a (congrArg Prod.fst hop)
  rw [show (Program.run op.run t).2 = t' from congrArg Prod.snd hop] at hwanted
  exact hwanted

/-- An operation that only reads, and can end with a value as wanted on neither store. -/
theorem agrees_of_unwanted {wanted : Tables → α → Prop} {op : Operation α} (proper : t.Proper)
    (reads : op.Asks Request.ReadsChat) (spares : ∀ t, Spares v wanted op t) (h : foreign)
    (never : ∀ a, ¬ wanted t a) (never' : ∀ a, ¬ wanted (t.only v) a) : Agrees v foreign op t := by
  have hsame (t : Tables) : (op.on t).2 = t :=
    Program.run_of_reads (reads.asks.mono fun _ h => h.reader) t
  have fails {t : Tables} (proper : t.Proper) (never : ∀ a, ¬ wanted t a) : Fails (op.on t).1 := by
    cases houtcome : (op.on t).1 with
    | error e => exact ⟨e, rfl⟩
    | ok a => exact absurd ((spares t).on_ok proper (Prod.ext houtcome (hsame t))) (never a)
  refine ⟨?_, .inr ⟨h, fails (proper.only v) never', fails proper never⟩⟩
  rw [hsame, hsame]

end ChatLedger.Operation

/-! ## Calls of the users -/

namespace ChatLedger

open Store Time Operation Tables

/-- The session is there, and belongs to none of the given users. -/
def Store.Tables.ForeignSession (t : Tables) (v : Int → Bool) (id : Uuid) : Prop :=
  ∃ s ∈ t.sessions, s.has id = true ∧ s.isLive = true ∧ v s.owner = false

/-- The message is shown to others than the given users. -/
def Store.Tables.ForeignMessage (t : Tables) (v : Int → Bool) (id : Uuid) : Prop :=
  ∃ m ∈ t.messages, m.has id = true ∧ t.shows (fun s => !v s.owner) m = true

namespace ChatCall

section Own

variable {v : Int → Bool} {t : Tables} {user : UserId} {id : Uuid} {now : Instant}

theorem agrees_ownedSession {foreign : Prop} (hv : v user.number = true) (proper : t.Proper)
    (hforeign : t.ForeignSession v id → foreign) :
    Agrees v foreign (Sessions.owned user id) t := by
  by_cases hconfined : (Request.getSession id).Confined v t
  · refine agrees_after_reads proper (asks_ask trivial) (agrees_read proper trivial hconfined)
      fun found _ => ?_
    exact agrees_after_check fun s _ => agrees_after_check fun _ _ => agrees_pure s
  · -- the session belongs to somebody else, so that neither store answers with it
    obtain ⟨s, hs, hid, hlive, howner⟩ : ∃ s ∈ t.sessions, s.has id = true ∧ s.isLive = true ∧
        v s.owner = false := by
      simpa [Request.Confined] using hconfined
    have never : ¬ t.Holds v id.text := fun holds => by
      rw [holds.owner proper.keyed s hs (beq_iff_eq.1 hid)] at howner
      cases howner
    exact agrees_of_unwanted proper (asks_ownedSession fun _ h => h) (fun _ => spares_ownedSession)
      (hforeign ⟨s, hs, hid, hlive, howner⟩) (fun _ holds => never (holds.of_user hv))
      fun _ holds => never holds.of_only

/-- A message that has been found is shown. -/
theorem getMessage_shown {m : Message} {t' : Tables}
    (h : (Request.getMessage id).perform t = (.ok (some m), t')) :
    ∃ row ∈ t.messages, row.has id = true ∧ t.shows (fun _ => true) row = true ∧
      row.message = .ok m := by
  obtain ⟨row, hfound, hread⟩ := mapM_eq_some.1 (congrArg Prod.fst h)
  obtain ⟨hmem, hshown⟩ := List.mem_filter.1 (List.mem_of_find?_eq_some hfound)
  exact ⟨row, hmem, by simpa using List.find?_some hfound, hshown, hread⟩

theorem agrees_ownedMessage {foreign : Prop} (hv : v user.number = true) (proper : t.Proper)
    (hforeign : t.ForeignMessage v id → foreign) :
    Agrees v foreign (Messages.owned user id) t := by
  by_cases hconfined : (Request.getMessage id).Confined v t
  · refine agrees_after_reads proper (asks_ask trivial) (agrees_read proper trivial hconfined)
      fun found hfound => ?_
    refine agrees_after_check fun m hm => ?_
    obtain rfl := ensureFound_eq_ok.1 hm
    obtain ⟨row, hrow, hid, hshown, hread⟩ := getMessage_shown (on_ask_ok hfound)
    obtain ⟨session, hnamed⟩ := proper.orderly.named row hrow
    have hsession : row.session = m.session.text := by
      rw [hnamed, MessageRow.session_of_read hread hnamed]
    refine agrees_after_reads proper (asks_ownedSession fun _ h => h)
      (agrees_ownedSession hv proper fun ⟨s, hs, hhas, hlive, howner⟩ => ?_)
      fun _ _ => agrees_pure m
    -- a message in a session of others is one of theirs
    refine hforeign ⟨row, hrow, hid, ?_⟩
    refine shows_eq_true.2 ⟨(shows_eq_true.1 hshown).1, s, hs, ?_, hlive, ?_⟩
    · rw [hsession]
      exact beq_iff_eq.1 hhas
    · rw [howner]
      rfl
  · -- the message belongs to somebody else, so that neither store answers with it
    obtain ⟨row, hrow, hid, hshown, hhidden⟩ : ∃ row ∈ t.messages, row.has id = true ∧
        t.shows (fun _ => true) row = true ∧ t.shows (fun s => v s.owner) row = false := by
      simpa [Request.Confined] using hconfined
    obtain ⟨hlive, s, hs, hsession, hopen, -⟩ := shows_eq_true.1 hshown
    have howner : v s.owner = false := by
      by_contra hmine
      rw [shows_eq_true.2 ⟨hlive, s, hs, hsession, hopen, Bool.not_eq_false _ ▸ hmine⟩] at hhidden
      cases hhidden
    have never {session : String} (within : t.InSession id session) : ¬ t.Holds v session :=
      fun holds => by
        have hin := within.of_has proper.keyed row hrow hid
        rw [holds.owner proper.keyed s hs (hsession.trans hin)] at howner
        cases howner
    have foreign : t.ForeignMessage v id := ⟨row, hrow, hid,
      shows_eq_true.2 ⟨hlive, s, hs, hsession, hopen, by rw [howner]; rfl⟩⟩
    exact agrees_of_unwanted proper (asks_ownedMessage fun _ h => h) (fun _ => spares_ownedMessage)
      (hforeign foreign) (fun _ ⟨within, holds⟩ => never within (holds.of_user hv))
      fun _ ⟨within, holds⟩ => never within.of_only holds.of_only

theorem agrees_refresh {foreign : Prop} (proper : t.Proper) (h : t.Holds v id.text) :
    Agrees v foreign (ofProgram (Sessions.refresh id now)) t := by
  have hperform := Request.perform_within (v := v) (r := .refreshRollup id now) proper
    fun s hs hid => h.owner proper.keyed s hs (beq_iff_eq.1 hid)
  refine agrees_ofProgram (Program.run_ask_bind hperform fun answer => ?_)
  rcases answer with _ | _ | _ <;> exact ⟨_, rfl⟩

/-- The end of a call that has changed a message. -/
theorem agrees_refreshed {α : Type} {value : α} {foreign : Prop} (proper : t.Proper)
    (h : t.Holds v id.text) :
    Agrees v foreign
      (do return ({ value := value, rollup := ← ofProgram (Sessions.refresh id now) } :
        Refreshed α)) t :=
  agrees_bind proper (agrees_refresh proper h) fun _ _ _ _ _ => agrees_pure _

/-- What a call does with a session that it names. -/
theorem agrees_onSession {α : Type} {f : Session → Operation α} {foreign : Prop}
    (hv : v user.number = true) (proper : t.Proper)
    (hforeign : t.ForeignSession v id → foreign)
    (hf : ∀ s, t.Holds v id.text → Agrees v foreign (f s) t) :
    Agrees v foreign (Sessions.owned user id >>= f) t := by
  refine agrees_after_reads proper (asks_ownedSession fun _ h => h)
    (agrees_ownedSession hv proper hforeign) fun s hop => ?_
  exact hf s (((spares_ownedSession (v := v)).on_ok proper hop).of_user hv)

/-- What a call does with a message that it names. -/
theorem agrees_onMessage {α : Type} {f : Message → Operation α} {foreign : Prop}
    (hv : v user.number = true) (proper : t.Proper)
    (hforeign : t.ForeignMessage v id → foreign)
    (hf : ∀ m, t.InSession id m.session.text → t.Holds v m.session.text →
      Agrees v foreign (f m) t) :
    Agrees v foreign (Messages.owned user id >>= f) t := by
  refine agrees_after_reads proper (asks_ownedMessage fun _ h => h)
    (agrees_ownedMessage hv proper hforeign) fun m hop => ?_
  obtain ⟨hin, holds⟩ := (spares_ownedMessage (v := v)).on_ok proper hop
  exact hf m hin (holds.of_user hv)

end Own

/-- The call names a session that is there and belongs to somebody else, or a message that is shown
to somebody else. -/
def NamesForeign (v : Int → Bool) (t : Tables) : ChatCall → Prop
  | .getSession _ id | .updateTopic _ id _ _ | .finishSession _ id _ | .deleteSession _ id _
  | .recompute _ id _ | .createMessage _ id _ _ _ | .listMessages _ id _ _
  | .sessionMessageStats _ id =>
    t.ForeignSession v id
  | .getMessage _ id | .updateMessage _ id _ _ | .deleteMessage _ id _ =>
    t.ForeignMessage v id
  | _ => False

/-- The identifier of a record that the call adds is not the one of a record of others. -/
def Unclaimed (v : Int → Bool) (t : Tables) : ChatCall → Prop
  | .createSession _ _ _ fresh => ∀ s ∈ t.sessions, s.has fresh = true → v s.owner = true
  | .createMessage _ _ input _ fresh =>
    ∀ m ∈ t.messages, m.has (input.id.getD fresh) = true → t.belongs v m = true
  | _ => True

instance (v : Int → Bool) (t : Tables) : (c : ChatCall) → Decidable (c.Unclaimed v t)
  | .createSession _ _ _ fresh =>
    inferInstanceAs (Decidable (∀ s ∈ t.sessions, s.has fresh = true → v s.owner = true))
  | .createMessage _ _ input _ fresh =>
    inferInstanceAs (Decidable
      (∀ m ∈ t.messages, m.has (input.id.getD fresh) = true → t.belongs v m = true))
  | .getSession .. | .updateTopic .. | .finishSession .. | .deleteSession ..
  | .deleteAllSessions .. | .listSessions .. | .searchSessions .. | .sessionStats _
  | .modelUsage _ | .recompute .. | .getMessage .. | .updateMessage .. | .deleteMessage ..
  | .listMessages .. | .listUserMessages .. | .searchMessages .. | .errorMessages ..
  | .recentMessages .. | .sessionMessageStats .. | .userMessageStats _ =>
    inferInstanceAs (Decidable True)

/-- **A call does to the whole store what it does to the records of its users**, and ends the same,
but for the error with which it fails on a record of others. -/
theorem agrees (settings : Settings) {v : Int → Bool} {c : ChatCall}
    (hv : v c.user.number = true) {t : Tables} (proper : t.Proper) (unclaimed : c.Unclaimed v t) :
    Agrees v (c.NamesForeign v t) (c.operation settings) t := by
  have within {t : Tables} {id : Uuid} (proper : t.Proper) (h : t.Holds v id.text) :
      ∀ s ∈ t.sessions, s.has id = true → v s.owner = true :=
    fun s hs hid => h.owner proper.keyed s hs (beq_iff_eq.1 hid)
  cases c with
  | createSession user input now fresh =>
    refine agrees_map (agrees_after_check fun topic _ => ?_)
    have rest (session : Session) (howner : session.owner = user) (hid : session.id = fresh) :
        Agrees v (NamesForeign v t (.createSession user input now fresh)) (do
          askToAdd ("session " ++ session.id.text) (.createSession session)
          return session) t := by
      refine agrees_bind proper (agrees_askToAdd proper ⟨?_, ?_⟩) fun _ _ _ _ _ => agrees_pure _
      · rw [howner]
        exact hv
      · rw [hid]
        exact unclaimed
    cases input.model with
    | some model => exact agrees_after_check fun model _ => rest _ rfl rfl
    | none => exact rest _ rfl rfl
  | updateTopic user id topic now =>
    refine agrees_map (agrees_after_check fun topic _ => ?_)
    refine agrees_onSession hv proper (fun h => h) fun s holds => ?_
    exact agrees_bind proper (agrees_ask proper (within proper holds))
      fun _ _ _ _ _ => agrees_pure _
  | finishSession user id now =>
    refine agrees_map (agrees_onSession hv proper (fun h => h) fun s holds => ?_)
    split
    · exact agrees_pure _
    · exact agrees_bind proper (agrees_ask proper (within proper holds))
        fun _ _ _ _ _ => agrees_pure _
  | deleteSession user id now =>
    refine agrees_map (agrees_onSession hv proper (fun h => h) fun s holds => ?_)
    exact agrees_ask proper (within proper holds)
  | deleteAllSessions user now => exact agrees_map (agrees_ask proper hv)
  | recompute user id now =>
    refine agrees_map (agrees_onSession hv proper (fun h => h) fun s holds => ?_)
    exact agrees_refresh proper holds
  | createMessage user session input clock fresh =>
    refine agrees_map (agrees_after_check fun _ _ => ?_)
    refine agrees_onSession hv proper (fun h => h) fun s holds => ?_
    refine agrees_bind proper (agrees_askToAdd proper ⟨within proper holds, unclaimed⟩)
      fun _ _ _ later proper => ?_
    exact agrees_refreshed proper (holds.onward later)
  | updateMessage user id u clock =>
    refine agrees_map (agrees_after_check fun _ _ => ?_)
    refine agrees_onMessage hv proper (fun h => h) fun m hin holds => ?_
    refine agrees_bind proper (agrees_ask proper (hin.belongs holds proper.keyed))
      fun m' t' hop later proper' => agrees_refreshed proper' ?_
    -- the message that was updated is the one that was found
    obtain ⟨row, hrow, hid, hsession⟩ := proper.orderly.updateMessage_found (on_ask_ok hop)
    rw [← hsession, hin.of_has proper.keyed row hrow hid]
    exact holds.onward later
  | deleteMessage user id clock =>
    refine agrees_map (agrees_onMessage hv proper (fun h => h) fun m hin holds => ?_)
    refine agrees_bind proper (agrees_ask proper (hin.belongs holds proper.keyed))
      fun _ _ _ later proper => ?_
    exact agrees_refreshed proper (holds.onward later)
  | getSession user id => exact agrees_map (agrees_ownedSession hv proper fun h => h)
  | getMessage user id => exact agrees_map (agrees_ownedMessage hv proper fun h => h)
  | listMessages user session page size =>
    refine agrees_map (agrees_onSession hv proper (fun h => h) fun s holds => ?_)
    exact agrees_bind proper (agrees_ask proper (within proper holds))
      fun _ _ _ _ _ => agrees_pure _
  | sessionMessageStats user session =>
    refine agrees_map (agrees_onSession hv proper (fun h => h) fun s holds => ?_)
    exact agrees_ask proper (within proper holds)
  | searchSessions user keyword page size =>
    refine agrees_map (agrees_after_check fun _ _ => ?_)
    exact agrees_bind proper (agrees_ask proper hv) fun _ _ _ _ _ => agrees_pure _
  | searchMessages user keyword page size =>
    refine agrees_map (agrees_after_check fun _ _ => ?_)
    exact agrees_bind proper (agrees_ask proper hv) fun _ _ _ _ _ => agrees_pure _
  | listSessions user page size =>
    exact agrees_map (agrees_bind proper (agrees_ask proper hv) fun _ _ _ _ _ => agrees_pure _)
  | listUserMessages user page size =>
    exact agrees_map (agrees_bind proper (agrees_ask proper hv) fun _ _ _ _ _ => agrees_pure _)
  | errorMessages user page size =>
    exact agrees_map (agrees_bind proper (agrees_ask proper hv) fun _ _ _ _ _ => agrees_pure _)
  | sessionStats user => exact agrees_map (agrees_ask proper hv)
  | modelUsage user => exact agrees_map (agrees_ask proper hv)
  | recentMessages user limit => exact agrees_map (agrees_ask proper hv)
  | userMessageStats user => exact agrees_map (agrees_ask proper hv)

end ChatCall

end ChatLedger
