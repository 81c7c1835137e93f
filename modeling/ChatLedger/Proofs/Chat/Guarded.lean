import ChatLedger.Proofs.Chat.FreshAnswers
import ChatLedger.Proofs.Chat.Shares

/-!
# Calls keep to the records of their users

Whatever other processes do between the store calls of a call, and whichever of them fail, the call
changes no records but those of its own user.

1. `Tables.Holds`: a session is there and belongs to one of the given users. It stays so.
2. `Program.Spares`: a program leaves the records of the given users alone. The `spares_…` lemmas go
   along an operation.
3. `ChatCall.spares`: so does every call of anybody else. `World.run_spares`: hence any number of
   them do so together.
-/

namespace ChatLedger.Store

open Time

/-! ## What is known of a record -/

/-- The session is there, and belongs to one of the given users. -/
def Tables.Holds (t : Tables) (v : Int → Bool) (session : String) : Prop :=
  ∃ s ∈ t.sessions, s.id = session ∧ v s.owner = true

/-- The message is there, in this session. -/
def Tables.InSession (t : Tables) (id : Uuid) (session : String) : Prop :=
  ∃ m ∈ t.messages, m.has id = true ∧ m.session = session

namespace Tables

variable {v : Int → Bool} {t t' : Tables} {session : String} {id : Uuid}

theorem Holds.onward (h : t.Holds v session) (later : t.Extends t') : t'.Holds v session := by
  obtain ⟨s, hs, hid, howner⟩ := h
  obtain ⟨s', hs', hkey⟩ := List.mem_map.1 (later.sessions.subset (List.mem_map_of_mem hs))
  exact ⟨s', hs', (congrArg (·.2.1) hkey :).trans hid,
    (congrArg (fun k => v k.2.2.1) hkey :).trans howner⟩

theorem InSession.onward (h : t.InSession id session) (later : t.Extends t') :
    t'.InSession id session := by
  obtain ⟨m, hm, hid, hsession⟩ := h
  obtain ⟨m', hm', hkey⟩ := later.message hm
  refine ⟨m', hm', ?_, (congrArg (·.2.2.1) hkey :).trans hsession⟩
  rw [MessageRow.has, show m'.id = m.id from congrArg (·.2.1) hkey]
  exact hid

theorem Holds.imp {v' : Int → Bool} (h : t.Holds v session) (himp : ∀ o, v o = true → v' o = true) :
    t.Holds v' session := by
  obtain ⟨s, hs, hid, howner⟩ := h
  exact ⟨s, hs, hid, himp _ howner⟩

/-- The session of an identifier is one row, so that it belongs to one user. -/
theorem Holds.owner (h : t.Holds v session) (keyed : t.Keyed) :
    ∀ s ∈ t.sessions, s.id = session → v s.owner = true := by
  obtain ⟨s', hs', hid', howner⟩ := h
  intro s hs hid
  rw [keyed.session_eq hs hs' (hid.trans hid'.symm)]
  exact howner

/-- The session belongs to none of the users if it belongs to somebody else. -/
theorem Holds.not_owner (h : t.Holds (fun o => !v o) session) (keyed : t.Keyed) :
    ∀ s ∈ t.sessions, s.id = session → v s.owner = false := by
  intro s hs hid
  have hother := h.owner keyed s hs hid
  simpa using hother

/-- The message of an identifier is one row, so that it is in one session. -/
theorem InSession.of_has (h : t.InSession id session) (keyed : t.Keyed) :
    ∀ m ∈ t.messages, m.has id = true → m.session = session := by
  obtain ⟨m', hm', hid', hsession⟩ := h
  intro m hm hid
  rw [keyed.message_eq hm hm' ((beq_iff_eq.1 hid).trans (beq_iff_eq.1 hid').symm)]
  exact hsession

theorem InSession.belongs (h : t.InSession id session) (holds : t.Holds v session)
    (keyed : t.Keyed) : ∀ m ∈ t.messages, m.has id = true → t.belongs v m = true := by
  obtain ⟨s, hs, hid', howner⟩ := holds
  intro m hm hid
  exact belongs_eq_true.2 ⟨s, hs, hid'.trans (h.of_has keyed m hm hid).symm, howner⟩

theorem InSession.not_belongs (h : t.InSession id session)
    (holds : t.Holds (fun o => !v o) session) (keyed : t.Keyed) :
    ∀ m ∈ t.messages, m.has id = true → t.belongs v m = false := by
  intro m hm hid
  refine belongs_eq_false.2 fun s hs hsession => ?_
  exact holds.not_owner keyed s hs (hsession.trans (h.of_has keyed m hm hid))

end Tables

/-- A session that has been found belongs to the user that it names. -/
theorem Request.getSession_found {t t' : Tables} {id : Uuid} {s : Session}
    (h : (Request.getSession id).perform t = (.ok (some s), t')) :
    t.Holds (· == s.owner.number) id.text := by
  obtain ⟨row, hfound, hread⟩ := mapM_eq_some.1 (congrArg Prod.fst h)
  have hmet := List.find?_some hfound
  refine ⟨row, List.mem_of_find?_eq_some hfound, beq_iff_eq.1 (Bool.and_eq_true_iff.1 hmet).1, ?_⟩
  have howner := (SessionRow.session_eq_ok_iff.1 hread).owner
  exact beq_iff_eq.2 (congrArg UserId.number howner).symm

/-- A message that has been found is in the session that it names. -/
theorem Tables.Orderly.getMessage_found {t t' : Tables} (orderly : t.Orderly) {id : Uuid}
    {m : Message} (h : (Request.getMessage id).perform t = (.ok (some m), t')) :
    t.InSession id m.session.text := by
  obtain ⟨row, hrow, hid, hread⟩ := Request.getMessage_found h
  obtain ⟨session, hnamed⟩ := orderly.named row hrow
  exact ⟨row, hrow, hid, by rw [hnamed, MessageRow.session_of_read hread hnamed]⟩

/-- A message that has been updated is in the session that it names. -/
theorem Tables.Orderly.updateMessage_found {t t' : Tables} (orderly : t.Orderly) {id : Uuid}
    {u : MessageUpdate} {now : Instant} {m : Message}
    (h : (Request.updateMessage id u now).perform t = (.ok m, t')) :
    t.InSession id m.session.text := by
  obtain ⟨row, hchange, hread⟩ := Request.settleRow_ok h
  obtain ⟨old, hold, hid, -, rfl, -⟩ := Tables.updateMessage_ok hchange
  obtain ⟨session, hnamed⟩ := orderly.named old hold
  exact ⟨old, hold, hid, by rw [hnamed, MessageRow.session_of_read hread hnamed]⟩

/-! ## Programs that leave records alone -/

namespace Program

variable {α β : Type} {v : Int → Bool} {t : Tables}

/-- Whatever others do before each of its calls, and whether or not the call fails, the program
leaves the records of the given users alone, and ends with an answer as wanted. -/
def Spares (v : Int → Bool) (wanted : Tables → α → Prop) : Program α → Tables → Prop
  | done a, t => wanted t a
  | call request next, t => ∀ t', t.Extends t' → t'.Proper →
      Tables.Same v t' (request.perform t').2 ∧
        (next (request.perform t').1).Spares v wanted (request.perform t').2 ∧
        ∀ error, (next (.error error)).Spares v wanted t'

/-- While others are at work, the program still does so. -/
theorem Spares.onward {p : Program α} {t' : Tables} (h : p.Spares v (fun _ _ => True) t)
    (later : t.Extends t') : p.Spares v (fun _ _ => True) t' := by
  cases p with
  | done a => trivial
  | call request next => exact fun t'' h' => h t'' (later.trans h')

theorem Spares.imp {wanted wanted' : Tables → α → Prop} {p : Program α}
    (h : p.Spares v wanted t) (himp : ∀ t a, wanted t a → wanted' t a) : p.Spares v wanted' t := by
  induction p generalizing t with
  | done a => exact himp t a h
  | call request next ih =>
    intro t' later proper
    obtain ⟨same, carried, failed⟩ := h t' later proper
    exact ⟨same, ih _ carried, fun error => ih _ (failed error)⟩

theorem Spares.bind {middle : Tables → α → Prop} {wanted : Tables → β → Prop} {p : Program α}
    {f : α → Program β} (hp : p.Spares v middle t)
    (hf : ∀ t' a, t.Extends t' → middle t' a → (f a).Spares v wanted t') :
    (p.bind f).Spares v wanted t := by
  induction p generalizing t with
  | done a => exact hf t a (.refl t) hp
  | call request next ih =>
    intro t' later proper
    obtain ⟨same, carried, failed⟩ := hp t' later proper
    have grown : t'.Extends (request.perform t').2 := .of_grows (request.perform_grows t')
    refine ⟨same, ih _ carried fun t'' a h => ?_,
      fun error => ih _ (failed error) fun t'' a h => ?_⟩
    · exact hf t'' a (later.trans (grown.trans h))
    · exact hf t'' a (later.trans h)

/-- Alone, the program leaves the records of the users alone. -/
theorem Spares.run {wanted : Tables → α → Prop} {p : Program α} (h : p.Spares v wanted t)
    (proper : t.Proper) : Tables.Same v t (p.run t).2 := by
  induction p generalizing t with
  | done a => exact .refl v t
  | call request next ih =>
    obtain ⟨same, carried, -⟩ := h t (.refl t) proper
    exact same.trans (ih _ carried (proper.perform request))

/-- Alone, the program ends as wanted. -/
theorem Spares.wanted_run {wanted : Tables → α → Prop} {p : Program α} (h : p.Spares v wanted t)
    (proper : t.Proper) : wanted (p.run t).2 (p.run t).1 := by
  induction p generalizing t with
  | done a => exact h
  | call request next ih =>
    obtain ⟨-, carried, -⟩ := h t (.refl t) proper
    exact ih _ carried (proper.perform request)

end Program

/-- **Programs that leave the records of the users alone, each by itself, do so together**, in every
order of their store calls and whichever of these fail. -/
theorem World.run_spares {ι α : Type} [DecidableEq ι] {v : Int → Bool} (w : World ι α)
    (proper : w.tables.Proper)
    (spares : ∀ i, (w.processes i).Spares v (fun _ _ => True) w.tables) (schedule : List (Turn ι)) :
    Tables.Same v w.tables (w.run schedule).tables := by
  have invariant := run_invariant
    (P := fun w' : World ι α => Tables.Same v w.tables w'.tables ∧ w'.tables.Proper ∧
      ∀ i, (w'.processes i).Spares v (fun _ _ => True) w'.tables)
    ?_ w schedule ⟨.refl v _, proper, spares⟩
  · exact invariant.1
  · rintro w' turn ⟨same, proper, spares⟩
    rcases w'.step_cases turn with ⟨hsame, -⟩ | ⟨request, next, result, hnext, hresult, hstep⟩
    · rw [hsame]
      exact ⟨same, proper, spares⟩
    · have hcall := spares turn.process
      rw [hnext] at hcall
      obtain ⟨spared, carried, failed⟩ := hcall w'.tables (.refl _) proper
      -- the call is carried out or fails; then the process goes on, and others are as before
      have after : Tables.Same v w'.tables result.2 ∧ result.2.Proper ∧
          w'.tables.Extends result.2 ∧ (next result.1).Spares v (fun _ _ => True) result.2 := by
        rw [hresult]
        cases turn.failure with
        | none =>
          exact ⟨spared, proper.perform request, .of_grows (request.perform_grows _), carried⟩
        | some error => exact ⟨.refl v _, proper, .refl _, failed error⟩
      obtain ⟨hspared, hproper, hextends, hprocess⟩ := after
      rw [hstep]
      refine ⟨same.trans hspared, hproper, fun j => ?_⟩
      by_cases hj : j = turn.process
      · subst hj
        simpa using hprocess
      · simpa [Function.update_of_ne hj] using (spares j).onward hextends

end ChatLedger.Store

/-! ## Along an operation -/

namespace ChatLedger.Operation

open Store

variable {α β : Type} {v : Int → Bool} {t : Tables}

/-- The operation leaves the records of the given users alone, and a value at its end is as
wanted. -/
structure Spares (v : Int → Bool) (wanted : Tables → α → Prop) (op : Operation α) (t : Tables) :
    Prop where
  spares : Program.Spares v (fun t outcome => ∀ a, outcome = .ok a → wanted t a) op.run t

section Rules

variable {wanted : Tables → β → Prop}

theorem spares_pure {b : β} (h : wanted t b) : Spares v wanted (pure b : Operation β) t :=
  ⟨fun _ ha => Except.ok.inj ha ▸ h⟩

theorem spares_check {outcome : Except ServiceError β} (h : ∀ b, outcome = .ok b → wanted t b) :
    Spares v wanted (check outcome) t := ⟨h⟩

/-- A check of which nothing is wanted. -/
theorem spares_checked {outcome : Except ServiceError β} :
    Spares v (fun _ _ => True) (check outcome) t := spares_check fun _ _ => trivial

/-- An operation that only reads. -/
theorem spares_of_reads {op : Operation β} (h : op.Asks Request.ReadsChat) :
    Spares v (fun _ _ => True) op t := by
  refine ⟨?_⟩
  have reads (p : Program (Except ServiceError β)) (hp : p.Asks Request.ReadsChat) (t : Tables) :
      p.Spares v (fun _ outcome => ∀ b, outcome = .ok b → True) t := by
    induction p generalizing t with
    | done outcome => exact fun _ _ => trivial
    | call r next ih =>
      intro t' _ _
      rw [Request.perform_of_reader hp.1.reader]
      exact ⟨.refl v t', ih _ (hp.2 _) t', fun error => ih _ (hp.2 _) t'⟩
  exact reads op.run h.asks t

/-- A call that avoids the records, whatever others have done before it. -/
theorem spares_askWith {explain : StoreError → ServiceError} {r : Request}
    {wanted : Tables → r.Answer → Prop}
    (avoids : ∀ t', t.Extends t' → t'.Proper → r.Avoids v t')
    (h : ∀ t' t'' a, t.Extends t' → t'.Proper → r.perform t' = (.ok a, t'') → wanted t'' a) :
    Spares v wanted (askWith explain r) t := by
  refine ⟨fun t' later proper => ⟨Request.perform_avoiding proper (avoids t' later proper), ?_, ?_⟩⟩
  · intro a ha
    cases hanswer : (r.perform t').1 with
    | error e =>
      rw [hanswer] at ha
      cases ha
    | ok b =>
      rw [hanswer] at ha
      cases ha
      exact h t' _ a later proper (Prod.ext hanswer rfl)
  · exact fun error a ha => by cases ha

theorem spares_ask {r : Request} {wanted : Tables → r.Answer → Prop}
    (avoids : ∀ t', t.Extends t' → t'.Proper → r.Avoids v t')
    (h : ∀ t' t'' a, t.Extends t' → t'.Proper → r.perform t' = (.ok a, t'') → wanted t'' a) :
    Spares v wanted (ask r) t := spares_askWith avoids h

/-- A call that adds a record of others. -/
theorem spares_askToAdd {what : String} {r : Request}
    (avoids : ∀ t', t.Extends t' → t'.Proper → r.Avoids v t') :
    Spares v (fun _ _ => True) (askToAdd what r) t :=
  spares_askWith avoids fun _ _ _ _ _ _ => trivial

theorem spares_bind {middle : Tables → α → Prop} {op : Operation α} {f : α → Operation β}
    (hop : Spares v middle op t)
    (hf : ∀ t' a, t.Extends t' → middle t' a → Spares v wanted (f a) t') :
    Spares v wanted (op >>= f) t := by
  refine ⟨Program.Spares.bind (p := op.run) hop.spares fun t' outcome later h => ?_⟩
  cases outcome with
  | ok a => exact (hf t' a later (h a rfl)).spares
  | error e => exact fun b hb => by cases hb

theorem spares_map {f : α → β} {op : Operation α} (h : Spares v (fun _ _ => True) op t) :
    Spares v (fun _ _ => True) (f <$> op) t := by
  refine ⟨Program.Spares.bind (p := op.run) h.spares fun t' outcome _ _ => ?_⟩
  cases outcome <;> exact fun _ _ => trivial

theorem spares_ofProgram {p : Program α} (h : p.Spares v (fun _ _ => True) t) :
    Spares v (fun _ _ => True) (ofProgram p) t :=
  ⟨Program.Spares.bind h fun _ _ _ _ _ _ => trivial⟩

end Rules

end ChatLedger.Operation

/-! ## Calls of others -/

namespace ChatLedger

open Store Time Operation

theorem ensureFound_eq_ok {α : Type} {found : Option α} {what : String} {a : α} :
    ensureFound found what = .ok a ↔ found = some a := by
  cases found <;> simp [ensureFound]

theorem ensureOwner_eq_ok {α : Type} [Owned α] {record : α} {user : UserId} {u : Unit} :
    ensureOwner record user = .ok u ↔ Owned.owner record = user := by
  unfold ensureOwner
  split <;> simp_all

namespace ChatCall

section Others

variable {v : Int → Bool} {t : Tables} {user : UserId} {id : Uuid} {now : Instant}

/-- A session that a user may work on belongs to that user. -/
theorem spares_ownedSession :
    Spares v (fun t _ => t.Holds (· == user.number) id.text) (Sessions.owned user id) t := by
  have asked : Spares v (fun t found => ∀ s, found = some s → t.Holds (· == s.owner.number) id.text)
      (ask (.getSession id)) t :=
    spares_ask (r := .getSession id) (fun _ _ _ => trivial) fun t' t'' found _ _ hperform s hs => by
      have hsame : t'' = t' := (congrArg Prod.snd hperform).symm
      rw [hsame]
      exact Request.getSession_found (hs ▸ hperform)
  refine spares_bind asked fun t₁ found _ hfound => ?_
  have checked : Spares v (fun t s => t.Holds (· == s.owner.number) id.text)
      (check (ensureFound found ("session " ++ id.text))) t₁ :=
    spares_check fun s hs => hfound s (ensureFound_eq_ok.1 hs)
  refine spares_bind checked fun t₂ s _ hs => ?_
  have owned : Spares v (fun t _ => t.Holds (· == user.number) id.text)
      (check (ensureOwner s user)) t₂ :=
    spares_check fun _ howner => by
      rw [← show s.owner = user from ensureOwner_eq_ok.1 howner]
      exact hs
  exact spares_bind owned fun t₃ _ _ h => spares_pure h

/-- A message that a user may work on is in a session of that user. -/
theorem spares_ownedMessage :
    Spares v (fun t m => t.InSession id m.session.text ∧
      t.Holds (· == user.number) m.session.text) (Messages.owned user id) t := by
  have asked : Spares v (fun t found => ∀ m, found = some m → t.InSession id m.session.text)
      (ask (.getMessage id)) t :=
    spares_ask (r := .getMessage id) (fun _ _ _ => trivial)
        fun t' t'' found _ proper hperform m hm => by
      have hsame : t'' = t' := (congrArg Prod.snd hperform).symm
      rw [hsame]
      exact proper.orderly.getMessage_found (hm ▸ hperform)
  refine spares_bind asked fun t₁ found _ hfound => ?_
  have checked : Spares v (fun t m => t.InSession id m.session.text)
      (check (ensureFound found ("message " ++ id.text))) t₁ :=
    spares_check fun m hm => hfound m (ensureFound_eq_ok.1 hm)
  refine spares_bind checked fun t₂ m _ hm => ?_
  exact spares_bind spares_ownedSession fun t₃ _ later h => spares_pure ⟨hm.onward later, h⟩

theorem spares_refresh (h : t.Holds (fun o => !v o) id.text) :
    (Sessions.refresh id now).Spares v (fun _ _ => True) t := by
  have asked : (Program.ask (.refreshRollup id now)).Spares v (fun _ _ => True) t := by
    refine fun t' later proper => ⟨?_, trivial, fun _ => trivial⟩
    refine Request.perform_avoiding proper fun s hs hid => ?_
    exact (h.onward later).not_owner proper.keyed s hs (beq_iff_eq.1 hid)
  refine Program.Spares.bind asked fun t' answer _ _ => ?_
  rcases answer with _ | _ | _ <;> exact trivial

/-- The end of a call that has changed a message. -/
theorem spares_refreshed {α : Type} {value : α} (h : t.Holds (fun o => !v o) id.text) :
    Spares v (fun _ _ => True)
      (do return ({ value := value, rollup := ← ofProgram (Sessions.refresh id now) } :
        Refreshed α)) t :=
  spares_bind (spares_ofProgram (spares_refresh h)) fun _ _ _ _ => spares_pure trivial

/-- A call that changes a session belonging to others. -/
theorem spares_askOn {r : Request} (h : t.Holds (fun o => !v o) id.text)
    (avoids : ∀ t', (∀ s ∈ t'.sessions, s.has id = true → v s.owner = false) → r.Avoids v t') :
    Spares v (fun _ _ => True) (ask r) t :=
  spares_ask (fun t' later proper => avoids t' fun s hs hid =>
    (h.onward later).not_owner proper.keyed s hs (beq_iff_eq.1 hid)) fun _ _ _ _ _ _ => trivial

end Others

/-- **Calls of others leave the records of the given users alone**, each store call by itself. -/
theorem spares (settings : Settings) {v : Int → Bool} {c : ChatCall}
    (hother : v c.user.number = false) (t : Tables) :
    Spares v (fun _ _ => True) (c.operation settings) t := by
  have others {t : Tables} {user : UserId} {session : String} (huser : v user.number = false)
      (h : t.Holds (· == user.number) session) : t.Holds (fun o => !v o) session :=
    h.imp fun o ho => by rw [beq_iff_eq.1 ho, huser]; rfl
  by_cases hclock : c.readings = []
  · exact spares_of_reads ⟨asks_reads settings hclock⟩
  cases c with
  | createSession user input now fresh =>
    refine spares_map (spares_bind spares_checked fun t₁ topic _ _ => ?_)
    have rest (session : Session) (hv : v session.owner.number = false) (t : Tables) :
        Spares v (fun _ _ => True) (do
          askToAdd ("session " ++ session.id.text) (.createSession session)
          return session) t :=
      spares_bind (spares_askToAdd (r := .createSession session) fun _ _ _ => hv)
        fun _ _ _ _ => spares_pure trivial
    cases input.model with
    | some model => exact spares_bind spares_checked fun t₂ model _ _ => rest _ hother t₂
    | none => exact rest _ hother t₁
  | updateTopic user id topic now =>
    refine spares_map (spares_bind spares_checked fun t₁ topic _ _ => ?_)
    refine spares_bind spares_ownedSession fun t₂ s _ h => ?_
    have asked := spares_askOn (r := .updateSessionTopic id topic now) (others hother h)
      fun _ h => h
    exact spares_bind asked fun _ _ _ _ => spares_pure trivial
  | finishSession user id now =>
    refine spares_map (spares_bind spares_ownedSession fun t₁ s _ h => ?_)
    split
    · exact spares_pure trivial
    · have asked := spares_askOn (r := .setSessionStatus id .ended now) (others hother h)
        fun _ h => h
      exact spares_bind asked fun _ _ _ _ => spares_pure trivial
  | deleteSession user id now =>
    refine spares_map (spares_bind spares_ownedSession fun t₁ s _ h => ?_)
    exact spares_askOn (r := .deleteSession id now) (others hother h) fun _ h => h
  | deleteAllSessions user now =>
    exact spares_map (spares_ask (r := .deleteUserSessions user now) (fun _ _ _ => hother)
      fun _ _ _ _ _ _ => trivial)
  | recompute user id now =>
    refine spares_map (spares_bind spares_ownedSession fun t₁ s _ h => ?_)
    exact spares_ofProgram (spares_refresh (others hother h))
  | createMessage user session input clock fresh =>
    refine spares_map (spares_bind spares_checked fun t₁ _ _ _ => ?_)
    refine spares_bind spares_ownedSession fun t₂ s _ h => ?_
    have h := others hother h
    have asked : Spares v (fun _ _ => True)
        (askToAdd ("message " ++ (Messages.ofInput session input (clock 0) fresh).id.text)
          (.insertMessage (Messages.ofInput session input (clock 0) fresh))) t₂ :=
      spares_askToAdd fun t' later proper s hs hid =>
        (h.onward later).not_owner proper.keyed s hs (beq_iff_eq.1 hid)
    exact spares_bind asked fun t₃ _ later _ => spares_refreshed (h.onward later)
  | updateMessage user id u clock =>
    refine spares_map (spares_bind spares_checked fun t₁ _ _ _ => ?_)
    refine spares_bind spares_ownedMessage fun t₂ m _ h => ?_
    obtain ⟨hin, hholds⟩ := h
    have hholds := others hother hholds
    have asked : Spares v (fun t m => t.Holds (fun o => !v o) m.session.text)
        (ask (.updateMessage id u (clock 0))) t₂ := by
      refine spares_ask (r := .updateMessage id u (clock 0)) (fun t' later proper => ?_)
        fun t' t'' m' later proper hperform => ?_
      · exact (hin.onward later).not_belongs (hholds.onward later) proper.keyed
      · -- the message that was updated is the one that was found
        obtain ⟨row, hrow, hid, hsession⟩ := proper.orderly.updateMessage_found hperform
        rw [← hsession, (hin.onward later).of_has proper.keyed row hrow hid]
        refine (hholds.onward later).onward ?_
        rw [show t'' = ((Request.updateMessage id u (clock 0)).perform t').2 from
          (congrArg Prod.snd hperform).symm]
        exact .of_grows (Request.perform_grows _ t')
    exact spares_bind asked fun t₃ m' _ h => spares_refreshed h
  | deleteMessage user id clock =>
    refine spares_map (spares_bind spares_ownedMessage fun t₁ m _ h => ?_)
    obtain ⟨hin, hholds⟩ := h
    have hholds := others hother hholds
    have asked : Spares v (fun _ _ => True) (ask (.deleteMessage id (clock 0))) t₁ :=
      spares_ask (r := .deleteMessage id (clock 0))
        (fun t' later proper =>
          (hin.onward later).not_belongs (hholds.onward later) proper.keyed)
        fun _ _ _ _ _ _ => trivial
    exact spares_bind asked fun t₂ _ later _ => spares_refreshed (hholds.onward later)
  | _ => exact absurd rfl hclock

end ChatCall

end ChatLedger
