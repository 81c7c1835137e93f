import ChatLedger.Proofs.Chat.MessageUpdates
import ChatLedger.Proofs.Service.Accepted
import ChatLedger.Proofs.Service.Listings

/-!
# Message rows stay well formed

An update is checked before it is known what it will change, and two updates may each bring one half
of a status and an error text.

1. `MessageRow.WellFormed`: a row without error, as its status says, has no error text, and its
   numbers are within their bounds. Every store call that the services make keeps this
   (`Request.messages_wellFormed`).
2. `Event.Inserts`: the call that added a row, with what the row has kept of it. Every row has one
   (`Trace.exists_insertion`).
3. `Tables.ListsErrors`: hence the list of errors of a user is the part of the list of messages that
   has the status for errors, and misses no message with an error text.
-/

namespace ChatLedger

open Store Time Operation

namespace Store

variable {ι : Type} {settings : Settings} {t : Tables}

/-! ## Rows -/

/-- What a row of a message keeps to, whatever updates have been made. -/
structure MessageRow.WellFormed (r : MessageRow) : Prop where
  status : ∃ s : MessageStatus, r.status = Vocabulary.word s
  plain : r.status = Vocabulary.word MessageStatus.normal → r.errorText = none
  cost : IsAmount r.cost
  tokens : 0 ≤ r.tokens ∧ r.tokens ≤ 4294967295

/-- An amount of money is stored as one. -/
theorem isAmount_storedAmount {x : Float} (h : IsAmount x) : IsAmount (storedAmount x) := by
  rcases storedAmount_cases x with hzero | ⟨hsame, -⟩
  · rw [hzero]
    decide +kernel
  · rwa [hsame]

theorem tokens_bounded (n : UInt32) : 0 ≤ (n.toNat : Int) ∧ (n.toNat : Int) ≤ 4294967295 := by
  have hlt := n.toNat_lt
  omega

/-- What is accepted for a message is well formed. -/
theorem MessageRow.wellFormed_ofMessage {m : Message} (h : m.Accepted settings) (row : Nat) :
    (ofMessage row m).WellFormed where
  status := ⟨m.status, rfl⟩
  plain hnormal := h.plain (MessageStatus.word_inj hnormal)
  cost := isAmount_storedAmount h.cost
  tokens := tokens_bounded m.tokens

/-- **An update** leaves a row well formed, whichever of its columns it supplies: a row that ends up
without error keeps no error text. -/
theorem MessageRow.WellFormed.update {r : MessageRow} {u : MessageUpdate} (h : r.WellFormed)
    (accepted : u.Acceptable settings) (now : Instant) : (r.update u now).WellFormed := by
  refine ⟨?_, fun hnormal => ?_, ?_, ?_⟩
  · cases hu : u.status with
    | none => simpa [MessageRow.update, hu] using h.status
    | some s => exact ⟨s, by simp [MessageRow.update, hu]⟩
  · exact if_pos hnormal
  · cases hu : u.cost with
    | none => simpa [MessageRow.update, hu] using h.cost
    | some x =>
      have hx := accepted.cost x hu
      simpa [MessageRow.update, hu, storedAmount?_of_number (number_of_isFinite hx.finite)] using
        isAmount_storedAmount hx
  · cases hu : u.tokens with
    | none => simpa [MessageRow.update, hu] using h.tokens
    | some n => simpa [MessageRow.update, hu] using tokens_bounded n

/-- **One call** with what the checks let through leaves all messages well formed. -/
theorem Request.messages_wellFormed {c : ServiceCall} {q : Request}
    (accepted : q.Accepted settings c) (h : ∀ r ∈ t.messages, r.WellFormed) :
    ∀ r ∈ (q.perform t).2.messages, r.WellFormed := by
  refine q.perform_forall_messages h ?_ ?_ fun now r hr => { hr with }
  · rintro row m rfl
    exact MessageRow.wellFormed_ofMessage accepted row
  · rintro id u now rfl r hr
    exact hr.update accepted now

/-! ## Where rows come from -/

/-- The call has added this message as a row at the end, and the row has kept what the call said of
its identifier, its session, its role and the time. -/
structure Event.Inserts (e : Event ι) (m : Message) (r : MessageRow) : Prop where
  asked : e.exchange = ⟨.insertMessage m, .ok ()⟩
  row : r.row = nextRow e.before.messages
  added : ∃ new, e.after.messages = e.before.messages ++ [new] ∧ new.key = r.key
  id : r.id = m.id.text
  session : r.session = m.session.text
  role : r.role = Vocabulary.word m.role
  createdAt : r.createdAt = m.createdAt.storedText

/-- A row was there before the event, or has been added by it. -/
theorem Event.Lawful.message_cases {e : Event ι} (lawful : e.Lawful) {r : MessageRow}
    (hr : r ∈ e.after.messages) :
    (∃ r₀ ∈ e.before.messages, r₀.key = r.key) ∨ ∃ m, e.Inserts m r := by
  obtain ⟨i, request, answer, before, after⟩ := e
  rcases lawful with hperform | ⟨-, -, hsame⟩
  · have hafter : (request.perform before).2 = after := congrArg Prod.snd hperform
    rcases request.perform_messages before with
      ⟨m, rfl, inserted⟩ | ⟨condition, change, amends, hamended⟩
    · have hrows : after.messages = before.messages ++ [.ofMessage (nextRow before.messages) m] :=
        hafter ▸ inserted.messages
      have hr' : r ∈ before.messages ++ [.ofMessage (nextRow before.messages) m] := hrows ▸ hr
      rcases List.mem_append.1 hr' with hold | hnew
      · exact .inl ⟨r, hold, rfl⟩
      · obtain rfl := List.mem_singleton.1 hnew
        cases answer with
        | ok u => exact .inr ⟨m, rfl, rfl, ⟨_, hrows, rfl⟩, rfl, rfl, rfl, rfl⟩
        | error error =>
          have hsame : after = before := Request.perform_of_error rfl hperform
          exact absurd (congrArg (·.messages.length) hsame) (by simp [hrows])
    · have hr' : r ∈ changeWhere condition change before.messages := by
        rw [← hamended, hafter]
        exact hr
      rcases mem_changeWhere.1 hr' with ⟨r₀, h₀, -, rfl⟩ | ⟨h₀, -⟩
      · exact .inl ⟨r₀, h₀, (amends.key r₀).symm⟩
      · exact .inl ⟨r, h₀, rfl⟩
  · exact .inl ⟨r, hsame ▸ hr, rfl⟩

theorem Event.Inserts.of_key {e : Event ι} {m : Message} {r r' : MessageRow} (h : e.Inserts m r)
    (hkey : r.key = r'.key) : e.Inserts m r' := by
  simp only [MessageRow.key, Prod.mk.injEq] at hkey
  obtain ⟨hrow, hid, hsession, hrole, hcreated⟩ := hkey
  obtain ⟨new, hadded, hnew⟩ := h.added
  have same : new.key = r'.key := by
    rw [hnew]
    simp only [MessageRow.key, hrow, hid, hsession, hrole, hcreated]
  exact ⟨h.asked, hrow ▸ h.row, ⟨new, hadded, same⟩, hid ▸ h.id, hsession ▸ h.session,
    hrole ▸ h.role, hcreated ▸ h.createdAt⟩

/-- **Every row has been added by a call**, and has kept its key since then. -/
theorem Trace.exists_insertion {history : List (Event ι)} (trace : Trace {} history t)
    {r : MessageRow} (hr : r ∈ t.messages) : ∃ e ∈ history, ∃ m, e.Inserts m r := by
  induction trace generalizing r with
  | nil => cases hr
  | @snoc history e earlier lawful ih =>
    rcases lawful.message_cases hr with ⟨r₀, h₀, hkey⟩ | ⟨m, inserts⟩
    · obtain ⟨e', he', m, inserts⟩ := ih h₀
      exact ⟨e', List.mem_append_left _ he', m, inserts.of_key hkey⟩
    · exact ⟨e, List.mem_append_right _ List.mem_cons_self, m, inserts⟩

/-! ## Errors -/

/-- What is read of a message has failed exactly if the status of its row says so. -/
theorem MessageRow.error_iff_of_read {r : MessageRow} {m : Message} (wellFormed : r.WellFormed)
    (hread : r.message = .ok m) :
    m.status = .error ↔ r.status = Vocabulary.word MessageStatus.error := by
  obtain ⟨s, hs⟩ := wellFormed.status
  have hword := (message_eq_ok_iff.1 hread).status
  rw [hs, readWord_of_parse (MessageStatus.parse_word s)] at hword
  rw [hs, ← Except.ok.inj hword]
  exact ⟨congrArg Vocabulary.word, MessageStatus.word_inj⟩

/-- The list of errors of a user is the part of the list of all messages of the user that have failed,
and no live message with an error text is missing from it. -/
def Tables.ListsErrors (t : Tables) (settings : Settings) (user : UserId) : Prop :=
  ∃ entries,
    ReferenceList (t.OwnMessage user) MessageRow.message
      (Newest fun e => (e.2.createdAt, e.1.row)) entries ∧
    Slices (Messages.listAll settings user) settings.paging .messages t (entries.map Prod.snd) ∧
    Slices (Messages.errors settings user) settings.paging .messages t
      ((entries.map Prod.snd).filter (·.status == .error)) ∧
    ∀ r, t.OwnMessage user r → r.errorText ≠ none →
      ∃ m, r.message = .ok m ∧ m ∈ (entries.map Prod.snd).filter (·.status == .error)

theorem Tables.ChatLegible.listsErrors (legible : t.ChatLegible) (coherent : t.Coherent)
    (wellFormed : ∀ r ∈ t.messages, r.WellFormed) (settings : Settings) (user : UserId) :
    t.ListsErrors settings user := by
  have all : Listed (Messages.listAll settings user) settings.paging .messages t _ _ _ :=
    listed_messages coherent legible
  obtain ⟨entries, whole, -, slices⟩ := all
  have part : Listed (Messages.errors settings user) settings.paging .messages t _ _ _ :=
    listed_errorMessages coherent legible
  have failed (r : MessageRow) (m : Message) (hown : t.OwnMessage user r)
      (hread : r.message = .ok m) :
      (m.status == .error) = true ↔ r.status = Vocabulary.word MessageStatus.error := by
    rw [beq_iff_eq]
    exact MessageRow.error_iff_of_read (wellFormed r hown.mem) hread
  refine ⟨entries, whole, slices, part.slices_filter whole failed, fun r hown htext => ?_⟩
  obtain ⟨m, hread, -⟩ := (legible.messages r hown.mem).exists_message
  have hstatus : r.status = Vocabulary.word MessageStatus.error := by
    obtain ⟨s, hs⟩ := (wellFormed r hown.mem).status
    cases s with
    | error => exact hs
    | normal => exact absurd ((wellFormed r hown.mem).plain hs) htext
  exact ⟨m, hread, List.mem_filter.2
    ⟨whole.mem_records.2 ⟨r, hown, hread⟩, (failed r m hown hread).2 hstatus⟩⟩

end Store

/-! ## A run of calls -/

/-- **Message rows stay well formed.** Calls of the services run at the same time on an empty store,
call of the store by call of the store, and any of these may fail. At every moment every row of a
message is well formed, and has kept what the call that added it said of its identifier, its session,
its role and the time. If all clocks show the years 0 to 9999, the list of errors of every user is
the part of the list of messages that has the status for errors, in the same order, and misses no
live message with an error text. -/
theorem message_rows_stay_well_formed {ι : Type} [DecidableEq ι] (settings : ι → Settings)
    (calls : ι → ServiceCall) (schedule : List (Turn ι)) :
    let w := (World.mk {} (fun i => (calls i).program (settings i)) []).run schedule
    (∀ r ∈ w.tables.messages, r.WellFormed ∧ ∃ e ∈ w.history, ∃ m, e.Inserts m r) ∧
      ((∀ i, ∀ now ∈ (calls i).readings, now.HasFourDigitYear) →
        ∀ (reader : Settings) (user : UserId), w.tables.ListsErrors reader user) := by
  intro w
  have trace : Trace {} w.history w.tables := World.trace_run {} _ schedule
  have wellFormed : ∀ r ∈ w.tables.messages, r.WellFormed :=
    trace.invariant (P := fun t => ∀ r ∈ t.messages, r.WellFormed) (by simp)
      fun _ he lawful before =>
        lawful.after_of (P := fun t => ∀ r ∈ t.messages, r.WellFormed) before
          (Request.messages_wellFormed (World.accepted_of_mem he) before)
  refine ⟨fun r hr => ⟨wellFormed r hr, trace.exists_insertion hr⟩, fun clocks reader user => ?_⟩
  exact (World.chatLegible_run settings clocks schedule).listsErrors
    (World.coherent_run settings calls schedule) wellFormed reader user

/-- A user adds a message, of which then one call says that it has failed, and another one why. -/
def sampleFailure : Fin 4 → ServiceCall
  | 0 => .chat (.createSession ⟨1⟩ ⟨"plans", none, none⟩ .start2026 (.ofNat 1))
  | 1 => .chat (.createMessage ⟨1⟩ (.ofNat 1) ⟨none, .user, "hello", 3, -0.0, .normal, none⟩
      .start2026 (.ofNat 2))
  | 2 => .chat (.updateMessage ⟨1⟩ (.ofNat 2) { status := some .error } .start2026)
  | 3 => .chat (.updateMessage ⟨1⟩ (.ofNat 2) { errorText := "lost", cost := some 0.5 } .start2026)

/-- Both calls have looked at the message before one of them changes it. -/
theorem message_rows_stay_well_formed_of_failure :
    let w := (World.mk {} (fun i => (sampleFailure i).program {}) []).run
      ([0, 1, 1, 1, 2, 3, 2, 3, 2, 3].map Turn.calm)
    (∀ i, ∀ now ∈ (sampleFailure i).readings, now.HasFourDigitYear) ∧
      (∀ r ∈ w.tables.messages, r.WellFormed ∧ ∃ e ∈ w.history, ∃ m, e.Inserts m r) ∧
      w.tables.ListsErrors {} ⟨1⟩ ∧
      w.tables.messages.map (fun r => (r.status, r.errorText, r.cost)) =
        [("error", some "lost", 0.5)] := by
  intro w
  have clocks (i : Fin 4) : ∀ now ∈ (sampleFailure i).readings, now.HasFourDigitYear := by
    revert i
    decide +kernel
  obtain ⟨rows, lists⟩ := message_rows_stay_well_formed (fun _ => {}) sampleFailure
    ([0, 1, 1, 1, 2, 3, 2, 3, 2, 3].map Turn.calm)
  exact ⟨clocks, rows, lists clocks {} ⟨1⟩, by decide +kernel⟩

/-- A user adds a message in year 10000. -/
def lateMessage : Fin 2 → ServiceCall
  | 0 => .chat (.createSession ⟨1⟩ ⟨"plans", none, none⟩ .start2026 (.ofNat 1))
  | 1 => .chat (.createMessage ⟨1⟩ (.ofNat 1) ⟨none, .user, "hello", 3, 0.5, .normal, none⟩
      .year10000 (.ofNat 2))

/-- A message of year 10000 can no longer be read: the list of errors, which does not show it, is
answered, and the list of all messages is not. -/
theorem not_errors_filtered_in_year10000 :
    let t := ((World.mk {} (fun i => (lateMessage i).program {}) []).run
      [.calm 0, .calm 1, .calm 1]).tables
    (∃ e, (Messages.listAll {} ⟨1⟩ none none).on t = (.error e, t)) ∧
      ∃ found, (Messages.errors {} ⟨1⟩ none none).on t = (.ok found, t) ∧ found.items = [] := by
  intro t
  let request := ({} : Settings).paging.resolve .messages none none
  have hrows : (t.messagesOf ⟨1⟩).length = 1 ∧
      page (t.messagesOf ⟨1⟩) request MessageRow.message =
        .error (.query "invalid datetime: input contains invalid characters") ∧
      ((t.messagesOf ⟨1⟩).filter fun m =>
        m.status == Vocabulary.word MessageStatus.error) = [] := by
    decide +kernel
  obtain ⟨hone, hunread, hnone⟩ := hrows
  obtain ⟨r, hr⟩ := List.length_eq_one_iff.1 hone
  constructor
  · have hsorted : Tables.newestMessages (t.messagesOf ⟨1⟩) = t.messagesOf ⟨1⟩ := by
      rw [hr]
      exact List.mergeSort_singleton r
    have hask : (Request.listUserMessages ⟨1⟩ request).perform t = (.error _, t) :=
      Prod.ext ((congrArg (page · request MessageRow.message) hsorted).trans hunread) rfl
    exact ⟨_, on_bind_error (on_ask hask)⟩
  · have hsorted : Tables.newestMessages ((t.messagesOf ⟨1⟩).filter fun m =>
        m.status == Vocabulary.word MessageStatus.error) = [] := by
      rw [hnone]
      exact List.mergeSort_nil
    have hask : (Request.errorMessages ⟨1⟩ request).perform t = (.ok ([], 0), t) :=
      Prod.ext (congrArg (page · request MessageRow.message) hsorted) rfl
    exact ⟨.ofItems ([], 0) request, on_handOn hask, rfl⟩

end ChatLedger
