import ChatLedger.Proofs.Chat.Calls
import ChatLedger.Proofs.Store.Amounts
import ChatLedger.Proofs.Store.Legible

/-!
# Updates of messages

The store changes a message column by column, all columns at the same time and each from what the
row held before. `Message.apply` changes a record field by field, one after the other.

1. `Trace.written`: whatever calls have been made, the status of a message is a word of a status,
   and its cost is a number as columns keep it.
2. `Tables.Keyed.perform_updateMessage`: an update changes one row, the live one of its identifier.
3. `updates_apply`: so the row is read back as the record that `Message.apply` makes of it.
-/

namespace ChatLedger

open Store Time

/-- The messages are the same, with their costs compared as numbers. -/
structure Message.SameAs (m m' : Message) : Prop where
  cost : (m.cost == m'.cost) = true
  rest : { m with cost := m'.cost } = m'

namespace Store

variable {t : Tables} {r : MessageRow} {u : MessageUpdate} {id : Uuid} {now : Instant}

/-! ## What is written to a message -/

/-- The columns of status and cost hold what can be written to them. -/
structure MessageRow.Written (r : MessageRow) : Prop where
  status : ∃ s : MessageStatus, r.status = Vocabulary.word s
  cost : storedAmount? r.cost = some r.cost

theorem MessageRow.written_ofMessage (row : Nat) (m : Message) : (ofMessage row m).Written :=
  ⟨⟨m.status, rfl⟩, storedAmount?_storedAmount m.cost⟩

theorem MessageRow.Written.update (h : r.Written) (u : MessageUpdate) (now : Instant) :
    (r.update u now).Written := by
  constructor
  · cases hu : u.status with
    | none => simpa [MessageRow.update, hu] using h.status
    | some s => exact ⟨s, by simp [MessageRow.update, hu]⟩
  · cases hu : u.cost.bind storedAmount? with
    | none => simpa [MessageRow.update, hu] using h.cost
    | some x =>
      obtain ⟨y, -, hy⟩ := Option.bind_eq_some_iff.1 hu
      have hx : storedAmount y = x := by simp [storedAmount, hy]
      simpa [MessageRow.update, hu, hx] using storedAmount?_storedAmount y

/-- What holds of new messages, and of messages that are updated or deleted if it held before, holds
of all messages after a call. -/
theorem Request.perform_forall_messages {P : MessageRow → Prop} (q : Request)
    (h : ∀ m ∈ t.messages, P m)
    (added : ∀ row m, q = .insertMessage m → P (.ofMessage row m))
    (updated : ∀ id u now, q = .updateMessage id u now → ∀ r, P r → P (r.update u now))
    (deleted : ∀ now r, P r → P (r.delete now)) : ∀ m ∈ (q.perform t).2.messages, P m := by
  have step := q.perform_chat t
  generalize (q.perform t).2 = t' at step ⊢
  cases step with
  | apart sessions messages => exact messages ▸ h
  | insertMessage fresh known => exact forall_concat h (added _ _ rfl)
  | updateMessage => exact forall_changeWhere h (updated _ _ _ rfl)
  | deleteMessage => exact forall_changeWhere h (deleted _)
  | deleteSession => exact forall_changeWhere h (deleted _)
  | deleteUserSessions => exact forall_changeWhere h (deleted _)
  | _ => exact h

/-- **One call** leaves all messages as they can be written. -/
theorem Request.perform_written (q : Request) (h : ∀ m ∈ t.messages, m.Written) :
    ∀ m ∈ (q.perform t).2.messages, m.Written :=
  q.perform_forall_messages h (fun row m _ => MessageRow.written_ofMessage row m)
    (fun _ u now _ _ hr => hr.update u now) fun _ _ hr => ⟨hr.status, hr.cost⟩

/-- **Any number of calls** leave all messages as they can be written. -/
theorem Trace.written {ι : Type} {history : List (Event ι)} {t' : Tables}
    (trace : Trace t history t') (first : ∀ m ∈ t.messages, m.Written) :
    ∀ m ∈ t'.messages, m.Written :=
  trace.invariant (P := fun t => ∀ m ∈ t.messages, m.Written) first fun e _ lawful before =>
    lawful.after_of (P := fun t => ∀ m ∈ t.messages, m.Written) before
      (e.request.perform_written before)

/-! ## The row that is changed -/

/-- A change that meets a single row puts another one in its place. -/
theorem changeWhere_eq_set {α : Type} {condition : α → Bool} {change : α → α} {rows : List α}
    {i : Nat} {r : α} (hr : rows[i]? = some r) (met : condition r = true)
    (only : ∀ j r', rows[j]? = some r' → condition r' = true → i = j) :
    changeWhere condition change rows = rows.set i (change r) := by
  refine List.ext_getElem? fun j => ?_
  unfold changeWhere
  rw [List.getElem?_map, List.getElem?_set]
  by_cases hij : i = j
  · subst hij
    have hlt : i < rows.length := (List.getElem?_eq_some_iff.1 hr).1
    rw [if_pos rfl, if_pos hlt, hr, Option.map_some, if_pos met]
  · rw [if_neg hij]
    cases hj : rows[j]? with
    | none => rfl
    | some r' =>
      have hmissed : condition r' = false := by
        rw [Bool.eq_false_iff]
        exact fun hmet => hij (only j r' hj hmet)
      simp [hmissed]

/-- The message of an identifier has one place. -/
theorem Tables.Keyed.place_eq (h : t.Keyed) {i j : Nat} {r r' : MessageRow}
    (hi : t.messages[i]? = some r) (hj : t.messages[j]? = some r') (hid : r.id = r'.id) : i = j := by
  have hlt : i < (t.messages.map (·.id)).length := by
    simpa using (List.getElem?_eq_some_iff.1 hi).1
  refine (List.getElem?_inj hlt h.messages).1 ?_
  rw [List.getElem?_map, List.getElem?_map, hi, hj]
  exact congrArg some hid

/-- The column of the status of a message takes the words of statuses, and nothing else. -/
theorem Tables.isMessageStatus_iff {text : String} :
    isMessageStatus text = true ↔ ∃ s : MessageStatus, text = Vocabulary.word s := by
  unfold isMessageStatus
  constructor
  · intro h
    obtain ⟨s, hs⟩ := Option.isSome_iff_exists.1 h
    have hword : Vocabulary.word s = text := by simpa using List.find?_some hs
    exact ⟨s, hword.symm⟩
  · rintro ⟨s, rfl⟩
    cases s <;> rfl

/-- **An update** changes the live row of its identifier, and answers with it as it is read back. -/
theorem Tables.Keyed.perform_updateMessage (h : t.Keyed) {i : Nat}
    (hr : t.messages[i]? = some r) (hid : r.has id = true) (hlive : r.isLive = true)
    (hstatus : ∃ s : MessageStatus, (r.update u now).status = Vocabulary.word s) :
    (Request.updateMessage id u now).perform t =
      ((r.update u now).message, { t with messages := t.messages.set i (r.update u now) }) := by
  have met : (r.has id && r.isLive) = true := by simp [hid, hlive]
  have same (r' : MessageRow) (hmet : (r'.has id && r'.isLive) = true) : r.id = r'.id :=
    (beq_iff_eq.1 hid).trans (beq_iff_eq.1 (Bool.and_eq_true_iff.1 hmet).1).symm
  have hfound : t.messages.find? (fun r => r.has id && r.isLive) = some r :=
    find?_eq_of_unique (List.mem_of_getElem? hr) met fun r' hmem hmet =>
      h.message_eq hmem (List.mem_of_getElem? hr) (same r' hmet).symm
  have hset : changeWhere (fun r => r.has id && r.isLive) (·.update u now) t.messages =
      t.messages.set i (r.update u now) :=
    changeWhere_eq_set hr met fun j r' hj hmet => h.place_eq hr hj (same r' hmet)
  have hword := Tables.isMessageStatus_iff.2 hstatus
  have hchange : Tables.updateMessage id u now t =
      .ok (r.update u now, { t with messages := t.messages.set i (r.update u now) }) := by
    unfold Tables.updateMessage
    rw [hfound]
    simp [hword, hset]
    rfl
  show Request.settleRow (Tables.updateMessage id u now) (·.message) t = _
  unfold Request.settleRow
  rw [hchange]

/-! ## What is read of the row -/

/-- A count is read back from its column. -/
theorem ofInt_toNat (n : UInt32) : UInt32.ofInt (n.toNat : Int) = n := by
  have hlt := n.toNat_lt
  have hmod : ((n.toNat : Int) % 2 ^ 32).toNat = n.toNat := by omega
  unfold UInt32.ofInt
  rw [hmod, UInt32.ofNat_toNat]

/-- A row that has been read is read again after an update, with the new values. -/
theorem MessageRow.message_update {m : Message} (hread : r.message = .ok m)
    (clock : now.HasFourDigitYear) {status : MessageStatus}
    (hstatus : (r.update u now).status = Vocabulary.word status) :
    (r.update u now).message = .ok { m with
      content := (r.update u now).content
      tokens := UInt32.ofInt (r.update u now).tokens
      cost := (r.update u now).cost
      status := status
      errorText := (r.update u now).errorText
      updatedAt := now.kept } := by
  have reads := message_eq_ok_iff.1 hread
  have hword : readWord (r.update u now).status = .ok status := by
    rw [hstatus]
    exact readWord_of_parse (MessageStatus.parse_word status)
  refine message_eq_ok_iff.2 { reads with
    content := rfl
    tokens := rfl
    cost := rfl
    status := hword
    errorText := rfl
    updatedAt := readTime_storedText clock }

/-- **Column by column as field by field.** An update of a row is read back as the same update of
the message that was read of it. -/
theorem MessageRow.Written.message_update_apply (h : r.Written) {m : Message}
    (hread : r.message = .ok m) (finite : ∀ x ∈ u.cost, x.isFinite = true)
    (clock : now.HasFourDigitYear) :
    (r.update u now).status = Vocabulary.word (u.status.getD m.status) ∧
      ∃ m', (r.update u now).message = .ok m' ∧ m'.SameAs (m.apply u now.kept) := by
  have reads := message_eq_ok_iff.1 hread
  have hold : r.status = Vocabulary.word m.status := by
    obtain ⟨s, hs⟩ := h.status
    have hword := reads.status
    rw [hs, readWord_of_parse (MessageStatus.parse_word s)] at hword
    rw [hs, Except.ok.inj hword]
  have hstatus : (r.update u now).status = Vocabulary.word (u.status.getD m.status) := by
    cases hu : u.status <;> simp [MessageRow.update, hu, hold]
  refine ⟨hstatus, _, message_update hread clock hstatus, ?_, ?_⟩
  · -- an amount that is not supplied is the one that was read, which is a number
    show ((r.update u now).cost == u.cost.getD m.cost) = true
    cases hu : u.cost with
    | none =>
      simpa [MessageRow.update, hu, reads.cost] using number_beq_self (number_of_storedAmount? h.cost)
    | some x =>
      have hx := number_of_isFinite (finite x (by simp [hu]))
      simpa [MessageRow.update, hu, storedAmount?_of_number hx] using storedAmount_beq hx
  · have hnewContent : (r.update u now).content = u.content.getD m.content := by
      simp [MessageRow.update, reads.content]
    have hnewTokens : UInt32.ofInt (r.update u now).tokens = u.tokens.getD m.tokens := by
      cases hu : u.tokens with
      | none => simp [MessageRow.update, hu, reads.tokens]
      | some n => simpa [MessageRow.update, hu] using ofInt_toNat n
    have hnewError : (r.update u now).errorText =
        if u.status.getD m.status = .normal then none else u.errorText <|> m.errorText := by
      have hnormal : (Vocabulary.word (u.status.getD m.status) =
          Vocabulary.word MessageStatus.normal) ↔ u.status.getD m.status = .normal :=
        ⟨MessageStatus.word_inj, congrArg Vocabulary.word⟩
      rw [reads.errorText]
      show (if (r.update u now).status = _ then _ else _) = _
      simp only [hstatus, hnormal]
    simp only [hnewContent, hnewTokens, hnewError]
    rfl

/-- There is nothing to update where no live row has the identifier. -/
theorem Request.updateMessage_missing
    (missing : ∀ r ∈ t.messages, r.has id = true → r.isLive = false) :
    (Request.updateMessage id u now).perform t = (.error .notFound, t) := by
  have hnone : t.messages.find? (fun r => r.has id && r.isLive) = none := by
    rw [List.find?_eq_none]
    intro r hr hmet
    obtain ⟨hid, hlive⟩ := Bool.and_eq_true_iff.1 hmet
    rw [missing r hr hid] at hlive
    cases hlive
  have hchange : Tables.updateMessage id u now t = .error .notFound := by
    unfold Tables.updateMessage
    rw [hnone]
  show Request.settleRow (Tables.updateMessage id u now) (·.message) t = _
  unfold Request.settleRow
  rw [hchange]

end Store

/-- **An update of a message does what `Message.apply` says.** Programs run at the same time on an
empty store, and any of their store calls may fail. Whatever they leave behind, an update of a live
message answers with the message that `Message.apply` makes of it, at the time as it is kept: that is
the time to the microsecond, unless it is a leap second in the middle of a minute. The row is read back
as this answer, its key and its state are the same as before, and so are all other rows of all tables.
Without a live message of the identifier nothing is found and nothing changes. -/
theorem updates_agree_with_apply {ι α : Type} [DecidableEq ι] (programs : ι → Program α)
    (schedule : List (Turn ι)) (id : Uuid) {u : MessageUpdate} {now : Instant}
    (finite : ∀ x ∈ u.cost, x.isFinite = true) (clock : now.HasFourDigitYear) :
    let t := ((World.mk {} programs []).run schedule).tables
    (∀ i r m, t.messages[i]? = some r → r.has id = true → r.isLive = true →
      r.message = .ok m → ∃ r' m',
        (Request.updateMessage id u now).perform t =
            (.ok m', { t with messages := t.messages.set i r' }) ∧
          m'.SameAs (m.apply u now.kept) ∧
          (now.IsShown → m'.SameAs (m.apply u now.toMicros)) ∧ r'.message = .ok m' ∧
          r'.key = r.key ∧ r'.state = r.state) ∧
      ((∀ r ∈ t.messages, r.has id = true → r.isLive = false) →
        (Request.updateMessage id u now).perform t = (.error .notFound, t)) := by
  intro t
  have trace := World.trace_run {} programs schedule
  have keyed : t.Keyed := trace.keyed Tables.keyed_empty
  have written : ∀ r ∈ t.messages, r.Written := trace.written (by simp)
  refine ⟨fun i r m hr hid hlive hread => ?_, Request.updateMessage_missing⟩
  obtain ⟨hstatus, m', hm', same⟩ :=
    (written r (List.mem_of_getElem? hr)).message_update_apply hread finite clock
  have hword : ∃ s : MessageStatus, (r.update u now).status = Vocabulary.word s := ⟨_, hstatus⟩
  have hperform := keyed.perform_updateMessage hr hid hlive hword
  rw [hm'] at hperform
  refine ⟨r.update u now, m', hperform, same, fun hshown => ?_, hm', rfl, rfl⟩
  rwa [← Instant.kept_of_isShown hshown]

/-- A user opens a session and adds a message to it. -/
def firstMessage : Fin 2 → ChatCall
  | 0 => .createSession ⟨1⟩ ⟨"plans", none, none⟩ .start2026 (.ofNat 1)
  | 1 => .createMessage ⟨1⟩ (.ofNat 1) ⟨none, .user, "hello", 3, 0.5, .normal, none⟩ .start2026
      (.ofNat 2)

/-- The turns in which the session is opened and the message is added. -/
def firstMessageTurns : List (Turn (Fin 2)) := [.calm 0, .calm 1, .calm 1]

/-- The tables once the message has been added. -/
def firstMessageTables : Tables :=
  ((World.mk {} (fun i => (firstMessage i).program {}) []).run firstMessageTurns).tables

/-- The message has been added and can be read. -/
theorem firstMessageTables_row : ∃ r m, firstMessageTables.messages[0]? = some r ∧
    r.has (.ofNat 2) = true ∧ r.isLive = true ∧ r.message = .ok m := by
  obtain ⟨r, hr⟩ : ∃ r, firstMessageTables.messages[0]? = some r :=
    Option.isSome_iff_exists.1 (by decide +kernel)
  obtain ⟨hid, hlive, hread⟩ : r.has (.ofNat 2) = true ∧ r.isLive = true ∧
      r.message.isOk = true :=
    (by decide +kernel : ∀ r ∈ firstMessageTables.messages, r.has (.ofNat 2) = true ∧
      r.isLive = true ∧ r.message.isOk = true) r (List.mem_of_getElem? hr)
  cases hm : r.message with
  | ok m => exact ⟨r, m, hr, hid, hlive, hm⟩
  | error e => simp [hm, Except.isOk, Except.toBool] at hread

/-- A message is marked as failed, at no cost with a negative sign. -/
theorem updates_agree_with_apply_on_failure :
    let u : MessageUpdate := { cost := some (-0.0), status := some .error, errorText := "lost" }
    (∀ x ∈ u.cost, x.isFinite = true) ∧ Instant.start2026.HasFourDigitYear ∧
      Instant.start2026.IsShown ∧
      ∃ r m r' m', firstMessageTables.messages[0]? = some r ∧ r.message = .ok m ∧
        (Request.updateMessage (.ofNat 2) u .start2026).perform firstMessageTables =
          (.ok m', { firstMessageTables with messages := firstMessageTables.messages.set 0 r' }) ∧
        m'.SameAs (m.apply u Instant.start2026.toMicros) ∧ r'.message = .ok m' ∧
        r'.key = r.key ∧ r'.state = r.state ∧
        (Request.updateMessage (.ofNat 3) u .start2026).perform firstMessageTables =
          (.error .notFound, firstMessageTables) := by
  intro u
  have finite : ∀ x ∈ u.cost, x.isFinite = true := by decide +kernel
  have clock : Instant.start2026.HasFourDigitYear := by decide +kernel
  have shown : Instant.start2026.IsShown := by decide
  have agrees (id : Uuid) := updates_agree_with_apply (fun i => (firstMessage i).program {})
    firstMessageTurns id finite clock
  obtain ⟨r, m, hr, hid, hlive, hm⟩ := firstMessageTables_row
  obtain ⟨r', m', hperform, -, same, hread', hkey, hstate⟩ :=
    (agrees (.ofNat 2)).1 0 r m hr hid hlive hm
  refine ⟨finite, clock, shown, r, m, r', m', hr, hm, hperform, same shown, hread', hkey, hstate, ?_⟩
  exact (agrees (.ofNat 3)).2 (by decide +kernel)

/-- An update in a leap second in the middle of a minute answers with another time than it was made
at. -/
theorem not_updates_agree_with_apply_in_mid_minute :
    Instant.midMinuteLeap.HasFourDigitYear ∧
      ∃ r m m', firstMessageTables.messages[0]? = some r ∧ r.has (.ofNat 2) = true ∧
        r.isLive = true ∧ r.message = .ok m ∧
        ((Request.updateMessage (.ofNat 2) {} .midMinuteLeap).perform firstMessageTables).1 = .ok m' ∧
        ¬ m'.SameAs (m.apply {} Instant.midMinuteLeap.toMicros) := by
  have clock : Instant.midMinuteLeap.HasFourDigitYear := by decide
  have trace := World.trace_run {} (fun i => (firstMessage i).program {}) firstMessageTurns
  have keyed : firstMessageTables.Keyed := trace.keyed Tables.keyed_empty
  have written : ∀ r ∈ firstMessageTables.messages, r.Written := trace.written (by simp)
  obtain ⟨r, m, hr, hid, hlive, hm⟩ := firstMessageTables_row
  obtain ⟨hstatus, m', hm', same⟩ :=
    (written r (List.mem_of_getElem? hr)).message_update_apply (u := {}) hm (by simp) clock
  have hperform := keyed.perform_updateMessage hr hid hlive ⟨_, hstatus⟩
  refine ⟨clock, r, m, m', hr, hid, hlive, hm, (congrArg Prod.fst hperform).trans hm', fun h => ?_⟩
  have hkept : m'.updatedAt = Instant.midMinuteLeap.kept := congrArg (·.updatedAt) same.rest
  have hmicros : m'.updatedAt = Instant.midMinuteLeap.toMicros := congrArg (·.updatedAt) h.rest
  exact absurd (hkept.symm.trans hmicros) (by decide)

end ChatLedger
