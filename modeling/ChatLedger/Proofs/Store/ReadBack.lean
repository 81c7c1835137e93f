import ChatLedger.Proofs.Chat.MessageUpdates
import ChatLedger.Proofs.Store.Alone

/-!
# Records and what is read back of them

A call answers with a record as it is meant: with its clock to the nanosecond, and with amounts as they
were given. A row has lost what is finer than a microsecond, and the sign of zero.

1. `truncated` is a record with its times as rows keep them, and `SameAs` compares records with their
   amounts as numbers.
2. `session_ofSession`, `message_ofMessage` and `article_ofNew`: the row of a new record is read as this
   record with truncated times. `session_setTopic` and `session_setStatus` say the same of a row that is
   changed.
3. `truncated_of_read`: what has been read of a row loses nothing more.
4. `Operation.ReadsBack` says of an operation that what is asked next agrees with its answers.
-/

namespace ChatLedger

open Store Time

/-! ## Records -/

/-- The session with its times to the microsecond. -/
def Session.truncated (s : Session) : Session :=
  { s with
    createdAt := s.createdAt.toMicros
    updatedAt := s.updatedAt.toMicros
    lastMessageAt := s.lastMessageAt.map Instant.toMicros }

/-- The message with its times to the microsecond. -/
def Message.truncated (m : Message) : Message :=
  { m with createdAt := m.createdAt.toMicros, updatedAt := m.updatedAt.toMicros }

/-- The subscription with its times to the microsecond. -/
def Subscription.truncated (s : Subscription) : Subscription :=
  { s with createdAt := s.createdAt.toMicros, updatedAt := s.updatedAt.toMicros }

/-- The article with its times and its date to the microsecond. -/
def Article.truncated (a : Article) : Article :=
  { a with
    publishedAt := a.publishedAt.map Instant.toMicros
    createdAt := a.createdAt.toMicros
    updatedAt := a.updatedAt.toMicros }

/-- The sessions are the same, with their costs compared as numbers. -/
structure Session.SameAs (s s' : Session) : Prop where
  cost : (s.totalCost == s'.totalCost) = true
  rest : { s with totalCost := s'.totalCost } = s'

/-- The articles are the same, with their ratings compared as numbers. -/
structure Article.SameAs (a a' : Article) : Prop where
  rating : (a.rating == a'.rating) = true
  rest : { a with rating := a'.rating } = a'

theorem Session.SameAs.refl {s : Session} (number : s.totalCost.isNaN = false) : s.SameAs s :=
  ⟨number_beq_self number, rfl⟩

theorem Message.SameAs.refl {m : Message} (number : m.cost.isNaN = false) : m.SameAs m :=
  ⟨number_beq_self number, rfl⟩

namespace Store

/-! ## Columns -/

/-- A count of 64 bits is read back from the integer that has its bits. -/
theorem ofInt_signed (n : UInt64) : UInt64.ofInt (signed n) = n := by
  have hlt := n.toNat_lt
  have hmod : (signed n % 2 ^ 64).toNat = n.toNat := by
    unfold signed
    rw [show ((2 : Int) ^ 64) = ((18446744073709551616 : Nat) : Int) from rfl, Int.bmod_emod]
    omega
  unfold UInt64.ofInt
  rw [hmod, UInt64.ofNat_toNat]

/-- A column that may be empty is read back to the microsecond. -/
theorem mapM_readTime_storedText {t? : Option Instant} (h : ∀ t ∈ t?, t.IsStorable) :
    (t?.map Instant.storedText).mapM readTime = .ok (t?.map Instant.toMicros) := by
  cases t? with
  | none => rfl
  | some t =>
    have hread := readTime_of_isStorable (h t rfl)
    simp only [Option.map_some, Option.mapM_some, hread]
    rfl

/-- A time that has been read loses nothing more. -/
theorem Timed.toMicros_of_read {text : String} {t : Instant} (h : Timed text)
    (hread : readTime text = .ok t) : t.toMicros = t := by
  obtain ⟨t', holds⟩ := h
  rw [holds.read] at hread
  obtain rfl := Except.ok.inj hread
  exact holds.kept.micros

theorem MayBeTimed.toMicros_of_read {text? : Option String} {t? : Option Instant}
    (h : MayBeTimed text?) (hread : text?.mapM readTime = .ok t?) :
    t?.map Instant.toMicros = t? := by
  obtain ⟨t', holds⟩ := h
  rw [holds.read] at hread
  obtain rfl := Except.ok.inj hread
  cases t' with
  | none => rfl
  | some t => exact congrArg some (holds.kept t rfl).micros

/-! ## Sessions -/

namespace SessionRow

variable {r : SessionRow} {s : Session} {now : Instant}

/-- **The row of a new session** is read as this session. -/
theorem session_ofSession (row : Nat) (created : s.createdAt.IsStorable)
    (updated : s.updatedAt.IsStorable)
    (last : ∀ t ∈ s.lastMessageAt, t.IsStorable) :
    (ofSession row s).session = .ok { s.truncated with totalCost := storedAmount s.totalCost } := by
  unfold ofSession
  exact session_eq_ok_iff.2
    { id := readId_text _ s.id
      owner := rfl
      topic := rfl
      model := rfl
      channel := rfl
      messageCount := (ofInt_toNat s.messageCount).symm
      tokenCount := by
        rw [ofInt_signed]
        rfl
      totalCost := rfl
      status := readWord_of_parse (SessionStatus.parse_word s.status)
      createdAt := readTime_of_isStorable created
      updatedAt := readTime_of_isStorable updated
      lastMessageAt := mapM_readTime_storedText last }

/-- What is read of a session has the identifier of its row. -/
theorem id_of_read (h : r.session = .ok s) {id : Uuid} (hid : r.id = id.text) : s.id = id := by
  have hread := (session_eq_ok_iff.1 h).id
  rw [hid, readId_text] at hread
  exact (Except.ok.inj hread).symm

/-- A row that has been read is read again with another topic. -/
theorem session_setTopic (h : r.session = .ok s) (topic : String) (clock : now.IsStorable) :
    (r.setTopic topic now).session =
      .ok { s with topic := topic, updatedAt := now.toMicros } :=
  session_eq_ok_iff.2
    { session_eq_ok_iff.1 h with topic := rfl, updatedAt := readTime_of_isStorable clock }

/-- A row that has been read is read again with another status. -/
theorem session_setStatus (h : r.session = .ok s) (status : SessionStatus)
    (clock : now.IsStorable) :
    (r.setStatus status now).session =
      .ok { s with status := status, updatedAt := now.toMicros } :=
  session_eq_ok_iff.2
    { session_eq_ok_iff.1 h with
      status := readWord_of_parse (SessionStatus.parse_word status)
      updatedAt := readTime_of_isStorable clock }

theorem Legible.truncated_of_read (legible : r.Legible) (h : r.session = .ok s) :
    s.truncated = s := by
  have reads := session_eq_ok_iff.1 h
  unfold Session.truncated
  rw [legible.createdAt.toMicros_of_read reads.createdAt,
    legible.updatedAt.toMicros_of_read reads.updatedAt,
    legible.lastMessageAt.toMicros_of_read reads.lastMessageAt]

end SessionRow

/-! ## Messages -/

namespace MessageRow

variable {r : MessageRow} {m : Message}

/-- **The row of a new message** is read as this message. -/
theorem message_ofMessage (row : Nat) (created : m.createdAt.IsStorable)
    (updated : m.updatedAt.IsStorable) :
    (ofMessage row m).message = .ok { m.truncated with cost := storedAmount m.cost } :=
  message_eq_ok_iff.2
    { id := readId_text _ m.id
      session := readId_text _ m.session
      role := readWord_of_parse (MessageRole.parse_word m.role)
      content := rfl
      tokens := (ofInt_toNat m.tokens).symm
      cost := rfl
      status := readWord_of_parse (MessageStatus.parse_word m.status)
      errorText := rfl
      createdAt := readTime_of_isStorable created
      updatedAt := readTime_of_isStorable updated }

/-- What is read of a message has the identifier of its row. -/
theorem id_of_read (h : r.message = .ok m) {id : Uuid} (hid : r.id = id.text) : m.id = id := by
  have hread := (message_eq_ok_iff.1 h).id
  rw [hid, readId_text] at hread
  exact (Except.ok.inj hread).symm

theorem Legible.truncated_of_read (legible : r.Legible) (h : r.message = .ok m) :
    m.truncated = m := by
  have reads := message_eq_ok_iff.1 h
  unfold Message.truncated
  rw [legible.createdAt.toMicros_of_read reads.createdAt,
    legible.updatedAt.toMicros_of_read reads.updatedAt]

end MessageRow

/-! ## Articles -/

/-- **The row of a new article** is read as this article. -/
theorem ArticleRow.article_ofNew (row : Nat) (id : Int) {a : NewArticle} {now : Instant}
    (clock : now.IsStorable) (published : ∀ t ∈ a.publishedAt, t.IsStorable) :
    (ofNew row id a now).article = .ok
      { (Tables.newArticle row id a now).truncated with rating := storedAmount a.rating } := by
  unfold article ofNew
  dsimp only
  rw [mapM_readTime_storedText published, readTime_of_isStorable clock, ofInt_toNat]
  rfl

end Store

/-! ## Answers -/

/-- Whenever the operation has answered, what is asked next, alone, finds what agrees with the
answer. -/
def Operation.ReadsBack {α β : Type} (op : Operation α) (t : Tables) (read : α → Operation β)
    (Agrees : α → β → Prop) : Prop :=
  ∀ answer t', op.on t = (.ok answer, t') →
    ∃ found, (read answer).on t' = (.ok found, t') ∧ Agrees answer found

end ChatLedger
