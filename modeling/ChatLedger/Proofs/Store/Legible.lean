import ChatLedger.Proofs.Chat.Rows
import ChatLedger.Proofs.Membership.Rows
import ChatLedger.Proofs.Reading.Times
import ChatLedger.Proofs.Reading.Words
import ChatLedger.Proofs.Store.Columns

/-!
# Rows are read back

A row is legible when each of its columns holds what its reader accepts.

1. The `exists_…` lemmas: a legible row is read as a record, whose times are those of the columns.
   So all rows of legible tables are read back (`Tables.Legible.decodes`).
2. `Request.times` are the times that a call writes, and `Request.Readable` says that all of them
   lie in the years 0 to 9999. Everything else that a record may hold is read back in any case.
3. `Tables.Legible.perform`: a readable call keeps all rows of all tables legible; `Trace.legible`
   says the same of any number of calls, and `Trace.chatLegible` of sessions and messages alone.
-/

namespace ChatLedger.Store

open Time

/-! ## Columns -/

/-- The column holds this time. -/
structure Holds (text : String) (t : Instant) : Prop where
  kept : t.IsKept
  text : t.storedText = text

/-- The column holds some time. -/
def Timed (text : String) : Prop := ∃ t, Holds text t

/-- The column, which may be empty, holds this time, if any. -/
structure MayHold (text? : Option String) (t? : Option Instant) : Prop where
  kept : ∀ t ∈ t?, t.IsKept
  text : t?.map Instant.storedText = text?

/-- The column is empty or holds some time. -/
def MayBeTimed (text? : Option String) : Prop := ∃ t?, MayHold text? t?

theorem Holds.read {text : String} {t : Instant} (h : Holds text t) : readTime text = .ok t := by
  rw [← h.text]
  exact readTime_of_isKept h.kept

theorem MayHold.read {text? : Option String} {t? : Option Instant} (h : MayHold text? t?) :
    text?.mapM readTime = .ok t? := by
  obtain ⟨kept, rfl⟩ := h
  cases t? with
  | none => rfl
  | some t =>
    have hread := readTime_of_isKept (kept t rfl)
    simp only [Option.map_some, Option.mapM_some, hread]
    rfl

theorem timed_storedText {t : Instant} (h : t.HasFourDigitYear) : Timed t.storedText :=
  ⟨t.kept, Instant.isKept_kept h, t.storedText_kept⟩

theorem mayBeTimed_map {t? : Option Instant} (h : ∀ t ∈ t?, t.HasFourDigitYear) :
    MayBeTimed (t?.map Instant.storedText) := by
  cases t? with
  | none => exact ⟨none, by simp, rfl⟩
  | some t =>
    refine ⟨some t.kept, ?_, congrArg some t.storedText_kept⟩
    intro t' ht'
    cases ht'
    exact Instant.isKept_kept (h t rfl)

theorem readId_text (what : String) (id : Uuid) : readId what id.text = .ok id := by
  unfold readId
  rw [Uuid.parse_text]
  rfl

theorem readWord_of_parse {α : Type} [Vocabulary α] {text : String} {a : α}
    (h : Vocabulary.parse text = .ok a) : readWord text = .ok a := by
  unfold readWord
  rw [h]
  rfl

/-! ## Rows -/

/-- The columns of a session are read back. -/
structure SessionRow.Legible (r : SessionRow) : Prop where
  id : ∃ id : Uuid, r.id = id.text
  status : ∃ s : SessionStatus, r.status = Vocabulary.word s
  createdAt : Timed r.createdAt
  updatedAt : Timed r.updatedAt
  lastMessageAt : MayBeTimed r.lastMessageAt

/-- The columns of a message are read back. -/
structure MessageRow.Legible (r : MessageRow) : Prop where
  id : ∃ id : Uuid, r.id = id.text
  session : ∃ id : Uuid, r.session = id.text
  role : ∃ role : MessageRole, r.role = Vocabulary.word role
  status : ∃ s : MessageStatus, r.status = Vocabulary.word s
  createdAt : Timed r.createdAt
  updatedAt : Timed r.updatedAt

/-- The columns of a subscription are read back. -/
structure SubscriptionRow.Legible (r : SubscriptionRow) : Prop where
  status : ∃ s : SubscriptionStatus, r.status = Vocabulary.word s
  createdAt : Timed r.createdAt
  updatedAt : Timed r.updatedAt

/-- The columns of a link are read back. -/
structure LinkRow.Legible (r : LinkRow) : Prop where
  status : ∃ s : LinkStatus, r.status = Vocabulary.word s
  createdAt : Timed r.createdAt
  updatedAt : Timed r.updatedAt

/-- The columns of an article are read back. -/
structure ArticleRow.Legible (r : ArticleRow) : Prop where
  publishedAt : MayBeTimed r.publishedAt
  createdAt : Timed r.createdAt
  updatedAt : Timed r.updatedAt

theorem SessionRow.Legible.exists_session {r : SessionRow} (h : r.Legible) :
    ∃ s : Session, r.session = .ok s ∧ s.owner = ⟨r.owner⟩ ∧ Holds r.createdAt s.createdAt := by
  obtain ⟨⟨id, hid⟩, ⟨status, hstatus⟩, ⟨created, hcreated⟩, ⟨updated, hupdated⟩,
    ⟨last, hlast⟩⟩ := h
  have hword := readWord_of_parse (SessionStatus.parse_word status)
  unfold SessionRow.session
  rw [hid, hstatus, readId_text, hword, hlast.read, hcreated.read, hupdated.read]
  exact ⟨_, rfl, rfl, hcreated⟩

theorem MessageRow.Legible.exists_message {r : MessageRow} (h : r.Legible) :
    ∃ m, r.message = .ok m ∧ Holds r.createdAt m.createdAt := by
  obtain ⟨⟨id, hid⟩, ⟨session, hsession⟩, ⟨role, hrole⟩, ⟨status, hstatus⟩, ⟨created, hcreated⟩,
    ⟨updated, hupdated⟩⟩ := h
  have hroleWord := readWord_of_parse (MessageRole.parse_word role)
  have hstatusWord := readWord_of_parse (MessageStatus.parse_word status)
  unfold MessageRow.message
  rw [hid, hsession, hrole, hstatus, readId_text, readId_text, hroleWord, hstatusWord,
    hcreated.read, hupdated.read]
  exact ⟨_, rfl, hcreated⟩

theorem SubscriptionRow.Legible.exists_subscription {r : SubscriptionRow} (h : r.Legible) :
    ∃ s : Subscription, r.subscription = .ok s ∧ s.id = r.row ∧
      (s.status = .active ↔ r.isActive = true) := by
  obtain ⟨⟨status, hstatus⟩, ⟨created, hcreated⟩, ⟨updated, hupdated⟩⟩ := h
  have hword := readWord_of_parse (SubscriptionStatus.parse_word status)
  refine ⟨⟨r.row, ⟨r.creator⟩, r.topic, r.description, status, created, updated⟩, ?_, rfl, ?_⟩
  · unfold SubscriptionRow.subscription
    rw [hstatus, hword, hcreated.read, hupdated.read]
    rfl
  · unfold SubscriptionRow.isActive
    rw [hstatus, beq_iff_eq]
    exact ⟨fun h => h ▸ rfl, SubscriptionStatus.word_inj⟩

theorem LinkRow.Legible.exists_link {r : LinkRow} (h : r.Legible) :
    ∃ l : Link, r.link = .ok l ∧ l.id = r.row ∧ l.user = ⟨r.user⟩ ∧
      l.subscription = r.subscription ∧ (l.status = .active ↔ r.isActive = true) ∧
      Holds r.updatedAt l.updatedAt := by
  obtain ⟨⟨status, hstatus⟩, ⟨created, hcreated⟩, ⟨updated, hupdated⟩⟩ := h
  have hword := readWord_of_parse (LinkStatus.parse_word status)
  refine ⟨⟨r.row, ⟨r.user⟩, r.subscription, status, created, updated⟩, ?_, rfl, rfl, rfl, ?_,
    hupdated⟩
  · unfold LinkRow.link
    rw [hstatus, hword, hcreated.read, hupdated.read]
    rfl
  · unfold LinkRow.isActive
    rw [hstatus, beq_iff_eq]
    exact ⟨fun h => h ▸ rfl, LinkStatus.word_inj⟩

theorem ArticleRow.Legible.exists_article {r : ArticleRow} (h : r.Legible) :
    ∃ a : Article, r.article = .ok a ∧ a.id = r.row ∧ a.subscription = r.subscription ∧
      MayHold r.publishedAt a.publishedAt ∧ Holds r.createdAt a.createdAt := by
  obtain ⟨⟨published, hpublished⟩, ⟨created, hcreated⟩, ⟨updated, hupdated⟩⟩ := h
  unfold ArticleRow.article
  rw [hpublished.read, hcreated.read, hupdated.read]
  exact ⟨_, rfl, rfl, rfl, hpublished, hcreated⟩

/-! ## Many rows -/

/-- What is there for each element is there for all of them. -/
theorem exists_mapM {α β : Type} {f : α → Except StoreError β} {l : List α}
    (h : ∀ a ∈ l, ∃ b, f a = .ok b) : ∃ bs, l.mapM f = .ok bs := by
  induction l with
  | nil => exact ⟨[], rfl⟩
  | cons a l ih =>
    obtain ⟨⟨b, hb⟩, hrest⟩ := List.forall_mem_cons.1 h
    obtain ⟨bs, hbs⟩ := ih hrest
    rw [List.mapM_cons, hb, hbs]
    exact ⟨b :: bs, rfl⟩

section Answers

variable {Row α : Type} {read : Row → Except StoreError α}

/-- A page of rows that are all read back is read. -/
theorem exists_page {rows : List Row} (reads : ∀ r ∈ rows, ∃ a, read r = .ok a)
    (request : PageRequest) : ∃ found, page rows request read = .ok found := by
  have hslice : ∀ r ∈ request.slice rows, ∃ a, read r = .ok a := fun r hr =>
    reads r (List.mem_of_mem_drop (List.mem_of_mem_take hr))
  obtain ⟨items, hitems⟩ := exists_mapM hslice
  unfold page
  rw [hitems]
  exact ⟨_, rfl⟩

/-- A row that is read back is read, wherever one is found. -/
theorem exists_found {found? : Option Row} (reads : ∀ r ∈ found?, ∃ a, read r = .ok a) :
    ∃ a?, found?.mapM read = .ok a? := by
  cases found? with
  | none => exact ⟨none, rfl⟩
  | some r =>
    obtain ⟨a, ha⟩ := reads r rfl
    exact ⟨some a, mapM_eq_some.2 ⟨r, rfl, ha⟩⟩

end Answers

/-! ## Readable calls -/

/-- The times that a call writes. -/
def Request.times : Request → List Instant
  | createSession s => s.createdAt :: s.updatedAt :: s.lastMessageAt.toList
  | insertMessage m => [m.createdAt, m.updatedAt]
  | insertArticle _ article now => now :: article.publishedAt.toList
  | updateSessionTopic _ _ now | setSessionStatus _ _ now | deleteSession _ now
  | deleteUserSessions _ now | refreshRollup _ now | updateMessage _ _ now | deleteMessage _ now
  | createSubscription _ now | insertLink _ _ now | changeLink _ _ _ now
  | updateDescription _ _ now | cancelSubscription _ now | deleteArticle _ now => [now]
  | _ => []

/-- The times that a call writes to sessions and messages. -/
def Request.chatTimes : Request → List Instant
  | createSession s => s.createdAt :: s.updatedAt :: s.lastMessageAt.toList
  | insertMessage m => [m.createdAt, m.updatedAt]
  | updateSessionTopic _ _ now | setSessionStatus _ _ now | deleteSession _ now
  | deleteUserSessions _ now | refreshRollup _ now | updateMessage _ _ now
  | deleteMessage _ now => [now]
  | _ => []

theorem Request.chatTimes_subset (r : Request) : r.chatTimes ⊆ r.times := by
  cases r <;> simp [chatTimes, times]

theorem Request.chatTimes_of_reader {r : Request} (h : r.access = .reader) : r.chatTimes = [] := by
  cases r <;> first | rfl | cases h

/-- What the call writes can be read back. -/
def Request.Readable (r : Request) : Prop := ∀ t ∈ r.times, t.HasFourDigitYear

theorem Request.readable_of_reader {r : Request} (h : r.access = .reader) : r.Readable := by
  have hnone : r.times = [] := by
    cases r <;> first | rfl | cases h
  unfold Readable
  rw [hnone]
  simp

/-- All rows of all tables are read back. -/
structure Tables.Legible (t : Tables) : Prop where
  sessions : ∀ r ∈ t.sessions, r.Legible
  messages : ∀ r ∈ t.messages, r.Legible
  subscriptions : ∀ r ∈ t.subscriptions, r.Legible
  links : ∀ r ∈ t.links, r.Legible
  articles : ∀ r ∈ t.articles, r.Legible

/-- All rows of sessions and messages are read back. -/
structure Tables.ChatLegible (t : Tables) : Prop where
  sessions : ∀ r ∈ t.sessions, r.Legible
  messages : ∀ r ∈ t.messages, r.Legible

theorem Tables.Legible.chat {t : Tables} (h : t.Legible) : t.ChatLegible :=
  ⟨h.sessions, h.messages⟩

/-- Every row of every table is read back as a record. -/
structure Tables.Decodes (t : Tables) : Prop where
  sessions : ∀ r ∈ t.sessions, ∃ s, r.session = .ok s
  messages : ∀ r ∈ t.messages, ∃ m, r.message = .ok m
  subscriptions : ∀ r ∈ t.subscriptions, ∃ s, r.subscription = .ok s
  links : ∀ r ∈ t.links, ∃ l, r.link = .ok l
  articles : ∀ r ∈ t.articles, ∃ a, r.article = .ok a

theorem Tables.Legible.decodes {t : Tables} (h : t.Legible) : t.Decodes where
  sessions r hr := (h.sessions r hr).exists_session.imp fun _ hs => hs.1
  messages r hr := (h.messages r hr).exists_message.imp fun _ hm => hm.1
  subscriptions r hr := (h.subscriptions r hr).exists_subscription.imp fun _ hs => hs.1
  links r hr := (h.links r hr).exists_link.imp fun _ hl => hl.1
  articles r hr := (h.articles r hr).exists_article.imp fun _ ha => ha.1

/-- The call finds sessions or messages, and computes nothing of them. -/
def Request.FindsChat : Request → Prop
  | getSession .. | listSessions .. | searchSessions .. | getMessage .. | listSessionMessages ..
  | listUserMessages .. | searchUserMessages .. | errorMessages .. | recentMessages .. => True
  | _ => False

/-- **Calls that find sessions or messages** have an answer. -/
theorem Tables.ChatLegible.exists_answer {t : Tables} (h : t.ChatLegible) {r : Request}
    (hr : r.FindsChat) : ∃ a, (r.perform t).1 = .ok a := by
  have session {s : SessionRow} (hs : s ∈ t.sessions) : ∃ a, s.session = .ok a :=
    (h.sessions s hs).exists_session.imp fun _ ha => ha.1
  have sessions {user : UserId} {s : SessionRow} (hs : s ∈ t.sessionsOf user) :
      ∃ a, s.session = .ok a := session (List.mem_filter.1 hs).1
  have messages {condition : SessionRow → Bool} {m : MessageRow}
      (hm : m ∈ t.messagesWhere condition) : ∃ a, m.message = .ok a :=
    (h.messages m (List.mem_filter.1 hm).1).exists_message.imp fun _ ha => ha.1
  cases r with
  | getSession id => exact exists_found fun s hs => session (List.mem_of_find?_eq_some hs)
  | listSessions user request =>
    exact exists_page (fun s hs => sessions (List.mem_mergeSort.1 hs)) request
  | searchSessions user keyword request =>
    exact exists_page (fun s hs => sessions (List.mem_filter.1 (List.mem_mergeSort.1 hs)).1) request
  | getMessage id => exact exists_found fun m hm => messages (List.mem_of_find?_eq_some hm)
  | listSessionMessages session request =>
    exact exists_page (fun m hm => messages (List.mem_mergeSort.1 hm)) request
  | listUserMessages user request =>
    exact exists_page (fun m hm => messages (List.mem_mergeSort.1 hm)) request
  | searchUserMessages user keyword request =>
    exact exists_page (fun m hm => messages (List.mem_filter.1 (List.mem_mergeSort.1 hm)).1) request
  | errorMessages user request =>
    exact exists_page (fun m hm => messages (List.mem_filter.1 (List.mem_mergeSort.1 hm)).1) request
  | recentMessages user limit =>
    exact exists_mapM fun m hm => messages (List.mem_mergeSort.1 (List.mem_of_mem_take hm))
  | _ => cases hr

theorem Tables.legible_empty : Tables.Legible {} := by
  constructor <;> simp

section Rows

variable {α : Type} {P : α → Prop} {rows : List α}

/-- What holds of all rows and survives a change holds after it. -/
theorem forall_changeWhere {condition : α → Bool} {change : α → α} (h : ∀ r ∈ rows, P r)
    (changed : ∀ r, P r → P (change r)) : ∀ r ∈ changeWhere condition change rows, P r := by
  intro r hr
  rcases mem_changeWhere.1 hr with ⟨r₀, h₀, -, rfl⟩ | ⟨h₀, -⟩
  · exact changed r₀ (h r₀ h₀)
  · exact h r h₀

theorem forall_concat {new : α} (h : ∀ r ∈ rows, P r) (hnew : P new) : ∀ r ∈ rows ++ [new], P r :=
  List.forall_mem_append.2 ⟨h, List.forall_mem_singleton.2 hnew⟩

end Rows

/-- A legible message stays so when it is updated at a time that is read back. -/
theorem MessageRow.Legible.update {r : MessageRow} (h : r.Legible) (u : MessageUpdate)
    {now : Instant} (clock : now.HasFourDigitYear) : (r.update u now).Legible := by
  refine { h with status := ?_, updatedAt := timed_storedText clock }
  unfold MessageRow.update
  cases u.status with
  | none => exact h.status
  | some s => exact ⟨s, rfl⟩

/-- A call that writes readable times to sessions and messages keeps them legible. -/
theorem Tables.ChatStep.legible {t t' : Tables} {r : Request} (step : t.ChatStep r t')
    (h : t.ChatLegible) (readable : ∀ t ∈ r.chatTimes, t.HasFourDigitYear) : t'.ChatLegible := by
  obtain ⟨sessions, messages⟩ := h
  cases step with
  | apart hsessions hmessages => exact ⟨hsessions ▸ sessions, hmessages ▸ messages⟩
  | @createSession s fresh =>
    have hcreated := readable s.createdAt (by simp [Request.chatTimes])
    have hupdated := readable s.updatedAt (by simp [Request.chatTimes])
    have hlast (t : Instant) (ht : t ∈ s.lastMessageAt) : t.HasFourDigitYear :=
      readable t (by simp_all [Request.chatTimes])
    exact ⟨forall_concat sessions ⟨⟨s.id, rfl⟩, ⟨s.status, rfl⟩, timed_storedText hcreated,
      timed_storedText hupdated, mayBeTimed_map hlast⟩, messages⟩
  | @insertMessage m fresh known =>
    have hcreated := readable m.createdAt (by simp [Request.chatTimes])
    have hupdated := readable m.updatedAt (by simp [Request.chatTimes])
    exact ⟨sessions, forall_concat messages ⟨⟨m.id, rfl⟩, ⟨m.session, rfl⟩, ⟨m.role, rfl⟩,
      ⟨m.status, rfl⟩, timed_storedText hcreated, timed_storedText hupdated⟩⟩
  | @updateSessionTopic id topic now =>
    have hnow := timed_storedText (readable now List.mem_cons_self)
    exact ⟨forall_changeWhere sessions fun r h => { h with updatedAt := hnow }, messages⟩
  | @setSessionStatus id status now =>
    have hnow := timed_storedText (readable now List.mem_cons_self)
    exact ⟨forall_changeWhere sessions fun r h =>
      { h with status := ⟨status, rfl⟩, updatedAt := hnow }, messages⟩
  | @deleteSession id now =>
    have hnow := timed_storedText (readable now List.mem_cons_self)
    exact ⟨forall_changeWhere sessions fun r h =>
        { h with status := ⟨.deleted, rfl⟩, updatedAt := hnow },
      forall_changeWhere messages fun r h => { h with updatedAt := hnow }⟩
  | @deleteUserSessions user now =>
    have hnow := timed_storedText (readable now List.mem_cons_self)
    exact ⟨forall_changeWhere sessions fun r h =>
        { h with status := ⟨.deleted, rfl⟩, updatedAt := hnow },
      forall_changeWhere messages fun r h => { h with updatedAt := hnow }⟩
  | @refreshRollup id now tokens sum =>
    have hnow := readable now List.mem_cons_self
    have hlast : MayBeTimed ((some now).map Instant.storedText) :=
      mayBeTimed_map (by simpa using hnow)
    exact ⟨forall_changeWhere sessions fun r h =>
      { h with updatedAt := timed_storedText hnow, lastMessageAt := hlast }, messages⟩
  | @updateMessage id u now =>
    have hnow := readable now List.mem_cons_self
    exact ⟨sessions, forall_changeWhere messages fun r h => h.update u hnow⟩
  | @deleteMessage id now =>
    have hnow := timed_storedText (readable now List.mem_cons_self)
    exact ⟨sessions, forall_changeWhere messages fun r h => { h with updatedAt := hnow }⟩

/-- A readable call keeps subscriptions, links and articles legible. -/
theorem Tables.MemberStep.legible {t t' : Tables} {r : Request} (step : t.MemberStep r t')
    (h : t.Legible) (readable : r.Readable) :
    (∀ s ∈ t'.subscriptions, s.Legible) ∧ (∀ l ∈ t'.links, l.Legible) ∧
      ∀ a ∈ t'.articles, a.Legible := by
  obtain ⟨-, -, subscriptions, links, articles⟩ := h
  cases step with
  | apart hsubscriptions hlinks harticles =>
    exact ⟨hsubscriptions ▸ subscriptions, hlinks ▸ links, harticles ▸ articles⟩
  | @createSubscription input now =>
    have hnow := timed_storedText (readable now List.mem_cons_self)
    exact ⟨forall_concat subscriptions ⟨⟨.active, rfl⟩, hnow, hnow⟩,
      forall_concat links ⟨⟨.active, rfl⟩, hnow, hnow⟩, articles⟩
  | @insertLink user id now known =>
    have hnow := timed_storedText (readable now List.mem_cons_self)
    exact ⟨subscriptions, forall_concat links ⟨⟨.active, rfl⟩, hnow, hnow⟩, articles⟩
  | @changeLink id expected wanted now =>
    have hnow := timed_storedText (readable now List.mem_cons_self)
    exact ⟨subscriptions, forall_changeWhere links fun r h =>
      { h with status := ⟨wanted, rfl⟩, updatedAt := hnow }, articles⟩
  | @updateDescription id description now =>
    have hnow := timed_storedText (readable now List.mem_cons_self)
    exact ⟨forall_changeWhere subscriptions fun r h => { h with updatedAt := hnow }, links,
      articles⟩
  | @cancelSubscription id now =>
    have hnow := timed_storedText (readable now List.mem_cons_self)
    exact ⟨forall_changeWhere subscriptions fun r h =>
      { h with status := ⟨.cancelled, rfl⟩, updatedAt := hnow }, links, articles⟩
  | @insertArticle id a now known rated =>
    have hnow := timed_storedText (readable now (by simp [Request.times]))
    have hpublished (t : Instant) (ht : t ∈ a.publishedAt) : t.HasFourDigitYear :=
      readable t (by simp_all [Request.times])
    exact ⟨subscriptions, links, forall_concat articles ⟨mayBeTimed_map hpublished, hnow, hnow⟩⟩
  | @deleteArticle id now =>
    have hnow := timed_storedText (readable now List.mem_cons_self)
    exact ⟨subscriptions, links, forall_changeWhere articles fun r h =>
      { h with updatedAt := hnow }⟩

/-- **One call.** A readable call keeps all rows legible. -/
theorem Tables.Legible.perform {t : Tables} (h : t.Legible) {r : Request} (readable : r.Readable) :
    (r.perform t).2.Legible := by
  obtain ⟨sessions, messages⟩ := (r.perform_chat t).legible h.chat fun t ht =>
    readable t (r.chatTimes_subset ht)
  obtain ⟨subscriptions, links, articles⟩ := (r.perform_members t).legible h readable
  exact ⟨sessions, messages, subscriptions, links, articles⟩

/-- **Any number of calls.** Calls that are readable leave legible rows. -/
theorem Trace.legible {ι : Type} {history : List (Event ι)} {t t' : Tables}
    (trace : Trace t history t') (first : t.Legible)
    (readable : ∀ e ∈ history, e.request.Readable) : t'.Legible :=
  trace.invariant first fun e he lawful before =>
    lawful.after_of before (before.perform (readable e he))

/-- Calls that write readable times to sessions and messages leave both legible. -/
theorem Trace.chatLegible {ι : Type} {history : List (Event ι)} {t t' : Tables}
    (trace : Trace t history t') (first : t.ChatLegible)
    (readable : ∀ e ∈ history, ∀ t ∈ e.request.chatTimes, t.HasFourDigitYear) :
    t'.ChatLegible :=
  trace.invariant first fun e he lawful before =>
    lawful.after_of before ((e.request.perform_chat e.before).legible before (readable e he))

end ChatLedger.Store
