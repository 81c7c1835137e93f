import ChatLedger.Store.Request

/-!
# What changes do

For each change to the tables, when it takes effect and what the tables are afterwards. A change
that does not take effect leaves the tables as they were, so that nothing more has to be said.

1. The `…_ok` lemmas say what has to hold before, what the answer is, and what the tables are then.
2. `mem_changeWhere` and its companions say what becomes of a row.
3. `settle_cases` carries these facts over to store calls.
-/

namespace ChatLedger.Store

/-- A sequence of steps that may fail gives a value if each of them does. -/
theorem bind_eq_ok {ε α β : Type} {x : Except ε α} {f : α → Except ε β} {b : β} :
    (x >>= f) = .ok b ↔ ∃ a, x = .ok a ∧ f a = .ok b := by
  cases x with
  | error e => simp [bind, Except.bind]
  | ok a => simp [bind, Except.bind]

section MapM

variable {Row α : Type} {found : Option Row} {read : Row → Except StoreError α}

/-- A row that is found and read is there, and reads so. -/
theorem mapM_eq_some {a : α} :
    found.mapM read = .ok (some a) ↔ ∃ r, found = some r ∧ read r = .ok a := by
  cases found with
  | none => simp [pure, Except.pure]
  | some r => cases h : read r <;> simp [h, Functor.map, Except.map]

end MapM

/-! ## Requirements -/

@[simp] theorem requireAmount_eq_ok {x : Float} {column : String} {u : Unit} :
    requireAmount x column = .ok u ↔ (storedAmount? x).isSome := by
  unfold requireAmount; split <;> simp_all

@[simp] theorem requireReference_eq_ok {found : Bool} {u : Unit} :
    requireReference found = .ok u ↔ found = true := by
  unfold requireReference; split <;> simp_all

@[simp] theorem requireUnique_eq_ok {taken : Bool} {reason : String} {u : Unit} :
    requireUnique taken reason = .ok u ↔ taken = false := by
  unfold requireUnique; split <;> simp_all

/-! ## Rows that are found -/

/-- What meets a condition is found if nothing else does. -/
theorem find?_eq_of_unique {α : Type} {p : α → Bool} {xs : List α} {a : α} (ha : a ∈ xs)
    (hit : p a = true) (unique : ∀ b ∈ xs, p b = true → b = a) : xs.find? p = some a := by
  cases h : xs.find? p with
  | none => exact absurd hit (List.find?_eq_none.1 h a ha)
  | some b => rw [unique b (List.mem_of_find?_eq_some h) (List.find?_some h)]

/-! ## Rows under a change -/

section ChangeWhere

variable {α β : Type} {condition : α → Bool} {change : α → α} {rows : List α}

theorem mem_changeWhere {r : α} :
    r ∈ changeWhere condition change rows ↔
      (∃ r₀ ∈ rows, condition r₀ = true ∧ r = change r₀) ∨ r ∈ rows ∧ condition r = false := by
  unfold changeWhere
  rw [List.mem_map]
  constructor
  · rintro ⟨r₀, h₀, rfl⟩
    cases hc : condition r₀ with
    | true => exact .inl ⟨r₀, h₀, hc, by simp⟩
    | false => exact .inr (by simp [h₀, hc])
  · rintro (⟨r₀, h₀, hc, rfl⟩ | ⟨h, hc⟩)
    · exact ⟨r₀, h₀, by simp [hc]⟩
    · exact ⟨r, h, by simp [hc]⟩

@[simp] theorem length_changeWhere : (changeWhere condition change rows).length = rows.length :=
  List.length_map _

/-- A column that the change leaves alone. -/
theorem map_changeWhere {f : α → β} (h : ∀ r, f (change r) = f r) :
    (changeWhere condition change rows).map f = rows.map f := by
  unfold changeWhere
  rw [List.map_map]
  refine List.map_congr_left fun r _ => ?_
  dsimp only [Function.comp]
  split
  · exact h r
  · rfl

/-- The same rows are met. -/
theorem changeWhere_congr {condition' : α → Bool} (h : ∀ r ∈ rows, condition r = condition' r) :
    changeWhere condition change rows = changeWhere condition' change rows :=
  List.map_congr_left fun r hr => by rw [h r hr]

/-- Rows that the change does not meet are the same afterwards. -/
theorem changeWhere_eq_self (h : ∀ r ∈ rows, condition r = false) :
    changeWhere condition change rows = rows := by
  unfold changeWhere
  refine (List.map_congr_left fun r hr => ?_).trans (List.map_id rows)
  simp [h r hr]

/-- Rows can be selected by what a change leaves alone before or after it. -/
theorem changeWhere_filter {keep : α → Bool} (same : ∀ r, keep (change r) = keep r) :
    (changeWhere condition change rows).filter keep =
      changeWhere condition change (rows.filter keep) := by
  unfold changeWhere
  rw [List.filter_map]
  refine congrArg _ (List.filter_congr fun r _ => ?_)
  dsimp only [Function.comp]
  split
  · exact same r
  · rfl

/-- Rows selected by what a change leaves alone and does not meet. -/
theorem filter_changeWhere {keep : α → Bool} (same : ∀ r, keep (change r) = keep r)
    (apart : ∀ r ∈ rows, keep r = true → condition r = false) :
    (changeWhere condition change rows).filter keep = rows.filter keep := by
  rw [changeWhere_filter same]
  refine changeWhere_eq_self fun r hr => ?_
  obtain ⟨hmem, hkept⟩ := List.mem_filter.1 hr
  exact apart r hmem hkept

end ChangeWhere

namespace Tables

open Time

variable {t t' : Tables}

/-! ## Sessions -/

theorem insertSession_ok {s : Session} {u : Unit} (h : insertSession s t = .ok (u, t')) :
    (∀ r ∈ t.sessions, r.has s.id = false) ∧
      t' = { t with sessions := t.sessions ++ [.ofSession (nextRow t.sessions) s] } := by
  simp only [insertSession, bind_eq_ok, requireAmount_eq_ok, requireUnique_eq_ok] at h
  obtain ⟨-, -, -, fresh, h⟩ := h
  cases h
  exact ⟨by simpa using fresh, rfl⟩

theorem changeSession_ok {id : Uuid} {change : SessionRow → SessionRow} {u : Unit}
    (h : changeSession id change t = .ok (u, t')) :
    t' = { t with sessions := changeWhere (fun r => r.has id && r.isLive) change t.sessions } := by
  unfold changeSession at h
  split at h
  · cases h; rfl
  · cases h

theorem deleteSession_ok {id : Uuid} {now : Instant} {n : UInt64}
    (h : deleteSession id now t = .ok (n, t')) :
    t' = { t with
      sessions := changeWhere (fun r => r.has id && r.isLive) (·.setStatus .deleted now) t.sessions
      messages := changeWhere (fun m => m.session == id.text && m.isLive) (·.delete now)
        t.messages } := by
  unfold deleteSession at h
  rw [bind_eq_ok] at h
  obtain ⟨⟨u, t₁⟩, h₁, h₂⟩ := h
  have h₁ := changeSession_ok h₁
  cases h₂
  rw [h₁]

theorem deleteSessionsOf_ok {user : UserId} {now : Instant} {d : SessionsDeleted}
    (h : deleteSessionsOf user now t = .ok (d, t')) :
    t' = { t with
      sessions := changeWhere (fun r => r.isLive && r.owner == user.number)
        (·.setStatus .deleted now) t.sessions
      messages := changeWhere
        (fun m => (t.sessions.any fun s =>
          (s.isLive && s.owner == user.number) && s.id == m.session) && m.isLive)
        (·.delete now) t.messages } := by
  cases h; rfl

/-- A session row with the figures over the given messages. -/
def rolledUp (rows : List MessageRow) (tokens : Int) (now : Instant) (r : SessionRow) :
    SessionRow :=
  { r with
    messageCount := rows.length
    tokenCount := tokens
    totalCost := totalOf (rows.map (·.cost))
    lastMessageAt := some now.storedText
    updatedAt := now.storedText }

/-- A refresh answers with figures where the session is live, and changes nothing elsewhere. -/
theorem refreshRollup_ok {id : Uuid} {now : Instant} {answer : Option Rollup}
    (h : refreshRollup id now t = .ok (answer, t')) :
    (answer = none ∧ t' = t) ∨
      ∃ tokens, (t.session? id).isSome ∧
        sumOf ((t.kept id.text).map (·.tokens)) = .ok tokens ∧
        answer = some
          { session := id
            messageCount := UInt32.ofNat (t.kept id.text).length
            tokenCount := UInt64.ofInt tokens
            totalCost := totalOf ((t.kept id.text).map (·.cost))
            lastMessageAt := now } ∧
        t' = { t with
          sessions := changeWhere (fun r => r.has id && r.isLive)
            (rolledUp (t.kept id.text) tokens now) t.sessions } := by
  unfold refreshRollup at h
  cases hs : (t.session? id).isNone with
  | true =>
    simp only [hs, if_true] at h
    cases h
    exact .inl ⟨rfl, rfl⟩
  | false =>
    simp only [hs, Bool.false_eq_true, if_false, bind_eq_ok] at h
    obtain ⟨tokens, htokens, h⟩ := h
    cases h
    exact .inr ⟨tokens, by simpa using hs, htokens, rfl, rfl⟩

/-! ## Messages -/

theorem insertMessage_ok {m : Message} {u : Unit} (h : insertMessage m t = .ok (u, t')) :
    (∀ r ∈ t.messages, r.has m.id = false) ∧ (∃ s ∈ t.sessions, s.has m.session = true) ∧
      t' = { t with messages := t.messages ++ [.ofMessage (nextRow t.messages) m] } := by
  simp only [insertMessage, bind_eq_ok, requireAmount_eq_ok, requireUnique_eq_ok,
    requireReference_eq_ok] at h
  obtain ⟨-, -, -, fresh, -, found, h⟩ := h
  cases h
  exact ⟨by simpa using fresh, by simpa using found, rfl⟩

theorem updateMessage_ok {id : Uuid} {u : MessageUpdate} {now : Instant} {row : MessageRow}
    (h : updateMessage id u now t = .ok (row, t')) :
    ∃ old ∈ t.messages, old.has id = true ∧ old.isLive = true ∧ row = old.update u now ∧
      t' = { t with
        messages := changeWhere (fun r => r.has id && r.isLive) (·.update u now) t.messages } := by
  unfold updateMessage at h
  cases hf : t.messages.find? fun r => r.has id && r.isLive with
  | none => rw [hf] at h; cases h
  | some old =>
    have hit : old.has id = true ∧ old.isLive = true := by simpa using List.find?_some hf
    rw [hf] at h
    dsimp only at h
    split at h
    · cases h
    · cases h
      exact ⟨old, List.mem_of_find?_eq_some hf, hit.1, hit.2, rfl, rfl⟩

/-- The status of a message that has been updated is a known one. -/
theorem updateMessage_status {id : Uuid} {u : MessageUpdate} {now : Instant} {row : MessageRow}
    (h : updateMessage id u now t = .ok (row, t')) : isMessageStatus row.status = true := by
  unfold updateMessage at h
  cases hf : t.messages.find? fun r => r.has id && r.isLive with
  | none => rw [hf] at h; cases h
  | some old =>
    rw [hf] at h
    dsimp only at h
    split at h
    · cases h
    · rename_i hstatus
      cases h
      simpa using hstatus

theorem deleteMessage_ok {id : Uuid} {now : Instant} {u : Unit}
    (h : deleteMessage id now t = .ok (u, t')) :
    t' = { t with
      messages := changeWhere (fun r => r.has id && r.isLive) (·.delete now) t.messages } := by
  unfold deleteMessage at h
  split at h
  · cases h; rfl
  · cases h

/-! ## Subscriptions, links and articles -/

theorem insertLink_ok {user : UserId} {subscription : Int} {now : Instant} {link : Link}
    (h : insertLink user subscription now t = .ok (link, t')) :
    (∀ l ∈ t.links, l.joins user subscription = false) ∧
      (∃ s ∈ t.subscriptions, s.has subscription = true) ∧
      link = newLink (nextRow t.links) user subscription now ∧
      t' = { t with links := t.links ++ [linkRow (nextRow t.links) user subscription now] } := by
  simp only [insertLink, bind_eq_ok, requireUnique_eq_ok, requireReference_eq_ok] at h
  obtain ⟨-, fresh, -, found, h⟩ := h
  cases h
  exact ⟨by simpa using fresh, by simpa using found, rfl, rfl⟩

/-- The row of a new subscription. -/
def subscriptionRow (row : Nat) (s : NewSubscription) (now : Instant) : SubscriptionRow where
  row := row
  creator := s.creator.number
  topic := s.topic
  description := s.description
  status := Vocabulary.word SubscriptionStatus.active
  createdAt := now.storedText
  updatedAt := now.storedText

theorem insertSubscription_ok {s : NewSubscription} {now : Instant} {answer : Subscription × Link}
    (h : insertSubscription s now t = .ok (answer, t')) :
    (∀ r ∈ t.subscriptions, ¬ (r.topic = s.topic ∧ r.isActive = true)) ∧
      answer.1.id = nextRow t.subscriptions ∧
      answer.2 = newLink (nextRow t.links) s.creator (nextRow t.subscriptions) now ∧
      t' = { t with
        subscriptions := t.subscriptions ++ [subscriptionRow (nextRow t.subscriptions) s now]
        links := t.links ++
          [linkRow (nextRow t.links) s.creator (nextRow t.subscriptions) now] } := by
  simp only [insertSubscription, bind_eq_ok, requireUnique_eq_ok] at h
  obtain ⟨-, fresh, ⟨link, t₁⟩, hlink, h⟩ := h
  obtain ⟨-, -, rfl, rfl⟩ := insertLink_ok hlink
  cases h
  exact ⟨by simpa using fresh, rfl, rfl, rfl⟩

theorem changeLink_ok {id : Int} {expected wanted : LinkStatus} {now : Instant} {hit : Bool}
    (h : changeLink id expected wanted now t = .ok (hit, t')) :
    (hit = true ↔
        ∃ l ∈ t.links, (l.row : Int) = id ∧ l.status = Vocabulary.word expected) ∧
      t' = { t with
        links := changeWhere
          (fun r => (r.row : Int) == id && r.status == Vocabulary.word expected)
          (·.setStatus wanted now) t.links } := by
  cases h
  exact ⟨by simp, rfl⟩

theorem describe_ok {id : Int} {description : String} {now : Instant} {u : Unit}
    (h : describe id description now t = .ok (u, t')) :
    t' = { t with
      subscriptions := changeWhere (fun r => r.has id && r.isActive)
        (·.describe description now) t.subscriptions } := by
  unfold describe at h
  dsimp only at h
  split at h
  · cases h; rfl
  · cases h

theorem cancelSubscription_ok {id : Int} {now : Instant} {hit : Bool}
    (h : cancelSubscription id now t = .ok (hit, t')) :
    (hit = true ↔ ∃ s ∈ t.subscriptions, s.has id = true ∧ s.isActive = true) ∧
      t' = { t with
        subscriptions := changeWhere (fun r => r.has id && r.isActive) (·.cancel now)
          t.subscriptions } := by
  cases h
  exact ⟨by simp, rfl⟩

theorem insertArticle_ok {subscription : Int} {a : NewArticle} {now : Instant} {article : Article}
    (h : insertArticle subscription a now t = .ok (article, t')) :
    (∃ s ∈ t.subscriptions, s.has subscription = true) ∧
      (0.0 ≤ a.rating ∧ a.rating ≤ Limit.articleRating) ∧
      t' = { t with
        articles := t.articles ++ [.ofNew (nextRow t.articles) subscription a now] } := by
  unfold insertArticle at h
  obtain ⟨-, -, h⟩ := bind_eq_ok.1 h
  dsimp only at h
  split at h
  · cases h
  · next rated =>
    simp only [bind_eq_ok, requireReference_eq_ok] at h
    obtain ⟨-, found, h⟩ := h
    cases h
    exact ⟨by simpa using found, by simpa using rated, rfl⟩

/-- An article is answered as it is meant, with a rating that is a number. -/
theorem insertArticle_answer {subscription : Int} {a : NewArticle} {now : Instant}
    {article : Article} (h : insertArticle subscription a now t = .ok (article, t')) :
    article = newArticle (nextRow t.articles) subscription a now ∧
      (storedAmount? a.rating).isSome := by
  unfold insertArticle at h
  obtain ⟨_, hrating, h⟩ := bind_eq_ok.1 h
  dsimp only at h
  split at h
  · cases h
  · obtain ⟨-, -, h⟩ := bind_eq_ok.1 h
    cases h
    exact ⟨rfl, requireAmount_eq_ok.1 hrating⟩

theorem deleteArticle_ok {id : Int} {now : Instant} {hit : Bool}
    (h : deleteArticle id now t = .ok (hit, t')) :
    t' = { t with
      articles := changeWhere (fun r => (r.row : Int) == id && r.isLive) (·.delete now)
        t.articles } := by
  cases h; rfl

end Tables

/-! ## Store calls -/

namespace Request

variable {α Row : Type} {t : Tables}

/-- A call that makes a change either fails and leaves the tables alone, or carries it out. -/
theorem settle_cases (change : Change α) (t : Tables) :
    (∃ e, settle change t = (.error e, t)) ∨
      ∃ a t', change t = .ok (a, t') ∧ settle change t = (.ok a, t') := by
  unfold settle
  cases h : change t with
  | error e => exact .inl ⟨e, rfl⟩
  | ok p => exact .inr ⟨p.1, p.2, rfl, rfl⟩

/-- What holds of the tables, and of those that a change may make of them, holds after the call. -/
theorem settle_tables {change : Change α} {P : Tables → Prop} (same : P t)
    (changed : ∀ a t', change t = .ok (a, t') → P t') : P (settle change t).2 := by
  rcases settle_cases change t with ⟨e, h⟩ | ⟨a, t', hc, h⟩
  · rw [h]; exact same
  · rw [h]; exact changed a t' hc

theorem settleRow_tables {change : Change Row} {read : Row → Except StoreError α}
    {P : Tables → Prop} (same : P t) (changed : ∀ a t', change t = .ok (a, t') → P t') :
    P (settleRow change read t).2 := by
  unfold settleRow
  cases h : change t with
  | error e => exact same
  | ok p => exact changed p.1 p.2 h

/-- A call that is answered with a value has carried its change out. -/
theorem settle_eq_ok {change : Change α} {a : α} {t' : Tables} :
    settle change t = (.ok a, t') ↔ change t = .ok (a, t') := by
  unfold settle
  cases change t with
  | error e => simp
  | ok p => simp [Prod.ext_iff]

theorem settle_of_error {change : Change α} {e : StoreError} (h : change t = .error e) :
    settle change t = (.error e, t) := by
  unfold settle
  rw [h]

/-- A call that fails leaves the tables alone. -/
theorem settle_error {change : Change α} {e : StoreError} {t' : Tables}
    (h : settle change t = (.error e, t')) : t' = t := by
  rcases settle_cases change t with ⟨_, hs⟩ | ⟨a, _, -, hs⟩
  · rw [hs] at h
    exact (congrArg Prod.snd h).symm
  · rw [hs] at h
    cases h

/-- A change that was answered with a row as it reads. -/
theorem settleRow_ok {change : Change Row}
    {read : Row → Except StoreError α} {t' : Tables} {a : α}
    (h : settleRow change read t = (.ok a, t')) :
    ∃ row, change t = .ok (row, t') ∧ read row = .ok a := by
  unfold settleRow at h
  cases hc : change t with
  | error e => rw [hc] at h; cases h
  | ok p =>
    rw [hc] at h
    obtain ⟨hread, rfl⟩ := Prod.ext_iff.1 h
    exact ⟨p.1, rfl, hread⟩

/-- Reading leaves the tables alone. -/
theorem perform_of_reader {r : Request} (h : r.access = .reader) (t : Tables) :
    (r.perform t).2 = t := by
  cases r <;> first | rfl | cases h

/-- A failure of the call leaves the tables as they were. -/
def isAtomic : Request → Bool
  | .updateMessage .. => false
  | _ => true

/-- What fails, fails without effect. -/
theorem perform_of_error {r : Request} (hr : r.isAtomic = true) {t' : Tables} {e : StoreError}
    (h : r.perform t = (.error e, t')) : t' = t := by
  cases r with
  | updateMessage id update now => cases hr
  | _ => first | exact (congrArg Prod.snd h).symm | exact settle_error h | cases h

end Request

end ChatLedger.Store
