import ChatLedger.Proofs.Chat.Rows

/-!
# Deleted rows are final

No store call changes a row that is deleted, and the status of a session moves one way.

1. `Tables.Stays`: all rows are kept at their places, and those that are deleted as they are.
   `Trace.stays`: this holds of the tables at any two moments.
2. `Tables.Advances`: sessions are opened as active, go on to be ended or deleted, and from ended to
   deleted. Calls do so that open and set sessions to no other status (`Request.AdvancesOnly`).
-/

namespace ChatLedger.Store

/-! ## Rows that stay -/

section Stays

variable {α κ : Type} {key : α → Nat × κ} {isOpen : α → Bool} {Apart : α → α → Prop}
  {rows rows' rows'' : List α}

/-- All rows are kept at their places with their keys, and rows that are not open as they are. -/
structure Stays (key : α → Nat × κ) (isOpen : α → Bool) (rows rows' : List α) : Prop where
  keys : rows.map key <+: rows'.map key
  closed : ∀ (i : Nat) (r : α), rows[i]? = some r → isOpen r = false → rows'[i]? = some r

theorem Stays.refl (rows : List α) : Stays key isOpen rows rows :=
  ⟨List.prefix_rfl, fun _ _ h _ => h⟩

theorem Stays.trans (h₁ : Stays key isOpen rows rows') (h₂ : Stays key isOpen rows' rows'') :
    Stays key isOpen rows rows'' :=
  ⟨h₁.keys.trans h₂.keys, fun i r hr hclosed => h₂.closed i r (h₁.closed i r hr hclosed) hclosed⟩

theorem Stays.of_edit (h : Edit key isOpen Apart rows rows') : Stays key isOpen rows rows' :=
  ⟨Grows.keys_prefix (.of_edit h), fun _ _ hr hclosed => h.getElem?_of_closed hr hclosed⟩

theorem Stays.mem (h : Stays key isOpen rows rows') {r : α} (hr : r ∈ rows)
    (hclosed : isOpen r = false) : r ∈ rows' := by
  obtain ⟨i, hi⟩ := List.mem_iff_getElem?.1 hr
  exact List.mem_of_getElem? (h.closed i r hi hclosed)

end Stays

/-- In every table, all rows are kept at their places, and those that are deleted as they are. -/
structure Tables.Stays (t t' : Tables) : Prop where
  sessions : Store.Stays SessionRow.key SessionRow.isLive t.sessions t'.sessions
  messages : Store.Stays MessageRow.key MessageRow.isLive t.messages t'.messages
  subscriptions :
    Store.Stays SubscriptionRow.key SubscriptionRow.isActive t.subscriptions t'.subscriptions
  links : Store.Stays LinkRow.key (fun _ => true) t.links t'.links
  articles : Store.Stays ArticleRow.key ArticleRow.isLive t.articles t'.articles

namespace Tables.Stays

variable {t t' t'' : Tables}

theorem refl (t : Tables) : t.Stays t := ⟨.refl _, .refl _, .refl _, .refl _, .refl _⟩

theorem trans (h₁ : t.Stays t') (h₂ : t'.Stays t'') : t.Stays t'' :=
  ⟨h₁.sessions.trans h₂.sessions, h₁.messages.trans h₂.messages,
    h₁.subscriptions.trans h₂.subscriptions, h₁.links.trans h₂.links,
    h₁.articles.trans h₂.articles⟩

theorem of_edits (h : t.Edits t') : t.Stays t' :=
  ⟨.of_edit h.sessions, .of_edit h.messages, .of_edit h.subscriptions, .of_edit h.links,
    .of_edit h.articles⟩

end Tables.Stays

/-- **Deleted rows are final.** -/
theorem Trace.stays {ι : Type} {history : List (Event ι)} {t t' : Tables}
    (trace : Trace t history t') : t.Stays t' :=
  trace.related Tables.Stays.refl Tables.Stays.trans fun e _ lawful =>
    lawful.after_of (Tables.Stays.refl _) (.of_edits (e.request.perform_edits e.before))

/-! ## Statuses of sessions -/

/-- A session may go from one status to the other. -/
inductive SessionStatus.Leads : SessionStatus → SessionStatus → Prop where
  | stay (s : SessionStatus) : Leads s s
  | finish : Leads .active .ended
  | delete (s : SessionStatus) : Leads s .deleted

/-- One text is the word of a status that may lead to the status of the other. -/
def StatusMove (text text' : String) : Prop :=
  ∃ s s' : SessionStatus,
    text = Vocabulary.word s ∧ text' = Vocabulary.word s' ∧ SessionStatus.Leads s s'

/-- The status of each session is one of the words for it. -/
def Tables.Worded (t : Tables) : Prop :=
  ∀ r ∈ t.sessions, ∃ s : SessionStatus, r.status = Vocabulary.word s

/-- Each session has just been opened as active, or its status was led to from its status before. -/
def Tables.Advances (t t' : Tables) : Prop :=
  ∀ (i : Nat) (r' : SessionRow), t'.sessions[i]? = some r' →
    (t.sessions[i]? = none ∧ r'.status = Vocabulary.word SessionStatus.active) ∨
      ∃ r, t.sessions[i]? = some r ∧ StatusMove r.status r'.status

/-- The call opens sessions as active, and sets the status of sessions to ended only. -/
def Request.AdvancesOnly : Request → Prop
  | .createSession s => s.status = .active
  | .setSessionStatus _ status _ => status = .ended
  | _ => True

namespace Tables

variable {t t' : Tables}

theorem worded_empty : Worded {} := by
  intro r hr
  cases hr

theorem Worded.of_changeWhere {condition : SessionRow → Bool} {change : SessionRow → SessionRow}
    (h : t.Worded) (hs : t'.sessions = changeWhere condition change t.sessions)
    (hchange : ∀ r ∈ t.sessions, ∃ s : SessionStatus, (change r).status = Vocabulary.word s) :
    t'.Worded := by
  intro r hr
  rw [hs] at hr
  rcases mem_changeWhere.1 hr with ⟨r₀, h₀, -, rfl⟩ | ⟨h₀, -⟩
  · exact hchange r₀ h₀
  · exact h r h₀

/-- All calls keep to the words. -/
theorem Worded.perform (h : t.Worded) (r : Request) : (r.perform t).2.Worded := by
  have step := r.perform_chat t
  generalize (r.perform t).2 = t' at step ⊢
  cases step with
  | apart sessions messages => exact fun r hr => h r (sessions ▸ hr)
  | createSession fresh =>
    intro r hr
    rcases List.mem_append.1 hr with hr | hr
    · exact h r hr
    · exact ⟨_, by rw [List.mem_singleton.1 hr]; rfl⟩
  | updateSessionTopic => exact h.of_changeWhere rfl h
  | setSessionStatus => exact h.of_changeWhere rfl fun _ _ => ⟨_, rfl⟩
  | deleteSession => exact h.of_changeWhere rfl fun _ _ => ⟨_, rfl⟩
  | deleteUserSessions => exact h.of_changeWhere rfl fun _ _ => ⟨_, rfl⟩
  | refreshRollup sum => exact h.of_changeWhere rfl h
  | insertMessage fresh known => exact h
  | updateMessage => exact h
  | deleteMessage => exact h

theorem Worded.move_self (h : t.Worded) {r : SessionRow} (hr : r ∈ t.sessions) :
    StatusMove r.status r.status := by
  obtain ⟨s, hs⟩ := h r hr
  exact ⟨s, s, hs, hs, .stay s⟩

/-- The status of a live session leads to ended. -/
theorem Worded.move_ended (h : t.Worded) {r : SessionRow} (hr : r ∈ t.sessions)
    (hlive : r.isLive = true) : StatusMove r.status (Vocabulary.word SessionStatus.ended) := by
  obtain ⟨s, hs⟩ := h r hr
  refine ⟨s, .ended, hs, rfl, ?_⟩
  cases s with
  | active => exact .finish
  | ended => exact .stay _
  | deleted =>
    rw [SessionRow.isLive, hs] at hlive
    exact absurd hlive (by decide)

theorem Worded.move_deleted (h : t.Worded) {r : SessionRow} (hr : r ∈ t.sessions) :
    StatusMove r.status (Vocabulary.word SessionStatus.deleted) := by
  obtain ⟨s, hs⟩ := h r hr
  exact ⟨s, .deleted, hs, rfl, .delete s⟩

theorem Worded.advances_of_eq (h : t.Worded) (hs : t'.sessions = t.sessions) : t.Advances t' := by
  intro i r' hr'
  rw [hs] at hr'
  exact .inr ⟨r', hr', h.move_self (List.mem_of_getElem? hr')⟩

theorem Worded.advances_of_changeWhere {condition : SessionRow → Bool}
    {change : SessionRow → SessionRow} (h : t.Worded)
    (hs : t'.sessions = changeWhere condition change t.sessions)
    (moves : ∀ r ∈ t.sessions, condition r = true → StatusMove r.status (change r).status) :
    t.Advances t' := by
  intro i r' hr'
  rw [hs, changeWhere, List.getElem?_map] at hr'
  obtain ⟨r, hr, rfl⟩ := Option.map_eq_some_iff.1 hr'
  have hmem := List.mem_of_getElem? hr
  refine .inr ⟨r, hr, ?_⟩
  split
  · exact moves r hmem ‹_›
  · exact h.move_self hmem

end Tables

/-- **One call** opens a session as active, or moves statuses one way. -/
theorem Request.perform_advances {r : Request} (only : r.AdvancesOnly) {t : Tables}
    (h : t.Worded) : t.Advances (r.perform t).2 := by
  have step := r.perform_chat t
  generalize (r.perform t).2 = t' at step ⊢
  cases step with
  | apart sessions messages => exact h.advances_of_eq sessions
  | @createSession new fresh =>
    intro i r' hr'
    by_cases hi : i < t.sessions.length
    · rw [List.getElem?_append_left hi] at hr'
      exact .inr ⟨r', hr', h.move_self (List.mem_of_getElem? hr')⟩
    · refine .inl ⟨List.getElem?_eq_none (by omega), ?_⟩
      rw [List.getElem?_append_right (by omega)] at hr'
      rw [List.mem_singleton.1 (List.mem_of_getElem? hr')]
      exact congrArg Vocabulary.word only
  | updateSessionTopic =>
    exact h.advances_of_changeWhere rfl fun r hr _ => h.move_self hr
  | refreshRollup sum => exact h.advances_of_changeWhere rfl fun r hr _ => h.move_self hr
  | setSessionStatus =>
    refine h.advances_of_changeWhere rfl fun r hr hmet => ?_
    have hended := h.move_ended hr (Bool.and_eq_true_iff.1 hmet).2
    rw [← only] at hended
    exact hended
  | deleteSession => exact h.advances_of_changeWhere rfl fun r hr _ => h.move_deleted hr
  | deleteUserSessions => exact h.advances_of_changeWhere rfl fun r hr _ => h.move_deleted hr
  | insertMessage fresh known => exact h.advances_of_eq rfl
  | updateMessage => exact h.advances_of_eq rfl
  | deleteMessage => exact h.advances_of_eq rfl

theorem Trace.worded {ι : Type} {history : List (Event ι)} {t : Tables}
    (trace : Trace {} history t) : t.Worded :=
  trace.invariant Tables.worded_empty fun e _ lawful h => lawful.after_of h (h.perform e.request)

/-- **The status of a session moves one way**, by calls that set it to nothing else. -/
theorem Trace.advances {ι : Type} {history : List (Event ι)} {t : Tables}
    (trace : Trace {} history t) (only : ∀ e ∈ history, e.request.AdvancesOnly) :
    ∀ e ∈ history, e.before.Advances e.after := by
  intro e he
  obtain ⟨h₁, h₂, rfl⟩ := List.append_of_mem he
  obtain ⟨earlier, lawful, -⟩ := trace.split
  have worded := earlier.worded
  exact lawful.after_of (worded.advances_of_eq rfl)
    (Request.perform_advances (only e he) worded)

end ChatLedger.Store
