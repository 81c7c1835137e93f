import ChatLedger.Proofs.Chat.Calls
import ChatLedger.Proofs.Chat.Rows
import Mathlib.Algebra.BigOperators.Group.List.Basic
import Mathlib.Algebra.Ring.Int.Defs

/-!
# Roll-ups are exact

A change of a message and the refresh of the roll-up behind it are two store calls, so that other
calls may come in between and either may fail.

1. `UpToDate` says of a history that no message of a session has changed since its last refresh,
   or ever. This alone makes the roll-up of a live session the one over its live messages
   (`RolledUp`), whichever calls made the changes and the refreshes.
2. The invariant behind this is one of single store calls (`rolledUp_step`).
3. A session that has just been opened has no messages, because messages belong to sessions that
   exist; so its figures of zero are exact.
-/

namespace ChatLedger.Store

open Time

variable {ι : Type}

/-! ## What a roll-up is over -/

/-- The live messages of a session. -/
def Tables.liveIn (t : Tables) (session : String) : List MessageRow :=
  t.messages.filter fun m => m.isLive && m.session == session

theorem Tables.kept_eq (t : Tables) (session : String) :
    t.kept session = oldestFirst (fun m => (m.createdAt, m.row)) (t.liveIn session) := rfl

theorem Tables.kept_perm (t : Tables) (session : String) :
    (t.kept session).Perm (t.liveIn session) := List.mergeSort_perm ..

/-- The stored roll-up is the one over the live messages. -/
structure RolledUp (t : Tables) (s : SessionRow) : Prop where
  messageCount : s.messageCount = (t.liveIn s.id).length
  tokenCount : s.tokenCount = ((t.liveIn s.id).map (·.tokens)).sum
  totalCost : s.totalCost = Tables.totalOf ((t.kept s.id).map (·.cost))

instance (t : Tables) (s : SessionRow) : Decidable (RolledUp t s) :=
  decidable_of_iff (s.messageCount = (t.liveIn s.id).length ∧
      s.tokenCount = ((t.liveIn s.id).map (·.tokens)).sum ∧
      s.totalCost = Tables.totalOf ((t.kept s.id).map (·.cost)))
    ⟨fun ⟨count, tokens, cost⟩ => ⟨count, tokens, cost⟩,
      fun h => ⟨h.messageCount, h.tokenCount, h.totalCost⟩⟩

/-- A sum of integers of 64 bits that starts anywhere is the sum, and within their range. -/
theorem sum_from_ok {ns : List Int} {a n : Int} (ha : a ≤ Bounds.highest)
    (h : ns.foldlM (fun sum n =>
      if Bounds.lowest ≤ sum + n ∧ sum + n ≤ Bounds.highest then .ok (sum + n)
      else .error (.query "integer overflow")) a = (.ok n : Except StoreError Int)) :
    n = a + ns.sum ∧ n ≤ Bounds.highest := by
  induction ns generalizing a with
  | nil =>
    obtain rfl : a = n := Except.ok.inj h
    exact ⟨(Int.add_zero a).symm, ha⟩
  | cons x xs ih =>
    rw [List.foldlM_cons, bind_eq_ok] at h
    obtain ⟨b, hb, h⟩ := h
    split at hb
    · rename_i hrange
      cases hb
      obtain ⟨hn, hle⟩ := ih hrange.2 h
      exact ⟨by rw [hn, List.sum_cons, Int.add_assoc], hle⟩
    · cases hb

theorem sumOf_ok {ns : List Int} {n : Int} (h : Tables.sumOf ns = .ok n) :
    n = ns.sum ∧ n ≤ Bounds.highest := by
  obtain ⟨hn, hle⟩ := sum_from_ok (by decide) h
  exact ⟨by rw [hn, Int.zero_add], hle⟩

/-- Live messages are among the messages of the session. -/
theorem Tables.liveIn_eq (t : Tables) (session : String) :
    t.liveIn session = (t.rowsOf session).filter (·.isLive) := by
  unfold Tables.liveIn Tables.rowsOf
  rw [List.filter_filter]

/-- The roll-up over a session depends on its messages only. -/
theorem RolledUp.of_rowsOf_eq {t t' : Tables} {s s' : SessionRow} (h : RolledUp t s)
    (hid : s.id = s'.id) (hfigures : s.figures = s'.figures)
    (hrows : t'.rowsOf s.id = t.rowsOf s.id) : RolledUp t' s' := by
  have hlive : t'.liveIn s'.id = t.liveIn s.id := by
    rw [← hid, Tables.liveIn_eq, Tables.liveIn_eq, hrows]
  have hkept : t'.kept s'.id = t.kept s.id := by
    rw [Tables.kept_eq, Tables.kept_eq, hlive]
  obtain ⟨hcount, htokens, hcost⟩ : s.messageCount = s'.messageCount ∧
      s.tokenCount = s'.tokenCount ∧ s.totalCost = s'.totalCost := by
    simpa [SessionRow.figures] using hfigures
  refine ⟨?_, ?_, ?_⟩
  · rw [← hcount, hlive, h.messageCount]
  · rw [← htokens, hlive, h.tokenCount]
  · rw [← hcost, hkept, h.totalCost]

/-- What a refresh writes to the live row of its session. -/
theorem Tables.Refreshed.row {t t' : Tables} {id : Uuid} {now : Instant} {tokens : Int}
    (h : t.Refreshed id now tokens t') {s : SessionRow} (hs : s ∈ t'.sessions)
    (hlive : s.isLive = true) (hid : s.id = id.text) :
    ∃ s₀, s = rolledUp (t.kept id.text) tokens now s₀ := by
  rw [h.tables] at hs
  rcases mem_changeWhere.1 hs with ⟨s₀, -, -, rfl⟩ | ⟨-, hmissed⟩
  · exact ⟨s₀, rfl⟩
  · simp [SessionRow.has, hid, hlive] at hmissed

/-- A refresh rolls its session up. -/
theorem Tables.Refreshed.rolledUp {t t' : Tables} {id : Uuid} {now : Instant} {tokens : Int}
    (h : t.Refreshed id now tokens t') {s : SessionRow} (hs : s ∈ t'.sessions)
    (hlive : s.isLive = true) (hid : s.id = id.text) : RolledUp t' s := by
  obtain ⟨s₀, hrow⟩ := h.row hs hlive hid
  have hperm := t.kept_perm id.text
  have hlives : t'.liveIn s.id = t.liveIn id.text := by rw [h.tables, hid]; rfl
  have hkept : t'.kept s.id = t.kept id.text := by rw [h.tables, hid]; rfl
  refine ⟨?_, ?_, ?_⟩
  · rw [hlives, ← hperm.length_eq, hrow]
    rfl
  · rw [hlives, ← (hperm.map _).sum_eq, hrow]
    exact (sumOf_ok h.sum).1
  · rw [hkept, hrow]
    rfl

/-! ## Histories -/

/-- The event has changed messages of the session. -/
def Event.Changes (e : Event ι) (session : String) : Prop :=
  e.after.rowsOf session ≠ e.before.rowsOf session

instance (e : Event ι) (session : String) : Decidable (e.Changes session) :=
  inferInstanceAs (Decidable (_ ≠ _))

/-- The session whose roll-up the call has written. -/
def Exchange.refreshed? : Exchange → Option Uuid
  | ⟨.refreshRollup id _, .ok (some _)⟩ => some id
  | _ => none

/-- The call has written the roll-up of the session. -/
def Exchange.Refreshes (x : Exchange) (session : String) : Prop :=
  x.refreshed?.map Uuid.text = some session

instance (x : Exchange) (session : String) : Decidable (x.Refreshes session) :=
  inferInstanceAs (Decidable (_ = _))

theorem Exchange.Refreshes.shape {x : Exchange} {session : String} (h : x.Refreshes session) :
    ∃ id now r, x = ⟨.refreshRollup id now, .ok (some r)⟩ ∧ session = id.text := by
  unfold Exchange.Refreshes Exchange.refreshed? at h
  split at h
  · exact ⟨_, _, _, rfl, (Option.some.inj h).symm⟩
  · cases h

/-- No message of the session has changed since its last refresh, or ever. -/
def UpToDate (session : String) (history : List (Event ι)) : Prop :=
  ∃ h₁ h₂, history = h₁ ++ h₂ ∧ (∀ e ∈ h₂, ¬ e.Changes session) ∧
    (h₁ = [] ∨ ∃ h₀ e, h₁ = h₀ ++ [e] ∧ e.exchange.Refreshes session)

/-- What was up to date after an event was refreshed by it, or was so before and has not been
changed by it. -/
theorem UpToDate.of_snoc {session : String} {history : List (Event ι)} {e : Event ι}
    (h : UpToDate session (history ++ [e])) :
    e.exchange.Refreshes session ∨ ¬ e.Changes session ∧ UpToDate session history := by
  obtain ⟨h₁, h₂, hsplit, hquiet, hfirst⟩ := h
  rcases List.eq_nil_or_concat h₂ with rfl | ⟨l, e', rfl⟩
  · rw [List.append_nil] at hsplit
    rcases hfirst with rfl | ⟨h₀, e', rfl, hrefresh⟩
    · simp at hsplit
    · obtain ⟨-, he⟩ := List.append_inj' hsplit rfl
      cases he
      exact .inl hrefresh
  · rw [List.concat_eq_append] at hsplit hquiet
    rw [← List.append_assoc] at hsplit
    obtain ⟨rfl, he⟩ := List.append_inj' hsplit rfl
    cases he
    exact .inr ⟨hquiet e (by simp), h₁, l, rfl, fun x hx => hquiet x (by simp [hx]), hfirst⟩

/-! ## The invariant -/

theorem Trace.orderly {history : List (Event ι)} {t : Tables} (trace : Trace {} history t) :
    t.Orderly :=
  trace.invariant .empty fun e _ lawful h => lawful.after_of h (h.perform e.request)

/-- An answer with figures was written. -/
theorem Event.Lawful.refreshed {e : Event ι} (h : e.Lawful) {id : Uuid} {now : Instant}
    {r : Rollup} (hx : e.exchange = ⟨.refreshRollup id now, .ok (some r)⟩) :
    ∃ tokens, e.before.Refreshed id now tokens e.after ∧ (e.before.session? id).isSome ∧
      r = { session := id
            messageCount := UInt32.ofNat (e.before.kept id.text).length
            tokenCount := UInt64.ofInt tokens
            totalCost := Tables.totalOf ((e.before.kept id.text).map (·.cost))
            lastMessageAt := now } := by
  obtain ⟨i, request, answer, before, after⟩ := e
  cases hx
  have hperform := h.perform_of_ok rfl
  rcases Tables.refreshRollup_ok (Request.settle_eq_ok.1 hperform) with
    ⟨hnone, -⟩ | ⟨tokens, hsome, hsum, hr, htables⟩
  · cases hnone
  · exact ⟨tokens, ⟨hsum, htables⟩, hsome, Option.some.inj hr⟩

theorem signed_zero : signed 0 = 0 := by decide

/-- A session that has just been opened has no messages, and figures of zero. -/
theorem Tables.Opened.rolledUp {t t' : Tables} {s : Session} (h : t.Opened s t')
    (orderly : t.Orderly) (opens : (Request.createSession s).OpensAtZero) :
    RolledUp t' (.ofSession (nextRow t.sessions) s) := by
  have hnone : t'.liveIn s.id.text = [] := by
    unfold Tables.liveIn
    rw [h.messages, List.filter_eq_nil_iff]
    intro m hm hmine
    obtain ⟨r, hr, hid⟩ := orderly.known m hm
    have hsession : m.session = s.id.text := by simpa using (Bool.and_eq_true_iff.1 hmine).2
    have hfresh := h.fresh r hr
    simp [SessionRow.has, hid, hsession] at hfresh
  have hkept : t'.kept s.id.text = [] := (hnone ▸ t'.kept_perm s.id.text).eq_nil
  obtain ⟨hcount, htokens, hcost⟩ := opens
  have hid : (SessionRow.ofSession (nextRow t.sessions) s).id = s.id.text := rfl
  refine ⟨?_, ?_, ?_⟩
  · rw [hid, hnone]
    exact congrArg (fun n : UInt32 => (n.toNat : Int)) hcount
  · rw [hid, hnone]
    simp only [SessionRow.ofSession, htokens, signed_zero, List.map_nil, List.sum_nil]
  · rw [hid, hkept]
    exact congrArg storedAmount hcost

/-- **One call.** Roll-ups of sessions that are up to date stay exact. -/
theorem rolledUp_step {history : List (Event ι)} {e : Event ι} (lawful : e.Lawful)
    (opens : e.request.OpensAtZero) (orderly : e.before.Orderly)
    (before : ∀ s ∈ e.before.sessions, s.isLive = true → UpToDate s.id history →
      RolledUp e.before s) {s : SessionRow} (hs : s ∈ e.after.sessions) (hlive : s.isLive = true)
    (hup : UpToDate s.id (history ++ [e])) : RolledUp e.after s := by
  rcases hup.of_snoc with hrefreshes | ⟨hsame, hup⟩
  · obtain ⟨id, now, r, hx, hid⟩ := hrefreshes.shape
    obtain ⟨tokens, hrefreshed, -, -⟩ := lawful.refreshed hx
    exact hrefreshed.rolledUp hs hlive hid
  -- from here on the rows of the session are those from before
  have hsame : e.after.rowsOf s.id = e.before.rowsOf s.id := not_not.1 hsame
  have kept (s₀ : SessionRow) (h₀ : s₀ ∈ e.before.sessions) (hlive₀ : s₀.isLive = true)
      (hid : s₀.id = s.id) (hfigures : s₀.figures = s.figures) : RolledUp e.after s := by
    have hrolled := before s₀ h₀ hlive₀ (hid ▸ hup)
    exact hrolled.of_rowsOf_eq hid hfigures (hid ▸ hsame)
  rcases lawful with hperform | ⟨-, -, hstays⟩
  · have hafter : (e.request.perform e.before).2 = e.after := congrArg Prod.snd hperform
    have hcases := e.request.perform_sessions e.before
    rw [hafter] at hcases
    rcases hcases with ⟨new, hrequest, hopened⟩ | ⟨id, now, tokens, -, hrefreshed⟩ | hkeeps
    · rw [hopened.sessions, List.mem_append, List.mem_singleton] at hs
      rcases hs with hs | rfl
      · exact kept s hs hlive rfl rfl
      · exact hopened.rolledUp orderly (hrequest ▸ opens)
    · by_cases hid : s.id = id.text
      · exact hrefreshed.rolledUp hs hlive hid
      · rw [hrefreshed.tables] at hs
        rcases mem_changeWhere.1 hs with ⟨s₀, -, hmet, rfl⟩ | ⟨hs, -⟩
        · exact absurd (beq_iff_eq.1 (Bool.and_eq_true_iff.1 hmet).1) hid
        · exact kept s hs hlive rfl rfl
    · obtain ⟨s₀, h₀, hlive₀, hid, hfigures⟩ := hkeeps.of_live s hs hlive
      exact kept s₀ h₀ hlive₀ hid hfigures
  · rw [hstays] at hs
    exact kept s hs hlive rfl rfl

/-- **Any number of calls.** Along a history that opens sessions with figures of zero, the
roll-ups of sessions that are up to date are exact. -/
theorem Trace.rolledUp {history : List (Event ι)} {t : Tables} (trace : Trace {} history t)
    (opens : ∀ e ∈ history, e.request.OpensAtZero) {s : SessionRow} (hs : s ∈ t.sessions)
    (hlive : s.isLive = true) (hup : UpToDate s.id history) : RolledUp t s := by
  induction trace generalizing s with
  | nil => cases hs
  | @snoc history e earlier lawful ih =>
    refine rolledUp_step lawful (opens e (by simp)) earlier.orderly ?_ hs hlive hup
    intro s hs hlive hup
    exact ih (fun x hx => opens x (by simp [hx])) hs hlive hup

end ChatLedger.Store
