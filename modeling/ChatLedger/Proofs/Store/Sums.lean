import ChatLedger.Proofs.Chat.RollupExactness
import ChatLedger.Proofs.Chat.Views
import ChatLedger.Proofs.Store.Alone
import ChatLedger.Proofs.Store.Legible
import Mathlib.Algebra.Order.BigOperators.Group.List
import Mathlib.Data.List.Nodup

/-!
# Sums that fit

When the figures over sessions and messages can be computed.

1. `sumOf_eq_ok`: numbers that are not negative are summed up if the whole sum fits. A sum that does
   not is a failure of the store, and nothing else keeps figures from being computed (`FailsOnly`).
2. `Tables.Counted`: a live session counts no more messages than the store keeps rows for it, and
   none of its figures is negative. `Tables.Counted.perform` and `Trace.counted` say that this holds
   of all tables that calls can lead to, as long as sessions are opened with figures of zero. So the
   counts of messages fit wherever the rows do (`Tables.Counted.sum_messageCount_le`).
3. `Tables.FitsFor`: the sums of tokens of a user fit too. Then the figures of the user are computed,
   and those of all users where `Tables.Fits` says that all sums fit.
-/

namespace ChatLedger.Store

open Time

/-! ## Sums -/

/-- Numbers that are not negative are added to a sum, as long as the whole of it fits. -/
theorem sum_from_eq_ok {ns : List Int} {a : Int} (ha : 0 ≤ a) (nonneg : ∀ n ∈ ns, 0 ≤ n)
    (h : a + ns.sum ≤ Bounds.highest) :
    ns.foldlM (fun sum n =>
      if Bounds.lowest ≤ sum + n ∧ sum + n ≤ Bounds.highest then .ok (sum + n)
      else .error (.query "integer overflow")) a = (.ok (a + ns.sum) : Except StoreError Int) := by
  induction ns generalizing a with
  | nil =>
    rw [List.sum_nil, Int.add_zero]
    rfl
  | cons n ns ih =>
    obtain ⟨hn, hrest⟩ := List.forall_mem_cons.1 nonneg
    have hsum := List.sum_nonneg hrest
    rw [List.sum_cons] at h ⊢
    have hrange : Bounds.lowest ≤ a + n ∧ a + n ≤ Bounds.highest := by
      unfold Bounds.lowest
      omega
    rw [List.foldlM_cons, if_pos hrange, ← Int.add_assoc]
    exact ih (by omega) hrest (by omega)

/-- **Numbers that are not negative** are summed up if the whole sum fits. -/
theorem sumOf_eq_ok {ns : List Int} (nonneg : ∀ n ∈ ns, 0 ≤ n) (h : ns.sum ≤ Bounds.highest) :
    Tables.sumOf ns = .ok ns.sum := by
  have hfrom := sum_from_eq_ok (Int.le_refl 0) nonneg (by rwa [Int.zero_add])
  rwa [Int.zero_add] at hfrom

theorem failsOnly_ok {α : Type} (a : α) : FailsOnly (.ok a) := fun _ h => by cases h

theorem FailsOnly.bind {α β : Type} {x : Except StoreError α} {f : α → Except StoreError β}
    (hx : FailsOnly x) (hf : ∀ a, FailsOnly (f a)) : FailsOnly (x >>= f) := by
  cases x with
  | error e =>
    intro e' h
    cases h
    exact hx e rfl
  | ok a => exact hf a

theorem FailsOnly.mapM {α β : Type} {f : α → Except StoreError β} {l : List α}
    (h : ∀ a ∈ l, FailsOnly (f a)) : FailsOnly (l.mapM f) := by
  induction l with
  | nil => exact failsOnly_ok []
  | cons a l ih =>
    obtain ⟨ha, hl⟩ := List.forall_mem_cons.1 h
    rw [List.mapM_cons]
    exact ha.bind fun _ => (ih hl).bind fun _ => failsOnly_ok _

/-- A sum that leaves the range is a failure. -/
theorem failsOnly_sumOf (ns : List Int) : FailsOnly (Tables.sumOf ns) := by
  unfold Tables.sumOf
  generalize (0 : Int) = a
  induction ns generalizing a with
  | nil => exact failsOnly_ok a
  | cons n ns ih =>
    rw [List.foldlM_cons]
    refine FailsOnly.bind ?_ ih
    split
    · exact failsOnly_ok _
    · intro e h
      cases h
      trivial

/-- A part of the rows has a part of the sum. -/
theorem sum_le_of_subset {α : Type} {rows whole : List α} {f : α → Int} (nodup : rows.Nodup)
    (subset : rows ⊆ whole) (nonneg : ∀ r ∈ whole, 0 ≤ f r) :
    (rows.map f).sum ≤ (whole.map f).sum := by
  obtain ⟨part, hperm, hpart⟩ := List.subperm_of_subset nodup subset
  rw [← (hperm.map f).sum_eq]
  exact (hpart.map f).sum_le_sum (List.forall_mem_map.2 nonneg)

/-! ## Counts -/

/-- A live session counts no more messages than there are rows for it, and none of its figures is
negative. -/
structure SessionRow.Counted (t : Tables) (s : SessionRow) : Prop where
  tokenCount : 0 ≤ s.tokenCount
  messageCount : 0 ≤ s.messageCount
  messageCount_le : s.messageCount ≤ (t.rowsOf s.id).length

/-- All live sessions count no more messages than there are. -/
structure Tables.Counted (t : Tables) : Prop where
  of_live : ∀ s ∈ t.sessions, s.isLive = true → s.Counted t

theorem Tables.counted_empty : Tables.Counted {} := ⟨by simp⟩

/-- The rows of a session only become more. -/
theorem Tables.Grows.length_rowsOf_le {t t' : Tables} (h : t.Grows t') (session : String) :
    (t.rowsOf session).length ≤ (t'.rowsOf session).length := by
  have hcount (t : Tables) : (t.rowsOf session).length =
      (t.messages.map MessageRow.key).countP (·.2.2.1 == session) := by
    rw [List.countP_map]
    exact List.countP_eq_length_filter.symm
  rw [hcount, hcount]
  exact h.messages.keys_prefix.sublist.countP_le

/-- A session that keeps its figures keeps no fewer rows. -/
theorem SessionRow.Counted.of_grows {t t' : Tables} {s s' : SessionRow} (h : s.Counted t)
    (hg : t.Grows t') (hid : s.id = s'.id) (hfigures : s.figures = s'.figures) :
    s'.Counted t' := by
  have hcount : s.messageCount = s'.messageCount := congrArg (·.1) hfigures
  have htokens : s.tokenCount = s'.tokenCount := congrArg (·.2.1) hfigures
  have hgrows := hg.length_rowsOf_le s'.id
  obtain ⟨htokens', hcount', hle⟩ := h
  rw [hcount] at hcount' hle
  rw [hid] at hle
  exact ⟨htokens ▸ htokens', hcount', by omega⟩

/-- What a roll-up says is counted. -/
theorem RolledUp.counted {t : Tables} {s : SessionRow} (h : RolledUp t s) (orderly : t.Orderly) :
    s.Counted t where
  tokenCount := by
    rw [h.tokenCount]
    refine List.sum_nonneg (List.forall_mem_map.2 fun m hm => ?_)
    exact orderly.counted m (List.mem_filter.1 hm).1
  messageCount := by
    rw [h.messageCount]
    exact Int.natCast_nonneg _
  messageCount_le := by
    rw [h.messageCount, t.liveIn_eq]
    exact Int.ofNat_le.2 (List.length_filter_le ..)

/-- **One call** keeps what live sessions count within the rows. -/
theorem Tables.Counted.perform {t : Tables} (h : t.Counted) (orderly : t.Orderly) {r : Request}
    (opens : r.OpensAtZero) : (r.perform t).2.Counted := by
  have hg := r.perform_grows t
  have after := orderly.perform r
  refine ⟨fun s hs hlive => ?_⟩
  rcases r.perform_sessions t with ⟨new, rfl, hopened⟩ | ⟨id, now, tokens, -, hrefreshed⟩ | hkeeps
  · rw [hopened.sessions, List.mem_append, List.mem_singleton] at hs
    rcases hs with hs | rfl
    · exact (h.of_live s hs hlive).of_grows hg rfl rfl
    · exact (hopened.rolledUp orderly opens).counted after
  · by_cases hid : s.id = id.text
    · exact (hrefreshed.rolledUp hs hlive hid).counted after
    · rw [hrefreshed.tables] at hs
      rcases mem_changeWhere.1 hs with ⟨s₀, -, hmet, rfl⟩ | ⟨hs, -⟩
      · exact absurd (beq_iff_eq.1 (Bool.and_eq_true_iff.1 hmet).1) hid
      · exact (h.of_live s hs hlive).of_grows hg rfl rfl
  · obtain ⟨s₀, h₀, hlive₀, hid, hfigures⟩ := hkeeps.of_live s hs hlive
    exact (h.of_live s₀ h₀ hlive₀).of_grows hg hid hfigures

/-- **Any number of calls** that open sessions with figures of zero do so too. -/
theorem Trace.counted {ι : Type} {history : List (Event ι)} {t : Tables}
    (trace : Trace {} history t) (opens : ∀ e ∈ history, e.request.OpensAtZero) : t.Counted := by
  have both : t.Orderly ∧ t.Counted := by
    refine trace.invariant (P := fun t => t.Orderly ∧ t.Counted) ⟨.empty, Tables.counted_empty⟩ ?_
    intro e he lawful before
    refine lawful.after_of (P := fun t => t.Orderly ∧ t.Counted) before ⟨?_, ?_⟩
    · exact before.1.perform e.request
    · exact before.2.perform before.1 (opens e he)
  exact both.2

theorem Tables.Counted.of_mem {t : Tables} (h : t.Counted) {user : UserId} {s : SessionRow}
    (hs : s ∈ t.sessionsOf user) : s.Counted t := by
  obtain ⟨hmem, hmet⟩ := List.mem_filter.1 hs
  exact h.of_live s hmem (Bool.and_eq_true_iff.1 hmet).1

/-- The live sessions of a user count no more messages than the store keeps. -/
theorem Tables.Counted.sum_messageCount_le {t : Tables} (h : t.Counted) (keyed : t.Keyed)
    (user : UserId) : ((t.sessionsOf user).map (·.messageCount)).sum ≤ t.messages.length := by
  have hrows : ((t.sessionsOf user).map (·.messageCount)).sum ≤
      ((t.sessionsOf user).flatMap fun s => t.rowsOf s.id).length := by
    have own : ∀ s ∈ t.sessionsOf user, s.Counted t := fun s hs => h.of_mem hs
    generalize t.sessionsOf user = rows at own
    induction rows with
    | nil => simp
    | cons s rows ih =>
      have hs := (own s List.mem_cons_self).messageCount_le
      have hrest := ih fun s hs => own s (List.mem_cons_of_mem _ hs)
      rw [List.map_cons, List.sum_cons, List.flatMap_cons, List.length_append, Int.natCast_add]
      omega
  have hnodup : ((t.sessionsOf user).flatMap fun s => t.rowsOf s.id).Nodup := by
    have distinct : (t.sessionsOf user).Pairwise fun s s' => s.id ≠ s'.id :=
      (List.pairwise_map.1 keyed.sessions).filter _
    refine List.nodup_flatMap.2 ⟨fun s _ => (keyed.messages.of_map _).filter _, ?_⟩
    refine distinct.imp fun hne m hm hm' => hne ?_
    rw [← beq_iff_eq.1 (List.mem_filter.1 hm).2, ← beq_iff_eq.1 (List.mem_filter.1 hm').2]
  have hsubset : ((t.sessionsOf user).flatMap fun s => t.rowsOf s.id) ⊆ t.messages := by
    intro m hm
    obtain ⟨s, -, hm⟩ := List.mem_flatMap.1 hm
    exact (List.mem_filter.1 hm).1
  exact hrows.trans (Int.ofNat_le.2 (List.subperm_of_subset hnodup hsubset).length_le)

/-! ## Figures -/

/-- Sums of tokens fit 64 bits: those over the live sessions of a user, and those over the messages
that are shown to one. So do the numbers of messages. -/
structure Tables.Fits (t : Tables) : Prop where
  sessions : ∀ user, ((t.sessionsOf user).map (·.tokenCount)).sum ≤ Bounds.highest
  messages : ∀ user, ((t.messagesOf user).map (·.tokens)).sum ≤ Bounds.highest
  rows : t.messages.length ≤ Bounds.highest

/-- Sums of tokens of one user fit 64 bits, and so does the number of messages. -/
structure Tables.FitsFor (t : Tables) (user : UserId) : Prop where
  sessions : ((t.sessionsOf user).map (·.tokenCount)).sum ≤ Bounds.highest
  messages : ((t.messagesOf user).map (·.tokens)).sum ≤ Bounds.highest
  rows : t.messages.length ≤ Bounds.highest

theorem Tables.Fits.fitsFor {t : Tables} (h : t.Fits) (user : UserId) : t.FitsFor user :=
  ⟨h.sessions user, h.messages user, h.rows⟩

/-- All sums fit if those over whole tables do. -/
theorem Tables.fits_of_all {t : Tables} (sessions : ∀ s ∈ t.sessions, 0 ≤ s.tokenCount)
    (messages : ∀ m ∈ t.messages, 0 ≤ m.tokens)
    (sessions_le : (t.sessions.map (·.tokenCount)).sum ≤ Bounds.highest)
    (messages_le : (t.messages.map (·.tokens)).sum ≤ Bounds.highest)
    (rows : t.messages.length ≤ Bounds.highest) : t.Fits where
  sessions _ := ((List.filter_sublist.map _).sum_le_sum
    (List.forall_mem_map.2 sessions)).trans sessions_le
  messages _ := ((List.filter_sublist.map _).sum_le_sum
    (List.forall_mem_map.2 messages)).trans messages_le
  rows := rows

section Figures

variable {t : Tables} {user : UserId}

/-- Some of the live sessions of a user. -/
structure Tables.SomeSessions (t : Tables) (user : UserId) (rows : List SessionRow) : Prop where
  nodup : rows.Nodup
  own : rows ⊆ t.sessionsOf user

/-- Some of the messages that are shown to a user. -/
structure Tables.SomeMessages (t : Tables) (user : UserId) (rows : List MessageRow) : Prop where
  nodup : rows.Nodup
  own : rows ⊆ t.messagesOf user

/-- The figures of some sessions of a user are summed up. -/
theorem Tables.SomeSessions.sums {rows : List SessionRow} (part : t.SomeSessions user rows)
    (counted : t.Counted) (keyed : t.Keyed) (fits : t.FitsFor user) :
    (∃ n, sumOf (rows.map (·.messageCount)) = .ok n) ∧
      ∃ n, sumOf (rows.map (·.tokenCount)) = .ok n := by
  have own {s : SessionRow} (hs : s ∈ t.sessionsOf user) : s.Counted t := counted.of_mem hs
  have hmessages : (rows.map (·.messageCount)).sum ≤ Bounds.highest := calc
    _ ≤ ((t.sessionsOf user).map (·.messageCount)).sum :=
      sum_le_of_subset part.nodup part.own fun s hs => (own hs).messageCount
    _ ≤ (t.messages.length : Int) := counted.sum_messageCount_le keyed user
    _ ≤ Bounds.highest := fits.rows
  have htokens : (rows.map (·.tokenCount)).sum ≤ Bounds.highest := calc
    _ ≤ ((t.sessionsOf user).map (·.tokenCount)).sum :=
      sum_le_of_subset part.nodup part.own fun s hs => (own hs).tokenCount
    _ ≤ Bounds.highest := fits.sessions
  exact ⟨⟨_, sumOf_eq_ok (List.forall_mem_map.2 fun s hs => (own (part.own hs)).messageCount)
      hmessages⟩,
    ⟨_, sumOf_eq_ok (List.forall_mem_map.2 fun s hs => (own (part.own hs)).tokenCount) htokens⟩⟩

/-- The figures over messages are computed if their tokens are summed up. -/
theorem Tables.exists_messageStats {rows : List MessageRow} (nonneg : ∀ m ∈ rows, 0 ≤ m.tokens)
    (h : (rows.map (·.tokens)).sum ≤ Bounds.highest) : ∃ stats, messageStats rows = .ok stats := by
  have htokens := sumOf_eq_ok (List.forall_mem_map.2 nonneg) h
  unfold messageStats
  rw [htokens]
  exact ⟨_, rfl⟩

/-- The figures over some messages of a user are computed. -/
theorem Tables.SomeMessages.exists_stats {rows : List MessageRow} (part : t.SomeMessages user rows)
    (orderly : t.Orderly) (fits : t.FitsFor user) : ∃ stats, messageStats rows = .ok stats := by
  have nonneg {m : MessageRow} (hm : m ∈ t.messagesOf user) : 0 ≤ m.tokens :=
    orderly.counted m (List.mem_filter.1 hm).1
  have hsum : (rows.map (·.tokens)).sum ≤ Bounds.highest := calc
    _ ≤ ((t.messagesOf user).map (·.tokens)).sum :=
      sum_le_of_subset part.nodup part.own fun m hm => nonneg hm
    _ ≤ Bounds.highest := fits.messages
  exact exists_messageStats (fun m hm => nonneg (part.own hm)) hsum

/-- Figures over messages can only fail. -/
theorem Tables.failsOnly_messageStats (rows : List MessageRow) : FailsOnly (messageStats rows) := by
  unfold messageStats
  exact (failsOnly_sumOf _).bind fun _ => failsOnly_ok _

/-- Figures over the sessions of a user can only fail. -/
theorem Tables.failsOnly_sessionStats (t : Tables) (user : UserId) :
    FailsOnly (t.sessionStats user) := by
  unfold sessionStats
  exact (failsOnly_sumOf _).bind fun _ => (failsOnly_sumOf _).bind fun _ => failsOnly_ok _

/-- Figures over the sessions of a user, model by model, can only fail. -/
theorem Tables.failsOnly_modelUsage (t : Tables) (user : UserId) :
    FailsOnly (t.modelUsage user) := by
  unfold modelUsage
  refine FailsOnly.bind (FailsOnly.mapM fun model _ => ?_) fun _ => failsOnly_ok _
  unfold usageOf
  exact (failsOnly_sumOf _).bind fun _ => (failsOnly_sumOf _).bind fun _ => failsOnly_ok _

theorem Tables.summed_perm (rows : List SessionRow) : (summed rows).Perm rows :=
  List.mergeSort_perm ..

theorem Tables.Keyed.someSessions (keyed : t.Keyed) :
    t.SomeSessions user (summed (t.sessionsOf user)) where
  nodup := (summed_perm _).nodup_iff.2 ((keyed.sessions.of_map _).filter _)
  own := (summed_perm _).subset

/-- **The figures over the sessions of a user** are computed. -/
theorem Tables.FitsFor.exists_sessionStats (fits : t.FitsFor user) (counted : t.Counted)
    (keyed : t.Keyed) : ∃ stats, t.sessionStats user = .ok stats := by
  have part : t.SomeSessions user (summed (t.sessionsOf user)) := keyed.someSessions
  obtain ⟨⟨messages, hmessages⟩, tokens, htokens⟩ := part.sums counted keyed fits
  unfold sessionStats
  dsimp only
  rw [hmessages, htokens]
  exact ⟨_, rfl⟩

/-- **The figures over the sessions of a user, model by model,** are computed. -/
theorem Tables.FitsFor.exists_modelUsage (fits : t.FitsFor user) (counted : t.Counted)
    (keyed : t.Keyed) : ∃ usage, t.modelUsage user = .ok usage := by
  have entry (model : String) : ∃ usage, usageOf model
      ((summed (t.sessionsOf user)).filter fun s => s.model == model) = .ok usage := by
    have part : t.SomeSessions user
        ((summed (t.sessionsOf user)).filter fun s => s.model == model) :=
      ⟨keyed.someSessions.nodup.filter _,
        fun s hs => keyed.someSessions.own (List.mem_filter.1 hs).1⟩
    obtain ⟨⟨messages, hmessages⟩, tokens, htokens⟩ := part.sums counted keyed fits
    unfold usageOf
    rw [hmessages, htokens]
    exact ⟨_, rfl⟩
  obtain ⟨entries, hentries⟩ := exists_mapM
    (l := ((summed (t.sessionsOf user)).map (·.model)).eraseDups) fun model _ => entry model
  unfold modelUsage
  dsimp only
  rw [hentries]
  exact ⟨_, rfl⟩

theorem Tables.messagesIn_perm (t : Tables) (id : Uuid) :
    (t.messagesIn id).Perm (t.messagesWhere fun s => s.has id) := List.mergeSort_perm ..

/-- The messages of a session are shown to its owner. -/
theorem Tables.Keyed.messagesIn_subset (keyed : t.Keyed) {id : Uuid} {s : SessionRow}
    (hs : s ∈ t.sessions) (hid : s.has id = true) :
    t.messagesIn id ⊆ t.messagesOf ⟨s.owner⟩ := by
  intro m hm
  obtain ⟨hmem, hshown⟩ := List.mem_filter.1 ((t.messagesIn_perm id).mem_iff.1 hm)
  obtain ⟨hlive, s', hs', hid', hopen, hsame⟩ := Tables.shows_eq_true.1 hshown
  have heq := keyed.session_eq hs' hs ((beq_iff_eq.1 hsame).trans (beq_iff_eq.1 hid).symm)
  refine List.mem_filter.2 ⟨hmem, Tables.shows_eq_true.2 ⟨hlive, s', hs', hid', hopen, ?_⟩⟩
  rw [heq]
  exact beq_self_eq_true _

/-- **The figures over the messages of a session** are computed, where these are shown to the user. -/
theorem Tables.FitsFor.exists_sessionMessageStats (fits : t.FitsFor user) (orderly : t.Orderly)
    (keyed : t.Keyed) {id : Uuid} (own : t.messagesIn id ⊆ t.messagesOf user) :
    ∃ stats, t.sessionMessageStats id = .ok stats := by
  have nodup : (t.messagesIn id).Nodup :=
    (t.messagesIn_perm id).nodup_iff.2 ((keyed.messages.of_map _).filter _)
  exact Tables.SomeMessages.exists_stats ⟨nodup, own⟩ orderly fits

/-- The figures over the messages of any session are computed if all sums fit. -/
theorem Tables.Fits.exists_sessionMessageStats (fits : t.Fits) (orderly : t.Orderly)
    (keyed : t.Keyed) (id : Uuid) : ∃ stats, t.sessionMessageStats id = .ok stats := by
  by_cases hknown : ∃ s ∈ t.sessions, s.has id = true
  · obtain ⟨s, hs, hid⟩ := hknown
    exact (fits.fitsFor ⟨s.owner⟩).exists_sessionMessageStats orderly keyed
      (keyed.messagesIn_subset hs hid)
  -- without a session there is no message to count
  · have hnone : t.messagesIn id ⊆ t.messagesOf ⟨0⟩ := by
      intro m hm
      obtain ⟨-, hshown⟩ := List.mem_filter.1 ((t.messagesIn_perm id).mem_iff.1 hm)
      obtain ⟨-, s, hs, -, -, hid⟩ := Tables.shows_eq_true.1 hshown
      exact absurd ⟨s, hs, hid⟩ hknown
    exact (fits.fitsFor ⟨0⟩).exists_sessionMessageStats orderly keyed hnone

/-- **The figures over the messages of a user** are computed. -/
theorem Tables.FitsFor.exists_userMessageStats (fits : t.FitsFor user) (orderly : t.Orderly)
    (keyed : t.Keyed) : ∃ stats, t.userMessageStats user = .ok stats := by
  have live {s : SessionRow} {m : MessageRow} (hm : m ∈ t.kept s.id) :
      m ∈ t.messages ∧ m.isLive = true ∧ m.session = s.id := by
    obtain ⟨hmem, hmet⟩ := List.mem_filter.1 ((t.kept_perm s.id).mem_iff.1 hm)
    obtain ⟨hlive, hsession⟩ := Bool.and_eq_true_iff.1 hmet
    exact ⟨hmem, hlive, beq_iff_eq.1 hsession⟩
  have distinct : (summed (t.sessionsOf user)).Pairwise fun s s' => s.id ≠ s'.id := by
    refine List.pairwise_map.1 (((summed_perm _).map _).nodup_iff.2 ?_)
    exact keyed.sessions.sublist (List.filter_sublist.map _)
  have part : t.SomeMessages user
      ((summed (t.sessionsOf user)).flatMap fun s => t.kept s.id) := by
    refine ⟨List.nodup_flatMap.2 ⟨fun s _ => ?_, ?_⟩, fun m hm => ?_⟩
    · exact (t.kept_perm s.id).nodup_iff.2 ((keyed.messages.of_map _).filter _)
    · refine distinct.imp fun hne m hm hm' => hne ?_
      rw [← (live hm).2.2, ← (live hm').2.2]
    obtain ⟨s, hs, hm⟩ := List.mem_flatMap.1 hm
    obtain ⟨hmem, hopen⟩ := List.mem_filter.1 ((summed_perm _).mem_iff.1 hs)
    obtain ⟨hmine, hlive, hsession⟩ := live hm
    obtain ⟨hslive, howner⟩ := Bool.and_eq_true_iff.1 hopen
    refine List.mem_filter.2 ⟨hmine, Tables.shows_eq_true.2 ⟨hlive, s, hmem, ?_, hslive, howner⟩⟩
    exact hsession.symm
  exact part.exists_stats orderly fits

end Figures

end ChatLedger.Store
