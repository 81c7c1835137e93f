import ChatLedger.Proofs.Chat.FreshAnswers
import ChatLedger.Proofs.Chat.MessageUpdates
import ChatLedger.Proofs.Store.AmountOrder
import ChatLedger.Proofs.Store.Sums
import Mathlib.Algebra.BigOperators.Ring.Finset

/-!
# Figures add up

What the figures over sessions and over messages are, as counts and sums of rows.

1. `perm_flatMap_filter`: rows are those of each key, put together. So the live sessions of a user
   are those of each model, and the messages shown to a user are the live ones of each session
   (`Tables.Keyed.messagesOf_perm`, `Tables.Keyed.sum_messagesOf`).
2. `SessionTally` and `MessageTally`: figures are the counts and sums of some rows. They are
   computed wherever these fit (`SessionsFit`, `MessagesFit`).
3. `SessionsFit.usageAgrees`: the entries of the models of some sessions agree with the figures over
   all of them, whatever the sessions count.
4. `countP_roles`: the messages of the three roles are all messages, since roles are always spelled
   (`Tables.Spelled`).
-/

namespace ChatLedger.Store

/-! ## Rows by their keys -/

section Partition

variable {α κ : Type} [DecidableEq κ]

theorem nodup_eraseDups (keys : List κ) : keys.eraseDups.Nodup := by
  induction hn : keys.length using Nat.strong_induction_on generalizing keys with
  | _ n ih =>
    cases keys with
    | nil => exact List.nodup_nil
    | cons k keys =>
      have hshorter : (keys.filter fun k' => !k' == k).length < n := by
        rw [← hn]
        exact Nat.lt_succ_of_le (List.length_filter_le ..)
      have hk : k ∉ (keys.filter fun k' => !k' == k).eraseDups := by simp
      rw [List.eraseDups_cons]
      exact List.nodup_cons.2 ⟨hk, ih _ hshorter _ rfl⟩

/-- **Rows are those of each key**, put together. -/
theorem perm_flatMap_filter {key : α → κ} {keys : List κ} {rows : List α} (distinct : keys.Nodup)
    (covered : ∀ r ∈ rows, key r ∈ keys) :
    (keys.flatMap fun k => rows.filter fun r => key r == k).Perm rows := by
  induction keys generalizing rows with
  | nil =>
    obtain rfl : rows = [] := List.eq_nil_iff_forall_not_mem.2 fun r hr => by
      simpa using covered r hr
    rfl
  | cons k keys ih =>
    obtain ⟨hk, hkeys⟩ := List.nodup_cons.1 distinct
    have hrest : (keys.flatMap fun k' => rows.filter fun r => key r == k') = keys.flatMap fun k' =>
        (rows.filter fun r => !(key r == k)).filter fun r => key r == k' := by
      refine List.flatMap_congr fun k' hk' => ?_
      rw [List.filter_filter]
      refine List.filter_congr fun r _ => ?_
      have hne : k' ≠ k := fun h => hk (h ▸ hk')
      by_cases h : key r = k' <;> simp [h, hne]
    -- the rows of the first key, and those that are left for the other keys
    have hcovered : ∀ r ∈ rows.filter fun r => !(key r == k), key r ∈ keys := by
      intro r hr
      obtain ⟨hr, hne⟩ := List.mem_filter.1 hr
      exact (List.mem_cons.1 (covered r hr)).resolve_left fun h => by simp [h] at hne
    rw [List.flatMap_cons, hrest]
    exact (List.Perm.append_left _ (ih hkeys hcovered)).trans (List.filter_append_perm ..)

omit [DecidableEq κ] in
/-- A sum over all parts is the sum of the sums over each part. -/
theorem sum_map_flatMap {β : Type} (parts : κ → List β) (f : β → Int) (keys : List κ) :
    ((keys.flatMap parts).map f).sum = (keys.map fun k => ((parts k).map f).sum).sum := by
  rw [List.map_flatMap, List.flatMap_def, List.sum_flatten, List.map_map]
  rfl

theorem length_eq_sum {β : Type} (rows : List β) :
    (rows.length : Int) = (rows.map fun _ => (1 : Int)).sum := by
  rw [List.map_const', List.sum_replicate, nsmul_one]

end Partition

/-- What is computed of each element is computed of all of them. -/
theorem mapM_eq_ok_map {α β : Type} {f : α → Except StoreError β} {g : α → β} {l : List α}
    (h : ∀ a ∈ l, f a = .ok (g a)) : l.mapM f = .ok (l.map g) := by
  induction l with
  | nil => rfl
  | cons a l ih =>
    obtain ⟨ha, hl⟩ := List.forall_mem_cons.1 h
    rw [List.mapM_cons, ha, ih hl]
    rfl

/-! ## Counts and sums of 64 bits -/

theorem toNat_countOf {α : Type} {rows : List α} (h : rows.length ≤ Bounds.highest) :
    (countOf rows).toNat = rows.length := by
  unfold countOf
  rw [UInt64.toNat_ofNat', Nat.mod_eq_of_lt]
  unfold Bounds.highest at h
  omega

theorem toNat_countWhere {α : Type} {condition : α → Bool} {rows : List α}
    (h : rows.length ≤ Bounds.highest) :
    (Tables.countWhere condition rows).toNat = rows.countP condition := by
  have hle := List.countP_le_length (p := condition) (l := rows)
  unfold Tables.countWhere
  rw [UInt64.toNat_ofNat', Nat.mod_eq_of_lt]
  unfold Bounds.highest at h
  omega

/-- The sum of a column that fits, as the store answers with it. -/
theorem sumOf_column {α : Type} {rows : List α} {f : α → Int} (nonneg : ∀ r ∈ rows, 0 ≤ f r)
    (h : (rows.map f).sum ≤ Bounds.highest) : Tables.sumOf (rows.map f) = .ok (rows.map f).sum ∧
      ((UInt64.ofInt (rows.map f).sum).toNat : Int) = (rows.map f).sum := by
  have hsum : 0 ≤ (rows.map f).sum := List.sum_nonneg (List.forall_mem_map.2 nonneg)
  exact ⟨sumOf_eq_ok (List.forall_mem_map.2 nonneg) h, UInt64.toNat_ofInt_of_le hsum h⟩

/-- A total of amounts is a number. -/
theorem number_totalOf (xs : List Float) : (Tables.totalOf xs).isNaN = false := by
  unfold Tables.totalOf
  exact number_of_storedAmount? (storedAmount?_storedAmount (Decimal.compensatedSum xs))

/-! ## Sessions -/

/-- Figures over sessions fit 64 bits, and none is negative. -/
structure SessionsFit (rows : List SessionRow) : Prop where
  messageCount : ∀ s ∈ rows, 0 ≤ s.messageCount
  tokenCount : ∀ s ∈ rows, 0 ≤ s.tokenCount
  sessions : rows.length ≤ Bounds.highest
  messages : (rows.map (·.messageCount)).sum ≤ Bounds.highest
  tokens : (rows.map (·.tokenCount)).sum ≤ Bounds.highest

theorem SessionsFit.perm {rows rows' : List SessionRow} (h : SessionsFit rows)
    (perm : rows'.Perm rows) : SessionsFit rows' where
  messageCount s hs := h.messageCount s (perm.mem_iff.1 hs)
  tokenCount s hs := h.tokenCount s (perm.mem_iff.1 hs)
  sessions := by rw [perm.length_eq]; exact h.sessions
  messages := by rw [(perm.map _).sum_eq]; exact h.messages
  tokens := by rw [(perm.map _).sum_eq]; exact h.tokens

theorem SessionsFit.filter {rows : List SessionRow} (h : SessionsFit rows)
    (condition : SessionRow → Bool) : SessionsFit (rows.filter condition) where
  messageCount s hs := h.messageCount s (List.mem_filter.1 hs).1
  tokenCount s hs := h.tokenCount s (List.mem_filter.1 hs).1
  sessions := Int.le_trans (Int.ofNat_le.2 (List.length_filter_le ..)) h.sessions
  messages := ((List.filter_sublist.map _).sum_le_sum
    (List.forall_mem_map.2 h.messageCount)).trans h.messages
  tokens := ((List.filter_sublist.map _).sum_le_sum
    (List.forall_mem_map.2 h.tokenCount)).trans h.tokens

/-- The numbers are those of sessions, and of the messages and tokens that these count. -/
structure SessionTally (rows : List SessionRow) (sessions messages tokens : UInt64) : Prop where
  sessions : (sessions.toNat : Int) = rows.length
  messages : (messages.toNat : Int) = (rows.map (·.messageCount)).sum
  tokens : (tokens.toNat : Int) = (rows.map (·.tokenCount)).sum

theorem SessionTally.perm {rows rows' : List SessionRow} {sessions messages tokens : UInt64}
    (h : SessionTally rows sessions messages tokens) (perm : rows.Perm rows') :
    SessionTally rows' sessions messages tokens where
  sessions := by rw [h.sessions, perm.length_eq]
  messages := by rw [h.messages, (perm.map _).sum_eq]
  tokens := by rw [h.tokens, (perm.map _).sum_eq]

/-- Sessions whose figures fit are tallied up. -/
theorem SessionsFit.tally {rows : List SessionRow} (fit : SessionsFit rows) :
    SessionTally rows (countOf rows) (UInt64.ofInt (rows.map (·.messageCount)).sum)
      (UInt64.ofInt (rows.map (·.tokenCount)).sum) where
  sessions := congrArg Int.ofNat (toNat_countOf fit.sessions)
  messages := (sumOf_column fit.messageCount fit.messages).2
  tokens := (sumOf_column fit.tokenCount fit.tokens).2

/-- The sessions of one model. -/
def ofModel (rows : List SessionRow) (model : String) : List SessionRow :=
  rows.filter fun s => s.model == model

/-- The entry of a model. -/
def entryOf (rows : List SessionRow) (model : String) : ModelUsage where
  model := model
  sessions := countOf (ofModel rows model)
  messages := UInt64.ofInt ((ofModel rows model).map (·.messageCount)).sum
  tokens := UInt64.ofInt ((ofModel rows model).map (·.tokenCount)).sum
  cost := Tables.totalOf ((ofModel rows model).map (·.totalCost))

theorem SessionsFit.usageOf {rows : List SessionRow} (fit : SessionsFit rows) (model : String) :
    Tables.usageOf model (rows.filter fun s => s.model == model) = .ok (entryOf rows model) := by
  have part := fit.filter fun s => s.model == model
  unfold Tables.usageOf
  rw [(sumOf_column part.messageCount part.messages).1,
    (sumOf_column part.tokenCount part.tokens).1]
  rfl

/-- The entries of all models, in order. -/
def entriesOf (rows : List SessionRow) : List ModelUsage :=
  ((rows.map (·.model)).eraseDups.map (entryOf rows)).mergeSort Tables.dearerFirst

theorem models_entriesOf (rows : List SessionRow) :
    ((entriesOf rows).map (·.model)).Perm (rows.map (·.model)).eraseDups := by
  refine ((List.mergeSort_perm ..).map _).trans (.of_eq ?_)
  rw [List.map_map]
  exact List.map_id' _

/-- A column of the entries adds up to the column over all sessions. -/
theorem sum_entriesOf {rows : List SessionRow} {f : SessionRow → Int} {n : ModelUsage → UInt64}
    (column : ∀ model,
      ((n (entryOf rows model)).toNat : Int) = ((ofModel rows model).map f).sum) :
    (((entriesOf rows).map fun u => (n u).toNat).sum : Int) = (rows.map f).sum := by
  have covered : ∀ s ∈ rows, s.model ∈ (rows.map (·.model)).eraseDups := fun s hs =>
    List.mem_eraseDups.2 (List.mem_map_of_mem hs)
  have parts : ((rows.map (·.model)).eraseDups.flatMap (ofModel rows)).Perm rows :=
    perm_flatMap_filter (nodup_eraseDups _) covered
  have hperm : (entriesOf rows).Perm ((rows.map (·.model)).eraseDups.map (entryOf rows)) :=
    List.mergeSort_perm ..
  rw [(hperm.map _).sum_eq, List.map_map, Nat.cast_list_sum, List.map_map, ← (parts.map f).sum_eq,
    sum_map_flatMap]
  exact congrArg List.sum (List.map_congr_left fun model _ => column model)

/-- The entries are those of the models of the sessions, each model once, the dearer first and of
two as dear the one whose name comes first. Their numbers add up to those over all sessions. -/
structure UsageAgrees (rows : List SessionRow) (stats : SessionStats) (usage : List ModelUsage) :
    Prop where
  once : (usage.map (·.model)).Nodup
  mem_iff : ∀ model, model ∈ usage.map (·.model) ↔ ∃ s ∈ rows, s.model = model
  sorted : usage.Pairwise Tables.DearerOrNamedFirst
  sessions : (usage.map (·.sessions.toNat)).sum = stats.sessions.toNat
  messages : (usage.map (·.messages.toNat)).sum = stats.messages.toNat
  tokens : (usage.map (·.tokens.toNat)).sum = stats.tokens.toNat

/-- **The entries of the models agree** with the figures over all sessions. -/
theorem SessionsFit.usageAgrees {rows rows' : List SessionRow} {stats : SessionStats}
    (fit : SessionsFit rows) (perm : rows.Perm rows')
    (tally : SessionTally rows' stats.sessions stats.messages stats.tokens) :
    UsageAgrees rows' stats (entriesOf rows) := by
  have models := models_entriesOf rows
  have distinct : ((entriesOf rows).map (·.model)).Nodup :=
    models.nodup_iff.2 (nodup_eraseDups _)
  have whole := tally.perm perm.symm
  have part (model : String) := (fit.filter fun s => s.model == model).tally
  constructor
  case once => exact distinct
  case mem_iff =>
    intro model
    rw [models.mem_iff, List.mem_eraseDups, List.mem_map]
    simp only [perm.mem_iff]
  case sorted =>
    apply Tables.pairwise_dearerFirst
    · intro u hu
      obtain ⟨model, -, rfl⟩ := List.mem_map.1 hu
      exact number_totalOf _
    · exact ((List.mergeSort_perm ..).map _).nodup_iff.1 distinct
  case sessions =>
    have hsum := sum_entriesOf (n := (·.sessions)) (f := fun _ => 1) fun model =>
      (part model).sessions.trans (length_eq_sum _)
    rw [← length_eq_sum, ← whole.sessions] at hsum
    exact Int.ofNat_inj.1 hsum
  case messages =>
    have hsum := sum_entriesOf (n := (·.messages)) fun model => (part model).messages
    exact Int.ofNat_inj.1 (hsum.trans whole.messages.symm)
  case tokens =>
    have hsum := sum_entriesOf (n := (·.tokens)) fun model => (part model).tokens
    exact Int.ofNat_inj.1 (hsum.trans whole.tokens.symm)

section Answers

variable {t : Tables} {user : UserId}

/-- The numbers of the live sessions of a user, and of the messages and tokens that these count, fit
64 bits. -/
structure Tables.SessionSumsFit (t : Tables) (user : UserId) : Prop where
  sessions : (t.sessionsOf user).length ≤ Bounds.highest
  messages : ((t.sessionsOf user).map (·.messageCount)).sum ≤ Bounds.highest
  tokens : ((t.sessionsOf user).map (·.tokenCount)).sum ≤ Bounds.highest

instance (t : Tables) (user : UserId) : Decidable (t.SessionSumsFit user) :=
  decidable_of_iff ((t.sessionsOf user).length ≤ Bounds.highest ∧
      ((t.sessionsOf user).map (·.messageCount)).sum ≤ Bounds.highest ∧
      ((t.sessionsOf user).map (·.tokenCount)).sum ≤ Bounds.highest)
    ⟨fun ⟨sessions, messages, tokens⟩ => ⟨sessions, messages, tokens⟩,
      fun h => ⟨h.sessions, h.messages, h.tokens⟩⟩

theorem Tables.SessionSumsFit.summed (fits : t.SessionSumsFit user) (counted : t.Counted) :
    SessionsFit (summed (t.sessionsOf user)) := by
  have fit : SessionsFit (t.sessionsOf user) :=
    ⟨fun s hs => (counted.of_mem hs).messageCount, fun s hs => (counted.of_mem hs).tokenCount,
      fits.sessions, fits.messages, fits.tokens⟩
  exact fit.perm (summed_perm _)

/-- **The figures over the sessions of a user** count and sum up these sessions. -/
theorem Tables.SessionSumsFit.sessionStats (fits : t.SessionSumsFit user) (counted : t.Counted) :
    ∃ stats, t.sessionStats user = .ok stats ∧
      SessionTally (t.sessionsOf user) stats.sessions stats.messages stats.tokens := by
  have fit := fits.summed counted
  unfold Tables.sessionStats
  dsimp only
  rw [(sumOf_column fit.messageCount fit.messages).1, (sumOf_column fit.tokenCount fit.tokens).1]
  exact ⟨_, rfl, fit.tally.perm (summed_perm _)⟩

/-- **The figures model by model** are the entries of the models. -/
theorem Tables.SessionSumsFit.modelUsage (fits : t.SessionSumsFit user) (counted : t.Counted) :
    t.modelUsage user = .ok (entriesOf (Tables.summed (t.sessionsOf user))) := by
  have fit := fits.summed counted
  unfold Tables.modelUsage
  dsimp only
  rw [mapM_eq_ok_map fun model _ => fit.usageOf model]
  rfl

end Answers

/-! ## Messages -/

/-- Every message has one of the three roles, and every session an identifier. -/
structure Tables.Spelled (t : Tables) : Prop where
  roles : ∀ m ∈ t.messages, ∃ role : MessageRole, m.role = Vocabulary.word role
  named : ∀ s ∈ t.sessions, ∃ id : Uuid, s.id = id.text

theorem Tables.spelled_empty : Tables.Spelled {} := by
  constructor <;> simp

/-- **One call** leaves roles and identifiers spelled. -/
theorem Tables.Spelled.perform {t : Tables} (h : t.Spelled) (r : Request) :
    (r.perform t).2.Spelled where
  roles := r.perform_forall_messages h.roles (fun _ m _ => ⟨m.role, rfl⟩) (fun _ _ _ _ _ hm => hm)
    fun _ _ hm => hm
  named := by
    have step := r.perform_chat t
    generalize (r.perform t).2 = t' at step ⊢
    cases step with
    | apart sessions messages => exact sessions ▸ h.named
    | @createSession s fresh => exact forall_concat h.named ⟨s.id, rfl⟩
    | updateSessionTopic | setSessionStatus | deleteSession | deleteUserSessions | refreshRollup =>
      exact forall_changeWhere h.named fun _ hs => hs
    | _ => exact h.named

/-- **Any number of calls** do so too. -/
theorem Trace.spelled {ι : Type} {history : List (Event ι)} {t : Tables}
    (trace : Trace {} history t) : t.Spelled :=
  trace.invariant Tables.spelled_empty fun e _ lawful h => lawful.after_of h (h.perform e.request)

/-- Figures over messages fit 64 bits, none is negative, and every message has one of the roles. -/
structure MessagesFit (rows : List MessageRow) : Prop where
  roles : ∀ m ∈ rows, ∃ role : MessageRole, m.role = Vocabulary.word role
  nonneg : ∀ m ∈ rows, 0 ≤ m.tokens
  messages : rows.length ≤ Bounds.highest
  tokens : (rows.map (·.tokens)).sum ≤ Bounds.highest

theorem MessagesFit.perm {rows rows' : List MessageRow} (h : MessagesFit rows)
    (perm : rows'.Perm rows) : MessagesFit rows' where
  roles m hm := h.roles m (perm.mem_iff.1 hm)
  nonneg m hm := h.nonneg m (perm.mem_iff.1 hm)
  messages := by rw [perm.length_eq]; exact h.messages
  tokens := by rw [(perm.map _).sum_eq]; exact h.tokens

theorem MessagesFit.sublist {rows rows' : List MessageRow} (h : MessagesFit rows)
    (part : rows'.Sublist rows) : MessagesFit rows' where
  roles m hm := h.roles m (part.subset hm)
  nonneg m hm := h.nonneg m (part.subset hm)
  messages := Int.le_trans (Int.ofNat_le.2 part.length_le) h.messages
  tokens := ((part.map _).sum_le_sum (List.forall_mem_map.2 h.nonneg)).trans h.tokens

/-- The messages of each role are all messages. -/
theorem countP_roles {rows : List MessageRow}
    (h : ∀ m ∈ rows, ∃ role : MessageRole, m.role = Vocabulary.word role) :
    rows.countP (fun m => m.role == Vocabulary.word MessageRole.user) +
        rows.countP (fun m => m.role == Vocabulary.word MessageRole.assistant) +
        rows.countP (fun m => m.role == Vocabulary.word MessageRole.system) = rows.length := by
  have apart (role role' : MessageRole) :
      (Vocabulary.word role == Vocabulary.word role') = decide (role = role') := by
    cases role <;> cases role' <;> decide
  induction rows with
  | nil => rfl
  | cons m rows ih =>
    obtain ⟨⟨role, hrole⟩, hrest⟩ := List.forall_mem_cons.1 h
    have hrows := ih hrest
    simp only [List.countP_cons, List.length_cons, hrole, apart]
    cases role <;> simp <;> omega

/-- The figures are those over the rows: their number and their tokens, and the numbers of the three
roles, which add up to their number. -/
structure MessageTally (rows : List MessageRow) (stats : MessageStats) : Prop where
  messages : (stats.messages.toNat : Int) = rows.length
  tokens : (stats.tokens.toNat : Int) = (rows.map (·.tokens)).sum
  roles : stats.userMessages.toNat + stats.assistantMessages.toNat + stats.systemMessages.toNat =
    stats.messages.toNat

theorem MessageTally.perm {rows rows' : List MessageRow} {stats : MessageStats}
    (h : MessageTally rows stats) (perm : rows.Perm rows') : MessageTally rows' stats where
  messages := by rw [h.messages, perm.length_eq]
  tokens := by rw [h.tokens, (perm.map _).sum_eq]
  roles := h.roles

/-- **Messages that fit** are tallied up. -/
theorem MessagesFit.exists_stats {rows : List MessageRow} (fit : MessagesFit rows) :
    ∃ stats, Tables.messageStats rows = .ok stats ∧ MessageTally rows stats := by
  obtain ⟨hsum, htokens⟩ := sumOf_column fit.nonneg fit.tokens
  unfold Tables.messageStats
  rw [hsum]
  refine ⟨_, rfl, congrArg Int.ofNat (toNat_countOf fit.messages), htokens, ?_⟩
  show (Tables.countWhere _ rows).toNat + (Tables.countWhere _ rows).toNat +
    (Tables.countWhere _ rows).toNat = (countOf rows).toNat
  rw [toNat_countWhere fit.messages, toNat_countWhere fit.messages, toNat_countWhere fit.messages,
    toNat_countOf fit.messages]
  exact countP_roles fit.roles

section Messages

variable {t : Tables} {user : UserId}

/-- The number of the messages that are shown to a user and the sum of their tokens fit 64 bits. -/
structure Tables.MessageSumsFit (t : Tables) (user : UserId) : Prop where
  messages : (t.messagesOf user).length ≤ Bounds.highest
  tokens : ((t.messagesOf user).map (·.tokens)).sum ≤ Bounds.highest

instance (t : Tables) (user : UserId) : Decidable (t.MessageSumsFit user) :=
  decidable_of_iff ((t.messagesOf user).length ≤ Bounds.highest ∧
      ((t.messagesOf user).map (·.tokens)).sum ≤ Bounds.highest)
    ⟨fun ⟨messages, tokens⟩ => ⟨messages, tokens⟩, fun h => ⟨h.messages, h.tokens⟩⟩

/-- The messages of a live session are those shown to its owner that belong to it. -/
theorem Tables.liveIn_eq_filter {s : SessionRow} (hs : s ∈ t.sessionsOf user) :
    t.liveIn s.id = (t.messagesOf user).filter fun m => m.session == s.id := by
  unfold Tables.liveIn Tables.messagesOf Tables.messagesWhere
  rw [List.filter_filter]
  refine List.filter_congr fun m _ => ?_
  obtain ⟨hmem, hmet⟩ := List.mem_filter.1 hs
  obtain ⟨hlive, howner⟩ := Bool.and_eq_true_iff.1 hmet
  rw [Bool.eq_iff_iff, Bool.and_eq_true, Bool.and_eq_true, Tables.shows_eq_true, beq_iff_eq]
  exact ⟨fun ⟨hm, hid⟩ => ⟨hid, hm, s, hmem, hid.symm, hlive, howner⟩,
    fun ⟨hid, hm, _⟩ => ⟨hm, hid⟩⟩

/-- **The messages shown to a user** are the live ones of each session, put together. -/
theorem Tables.Keyed.messagesOf_perm (keyed : t.Keyed) (user : UserId) :
    ((t.sessionsOf user).flatMap fun s => t.liveIn s.id).Perm (t.messagesOf user) := by
  have distinct : ((t.sessionsOf user).map (·.id)).Nodup :=
    keyed.sessions.sublist (List.filter_sublist.map _)
  have covered : ∀ m ∈ t.messagesOf user, m.session ∈ (t.sessionsOf user).map (·.id) := by
    intro m hm
    obtain ⟨-, s, hs, hid, hlive, howner⟩ :=
      Tables.shows_eq_true.1 (List.mem_filter.1 hm).2
    exact List.mem_map.2 ⟨s, List.mem_filter.2 ⟨hs, Bool.and_eq_true_iff.2 ⟨hlive, howner⟩⟩, hid⟩
  rw [List.flatMap_congr fun s hs => Tables.liveIn_eq_filter hs,
    ← List.flatMap_map (fun s : SessionRow => s.id) fun id =>
      (t.messagesOf user).filter fun m => m.session == id]
  exact perm_flatMap_filter distinct covered

/-- A column over the messages shown to a user is summed up session by session. -/
theorem Tables.Keyed.sum_messagesOf (keyed : t.Keyed) (user : UserId) (f : MessageRow → Int) :
    ((t.messagesOf user).map f).sum =
      ((t.sessionsOf user).map fun s => ((t.liveIn s.id).map f).sum).sum := by
  rw [← ((keyed.messagesOf_perm user).map f).sum_eq]
  exact sum_map_flatMap ..

/-- The messages listed for a live session are the ones kept for it. -/
theorem Tables.messagesIn_eq {s : SessionRow} {id : Uuid} (hs : s ∈ t.sessions)
    (hlive : s.isLive = true) (hid : s.id = id.text) : t.messagesIn id = t.kept s.id := by
  unfold Tables.messagesIn Tables.kept Tables.messagesWhere
  refine congrArg (oldestFirst _) (List.filter_congr fun m _ => ?_)
  rw [Bool.eq_iff_iff, Bool.and_eq_true, Tables.shows_eq_true, beq_iff_eq]
  constructor
  · rintro ⟨hm, s', -, hsession, -, hid'⟩
    exact ⟨hm, by rw [← hsession, beq_iff_eq.1 hid', hid]⟩
  · rintro ⟨hm, hsession⟩
    exact ⟨hm, s, hs, hsession.symm, hlive, beq_iff_eq.2 hid⟩

variable (fits : t.MessageSumsFit user) (orderly : t.Orderly) (spelled : t.Spelled)

include fits orderly spelled

theorem Tables.MessageSumsFit.shown : MessagesFit (t.messagesOf user) where
  roles m hm := spelled.roles m (List.mem_filter.1 hm).1
  nonneg m hm := orderly.counted m (List.mem_filter.1 hm).1
  messages := fits.messages
  tokens := fits.tokens

/-- **The figures over the messages of a user** are those over all messages shown to the user. -/
theorem Tables.MessageSumsFit.userMessageStats (keyed : t.Keyed) :
    ∃ stats, t.userMessageStats user = .ok stats ∧ MessageTally (t.messagesOf user) stats := by
  have perm : ((summed (t.sessionsOf user)).flatMap fun s => t.kept s.id).Perm
      (t.messagesOf user) :=
    ((summed_perm _).flatMap fun s _ => t.kept_perm s.id).trans (keyed.messagesOf_perm user)
  obtain ⟨stats, hstats, tally⟩ := ((fits.shown orderly spelled).perm perm).exists_stats
  exact ⟨stats, hstats, tally.perm perm⟩

/-- **The figures over the messages of a session** are those over its live messages. -/
theorem Tables.MessageSumsFit.sessionMessageStats {s : SessionRow} (hs : s ∈ t.sessionsOf user)
    {id : Uuid} (hid : s.id = id.text) :
    ∃ stats, t.sessionMessageStats id = .ok stats ∧ MessageTally (t.liveIn s.id) stats := by
  obtain ⟨hmem, hmet⟩ := List.mem_filter.1 hs
  have part : (t.liveIn s.id).Sublist (t.messagesOf user) := by
    rw [Tables.liveIn_eq_filter hs]
    exact List.filter_sublist
  have fit := ((fits.shown orderly spelled).sublist part).perm (t.kept_perm s.id)
  obtain ⟨stats, hstats, tally⟩ := fit.exists_stats
  unfold Tables.sessionMessageStats
  rw [Tables.messagesIn_eq hmem (Bool.and_eq_true_iff.1 hmet).1 hid]
  exact ⟨stats, hstats, tally.perm (t.kept_perm s.id)⟩

end Messages

end ChatLedger.Store
