import ChatLedger.Proofs.Store.Changes
import ChatLedger.Proofs.Store.Interleaving
import Mathlib.Data.List.Nodup

/-!
# Rows persist

No store call removes a row, moves it, or touches the columns that say which record it keeps.

1. The `key` of a row is its number with the columns that are written once, when it is added.
2. `Request.perform_edits`: a call changes rows in place or adds one row at the end of one table,
   with the next number. It meets only rows that are open, so that deleted rows stay as they are.
3. Hence tables only ever extend earlier ones (`Extends`), rows are numbered from one on
   (`Numbered`), and no two sessions or messages share an identifier (`Keyed`).
-/

namespace ChatLedger.Store

/-! ## Keys -/

/-- What never changes of a session. -/
def SessionRow.key (r : SessionRow) : Nat × String × Int × String × Int × String :=
  (r.row, r.id, r.owner, r.model, r.channel, r.createdAt)

/-- What never changes of a message. -/
def MessageRow.key (r : MessageRow) : Nat × String × String × String × String :=
  (r.row, r.id, r.session, r.role, r.createdAt)

/-- What never changes of a subscription. -/
def SubscriptionRow.key (r : SubscriptionRow) : Nat × Int × String × String :=
  (r.row, r.creator, r.topic, r.createdAt)

/-- What never changes of a link. -/
def LinkRow.key (r : LinkRow) : Nat × Int × Int × String :=
  (r.row, r.user, r.subscription, r.createdAt)

/-- What never changes of an article: all but its state. -/
def ArticleRow.key (r : ArticleRow) : Nat × ArticleRow :=
  (r.row, { r with state := "", updatedAt := "" })

/-! ## What can be written to, and what is unique -/

/-- No two sessions share an identifier. -/
def SessionRow.Apart (r new : SessionRow) : Prop := r.id ≠ new.id

/-- No two messages share an identifier. -/
def MessageRow.Apart (r new : MessageRow) : Prop := r.id ≠ new.id

/-- A topic has no second active subscription. -/
def SubscriptionRow.Apart (r new : SubscriptionRow) : Prop :=
  ¬ (r.topic = new.topic ∧ r.isActive = true)

/-- A user has no second link to a subscription. -/
def LinkRow.Apart (r new : LinkRow) : Prop :=
  ¬ (r.user = new.user ∧ r.subscription = new.subscription)

/-! ## One call -/

section Edit

variable {α κ : Type} {key : α → Nat × κ} {isOpen : α → Bool} {Apart : α → α → Prop}
  {rows rows' : List α}

/-- What a call can do to a table: leave it alone, change open rows in place without their keys, or
add one row at the end, with the next number and apart from all others. -/
inductive Edit (key : α → Nat × κ) (isOpen : α → Bool) (Apart : α → α → Prop) (rows : List α) :
    List α → Prop where
  | keep : Edit key isOpen Apart rows rows
  | change {condition : α → Bool} {change : α → α}
      (met : ∀ r, condition r = true → isOpen r = true) (same : ∀ r, key (change r) = key r) :
      Edit key isOpen Apart rows (changeWhere condition change rows)
  | add {new : α} (number : (key new).1 = nextRow rows) (apart : ∀ r ∈ rows, Apart r new) :
      Edit key isOpen Apart rows (rows ++ [new])

/-- A row that is not open stays as it is, at its place. -/
theorem Edit.getElem?_of_closed (h : Edit key isOpen Apart rows rows') {i : Nat} {r : α}
    (hr : rows[i]? = some r) (hclosed : isOpen r = false) : rows'[i]? = some r := by
  cases h with
  | keep => exact hr
  | @change condition change met same =>
    have hmissed : condition r = false := by
      by_contra hmet
      rw [met r (Bool.not_eq_false _ ▸ hmet)] at hclosed
      cases hclosed
    simp [changeWhere, hr, hmissed]
  | add number apart =>
    rw [List.getElem?_append_left (List.getElem?_eq_some_iff.1 hr).1]
    exact hr

/-- An open row was open before, under the same key, or has just been added. -/
theorem Edit.mem_of_open (h : Edit key isOpen Apart rows rows') {r : α} (hr : r ∈ rows')
    (hopen : isOpen r = true) :
    (∃ r₀ ∈ rows, isOpen r₀ = true ∧ key r₀ = key r) ∨ rows' = rows ++ [r] := by
  cases h with
  | keep => exact .inl ⟨r, hr, hopen, rfl⟩
  | change met same =>
    rcases mem_changeWhere.1 hr with ⟨r₀, h₀, hmet, rfl⟩ | ⟨h₀, -⟩
    · exact .inl ⟨r₀, h₀, met r₀ hmet, (same r₀).symm⟩
    · exact .inl ⟨r, h₀, hopen, rfl⟩
  | add number apart =>
    rcases List.mem_append.1 hr with h₀ | hnew
    · exact .inl ⟨r, h₀, hopen, rfl⟩
    · exact .inr (by rw [List.mem_singleton.1 hnew])

/-- A column among the keys in which rows are apart has no value twice. -/
theorem Edit.nodup {β : Type} {column : α → β} (h : Edit key isOpen Apart rows rows')
    (ofKey : ∀ a b, key a = key b → column a = column b)
    (ofApart : ∀ a b, Apart a b → column a ≠ column b) (hnodup : (rows.map column).Nodup) :
    (rows'.map column).Nodup := by
  cases h with
  | keep => exact hnodup
  | change met same =>
    rw [map_changeWhere fun r => ofKey _ _ (same r)]
    exact hnodup
  | @add new number apart =>
    rw [List.map_append]
    refine List.Nodup.append hnodup (List.nodup_singleton _) ?_
    intro value hvalue hnew
    obtain ⟨r, hr, rfl⟩ := List.mem_map.1 hvalue
    exact ofApart r new (apart r hr) (List.mem_singleton.1 hnew)

/-- The same for the open rows, where only those have to be apart from new ones. -/
theorem Edit.nodup_open {β : Type} {column : α → β} (h : Edit key isOpen Apart rows rows')
    (ofKey : ∀ a b, key a = key b → column a = column b)
    (ofApart : ∀ a b, Apart a b → isOpen a = true → column a ≠ column b)
    (hnodup : ((rows.filter isOpen).map column).Nodup) :
    ((rows'.filter isOpen).map column).Nodup := by
  cases h with
  | keep => exact hnodup
  | @change condition change met same =>
    refine hnodup.sublist ?_
    clear hnodup
    -- rows may close, but none opens
    induction rows with
    | nil => exact List.Sublist.refl _
    | cons r rows ih =>
      rw [changeWhere, List.map_cons]
      have hcolumn : column (if condition r = true then change r else r) = column r := by
        split
        · exact ofKey _ _ (same r)
        · rfl
      cases hopen : isOpen r with
      | true =>
        rw [List.filter_cons_of_pos hopen, List.map_cons]
        cases hopen' : isOpen (if condition r = true then change r else r) with
        | true =>
          rw [List.filter_cons_of_pos hopen', List.map_cons, hcolumn]
          exact ih.cons_cons _
        | false =>
          rw [List.filter_cons_of_neg (by simp [hopen'])]
          exact ih.cons _
      | false =>
        have hmissed : ¬ condition r = true := fun hmet => by
          rw [met r hmet] at hopen
          cases hopen
        rw [if_neg hmissed, List.filter_cons_of_neg (by simp [hopen]),
          List.filter_cons_of_neg (by simp [hopen])]
        exact ih
  | @add new number apart =>
    rw [List.filter_append, List.map_append]
    refine List.Nodup.append hnodup ?_ ?_
    · cases hopen : isOpen new <;> simp [hopen]
    · intro value hvalue hnew
      obtain ⟨r, hr, rfl⟩ := List.mem_map.1 hvalue
      obtain ⟨hmem, hopen⟩ := List.mem_filter.1 hr
      obtain ⟨r', hr', hsame⟩ := List.mem_map.1 hnew
      rw [List.mem_singleton.1 (List.mem_filter.1 hr').1] at hsame
      exact ofApart r new (apart r hmem) hopen hsame.symm

end Edit

/-- What a call can do to each of the tables. -/
structure Tables.Edits (t t' : Tables) : Prop where
  sessions :
    Edit SessionRow.key SessionRow.isLive SessionRow.Apart t.sessions t'.sessions
  messages :
    Edit MessageRow.key MessageRow.isLive MessageRow.Apart t.messages t'.messages
  subscriptions :
    Edit SubscriptionRow.key SubscriptionRow.isActive SubscriptionRow.Apart t.subscriptions
      t'.subscriptions
  links : Edit LinkRow.key (fun _ => true) LinkRow.Apart t.links t'.links
  articles : Edit ArticleRow.key ArticleRow.isLive (fun _ _ => True) t.articles t'.articles

theorem Tables.Edits.refl (t : Tables) : t.Edits t := ⟨.keep, .keep, .keep, .keep, .keep⟩

open Tables in
/-- **One call.** A store call changes only rows that are open, keeps all keys, and adds at most one
row to a table. -/
theorem Request.perform_edits (r : Request) (t : Tables) : t.Edits (r.perform t).2 := by
  have keep := Tables.Edits.refl t
  have second (a b : Bool) (h : (a && b) = true) : b = true := (Bool.and_eq_true_iff.1 h).2
  cases r with
  | createSession session =>
    refine settle_tables keep fun a t' h => ?_
    obtain ⟨fresh, rfl⟩ := insertSession_ok h
    refine { keep with sessions := .add rfl fun r hr hid => ?_ }
    exact absurd (fresh r hr) (by simp [SessionRow.has, hid, SessionRow.ofSession])
  | updateSessionTopic id topic now =>
    refine settle_tables keep fun a t' h => ?_
    rw [changeSession_ok h]
    exact { keep with sessions := .change (fun _ => second _ _) fun _ => rfl }
  | setSessionStatus id status now =>
    refine settle_tables keep fun a t' h => ?_
    rw [changeSession_ok h]
    exact { keep with sessions := .change (fun _ => second _ _) fun _ => rfl }
  | deleteSession id now =>
    refine settle_tables keep fun a t' h => ?_
    rw [deleteSession_ok h]
    exact { keep with
      sessions := .change (fun _ => second _ _) fun _ => rfl
      messages := .change (fun _ => second _ _) fun _ => rfl }
  | deleteUserSessions user now =>
    refine settle_tables keep fun a t' h => ?_
    rw [deleteSessionsOf_ok h]
    exact { keep with
      sessions := .change (fun _ h => (Bool.and_eq_true_iff.1 h).1) fun _ => rfl
      messages := .change (fun _ => second _ _) fun _ => rfl }
  | refreshRollup session now =>
    refine settle_tables keep fun a t' h => ?_
    rcases refreshRollup_ok h with ⟨-, rfl⟩ | ⟨tokens, -, -, -, rfl⟩
    · exact keep
    · exact { keep with sessions := .change (fun _ => second _ _) fun _ => rfl }
  | insertMessage message =>
    refine settle_tables keep fun a t' h => ?_
    obtain ⟨fresh, -, rfl⟩ := insertMessage_ok h
    refine { keep with messages := .add rfl fun r hr hid => ?_ }
    exact absurd (fresh r hr) (by simp [MessageRow.has, hid, MessageRow.ofMessage])
  | updateMessage id update now =>
    refine settleRow_tables keep fun a t' h => ?_
    obtain ⟨-, -, -, -, -, rfl⟩ := updateMessage_ok h
    exact { keep with messages := .change (fun _ => second _ _) fun _ => rfl }
  | deleteMessage id now =>
    refine settle_tables keep fun a t' h => ?_
    rw [deleteMessage_ok h]
    exact { keep with messages := .change (fun _ => second _ _) fun _ => rfl }
  | createSubscription input now =>
    refine settle_tables keep fun a t' h => ?_
    have unlinked : ∀ l ∈ t.links,
        l.joins input.creator (nextRow t.subscriptions) = false := by
      have h := h
      simp only [insertSubscription, bind_eq_ok] at h
      obtain ⟨-, -, ⟨link, t₁⟩, hlink, -⟩ := h
      exact (insertLink_ok hlink).1
    obtain ⟨fresh, -, -, rfl⟩ := insertSubscription_ok h
    refine { keep with
      subscriptions := .add rfl fresh
      links := .add rfl fun l hl hjoins => absurd (unlinked l hl) ?_ }
    simpa [LinkRow.joins, linkRow] using hjoins
  | insertLink user subscription now =>
    refine settle_tables keep fun a t' h => ?_
    obtain ⟨fresh, -, -, rfl⟩ := insertLink_ok h
    refine { keep with links := .add rfl fun l hl hjoins => absurd (fresh l hl) ?_ }
    simpa [LinkRow.joins, linkRow] using hjoins
  | changeLink id expected wanted now =>
    refine settle_tables keep fun a t' h => ?_
    rw [(changeLink_ok h).2]
    exact { keep with links := .change (fun _ _ => rfl) fun _ => rfl }
  | updateDescription id description now =>
    refine settle_tables keep fun a t' h => ?_
    rw [describe_ok h]
    exact { keep with subscriptions := .change (fun _ => second _ _) fun _ => rfl }
  | cancelSubscription id now =>
    refine settle_tables keep fun a t' h => ?_
    rw [(cancelSubscription_ok h).2]
    exact { keep with subscriptions := .change (fun _ => second _ _) fun _ => rfl }
  | insertArticle subscription article now =>
    refine settle_tables keep fun a t' h => ?_
    rw [(insertArticle_ok h).2.2]
    exact { keep with articles := .add rfl fun _ _ => trivial }
  | deleteArticle id now =>
    refine settle_tables keep fun a t' h => ?_
    rw [deleteArticle_ok h]
    exact { keep with articles := .change (fun _ => second _ _) fun _ => rfl }
  | _ => exact keep

/-! ## Growth -/

section Grows

variable {α κ : Type} {key : α → Nat × κ} {rows rows' : List α}

/-- The rows keep their keys, and at most one row comes after them, with the next number. -/
def Grows (key : α → Nat × κ) (rows rows' : List α) : Prop :=
  rows'.map key = rows.map key ∨ ∃ new, rows' = rows ++ [new] ∧ (key new).1 = nextRow rows

theorem Grows.of_edit {isOpen : α → Bool} {Apart : α → α → Prop}
    (h : Edit key isOpen Apart rows rows') : Grows key rows rows' := by
  cases h with
  | keep => exact .inl rfl
  | change met same => exact .inl (map_changeWhere same)
  | add number apart => exact .inr ⟨_, rfl, number⟩

theorem Grows.keys_prefix (h : Grows key rows rows') : rows.map key <+: rows'.map key := by
  rcases h with h | ⟨new, rfl, -⟩
  · exact h ▸ List.prefix_rfl
  · rw [List.map_append]
    exact List.prefix_append ..

/-- The rows are numbered from one on. -/
def NumberedBy (key : α → Nat × κ) (rows : List α) : Prop :=
  (rows.map key).map Prod.fst = List.range' 1 rows.length

theorem NumberedBy.of_grows (h : NumberedBy key rows) (hg : Grows key rows rows') :
    NumberedBy key rows' := by
  unfold NumberedBy at *
  rcases hg with hk | ⟨new, rfl, hn⟩
  · have hlen : rows'.length = rows.length := by simpa using congrArg List.length hk
    rw [hk, hlen, h]
  · rw [List.map_append, List.map_append, h, List.length_append, List.length_singleton,
      List.range'_1_concat]
    simp [hn, nextRow, Nat.add_comm]

/-- No number comes twice. -/
theorem NumberedBy.nodup (h : NumberedBy key rows) : (rows.map fun r => (key r).1).Nodup := by
  have hnodup := h ▸ List.nodup_range' (s := 1) (n := rows.length)
  rwa [List.map_map] at hnodup

/-- Two rows of one number are the same row. -/
theorem NumberedBy.eq_of_fst_eq (h : NumberedBy key rows) {a b : α} (ha : a ∈ rows) (hb : b ∈ rows)
    (hab : (key a).1 = (key b).1) : a = b := List.inj_on_of_nodup_map h.nodup ha hb hab

/-- The numbers of the rows grow. -/
theorem NumberedBy.pairwise (h : NumberedBy key rows) :
    rows.Pairwise fun a b => (key a).1 < (key b).1 := by
  have hgrow := h ▸ List.pairwise_lt_range' (s := 1) (n := rows.length)
  rwa [List.pairwise_map, List.pairwise_map] at hgrow

/-- No row has a number beyond the number of rows. -/
theorem NumberedBy.lt_nextRow (h : NumberedBy key rows) {a : α} (ha : a ∈ rows) :
    (key a).1 < nextRow rows := by
  have hmem : (key a).1 ∈ (rows.map key).map Prod.fst :=
    List.mem_map_of_mem (List.mem_map_of_mem ha)
  rw [h, List.mem_range'_1] at hmem
  unfold nextRow
  omega

end Grows

/-- Every table grows by at most one row, with all keys kept. -/
structure Tables.Grows (t t' : Tables) : Prop where
  sessions : Store.Grows SessionRow.key t.sessions t'.sessions
  messages : Store.Grows MessageRow.key t.messages t'.messages
  subscriptions : Store.Grows SubscriptionRow.key t.subscriptions t'.subscriptions
  links : Store.Grows LinkRow.key t.links t'.links
  articles : Store.Grows ArticleRow.key t.articles t'.articles

theorem Tables.Grows.of_edits {t t' : Tables} (h : t.Edits t') : t.Grows t' :=
  ⟨.of_edit h.sessions, .of_edit h.messages, .of_edit h.subscriptions, .of_edit h.links,
    .of_edit h.articles⟩

/-- **Rows persist.** A store call keeps the keys of all rows and adds at most one row to a
table. -/
theorem Request.perform_grows (r : Request) (t : Tables) : t.Grows (r.perform t).2 :=
  .of_edits (r.perform_edits t)

/-! ## Many calls -/

/-- The tables have all rows of earlier ones, at the same places and with the same keys. -/
structure Tables.Extends (t t' : Tables) : Prop where
  sessions : t.sessions.map SessionRow.key <+: t'.sessions.map SessionRow.key
  messages : t.messages.map MessageRow.key <+: t'.messages.map MessageRow.key
  subscriptions :
    t.subscriptions.map SubscriptionRow.key <+: t'.subscriptions.map SubscriptionRow.key
  links : t.links.map LinkRow.key <+: t'.links.map LinkRow.key
  articles : t.articles.map ArticleRow.key <+: t'.articles.map ArticleRow.key

namespace Tables.Extends

variable {t t' t'' : Tables}

theorem refl (t : Tables) : t.Extends t := by
  constructor <;> exact List.prefix_refl _

theorem trans (h₁ : t.Extends t') (h₂ : t'.Extends t'') : t.Extends t'' :=
  ⟨h₁.sessions.trans h₂.sessions, h₁.messages.trans h₂.messages,
    h₁.subscriptions.trans h₂.subscriptions, h₁.links.trans h₂.links,
    h₁.articles.trans h₂.articles⟩

theorem of_grows (h : t.Grows t') : t.Extends t' :=
  ⟨h.sessions.keys_prefix, h.messages.keys_prefix, h.subscriptions.keys_prefix,
    h.links.keys_prefix, h.articles.keys_prefix⟩

/-- A message of earlier tables is still there. -/
theorem message (h : t.Extends t') {m : MessageRow} (hm : m ∈ t.messages) :
    ∃ m' ∈ t'.messages, m'.key = m.key :=
  List.mem_map.1 (h.messages.subset (List.mem_map_of_mem hm))

/-- A link of earlier tables is still there. -/
theorem link (h : t.Extends t') {l : LinkRow} (hl : l ∈ t.links) :
    ∃ l' ∈ t'.links, l'.key = l.key :=
  List.mem_map.1 (h.links.subset (List.mem_map_of_mem hl))

end Tables.Extends

/-- Calls only ever extend the tables. -/
theorem Trace.extends {ι : Type} {history : List (Event ι)} {t t' : Tables}
    (trace : Trace t history t') : t.Extends t' :=
  trace.related Tables.Extends.refl Tables.Extends.trans fun e _ lawful =>
    lawful.after_of (Tables.Extends.refl _) (.of_grows (e.request.perform_grows e.before))

/-- In every table the rows are numbered from one on. -/
structure Tables.Numbered (t : Tables) : Prop where
  sessions : NumberedBy SessionRow.key t.sessions
  messages : NumberedBy MessageRow.key t.messages
  subscriptions : NumberedBy SubscriptionRow.key t.subscriptions
  links : NumberedBy LinkRow.key t.links
  articles : NumberedBy ArticleRow.key t.articles

theorem Tables.numbered_empty : Tables.Numbered {} := ⟨rfl, rfl, rfl, rfl, rfl⟩

theorem Tables.Numbered.of_grows {t t' : Tables} (h : t.Numbered) (hg : t.Grows t') :
    t'.Numbered :=
  ⟨h.sessions.of_grows hg.sessions, h.messages.of_grows hg.messages,
    h.subscriptions.of_grows hg.subscriptions, h.links.of_grows hg.links,
    h.articles.of_grows hg.articles⟩

theorem Trace.numbered {ι : Type} {history : List (Event ι)} {t : Tables}
    (trace : Trace {} history t) : t.Numbered :=
  trace.invariant Tables.numbered_empty fun e _ lawful h =>
    lawful.after_of h (h.of_grows (e.request.perform_grows e.before))

/-- No two sessions and no two messages share an identifier. -/
structure Tables.Keyed (t : Tables) : Prop where
  sessions : (t.sessions.map (·.id)).Nodup
  messages : (t.messages.map (·.id)).Nodup

theorem Tables.keyed_empty : Tables.Keyed {} := ⟨List.nodup_nil, List.nodup_nil⟩

theorem Tables.Keyed.perform {t : Tables} (h : t.Keyed) (r : Request) : (r.perform t).2.Keyed where
  sessions := (r.perform_edits t).sessions.nodup (fun _ _ h => congrArg (·.2.1) h)
    (fun _ _ h => h) h.sessions
  messages := (r.perform_edits t).messages.nodup (fun _ _ h => congrArg (·.2.1) h)
    (fun _ _ h => h) h.messages

theorem Trace.keyed {ι : Type} {history : List (Event ι)} {t t' : Tables}
    (trace : Trace t history t') (h : t.Keyed) : t'.Keyed :=
  trace.invariant h fun e _ lawful h => lawful.after_of h (h.perform e.request)

/-- The session of an identifier is one row. -/
theorem Tables.Keyed.session_eq {t : Tables} (h : t.Keyed) {a b : SessionRow}
    (ha : a ∈ t.sessions) (hb : b ∈ t.sessions) (hid : a.id = b.id) : a = b :=
  List.inj_on_of_nodup_map h.sessions ha hb hid

/-- The message of an identifier is one row. -/
theorem Tables.Keyed.message_eq {t : Tables} (h : t.Keyed) {a b : MessageRow}
    (ha : a ∈ t.messages) (hb : b ∈ t.messages) (hid : a.id = b.id) : a = b :=
  List.inj_on_of_nodup_map h.messages ha hb hid

end ChatLedger.Store
