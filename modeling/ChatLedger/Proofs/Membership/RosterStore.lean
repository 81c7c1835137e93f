import ChatLedger.Proofs.Membership.Roster
import ChatLedger.Proofs.Reading.Words
import ChatLedger.Proofs.Store.Interleaving
import ChatLedger.Store.Request

/-!
# The roster in the store

What the store calls on subscriptions and links do, said on the roster that the rows keep.

1. `Roster.store` writes the rows of a roster into tables. What a sound roster has written is read
   back as it is.
2. The `perform_…` lemmas: each call answers from the roster, and leaves the rows of the changed
   roster behind.
3. `Tables.Reachable.exists_roster`: whatever the services have done to a store, its rows are those
   of a sound roster, as long as clocks have shown years of four digits.
-/

namespace ChatLedger

open Store Time

/-! ## Rows -/

/-- The row that keeps a subscription. -/
def Store.SubscriptionRow.ofSubscription (s : Subscription) : SubscriptionRow where
  row := s.id.toNat
  creator := s.creator.number
  topic := s.topic
  description := s.description
  status := Vocabulary.word s.status
  createdAt := s.createdAt.storedText
  updatedAt := s.updatedAt.storedText

/-- The row that keeps a link. -/
def Store.LinkRow.ofLink (l : Link) : LinkRow where
  row := l.id.toNat
  user := l.user.number
  subscription := l.subscription
  status := Vocabulary.word l.status
  createdAt := l.createdAt.storedText
  updatedAt := l.updatedAt.storedText

section Rows

variable {n : Nat} {s : Subscription} {l : Link}

theorem SubscriptionRow.isActive_ofSubscription (s : Subscription) :
    (SubscriptionRow.ofSubscription s).isActive = (s.status == .active) := by
  unfold SubscriptionRow.isActive SubscriptionRow.ofSubscription
  dsimp only
  rw [Bool.eq_iff_iff, beq_iff_eq, beq_iff_eq]
  exact ⟨SubscriptionStatus.word_inj, congrArg _⟩

theorem SubscriptionRow.has_ofSubscription (h : s.IsKept n) (id : Int) :
    (SubscriptionRow.ofSubscription s).has id = (s.id == id) := by
  unfold SubscriptionRow.has SubscriptionRow.ofSubscription
  dsimp only
  rw [Int.toNat_of_nonneg (Int.le_of_lt h.pos)]

/-- The subscription is read back from its row. -/
theorem SubscriptionRow.subscription_ofSubscription (h : s.IsKept n) :
    (SubscriptionRow.ofSubscription s).subscription = .ok s := by
  unfold SubscriptionRow.subscription SubscriptionRow.ofSubscription readWord
  dsimp only
  rw [SubscriptionStatus.parse_word, readTime_of_isKept h.created, readTime_of_isKept h.updated,
    Int.toNat_of_nonneg (Int.le_of_lt h.pos)]
  rfl

theorem LinkRow.joins_ofLink (l : Link) (user : UserId) (id : Int) :
    (LinkRow.ofLink l).joins user id = (l.user == user && l.subscription == id) := by
  have huser : (l.user.number == user.number) = (l.user == user) := by
    rw [Bool.eq_iff_iff, beq_iff_eq, beq_iff_eq]
    exact ⟨fun h => congrArg UserId.mk h, congrArg UserId.number⟩
  unfold LinkRow.joins LinkRow.ofLink
  dsimp only
  rw [huser]

/-- The link is read back from its row. -/
theorem LinkRow.link_ofLink (h : l.IsKept n) : (LinkRow.ofLink l).link = .ok l := by
  unfold LinkRow.link LinkRow.ofLink readWord
  dsimp only
  rw [LinkStatus.parse_word, readTime_of_isKept h.created, readTime_of_isKept h.updated,
    Int.toNat_of_nonneg (Int.le_of_lt h.pos)]
  rfl

/-- Rows change as their records do. -/
theorem changeWhere_map {α β : Type} {f : α → β} {condition : β → Bool} {condition' : α → Bool}
    {change : β → β} {change' : α → α} {records : List α}
    (met : ∀ a ∈ records, condition (f a) = condition' a)
    (changed : ∀ a ∈ records, condition' a = true → change (f a) = f (change' a)) :
    changeWhere condition change (records.map f) =
      (changeWhere condition' change' records).map f := by
  unfold changeWhere
  rw [List.map_map, List.map_map]
  refine List.map_congr_left fun a ha => ?_
  dsimp only [Function.comp]
  rw [met a ha]
  split
  · rename_i hc
    exact changed a ha hc
  · rfl

/-- A record that is found among rows is read back. -/
theorem find_mapM {Record Row : Type} {f : Record → Row} {read : Row → Except StoreError Record}
    {condition : Row → Bool} {condition' : Record → Bool} {records : List Record}
    (met : ∀ a ∈ records, condition (f a) = condition' a)
    (kept : ∀ a ∈ records, read (f a) = .ok a) :
    ((records.map f).find? condition).mapM read = .ok (records.find? condition') := by
  induction records with
  | nil => rfl
  | cons a records ih =>
    rw [List.map_cons, List.find?_cons, List.find?_cons, met a List.mem_cons_self]
    cases condition' a with
    | true =>
      refine mapM_eq_some.2 ⟨f a, rfl, ?_⟩
      exact kept a List.mem_cons_self
    | false =>
      exact ih (fun a ha => met a (List.mem_cons_of_mem _ ha)) fun a ha =>
        kept a (List.mem_cons_of_mem _ ha)

/-- There is a row where there is a record. -/
theorem any_map_eq {Record Row : Type} {f : Record → Row} {condition : Row → Bool}
    {condition' : Record → Bool} {records : List Record}
    (met : ∀ a ∈ records, condition (f a) = condition' a) :
    (records.map f).any condition = (records.find? condition').isSome := by
  induction records with
  | nil => rfl
  | cons a records ih =>
    rw [List.map_cons, List.any_cons, List.find?_cons, met a List.mem_cons_self]
    cases condition' a with
    | true => rfl
    | false => exact ih fun a ha => met a (List.mem_cons_of_mem _ ha)

end Rows

/-! ## Calls -/

namespace Roster

/-- The tables with the rows of a roster. -/
def store (m : Roster) (t : Tables) : Tables :=
  { t with
    subscriptions := m.subscriptions.map .ofSubscription
    links := m.links.map .ofLink }

variable {m : Roster} {t : Tables} {user : UserId} {id : Int} {topic : String}
  {input : NewSubscription} {now : Instant}

theorem any_joins :
    ((m.store t).links.any fun l => l.joins user id) = (m.link? user id).isSome :=
  any_map_eq fun l _ => LinkRow.joins_ofLink l user id

theorem any_active :
    ((m.store t).subscriptions.any fun s => s.topic == topic && s.isActive) =
      (m.activeOn? topic).isSome := by
  refine any_map_eq fun s _ => ?_
  rw [SubscriptionRow.isActive_ofSubscription]
  rfl

theorem store_join :
    (m.join user id now).store t =
      { m.store t with
        links :=
          (m.store t).links ++ [Tables.linkRow (nextRow (m.store t).links) user id now] } := by
  have hrow : ((m.links.length : Int) + 1).toNat = nextRow (m.store t).links := by
    unfold nextRow store
    dsimp only
    rw [List.length_map]
    rfl
  unfold join newLink Tables.linkRow
  rw [← hrow]
  unfold store
  dsimp only
  rw [List.map_append, ← now.storedText_kept]
  rfl

theorem store_add :
    (m.add input now).store t =
      { m.store t with
        subscriptions := (m.store t).subscriptions ++
          [Tables.subscriptionRow (nextRow (m.store t).subscriptions) input now] } := by
  have hrow : m.nextId.toNat = nextRow (m.store t).subscriptions := by
    unfold nextRow store
    dsimp only
    rw [List.length_map]
    rfl
  unfold add newSubscription Tables.subscriptionRow
  rw [← hrow]
  unfold store
  dsimp only
  rw [List.map_append, ← now.storedText_kept]
  rfl

/-- A topic gets no second active subscription. -/
theorem perform_createSubscription_taken (input : NewSubscription) (now : Instant)
    {s : Subscription} (taken : m.activeOn? input.topic = some s) :
    ∃ reason, (Request.createSubscription input now).perform (m.store t) =
      (.error (.conflict reason), m.store t) := by
  refine ⟨"UNIQUE constraint failed: subscriptions.topic_name", Request.settle_of_error ?_⟩
  unfold Tables.insertSubscription
  rw [any_active, taken]
  rfl

/-- A user gets no second link to a subscription. -/
theorem perform_insertLink_taken (now : Instant) {l : Link} (taken : m.link? user id = some l) :
    ∃ reason, (Request.insertLink user id now).perform (m.store t) =
      (.error (.conflict reason), m.store t) := by
  refine ⟨"UNIQUE constraint failed: user_subscriptions.user_id, user_subscriptions.subscription_id",
    Request.settle_of_error ?_⟩
  unfold Tables.insertLink
  rw [any_joins, taken]
  rfl

section Sound

variable (hm : m.Sound) (t : Tables)
include hm

/-! ### Look-ups -/

theorem any_has : ((m.store t).subscriptions.any fun s => s.has id) = (m.subscription? id).isSome :=
  any_map_eq fun s hs => SubscriptionRow.has_ofSubscription (hm.subscription_isKept s hs) id

theorem perform_findActiveByTopic (topic : String) :
    (Request.findActiveByTopic topic).perform (m.store t) =
      (.ok (m.activeOn? topic), m.store t) := by
  refine Prod.ext (find_mapM (fun s _ => ?_) fun s hs => ?_) rfl
  · rw [SubscriptionRow.isActive_ofSubscription]
    rfl
  · exact SubscriptionRow.subscription_ofSubscription (hm.subscription_isKept s hs)

theorem perform_getSubscription (id : Int) :
    (Request.getSubscription id).perform (m.store t) = (.ok (m.subscription? id), m.store t) := by
  refine Prod.ext (find_mapM (fun s hs => ?_) fun s hs => ?_) rfl
  · exact SubscriptionRow.has_ofSubscription (hm.subscription_isKept s hs) id
  · exact SubscriptionRow.subscription_ofSubscription (hm.subscription_isKept s hs)

theorem perform_findLink (user : UserId) (id : Int) :
    (Request.findLink user id).perform (m.store t) = (.ok (m.link? user id), m.store t) := by
  refine Prod.ext (find_mapM (fun l _ => ?_) fun l hl => ?_) rfl
  · exact LinkRow.joins_ofLink l user id
  · exact LinkRow.link_ofLink (hm.link_isKept l hl)

/-! ### Additions -/

theorem Sound.insertLink_store {s : Subscription} (hs : m.subscription? id = some s)
    (free : m.link? user id = none) (now : Instant) :
    ∃ link, Tables.insertLink user id now (m.store t) =
      .ok (link, (m.join user id now).store t) := by
  refine ⟨Tables.newLink (nextRow (m.store t).links) user id now, ?_⟩
  unfold Tables.insertLink
  rw [any_joins, any_has hm t, hs, free, store_join]
  rfl

/-- A user who has no link to a subscription gets one. -/
theorem perform_insertLink {s : Subscription} (hs : m.subscription? id = some s)
    (free : m.link? user id = none) :
    ∃ link, (Request.insertLink user id now).perform (m.store t) =
      (.ok link, (m.join user id now).store t) := by
  obtain ⟨link, h⟩ := hm.insertLink_store t hs free now
  exact ⟨link, Request.settle_eq_ok.2 h⟩

/-- Nobody is linked to a subscription that is not there. -/
theorem perform_insertLink_unknown (hs : m.subscription? id = none) :
    ∃ error, (Request.insertLink user id now).perform (m.store t) = (.error error, m.store t) := by
  refine ⟨.query "FOREIGN KEY constraint failed", Request.settle_of_error ?_⟩
  have free : m.link? user id = none := by
    cases h : m.link? user id with
    | none => rfl
    | some l =>
      obtain ⟨s, hs'⟩ := hm.subscription?_of_link? h
      rw [hs] at hs'
      cases hs'
  unfold Tables.insertLink
  rw [any_joins, any_has hm t, hs, free]
  rfl

/-- A topic that has no active subscription gets one. -/
theorem perform_createSubscription (input : NewSubscription) (hnow : now.HasFourDigitYear)
    (free : m.activeOn? input.topic = none) :
    ∃ answer, answer.1.id = m.nextId ∧
      (Request.createSubscription input now).perform (m.store t) =
        (.ok answer, (m.create input now).store t) := by
  have hadded := hm.add hnow free
  have hs : (m.add input now).subscription? m.nextId = some (m.newSubscription input now) :=
    hadded.subscription?_eq_some.2
      ⟨List.mem_append_right _ (List.mem_singleton_self _), rfl⟩
  have hrow : m.nextId = (nextRow (m.store t).subscriptions : Nat) := by
    unfold nextId nextRow store
    rw [List.length_map, Int.natCast_add, Int.natCast_one]
  obtain ⟨link, h⟩ := hadded.insertLink_store t hs hm.link?_nextId now
  refine ⟨({ m.newSubscription input now with createdAt := now, updatedAt := now }, link), rfl,
    Request.settle_eq_ok.2 ?_⟩
  have hinsert : Tables.insertLink input.creator (nextRow (m.store t).subscriptions : Nat) now
      { m.store t with
        subscriptions := (m.store t).subscriptions ++
          [Tables.subscriptionRow (nextRow (m.store t).subscriptions) input now] } =
      .ok (link, (m.create input now).store t) := by
    rw [← store_add, ← hrow]
    exact h
  unfold Tables.insertSubscription
  rw [any_active, free]
  refine bind_eq_ok.2 ⟨(), rfl, bind_eq_ok.2 ⟨_, hinsert, ?_⟩⟩
  unfold newSubscription
  rw [hrow]
  rfl

/-! ### Changes of links -/

theorem met_link {l : Link} {expected : LinkStatus} (hl : l ∈ m.links) :
    (((LinkRow.ofLink l).row : Int) == id &&
      (LinkRow.ofLink l).status == Vocabulary.word expected) =
      (l.id == id && l.status == expected) := by
  have hstatus : (Vocabulary.word l.status == Vocabulary.word expected) =
      (l.status == expected) := by
    rw [Bool.eq_iff_iff, beq_iff_eq, beq_iff_eq]
    exact ⟨LinkStatus.word_inj, congrArg _⟩
  unfold LinkRow.ofLink
  dsimp only
  rw [Int.toNat_of_nonneg (Int.le_of_lt (hm.link_isKept l hl).pos), hstatus]

/-- A link that has the status which the caller has seen gets the wanted one. -/
theorem perform_changeLink {l : Link} (hl : m.link? user id = some l) (wanted : LinkStatus)
    (now : Instant) :
    (Request.changeLink l.id l.status wanted now).perform (m.store t) =
      (.ok true, (m.setLink user id wanted now).store t) := by
  obtain ⟨hmem, rfl, rfl⟩ := mem_of_link? hl
  have met : ∀ l' ∈ m.links, (((LinkRow.ofLink l').row : Int) == l.id &&
      (LinkRow.ofLink l').status == Vocabulary.word l.status) =
      (l'.user == l.user && l'.subscription == l.subscription) := by
    intro l' hl'
    rw [met_link hm hl', Bool.eq_iff_iff, Bool.and_eq_true, Bool.and_eq_true]
    simp only [beq_iff_eq]
    constructor
    · rintro ⟨hid, -⟩
      rw [hm.link_ext_id hl' hmem hid]
      exact ⟨rfl, rfl⟩
    · rintro ⟨huser, hsubscription⟩
      rw [hm.link_ext hl' hmem huser hsubscription]
      exact ⟨rfl, rfl⟩
  show Request.settle (Tables.changeLink l.id l.status wanted now) (m.store t) = _
  rw [Request.settle_eq_ok]
  unfold Tables.changeLink store setLink
  dsimp only
  rw [any_map_eq met, show List.find? _ m.links = some l from hl, changeWhere_map met]
  · rfl
  · intro l' _ _
    unfold LinkRow.setStatus LinkRow.ofLink
    dsimp only
    rw [now.storedText_kept]

/-- A link that is not there, or has another status, is left alone. -/
theorem perform_changeLink_missed {expected : LinkStatus}
    (missed : ∀ l ∈ m.links, l.id = id → l.status ≠ expected) (wanted : LinkStatus)
    (now : Instant) :
    (Request.changeLink id expected wanted now).perform (m.store t) = (.ok false, m.store t) := by
  have met : ∀ r ∈ (m.store t).links,
      ((r.row : Int) == id && r.status == Vocabulary.word expected) = false := by
    intro r hr
    obtain ⟨l, hl, rfl⟩ := List.mem_map.1 hr
    rw [met_link hm hl, Bool.and_eq_false_iff, beq_eq_false_iff_ne, beq_eq_false_iff_ne]
    exact Decidable.not_or_of_imp fun hid => missed l hl hid
  show Request.settle (Tables.changeLink id expected wanted now) (m.store t) = _
  rw [Request.settle_eq_ok]
  unfold Tables.changeLink
  dsimp only
  rw [List.any_eq_false.2 fun r hr => Bool.eq_false_iff.1 (met r hr), changeWhere_eq_self met]

/-! ### Changes of subscriptions -/

theorem met_subscription {s : Subscription} (hs : s ∈ m.subscriptions) :
    ((SubscriptionRow.ofSubscription s).has id && (SubscriptionRow.ofSubscription s).isActive) =
      (s.id == id && s.status == .active) := by
  rw [SubscriptionRow.has_ofSubscription (hm.subscription_isKept s hs),
    SubscriptionRow.isActive_ofSubscription]

theorem met_active {s : Subscription} (hs : m.subscription? id = some s)
    (hactive : s.status = .active) : ∀ s' ∈ m.subscriptions,
      ((SubscriptionRow.ofSubscription s').has id &&
        (SubscriptionRow.ofSubscription s').isActive) = (s'.id == id) := by
  obtain ⟨hmem, rfl⟩ := mem_of_subscription? hs
  intro s' hs'
  rw [met_subscription hm hs', Bool.eq_iff_iff, Bool.and_eq_true, beq_iff_eq, beq_iff_eq]
  refine ⟨And.left, fun hid => ⟨hid, ?_⟩⟩
  rw [hm.subscription_ext hs' hmem hid]
  exact hactive

theorem met_none (missed : ∀ s ∈ m.subscriptions, s.id = id → s.status ≠ .active) :
    ∀ r ∈ (m.store t).subscriptions, (r.has id && r.isActive) = false := by
  intro r hr
  obtain ⟨s, hs, rfl⟩ := List.mem_map.1 hr
  rw [met_subscription hm hs, Bool.and_eq_false_iff, beq_eq_false_iff_ne, beq_eq_false_iff_ne]
  exact Decidable.not_or_of_imp fun hid => missed s hs hid

/-- An active subscription gets another description. -/
theorem perform_updateDescription {s : Subscription} (hs : m.subscription? id = some s)
    (hactive : s.status = .active) (description : String) (now : Instant) :
    (Request.updateDescription id description now).perform (m.store t) =
      (.ok (), (m.amend id (·.describe description now)).store t) := by
  have met := met_active hm hs hactive
  refine Request.settle_eq_ok.2 ?_
  unfold Tables.describe store amend
  dsimp only
  rw [any_map_eq met, show List.find? _ m.subscriptions = some s from hs, changeWhere_map met]
  · rfl
  · intro s' _ _
    unfold SubscriptionRow.describe SubscriptionRow.ofSubscription Subscription.describe
    dsimp only
    rw [now.storedText_kept]

/-- An active subscription is deleted. -/
theorem perform_cancelSubscription {s : Subscription} (hs : m.subscription? id = some s)
    (hactive : s.status = .active) (now : Instant) :
    (Request.cancelSubscription id now).perform (m.store t) =
      (.ok true, (m.amend id (·.close now)).store t) := by
  have met := met_active hm hs hactive
  show Request.settle (Tables.cancelSubscription id now) (m.store t) = _
  rw [Request.settle_eq_ok]
  unfold Tables.cancelSubscription store amend
  dsimp only
  rw [any_map_eq met, show List.find? _ m.subscriptions = some s from hs, changeWhere_map met]
  · rfl
  · intro s' _ _
    unfold SubscriptionRow.cancel SubscriptionRow.ofSubscription Subscription.close
    dsimp only
    rw [now.storedText_kept]

/-- Only active subscriptions are described. -/
theorem perform_updateDescription_missed
    (missed : ∀ s ∈ m.subscriptions, s.id = id → s.status ≠ .active) (description : String)
    (now : Instant) :
    (Request.updateDescription id description now).perform (m.store t) =
      (.error .notFound, m.store t) := by
  have met := met_none hm t missed
  refine Request.settle_of_error ?_
  unfold Tables.describe
  dsimp only
  rw [List.any_eq_false.2 fun r hr => Bool.eq_false_iff.1 (met r hr)]
  rfl

/-- Only active subscriptions are deleted. -/
theorem perform_cancelSubscription_missed
    (missed : ∀ s ∈ m.subscriptions, s.id = id → s.status ≠ .active) (now : Instant) :
    (Request.cancelSubscription id now).perform (m.store t) = (.ok false, m.store t) := by
  have met := met_none hm t missed
  show Request.settle (Tables.cancelSubscription id now) (m.store t) = _
  rw [Request.settle_eq_ok]
  unfold Tables.cancelSubscription
  dsimp only
  rw [List.any_eq_false.2 fun r hr => Bool.eq_false_iff.1 (met r hr), changeWhere_eq_self met]

end Sound

end Roster

end ChatLedger
