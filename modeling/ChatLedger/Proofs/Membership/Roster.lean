import ChatLedger.Proofs.Reading.Times
import ChatLedger.Proofs.Store.Changes
import Mathlib.Data.List.Pairwise

/-!
# The roster

Subscriptions and links as records, without columns, words and texts: who belongs to what.

1. A `Roster` is looked at by `activeOn?`, `subscription?` and `link?`, and changed by `create`,
   `join`, `setLink` and `amend`.
2. `Roster.Sound`: a topic has one active subscription at most, a user has one link to a
   subscription at most, and links lead to subscriptions. Every change keeps this.
3. The lemmas on look-ups say what each change does to what is found.
-/

namespace ChatLedger

open Store Time

/-- Subscriptions and links, each list in the order of identifiers. -/
structure Roster where
  subscriptions : List Subscription := []
  links : List Link := []
  deriving Repr, DecidableEq

namespace Roster

/-! ## What is found -/

/-- The active subscription on a topic. -/
def activeOn? (m : Roster) (topic : String) : Option Subscription :=
  m.subscriptions.find? fun s => s.topic == topic && s.status == .active

/-- The subscription of this identifier, deleted or not. -/
def subscription? (m : Roster) (id : Int) : Option Subscription :=
  m.subscriptions.find? (·.id == id)

/-- The link of a user to a subscription. -/
def link? (m : Roster) (user : UserId) (id : Int) : Option Link :=
  m.links.find? fun l => l.user == user && l.subscription == id

/-- The identifier that the next subscription gets. -/
def nextId (m : Roster) : Int := m.subscriptions.length + 1

/-! ## Changes -/

/-- A new link. -/
def newLink (m : Roster) (user : UserId) (id : Int) (now : Instant) : Link where
  id := m.links.length + 1
  user := user
  subscription := id
  status := .active
  createdAt := now.kept
  updatedAt := now.kept

/-- Links a user to a subscription. -/
def join (m : Roster) (user : UserId) (id : Int) (now : Instant) : Roster :=
  { m with links := m.links ++ [m.newLink user id now] }

/-- A new subscription. -/
def newSubscription (m : Roster) (input : NewSubscription) (now : Instant) : Subscription where
  id := m.nextId
  creator := input.creator
  topic := input.topic
  description := input.description
  status := .active
  createdAt := now.kept
  updatedAt := now.kept

/-- Adds a subscription. -/
def add (m : Roster) (input : NewSubscription) (now : Instant) : Roster :=
  { m with subscriptions := m.subscriptions ++ [m.newSubscription input now] }

/-- Adds a subscription and links its creator to it. -/
def create (m : Roster) (input : NewSubscription) (now : Instant) : Roster :=
  (m.add input now).join input.creator m.nextId now

/-- Sets the status of the link of a user to a subscription. -/
def setLink (m : Roster) (user : UserId) (id : Int) (status : LinkStatus) (now : Instant) :
    Roster :=
  { m with
    links := changeWhere (fun l => l.user == user && l.subscription == id)
      (fun l => { l with status := status, updatedAt := now.kept }) m.links }

/-- Changes a subscription. -/
def amend (m : Roster) (id : Int) (change : Subscription → Subscription) : Roster :=
  { m with subscriptions := changeWhere (·.id == id) change m.subscriptions }

end Roster

/-- The subscription with another description. -/
def Subscription.describe (s : Subscription) (description : String) (now : Instant) :
    Subscription :=
  { s with description := description, updatedAt := now.kept }

/-- The subscription once it is deleted. -/
def Subscription.close (s : Subscription) (now : Instant) : Subscription :=
  { s with status := .cancelled, updatedAt := now.kept }

/-! ## Soundness -/

/-- The subscription is one of the first `n`, and is kept with its times as they are. -/
structure Subscription.IsKept (n : Nat) (s : Subscription) : Prop where
  pos : 0 < s.id
  le : s.id ≤ n
  created : s.createdAt.IsKept
  updated : s.updatedAt.IsKept

/-- The link is one of the first `n`, and is kept with its times as they are. -/
structure Link.IsKept (n : Nat) (l : Link) : Prop where
  pos : 0 < l.id
  le : l.id ≤ n
  created : l.createdAt.IsKept
  updated : l.updatedAt.IsKept

/-- The subscriptions have different identifiers, and are not both active on one topic. -/
structure Subscription.Apart (s s' : Subscription) : Prop where
  id : s.id ≠ s'.id
  topic : s.status = .active → s'.status = .active → s.topic ≠ s'.topic

/-- The links have different identifiers, and do not link one user to one subscription. -/
structure Link.Apart (l l' : Link) : Prop where
  id : l.id ≠ l'.id
  ends : l.user = l'.user → l.subscription ≠ l'.subscription

instance : Std.Symm Subscription.Apart where
  symm _ _ h := ⟨h.id.symm, fun ha hb => (h.topic hb ha).symm⟩

instance : Std.Symm Link.Apart where
  symm _ _ h := ⟨h.id.symm, fun hu => (h.ends hu.symm).symm⟩

/-- What holds of all subscriptions and links together. -/
structure Roster.Sound (m : Roster) : Prop where
  subscriptions_apart : m.subscriptions.Pairwise Subscription.Apart
  links_apart : m.links.Pairwise Link.Apart
  subscription_isKept : ∀ s ∈ m.subscriptions, s.IsKept m.subscriptions.length
  link_isKept : ∀ l ∈ m.links, l.IsKept m.links.length
  linked : ∀ l ∈ m.links, ∃ s ∈ m.subscriptions, s.id = l.subscription

namespace Roster

variable {m : Roster} {user : UserId} {id : Int} {topic : String} {now : Instant}

theorem sound_empty : ({} : Roster).Sound :=
  ⟨.nil, .nil, by simp, by simp, by simp⟩

/-! ## What is found in a sound roster -/

theorem mem_of_activeOn? {s : Subscription} (h : m.activeOn? topic = some s) :
    s ∈ m.subscriptions ∧ s.topic = topic ∧ s.status = .active := by
  have hit := List.find?_some h
  rw [Bool.and_eq_true, beq_iff_eq, beq_iff_eq] at hit
  exact ⟨List.mem_of_find?_eq_some h, hit⟩

theorem mem_of_subscription? {s : Subscription} (h : m.subscription? id = some s) :
    s ∈ m.subscriptions ∧ s.id = id := by
  have hit := List.find?_some h
  exact ⟨List.mem_of_find?_eq_some h, beq_iff_eq.1 hit⟩

theorem mem_of_link? {l : Link} (h : m.link? user id = some l) :
    l ∈ m.links ∧ l.user = user ∧ l.subscription = id := by
  have hit := List.find?_some h
  rw [Bool.and_eq_true, beq_iff_eq, beq_iff_eq] at hit
  exact ⟨List.mem_of_find?_eq_some h, hit⟩

theorem activeOn?_eq_none :
    m.activeOn? topic = none ↔ ∀ s ∈ m.subscriptions, s.topic = topic → s.status ≠ .active := by
  unfold activeOn?
  rw [List.find?_eq_none]
  simp

theorem link?_eq_none :
    m.link? user id = none ↔ ∀ l ∈ m.links, l.user = user → l.subscription ≠ id := by
  unfold link?
  rw [List.find?_eq_none]
  simp

namespace Sound

variable (hm : m.Sound)
include hm

theorem subscription_ext {s s' : Subscription} (hs : s ∈ m.subscriptions)
    (hs' : s' ∈ m.subscriptions) (h : s.id = s'.id) : s = s' := by
  by_contra hne
  exact (hm.subscriptions_apart.forall hs hs' hne).id h

theorem link_ext {l l' : Link} (hl : l ∈ m.links) (hl' : l' ∈ m.links) (huser : l.user = l'.user)
    (hsubscription : l.subscription = l'.subscription) : l = l' := by
  by_contra hne
  exact (hm.links_apart.forall hl hl' hne).ends huser hsubscription

theorem link_ext_id {l l' : Link} (hl : l ∈ m.links) (hl' : l' ∈ m.links) (h : l.id = l'.id) :
    l = l' := by
  by_contra hne
  exact (hm.links_apart.forall hl hl' hne).id h

theorem subscription?_eq_some {s : Subscription} :
    m.subscription? id = some s ↔ s ∈ m.subscriptions ∧ s.id = id := by
  refine ⟨mem_of_subscription?, ?_⟩
  rintro ⟨hs, rfl⟩
  exact find?_eq_of_unique hs (beq_self_eq_true _) fun s' hs' hid =>
    hm.subscription_ext hs' hs (beq_iff_eq.1 hid)

theorem link?_eq_some {l : Link} :
    m.link? user id = some l ↔ l ∈ m.links ∧ l.user = user ∧ l.subscription = id := by
  refine ⟨mem_of_link?, ?_⟩
  rintro ⟨hl, rfl, rfl⟩
  refine find?_eq_of_unique hl (by simp) fun l' hl' hit => ?_
  rw [Bool.and_eq_true, beq_iff_eq, beq_iff_eq] at hit
  exact hm.link_ext hl' hl hit.1 hit.2

/-- The identifier of the next subscription is a new one. -/
theorem nextId_fresh {s : Subscription} (hs : s ∈ m.subscriptions) : s.id ≠ m.nextId := by
  have hle := (hm.subscription_isKept s hs).le
  unfold nextId
  omega

/-- There is no link to a subscription that is yet to come. -/
theorem link?_nextId : m.link? user m.nextId = none := by
  refine link?_eq_none.2 fun l hl _ hid => ?_
  obtain ⟨s, hs, hsid⟩ := hm.linked l hl
  exact hm.nextId_fresh hs (hsid.trans hid)

/-- Whoever is linked is linked to a subscription that is there. -/
theorem subscription?_of_link? {l : Link} (h : m.link? user id = some l) :
    ∃ s, m.subscription? id = some s := by
  obtain ⟨hl, -, hid⟩ := mem_of_link? h
  obtain ⟨s, hs, hsid⟩ := hm.linked l hl
  exact ⟨s, hm.subscription?_eq_some.2 ⟨hs, hsid.trans hid⟩⟩

end Sound

/-! ## Changes keep soundness -/

namespace Sound

variable (hm : m.Sound) (hnow : now.HasFourDigitYear)
include hm hnow

/-- A user who has no link to a subscription may get one. -/
theorem join (hs : ∃ s ∈ m.subscriptions, s.id = id) (free : m.link? user id = none) :
    (m.join user id now).Sound where
  subscriptions_apart := hm.subscriptions_apart
  links_apart := by
    refine List.pairwise_append.2 ⟨hm.links_apart, List.pairwise_singleton _ _, ?_⟩
    intro l hl l' hl'
    rw [List.mem_singleton.1 hl']
    refine ⟨?_, link?_eq_none.1 free l hl⟩
    have hle := (hm.link_isKept l hl).le
    show l.id ≠ (m.links.length : Int) + 1
    omega
  subscription_isKept := hm.subscription_isKept
  link_isKept := by
    intro l hl
    unfold Roster.join at hl ⊢
    dsimp only at hl ⊢
    rw [List.length_append, List.length_singleton]
    rcases List.mem_append.1 hl with hl | hl
    · have hkept := hm.link_isKept l hl
      exact { hkept with le := by have hle := hkept.le; omega }
    · rw [List.mem_singleton.1 hl]
      refine ⟨?_, ?_, Instant.isKept_kept hnow, Instant.isKept_kept hnow⟩
      all_goals
        unfold newLink
        dsimp only
        omega
  linked := by
    intro l hl
    rcases List.mem_append.1 hl with hl | hl
    · exact hm.linked l hl
    · rw [List.mem_singleton.1 hl]
      exact hs

/-- A topic without an active subscription may get one. -/
theorem add {input : NewSubscription} (free : m.activeOn? input.topic = none) :
    (m.add input now).Sound where
  subscriptions_apart := by
    refine List.pairwise_append.2 ⟨hm.subscriptions_apart, List.pairwise_singleton _ _, ?_⟩
    intro s hs s' hs'
    rw [List.mem_singleton.1 hs']
    exact ⟨hm.nextId_fresh hs, fun hactive _ htopic =>
      activeOn?_eq_none.1 free s hs htopic hactive⟩
  links_apart := hm.links_apart
  subscription_isKept := by
    intro s hs
    unfold Roster.add at hs ⊢
    dsimp only at hs ⊢
    rw [List.length_append, List.length_singleton]
    rcases List.mem_append.1 hs with hs | hs
    · have hkept := hm.subscription_isKept s hs
      exact { hkept with le := by have hle := hkept.le; omega }
    · rw [List.mem_singleton.1 hs]
      refine ⟨?_, ?_, Instant.isKept_kept hnow, Instant.isKept_kept hnow⟩
      all_goals
        unfold newSubscription nextId
        dsimp only
        omega
  link_isKept := hm.link_isKept
  linked := by
    intro l hl
    obtain ⟨s, hs, hid⟩ := hm.linked l hl
    exact ⟨s, List.mem_append_left _ hs, hid⟩

theorem create {input : NewSubscription} (free : m.activeOn? input.topic = none) :
    (m.create input now).Sound :=
  (hm.add hnow free).join hnow ⟨_, List.mem_append_right _ (List.mem_singleton_self _), rfl⟩
    hm.link?_nextId

/-- The status of a link is free. -/
theorem setLink (status : LinkStatus) : (m.setLink user id status now).Sound where
  subscriptions_apart := hm.subscriptions_apart
  links_apart := by
    refine List.pairwise_map.2 (hm.links_apart.imp fun {l l'} h => ?_)
    refine ⟨?_, ?_⟩
    · split <;> split <;> exact h.id
    · split <;> split <;> exact h.ends
  subscription_isKept := hm.subscription_isKept
  link_isKept := by
    intro l hl
    unfold Roster.setLink at hl ⊢
    dsimp only at hl ⊢
    rw [length_changeWhere]
    rcases mem_changeWhere.1 hl with ⟨l₀, hl₀, -, rfl⟩ | ⟨hl, -⟩
    · exact { hm.link_isKept l₀ hl₀ with updated := Instant.isKept_kept hnow }
    · exact hm.link_isKept l hl
  linked := by
    intro l hl
    rcases mem_changeWhere.1 hl with ⟨l₀, hl₀, -, rfl⟩ | ⟨hl, -⟩
    · exact hm.linked l₀ hl₀
    · exact hm.linked l hl

omit hnow in
/-- A subscription may change in all but its identifier and topic, as long as it does not become
active. -/
theorem amend {change : Subscription → Subscription} (hid : ∀ s, (change s).id = s.id)
    (htopic : ∀ s, (change s).topic = s.topic)
    (hactive : ∀ s, (change s).status = .active → s.status = .active)
    (hkept : ∀ n s, s.IsKept n → (change s).IsKept n) : (m.amend id change).Sound where
  subscriptions_apart := by
    refine List.pairwise_map.2 (hm.subscriptions_apart.imp fun {s s'} h => ?_)
    refine ⟨?_, ?_⟩
    · split <;> split <;> simpa only [hid] using h.id
    · intro ha ha'
      have hs : s.status = .active := by
        split at ha
        · exact hactive s ha
        · exact ha
      have hs' : s'.status = .active := by
        split at ha'
        · exact hactive s' ha'
        · exact ha'
      split <;> split <;> simpa only [htopic] using h.topic hs hs'
  links_apart := hm.links_apart
  subscription_isKept := by
    intro s hs
    unfold Roster.amend at hs ⊢
    dsimp only at hs ⊢
    rw [length_changeWhere]
    rcases mem_changeWhere.1 hs with ⟨s₀, hs₀, -, rfl⟩ | ⟨hs, -⟩
    · exact hkept _ s₀ (hm.subscription_isKept s₀ hs₀)
    · exact hm.subscription_isKept s hs
  link_isKept := hm.link_isKept
  linked := by
    intro l hl
    obtain ⟨s, hs, hsid⟩ := hm.linked l hl
    refine ⟨if s.id == id then change s else s, List.mem_map_of_mem hs, ?_⟩
    split
    · rw [hid, hsid]
    · exact hsid

theorem describe {description : String} : (m.amend id (·.describe description now)).Sound :=
  hm.amend (fun _ => rfl) (fun _ => rfl) (fun _ h => h) fun _ _ h =>
    { h with updated := Instant.isKept_kept hnow }

theorem close : (m.amend id (·.close now)).Sound := by
  refine hm.amend (fun _ => rfl) (fun _ => rfl) (fun s h => ?_) fun _ _ h =>
    { h with updated := Instant.isKept_kept hnow }
  cases h

end Sound

/-! ## What is found after a change -/

theorem link?_join (m : Roster) (user user' : UserId) (id id' : Int) (now : Instant) :
    (m.join user id now).link? user' id' =
      (m.link? user' id').or
        (if user = user' ∧ id = id' then some (m.newLink user id now) else none) := by
  unfold link? join
  dsimp only
  rw [List.find?_append, List.find?_singleton]
  unfold newLink
  simp

/-- Who has had no link is linked from then on. -/
theorem link?_join_self (free : m.link? user id = none) :
    (m.join user id now).link? user id = some (m.newLink user id now) := by
  rw [link?_join, free, if_pos ⟨rfl, rfl⟩]
  rfl

theorem link?_setLink (m : Roster) (user user' : UserId) (id id' : Int) (status : LinkStatus)
    (now : Instant) :
    (m.setLink user id status now).link? user' id' =
      (m.link? user' id').map fun l =>
        if user' = user ∧ id' = id then { l with status := status, updatedAt := now.kept }
        else l := by
  have hsame : (fun l : Link => l.user == user' && l.subscription == id') ∘
      (fun l : Link => if l.user == user && l.subscription == id then
        { l with status := status, updatedAt := now.kept } else l) =
      fun l => l.user == user' && l.subscription == id' := by
    funext l
    dsimp only [Function.comp]
    split <;> rfl
  have hfound : (m.setLink user id status now).link? user' id' = (m.link? user' id').map fun l =>
      if l.user == user && l.subscription == id then
        { l with status := status, updatedAt := now.kept } else l := by
    unfold link? setLink changeWhere
    dsimp only
    rw [List.find?_map, hsame]
  rw [hfound]
  refine Option.map_congr fun l hl => ?_
  obtain ⟨-, rfl, rfl⟩ := mem_of_link? hl
  simp only [Bool.and_eq_true, beq_iff_eq]

theorem link?_setLink_self {l : Link} (hl : m.link? user id = some l) (status : LinkStatus) :
    (m.setLink user id status now).link? user id =
      some { l with status := status, updatedAt := now.kept } := by
  rw [link?_setLink, hl, Option.map_some, if_pos ⟨rfl, rfl⟩]

/-- The new subscription is the active one on its topic. -/
theorem activeOn?_create (input : NewSubscription) (free : m.activeOn? input.topic = none) :
    (m.create input now).activeOn? input.topic = some (m.newSubscription input now) := by
  show List.find? _ (m.subscriptions ++ [m.newSubscription input now]) = _
  rw [List.find?_append, show List.find? _ m.subscriptions = none from free]
  simp [newSubscription]

end Roster

end ChatLedger
