import ChatLedger.Proofs.Membership.RosterStore
import ChatLedger.Proofs.Store.Rivals
import ChatLedger.Service.Memberships

/-!
# The race for a topic

Users who subscribe to one topic at the same time, and nobody else at work.

1. `Race`: the roster, with the process that has created the subscription on the topic, if any.
   `Race.Onward`: how the race goes on for one process while the others are at work. An active
   subscription stays, a link stays, and what has become active stays active.
2. `Race.losses`: how many attempts a user can still lose. The subscription may be created before
   the user does so, and the link may be changed before the user does so; nothing else gets in the
   way, and neither happens twice.
3. `Race.safe_trySubscribe`: an attempt either makes the user a member, or leaves less to lose.
-/

namespace ChatLedger

open Store Time Operation

/-- Where the race for a topic stands. -/
structure Race (ι : Type) (start : Roster) (topic : String) where
  roster : Roster
  /-- The process that has created the active subscription on the topic. -/
  winner : Option ι
  sound : roster.Sound
  open_winner : winner = none → roster.activeOn? topic = start.activeOn? topic
  won : winner.isSome = true →
    start.activeOn? topic = none ∧ (roster.activeOn? topic).isSome = true

namespace Race

variable {ι : Type} {start : Roster} {topic : String} {i j : ι}

/-- Nobody has done anything yet. -/
def outset (ι : Type) (topic : String) (sound : start.Sound) : Race ι start topic where
  roster := start
  winner := none
  sound := sound
  open_winner _ := rfl
  won h := by cases h

/-- The race goes on while others than the process are at work. -/
structure Onward (i : ι) (s s' : Race ι start topic) : Prop where
  active : ∀ x, s.roster.activeOn? topic = some x → s'.roster.activeOn? topic = some x
  link : ∀ user id l, s.roster.link? user id = some l → ∃ l', s'.roster.link? user id = some l' ∧
    l'.id = l.id ∧ (l.status = .active → l'.status = .active)
  link_new : ∀ user id, s.roster.link? user id = none → ∀ l',
    s'.roster.link? user id = some l' → l'.status = .active
  winner : s'.winner = some i ↔ s.winner = some i

theorem Onward.refl (i : ι) (s : Race ι start topic) : s.Onward i s where
  active _ h := h
  link _ _ l h := ⟨l, h, rfl, id⟩
  link_new _ _ h l' h' := by
    rw [h] at h'
    cases h'
  winner := Iff.rfl

theorem Onward.trans {s s' s'' : Race ι start topic} (h : s.Onward i s') (h' : s'.Onward i s'') :
    s.Onward i s'' where
  active x hx := h'.active x (h.active x hx)
  link user id l hl := by
    obtain ⟨l', hl', hid, hactive⟩ := h.link user id l hl
    obtain ⟨l'', hl'', hid', hactive'⟩ := h'.link user id l' hl'
    exact ⟨l'', hl'', hid'.trans hid, fun h => hactive' (hactive h)⟩
  link_new user id hnone l'' hl'' := by
    cases hl' : s'.roster.link? user id with
    | none => exact h'.link_new user id hl' l'' hl''
    | some l' =>
      obtain ⟨l₀, hl₀, -, hactive⟩ := h'.link user id l' hl'
      rw [hl''] at hl₀
      rw [Option.some.inj hl₀]
      exact hactive (h.link_new user id hnone l' hl')
  winner := h'.winner.trans h.winner

/-- How the processes of a race share the store, of which nothing else matters. -/
def sharing (ι : Type) (start : Roster) (topic : String) (t : Tables) :
    Sharing ι (Race ι start topic) where
  tables s := s.roster.store t
  rely := Onward
  refl := Onward.refl
  trans := Onward.trans

/-! ## What processes do -/

/-- The race with another roster, on which the same subscription is active. -/
def setRoster (s : Race ι start topic) (m : Roster) (hm : m.Sound)
    (h : m.activeOn? topic = s.roster.activeOn? topic) : Race ι start topic :=
  { s with
    roster := m
    sound := hm
    open_winner := fun hnone => h.trans (s.open_winner hnone)
    won := fun hsome => by
      rw [h]
      exact s.won hsome }

/-- The race is over before it has begun if a subscription was active at the start. -/
theorem start_free {s : Race ι start topic} (h : s.roster.activeOn? topic = none) :
    s.winner = none ∧ start.activeOn? topic = none := by
  cases hw : s.winner with
  | none => exact ⟨rfl, (s.open_winner hw).symm.trans h⟩
  | some w =>
    have hsome := (s.won (by rw [hw]; rfl)).2
    rw [h] at hsome
    cases hsome

/-- A process creates the subscription. -/
def create (s : Race ι start topic) (i : ι) (user : UserId) (description : String) {now : Instant}
    (hnow : now.HasFourDigitYear) (free : s.roster.activeOn? topic = none) :
    Race ι start topic where
  roster := s.roster.create ⟨user, topic, description⟩ now
  winner := some i
  sound := s.sound.create hnow free
  open_winner h := by cases h
  won _ := by
    refine ⟨(start_free free).2, ?_⟩
    rw [Roster.activeOn?_create ⟨user, topic, description⟩ free]
    rfl

/-- What is added to a roster gets in nobody's way. -/
theorem link?_or {m m' : Roster} {user user' : UserId} {id id' : Int} {now : Instant}
    (hm : m.link? user' id' = m'.link? user' id') :
    (∀ l, m'.link? user' id' = some l → (m.join user id now).link? user' id' = some l) ∧
      (m'.link? user' id' = none → ∀ l', (m.join user id now).link? user' id' = some l' →
        l'.status = .active) := by
  rw [m.link?_join, hm]
  constructor
  · intro l hl
    rw [hl]
    rfl
  · intro hnone l' hl'
    rw [hnone, Option.none_or] at hl'
    split at hl'
    · rw [← Option.some.inj hl']
      rfl
    · cases hl'

theorem onward_create {s : Race ι start topic} {user : UserId} {description : String}
    {now : Instant} (hnow : now.HasFourDigitYear) (free : s.roster.activeOn? topic = none)
    (hj : j ≠ i) : s.Onward j (s.create i user description hnow free) where
  active x hx := by
    rw [free] at hx
    cases hx
  link _ _ l hl := ⟨l, (link?_or rfl).1 l hl, rfl, fun h => h⟩
  link_new _ _ hnone := (link?_or rfl).2 hnone
  winner := by
    rw [(start_free free).1]
    show some i = some j ↔ none = some j
    simp [hj.symm]

theorem onward_join {s : Race ι start topic} {user : UserId} {id : Int} {now : Instant}
    (hm : (s.roster.join user id now).Sound) (j : ι) :
    s.Onward j (s.setRoster (s.roster.join user id now) hm rfl) where
  active _ hx := hx
  link _ _ l hl := ⟨l, (link?_or rfl).1 l hl, rfl, fun h => h⟩
  link_new _ _ hnone := (link?_or rfl).2 hnone
  winner := Iff.rfl

theorem onward_setLink {s : Race ι start topic} {user : UserId} {id : Int} {now : Instant}
    (hm : (s.roster.setLink user id .active now).Sound) (j : ι) :
    s.Onward j (s.setRoster (s.roster.setLink user id .active now) hm rfl) where
  active _ hx := hx
  link user' id' l hl := by
    refine ⟨_, (s.roster.link?_setLink user user' id id' .active now).trans
      (congrArg (Option.map _) hl), ?_, ?_⟩
    · split <;> rfl
    · intro h
      split
      · rfl
      · exact h
  link_new user' id' hnone l' hl' := by
    have hmap := (s.roster.link?_setLink user user' id id' .active now).symm.trans hl'
    rw [hnone] at hmap
    cases hmap
  winner := Iff.rfl

/-! ## What can be lost -/

/-- How many attempts a user can still lose. -/
def losses (user : UserId) (s : Race ι start topic) : Nat :=
  match s.roster.activeOn? topic with
  | none => 2
  | some x => if (s.roster.link? user x.id).map (·.status) = some .active then 0 else 1

section Losses

variable {s s' : Race ι start topic} {user : UserId} {x : Subscription} {l : Link}

theorem losses_free (h : s.roster.activeOn? topic = none) : s.losses user = 2 := by
  unfold losses
  rw [h]

theorem losses_le_one (h : s.roster.activeOn? topic = some x) : s.losses user ≤ 1 := by
  unfold losses
  rw [h]
  dsimp only
  split <;> omega

theorem losses_le_two (s : Race ι start topic) : s.losses user ≤ 2 := by
  cases h : s.roster.activeOn? topic with
  | none => exact Nat.le_of_eq (losses_free h)
  | some x => exact Nat.le_trans (losses_le_one h) (by decide)

theorem losses_member (h : s.roster.activeOn? topic = some x)
    (hl : s.roster.link? user x.id = some l) (hactive : l.status = .active) :
    s.losses user = 0 := by
  unfold losses
  rw [h]
  dsimp only
  rw [hl, Option.map_some, hactive, if_pos rfl]

theorem losses_apart (h : s.roster.activeOn? topic = some x)
    (hl : ∀ l, s.roster.link? user x.id = some l → l.status ≠ .active) : s.losses user = 1 := by
  unfold losses
  rw [h]
  dsimp only
  refine if_neg fun hmap => ?_
  obtain ⟨l, hl', hactive⟩ := Option.map_eq_some_iff.1 hmap
  exact hl l hl' hactive

/-- What has been lost stays lost. -/
theorem losses_onward (h : s.Onward i s') : s'.losses user ≤ s.losses user := by
  cases hx : s.roster.activeOn? topic with
  | none =>
    rw [losses_free hx]
    exact losses_le_two s'
  | some x =>
    have hx' := h.active x hx
    by_cases hmember : ∃ l, s.roster.link? user x.id = some l ∧ l.status = .active
    · obtain ⟨l, hl, hactive⟩ := hmember
      obtain ⟨l', hl', -, hactive'⟩ := h.link user x.id l hl
      rw [losses_member hx' hl' (hactive' hactive)]
      exact Nat.zero_le _
    · rw [losses_apart hx fun l hl hactive => hmember ⟨l, hl, hactive⟩]
      exact losses_le_one hx'

end Losses

/-! ## Attempts -/

/-- The user has become a member of the active subscription, or was one before; and the process has
created it if it says so. -/
def Enrolled (i : ι) (user : UserId) (s : Race ι start topic) :
    Except ServiceError SubscribeResult → Prop
  | .ok r => (r.outcome = .created ↔ s.winner = some i) ∧
    ∃ x l, s.roster.activeOn? topic = some x ∧ r.subscription = x.id ∧
      s.roster.link? user x.id = some l ∧ l.status = .active
  | .error _ => False

/-- Others leave a member a member. -/
theorem Enrolled.onward {user : UserId} {s s' : Race ι start topic}
    {outcome : Except ServiceError SubscribeResult} (h : s.Onward i s')
    (henrolled : s.Enrolled i user outcome) : s'.Enrolled i user outcome := by
  cases outcome with
  | error e => exact henrolled
  | ok r =>
    obtain ⟨hcreated, x, l, hx, hr, hl, hactive⟩ := henrolled
    obtain ⟨l', hl', -, hactive'⟩ := h.link user x.id l hl
    exact ⟨hcreated.trans h.winner.symm, x, l', h.active x hx, hr, hl', hactive' hactive⟩

/-- A member of a subscription that another process has created, or that was there before. -/
theorem enrolled_member {s : Race ι start topic} {user : UserId} {x : Subscription} {l : Link}
    {outcome : SubscribeOutcome} (hwinner : s.winner ≠ some i) (hne : outcome ≠ .created)
    (hx : s.roster.activeOn? topic = some x) (hl : s.roster.link? user x.id = some l)
    (hactive : l.status = .active) : s.Enrolled i user (.ok ⟨x.id, outcome⟩) :=
  ⟨iff_of_false hne hwinner, x, l, hx, rfl, hl, hactive⟩

section Attempt

variable (t : Tables) {s : Race ι start topic} {user : UserId} {description : String}
  {now : Instant} (hnow : now.HasFourDigitYear) {n : Nat}

/-- At the end of an attempt: a conflict leaves less to lose. -/
abbrev AttemptEnds (i : ι) (user : UserId) (n : Nat) :
    Race ι start topic → Except ServiceError SubscribeResult → Prop :=
  Settles (fun s => s.winner ≠ some i ∧ s.losses user < n) (Enrolled i user)

include hnow in
/-- The subscription is created, unless another process has done so. -/
theorem safe_create (hwinner : s.winner ≠ some i) (hn : 2 ≤ n) :
    (ask (.createSubscription ⟨user, topic, description⟩ now) >>= fun added =>
      (pure { subscription := added.1.id, outcome := .created } : Operation SubscribeResult)).Safe
        (sharing ι start topic t) i (AttemptEnds i user n) s := by
  refine safe_ask_bind fun s' hs => ?_
  cases hx : s'.roster.activeOn? topic with
  | none =>
    obtain ⟨added, hid, hcreate⟩ := s'.roster.perform_createSubscription s'.sound t
      ⟨user, topic, description⟩ hnow hx
    refine ⟨.ok added, s'.create i user description hnow hx, hcreate, fun j hj =>
      onward_create hnow hx hj, ?_⟩
    have hlink : (s'.roster.create ⟨user, topic, description⟩ now).link? user s'.roster.nextId =
        some _ := Roster.link?_join_self s'.sound.link?_nextId
    exact safe_pure ⟨⟨fun _ => rfl, fun _ => rfl⟩, _, _, Roster.activeOn?_create _ hx, hid, hlink,
      rfl⟩
  | some x =>
    obtain ⟨reason, htaken⟩ := s'.roster.perform_createSubscription_taken (t := t)
      ⟨user, topic, description⟩ now hx
    refine ⟨.error (.conflict reason), s', htaken, fun j _ => Onward.refl j s', ?_⟩
    exact ⟨fun h => hwinner (hs.winner.1 h), Nat.lt_of_le_of_lt (losses_le_one hx) hn⟩

include hnow in
/-- The user is linked, unless another process of the same user has done so. -/
theorem safe_join {x : Subscription} (hx : s.roster.activeOn? topic = some x)
    (hl : s.roster.link? user x.id = none) (hwinner : s.winner ≠ some i) (hn : 1 ≤ n) :
    (Memberships.carryOut user x.id none .insertLink now >>= fun _ =>
      (pure { subscription := x.id, outcome := .joined } : Operation SubscribeResult)).Safe
        (sharing ι start topic t) i (AttemptEnds i user n) s := by
  refine safe_bind (Memberships.carryOut user x.id none .insertLink now)
    (fun s' outcome => AttemptEnds i user n s' (outcome.map fun _ => ⟨x.id, .joined⟩))
    ?_ (fun _ _ h => h) fun _ _ h => safe_pure h
  refine safe_ask_bind fun s' hs => ?_
  have hx' := hs.active x hx
  have hwinner' : s'.winner ≠ some i := fun h => hwinner (hs.winner.1 h)
  cases hl' : s'.roster.link? user x.id with
  | none =>
    have hsub := s'.sound.subscription?_eq_some.2 ⟨(Roster.mem_of_activeOn? hx').1, rfl⟩
    have hm := s'.sound.join hnow ⟨x, (Roster.mem_of_activeOn? hx').1, rfl⟩ hl'
    obtain ⟨link, hjoin⟩ := s'.roster.perform_insertLink s'.sound t hsub hl'
    refine ⟨.ok link, s'.setRoster _ hm rfl, hjoin, fun j _ => onward_join hm j, ?_⟩
    have hjoined : (s'.roster.join user x.id now).link? user x.id = some _ :=
      Roster.link?_join_self hl'
    exact safe_pure (enrolled_member hwinner' (by decide) hx' hjoined rfl)
  | some l =>
    obtain ⟨reason, htaken⟩ := Roster.perform_insertLink_taken (t := t) now hl'
    refine ⟨.error (.conflict reason), s', htaken, fun j _ => Onward.refl j s', hwinner', ?_⟩
    rw [losses_member hx' hl' (hs.link_new user x.id hl l hl')]
    exact hn

include hnow in
/-- The cancelled link is made active, unless another process of the same user has done so. -/
theorem safe_activate {x : Subscription} {l : Link} (hx : s.roster.activeOn? topic = some x)
    (hl : s.roster.link? user x.id = some l) (hwinner : s.winner ≠ some i) (hn : 1 ≤ n) :
    (Memberships.carryOut user x.id (some l) .activate now >>= fun _ =>
      (pure { subscription := x.id, outcome := .reactivated } : Operation SubscribeResult)).Safe
        (sharing ι start topic t) i (AttemptEnds i user n) s := by
  refine safe_bind (Memberships.carryOut user x.id (some l) .activate now)
    (fun s' outcome => AttemptEnds i user n s' (outcome.map fun _ => ⟨x.id, .reactivated⟩))
    ?_ (fun _ _ h => h) fun _ _ h => safe_pure h
  refine safe_ask_bind fun s' hs => ?_
  have hx' := hs.active x hx
  have hwinner' : s'.winner ≠ some i := fun h => hwinner (hs.winner.1 h)
  obtain ⟨l', hl', hid, -⟩ := hs.link user x.id l hl
  rw [← hid]
  cases hstatus : l'.status with
  | cancelled =>
    have hm : (s'.roster.setLink user x.id .active now).Sound := s'.sound.setLink hnow .active
    have hchange := s'.roster.perform_changeLink s'.sound t hl' .active now
    rw [hstatus] at hchange
    refine ⟨.ok true, s'.setRoster _ hm rfl, hchange, fun j _ => onward_setLink hm j, ?_⟩
    have hset : (s'.roster.setLink user x.id .active now).link? user x.id = some _ :=
      Roster.link?_setLink_self hl' .active
    exact safe_pure (enrolled_member hwinner' (by decide) hx' hset rfl)
  | active =>
    have hmissed : ∀ l'' ∈ s'.roster.links, l''.id = l'.id → l''.status ≠ .cancelled := by
      intro l'' hl'' hid''
      rw [s'.sound.link_ext_id hl'' (Roster.mem_of_link? hl').1 hid'', hstatus]
      decide
    have hmiss := s'.roster.perform_changeLink_missed s'.sound t hmissed .active now
    refine ⟨.ok false, s', hmiss, fun j _ => Onward.refl j s', ?_⟩
    refine safe_fail ⟨hwinner', ?_⟩
    rw [losses_member hx' hl' hstatus]
    exact hn

include hnow in
/-- **An attempt makes the user a member, or leaves less to lose.** -/
theorem safe_trySubscribe (hwinner : s.winner ≠ some i) (hn : s.losses user ≤ n) :
    (Memberships.trySubscribe user topic description now).Safe (sharing ι start topic t) i
      (AttemptEnds i user n) s := by
  unfold Memberships.trySubscribe
  refine safe_ask_bind fun s₁ h₁ => ?_
  refine ⟨_, s₁, s₁.roster.perform_findActiveByTopic s₁.sound t topic, fun j _ =>
    Onward.refl j s₁, ?_⟩
  dsimp only
  have hwinner₁ : s₁.winner ≠ some i := fun h => hwinner (h₁.winner.1 h)
  have hn₁ : s₁.losses user ≤ n := Nat.le_trans (losses_onward h₁) hn
  cases hx : s₁.roster.activeOn? topic with
  | none =>
    rw [losses_free hx] at hn₁
    exact safe_create t hnow hwinner₁ hn₁
  | some x =>
    refine safe_ask_bind fun s₂ h₂ => ?_
    refine ⟨_, s₂, s₂.roster.perform_findLink s₂.sound t user x.id, fun j _ =>
      Onward.refl j s₂, ?_⟩
    dsimp only
    have hwinner₂ : s₂.winner ≠ some i := fun h => hwinner₁ (h₂.winner.1 h)
    have hn₂ : s₂.losses user ≤ n := Nat.le_trans (losses_onward h₂) hn₁
    have hx₂ := h₂.active x hx
    cases hl : s₂.roster.link? user x.id with
    | none =>
      rw [losses_apart hx₂ fun l hl' => by rw [hl] at hl'; cases hl'] at hn₂
      exact safe_check_bind rfl (safe_join t hnow hx₂ hl hwinner₂ hn₂)
    | some l =>
      rw [Option.map_some]
      cases hstatus : l.status with
      | cancelled =>
        have hne : ∀ l', s₂.roster.link? user x.id = some l' → l'.status ≠ .active := by
          intro l' hl'
          rw [hl] at hl'
          rw [← Option.some.inj hl', hstatus]
          decide
        rw [losses_apart hx₂ hne] at hn₂
        exact safe_check_bind rfl (safe_activate t hnow hx₂ hl hwinner₂ hn₂)
      | active =>
        have henrolled : s₂.Enrolled i user (.ok ⟨x.id, .alreadyActive⟩) :=
          enrolled_member hwinner₂ (by decide) hx₂ hl hstatus
        exact safe_check_bind rfl (safe_pure henrolled)

end Attempt

end Race

end ChatLedger
