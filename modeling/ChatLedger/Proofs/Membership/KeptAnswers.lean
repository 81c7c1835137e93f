import ChatLedger.Proofs.Membership.Refinement
import ChatLedger.Proofs.Store.ReadBack

/-!
# Answers about memberships are kept

What the calls on subscriptions and links answer, against what is found right after them.

1. The lemmas on the roster: what is described or deleted is found as it is answered, and who has
   subscribed, left or come back is linked as the answer says.
2. `step_of_on` takes an answer of the service for the one of the roster.
3. The `…_keeps` lemmas, one for each operation, on the rows of a sound roster.
-/

namespace ChatLedger

open Store Time Operation

/-! ## On the roster -/

namespace Roster

variable {m m' : Roster} {user : UserId} {id : Int} {now : Instant}

/-- A change that keeps identifiers is found where the subscription was. -/
theorem subscription?_amend (change : Subscription → Subscription)
    (same : ∀ s, (change s).id = s.id) {s : Subscription} (hs : m.subscription? id = some s) :
    (m.amend id change).subscription? id = some (change s) := by
  obtain ⟨-, hid⟩ := mem_of_subscription? hs
  have hkept : (fun s : Subscription => s.id == id) ∘
      (fun s => if s.id == id then change s else s) = fun s => s.id == id := by
    funext s
    dsimp only [Function.comp]
    split
    · rw [same]
    · rfl
  unfold subscription? at hs ⊢
  unfold amend changeWhere
  dsimp only
  rw [List.find?_map, hkept, hs]
  simp [hid]

namespace Sound

variable (hm : m.Sound)
include hm

/-- A subscription of the roster has its times as they are kept. -/
theorem truncated_eq {s : Subscription} (hs : m.subscription? id = some s) : s.truncated = s := by
  have kept := hm.subscription_isKept s (mem_of_subscription? hs).1
  unfold Subscription.truncated
  rw [kept.created.micros, kept.updated.micros]

/-- **What is described** is found as it is answered. -/
theorem subscription?_describe (storable : now.IsStorable) {description : String} {s : Subscription}
    (h : m.describe user id description now = (.ok (.subscription s), m')) :
    m'.subscription? s.id = some s.truncated := by
  unfold Roster.describe at h
  dsimp only at h
  split at h
  · cases h
  cases hs : m.subscription? id with
  | none =>
    rw [hs] at h
    cases h
  | some s₀ =>
    obtain ⟨-, rfl⟩ := mem_of_subscription? hs
    rw [hs] at h
    dsimp only at h
    split at h
    · cases h
    split at h
    · cases h
    cases h
    refine (subscription?_amend (·.describe _ now) (fun _ => rfl) hs).trans ?_
    show _ = some { s₀.truncated with
      description := Text.trim description, updatedAt := now.toMicros }
    rw [hm.truncated_eq hs, ← storable.kept]
    rfl

/-- **What is deleted** is found as it is answered, also if it had been deleted before. -/
theorem subscription?_delete (storable : now.IsStorable) {s : Subscription}
    (h : m.delete id now = (.ok (.subscription s), m')) :
    m'.subscription? s.id = some s.truncated := by
  unfold Roster.delete at h
  cases hs : m.subscription? id with
  | none =>
    rw [hs] at h
    cases h
  | some s₀ =>
    obtain ⟨-, rfl⟩ := mem_of_subscription? hs
    rw [hs] at h
    dsimp only at h
    split at h <;> cases h
    · refine (subscription?_amend (·.close now) (fun _ => rfl) hs).trans ?_
      show _ = some { s₀.truncated with status := .cancelled, updatedAt := now.toMicros }
      rw [hm.truncated_eq hs, ← storable.kept]
      rfl
    · rw [hm.truncated_eq hs]
      exact hs

/-- **Who subscribes** is linked to the active subscription on the topic. -/
theorem linked_of_enrol (topic description : String) :
    ∃ s l, (m.enrol user topic description now).2.activeOn? topic = some s ∧
      s.id = (m.enrol user topic description now).1.subscription ∧
      (m.enrol user topic description now).2.link? user s.id = some l ∧ l.status = .active := by
  unfold Roster.enrol
  cases hactive : m.activeOn? topic with
  | none =>
    exact ⟨_, _, activeOn?_create ⟨user, topic, description⟩ hactive, rfl,
      link?_join_self hm.link?_nextId, rfl⟩
  | some s =>
    dsimp only
    cases hl : m.link? user s.id with
    | none => exact ⟨s, _, hactive, rfl, link?_join_self hl, rfl⟩
    | some l =>
      dsimp only
      split
      · exact ⟨s, _, hactive, rfl, link?_setLink_self hl .active, rfl⟩
      · rename_i hstatus
        exact ⟨s, l, hactive, rfl, hl, hstatus⟩

end Sound

/-- **Who leaves or comes back** has a link of the status that is answered. -/
theorem link?_turnLink {wanted : LinkStatus} {c : MembershipChange}
    (h : m.turnLink user id wanted now = (.ok (.changed c), m')) :
    c.subscription = id ∧ ∃ l, m'.link? user id = some l ∧ l.status = c.current := by
  unfold turnLink at h
  cases hl : m.link? user id with
  | none =>
    rw [hl] at h
    cases h
  | some l =>
    rw [hl] at h
    dsimp only at h
    split at h <;> cases h
    · rename_i hsame
      exact ⟨rfl, l, hl, hsame⟩
    · exact ⟨rfl, _, link?_setLink_self hl wanted, rfl⟩

end Roster

/-! ## Each operation -/

/-- The link of the user to the subscription has been found, with this status. -/
def LinkedAs (user : UserId) (id : Int) (status : LinkStatus) (found : Option Link) : Prop :=
  ∃ l, found = some l ∧ l.user = user ∧ l.subscription = id ∧ l.status = status

theorem Roster.linkedAs {m : Roster} {user : UserId} {id : Int} {l : Link} {status : LinkStatus}
    (hl : m.link? user id = some l) (hstatus : l.status = status) :
    LinkedAs user id status (m.link? user id) := by
  obtain ⟨-, huser, hid⟩ := mem_of_link? hl
  exact ⟨l, hl, huser, hid, hstatus⟩

/-- The subscription that is answered is the one that is found next. -/
def Operation.KeepsSubscription (op : Operation Subscription) (t : Tables) : Prop :=
  op.ReadsBack t (fun s => ask (.getSubscription s.id)) fun s found => found = some s.truncated

/-- The link of the user that is found next has the status that is answered. -/
def Operation.KeepsLink (op : Operation MembershipChange) (t : Tables) (user : UserId) (id : Int) :
    Prop :=
  op.ReadsBack t (fun _ => ask (.findLink user id)) fun c found =>
    c.subscription = id ∧ LinkedAs user id c.current found

/-- The subscription that is answered is the active one on the topic, and the user is linked to it,
actively. -/
structure Operation.KeepsMember (op : Operation SubscribeResult) (t : Tables) (user : UserId)
    (topic : String) : Prop where
  active : op.ReadsBack t (fun _ => ask (.findActiveByTopic topic)) fun r found =>
    ∃ s, found = some s ∧ s.id = r.subscription ∧ s.topic = topic ∧ s.status = .active
  linked : op.ReadsBack t (fun r => ask (.findLink user r.subscription)) fun r found =>
    LinkedAs user r.subscription .active found

section Operations

variable {m : Roster} (hm : m.Sound) (t : Tables) (settings : Settings) (user : UserId) (id : Int)

include hm

/-- **What the service answers** is what the reference answers, which leaves a sound roster. -/
theorem step_of_on (c : MembershipCall) (clock : c.now.HasFourDigitYear) {α : Type}
    {op : Operation α} (reply : α → MembershipReply) (does : c.operation settings = reply <$> op)
    {answer : α} {t' : Tables} (hon : op.on (m.store t) = (.ok answer, t')) :
    ∃ m' : Roster, m.step c = (.ok (reply answer), m') ∧ t' = m'.store t ∧ m'.Sound := by
  obtain ⟨outcome, hcall, meets⟩ := on_call hm t settings c clock
  rw [does, on_map hon] at hcall
  cases hcall
  refine ⟨(m.step c).2, ?_, rfl, hm.step c clock⟩
  cases hstep : (m.step c).1 with
  | ok expected =>
    rw [hstep] at meets
    exact Prod.ext (hstep.trans (congrArg _ (Except.ok.inj meets).symm)) rfl
  | error refusal =>
    rw [hstep] at meets
    cases meets

section OneReading

variable {now : Instant} (storable : now.IsStorable)
include storable

theorem describe_keeps (description : String) :
    (Memberships.describe user id description now).KeepsSubscription (m.store t) := by
  intro s t' hon
  obtain ⟨m', hstep, rfl, sound⟩ :=
    step_of_on hm t {} (.describe user id description now) storable.year .subscription rfl hon
  change m.describe user id description now = _ at hstep
  exact ⟨_, on_ask (m'.perform_getSubscription sound t s.id), hm.subscription?_describe storable hstep⟩

theorem delete_keeps : (Memberships.delete id now).KeepsSubscription (m.store t) := by
  intro s t' hon
  obtain ⟨m', hstep, rfl, sound⟩ :=
    step_of_on hm t {} (.delete id now) storable.year .subscription rfl hon
  change m.delete id now = _ at hstep
  exact ⟨_, on_ask (m'.perform_getSubscription sound t s.id), hm.subscription?_delete storable hstep⟩

end OneReading

section Racing

variable {clock : Clock} (years : clock.HasFourDigitYears)
include years

/-- The attempt that counts makes the user a member of the active subscription on the topic. -/
theorem linked_of_subscribe {topic description : String} {r : SubscribeResult} {t' : Tables}
    (hon : (Memberships.subscribe settings user topic description clock).on (m.store t) =
      (.ok r, t')) :
    ∃ m' : Roster, t' = m'.store t ∧ m'.Sound ∧ ∃ s l,
      m'.activeOn? (Text.trim topic) = some s ∧ s.id = r.subscription ∧
        m'.link? user r.subscription = some l ∧ l.status = .active := by
  obtain ⟨m', hstep, rfl, sound⟩ := step_of_on hm t settings
    (.subscribe user topic description clock) (years.reading 0) .subscribed rfl hon
  refine ⟨m', rfl, sound, ?_⟩
  change m.subscribe user topic description (clock 0) = _ at hstep
  unfold Roster.subscribe at hstep
  dsimp only at hstep
  split at hstep
  · cases hstep
  · cases hstep
    obtain ⟨s, l, hactive, hid, hl, hstatus⟩ :=
      hm.linked_of_enrol (Text.trim topic) (Text.trim description)
    exact ⟨s, l, hactive, hid, hid ▸ hl, hstatus⟩

theorem subscribe_keeps (topic description : String) :
    (Memberships.subscribe settings user topic description clock).KeepsMember (m.store t) user
      (Text.trim topic) where
  active r t' hon := by
    obtain ⟨m', rfl, sound, s, -, hactive, hid, -⟩ :=
      linked_of_subscribe hm t settings user years hon
    obtain ⟨-, htopic, hstatus⟩ := Roster.mem_of_activeOn? hactive
    exact ⟨_, on_ask (m'.perform_findActiveByTopic sound t _), s, hactive, hid, htopic, hstatus⟩
  linked r t' hon := by
    obtain ⟨m', rfl, sound, -, l, -, -, hl, hstatus⟩ :=
      linked_of_subscribe hm t settings user years hon
    exact ⟨_, on_ask (m'.perform_findLink sound t _ _), Roster.linkedAs hl hstatus⟩

theorem cancel_keeps :
    (Memberships.cancel settings user id clock).KeepsLink (m.store t) user id := by
  intro c t' hon
  obtain ⟨m', hstep, rfl, sound⟩ :=
    step_of_on hm t settings (.cancel user id clock) (years.reading 0) .changed rfl hon
  change m.cancel user id (clock 0) = _ at hstep
  unfold Roster.cancel at hstep
  split at hstep
  · cases hstep
  · obtain ⟨hid, l, hl, hstatus⟩ := Roster.link?_turnLink hstep
    exact ⟨_, on_ask (m'.perform_findLink sound t _ _), hid, Roster.linkedAs hl hstatus⟩

theorem reactivate_keeps :
    (Memberships.reactivate settings user id clock).KeepsLink (m.store t) user id := by
  intro c t' hon
  obtain ⟨m', hstep, rfl, sound⟩ :=
    step_of_on hm t settings (.reactivate user id clock) (years.reading 0) .changed rfl hon
  change m.reactivate user id (clock 0) = _ at hstep
  unfold Roster.reactivate at hstep
  split at hstep
  · cases hstep
  · split at hstep
    · obtain ⟨hid, l, hl, hstatus⟩ := Roster.link?_turnLink hstep
      exact ⟨_, on_ask (m'.perform_findLink sound t _ _), hid, Roster.linkedAs hl hstatus⟩
    · cases hstep

end Racing

end Operations

end ChatLedger
