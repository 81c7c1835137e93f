import ChatLedger.Proofs.Membership.Calls
import ChatLedger.Proofs.Membership.Roster

/-!
# What membership calls mean

The calls of the membership service, said on the roster: no look-ups that may be out of date, no
conflicts and no rows.

1. `Roster.step` answers a call and changes the roster, or refuses the call with a `Refusal`.
2. `Roster.follow` does so for calls one after the other.
3. `Roster.Sound.step`: whatever is asked for, a sound roster stays sound.
-/

namespace ChatLedger

open Store Time

/-! ## The reference -/

/-- Why a call is refused. -/
inductive Refusal where
  | notFound
  | permissionDenied
  | validationFailed
  deriving Repr, DecidableEq

/-- The word for the kind of error that the caller is told. -/
def Refusal.kind : Refusal → String
  | .notFound => "not_found"
  | .permissionDenied => "permission_denied"
  | .validationFailed => "validation_failed"

/-- What a call answers, and the roster afterwards. -/
abbrev Roster.Outcome := Except Refusal MembershipReply × Roster

namespace Roster

/-- A user subscribes to a topic; both texts have no blanks at their ends and are short enough. -/
def enrol (m : Roster) (user : UserId) (topic description : String) (now : Instant) :
    SubscribeResult × Roster :=
  match m.activeOn? topic with
  | none => (⟨m.nextId, .created⟩, m.create ⟨user, topic, description⟩ now)
  | some s =>
    match m.link? user s.id with
    | none => (⟨s.id, .joined⟩, m.join user s.id now)
    | some link =>
      match link.status with
      | .cancelled => (⟨s.id, .reactivated⟩, m.setLink user s.id .active now)
      | .active => (⟨s.id, .alreadyActive⟩, m)

/-- A user subscribes to a topic. -/
def subscribe (m : Roster) (user : UserId) (topic description : String) (now : Instant) :
    Outcome :=
  let topic := Text.trim topic
  let description := Text.trim description
  if topic = "" ∨ Limit.subscriptionTopic < topic.length ∨
      Limit.description < description.length then
    (.error .validationFailed, m)
  else
    let (result, m) := m.enrol user topic description now
    (.ok (.subscribed result), m)

/-- The link of a user gets a status, if it has another one. -/
def turnLink (m : Roster) (user : UserId) (id : Int) (wanted : LinkStatus) (now : Instant) :
    Outcome :=
  match m.link? user id with
  | none => (.error .permissionDenied, m)
  | some link =>
    (.ok (.changed ⟨id, link.status, wanted⟩),
      if link.status = wanted then m else m.setLink user id wanted now)

/-- A user leaves a subscription, which may have been deleted. -/
def cancel (m : Roster) (user : UserId) (id : Int) (now : Instant) : Outcome :=
  match m.subscription? id with
  | none => (.error .notFound, m)
  | some _ => m.turnLink user id .cancelled now

/-- A user comes back to a subscription, which may not have been deleted. -/
def reactivate (m : Roster) (user : UserId) (id : Int) (now : Instant) : Outcome :=
  match m.subscription? id with
  | none => (.error .notFound, m)
  | some s => if s.status = .active then m.turnLink user id .active now else (.error .notFound, m)

/-- The creator of a subscription that has not been deleted gives it another description. -/
def describe (m : Roster) (user : UserId) (id : Int) (description : String) (now : Instant) :
    Outcome :=
  let description := Text.trim description
  if Limit.description < description.length then (.error .validationFailed, m)
  else
    match m.subscription? id with
    | none => (.error .notFound, m)
    | some s =>
      if s.status ≠ .active then (.error .notFound, m)
      else if s.creator ≠ user then (.error .permissionDenied, m)
      else
        (.ok (.subscription { s with description := description, updatedAt := now }),
          m.amend id (·.describe description now))

/-- A subscription is deleted, unless it has been already. Its links are left alone. -/
def delete (m : Roster) (id : Int) (now : Instant) : Outcome :=
  match m.subscription? id with
  | none => (.error .notFound, m)
  | some s =>
    if s.status = .active then
      (.ok (.subscription { s with status := .cancelled, updatedAt := now }),
        m.amend id (·.close now))
    else (.ok (.subscription s), m)

/-- What a call does, with the time of its first attempt. -/
def step (m : Roster) : MembershipCall → Outcome
  | .subscribe user topic description clock => m.subscribe user topic description (clock 0)
  | .cancel user id clock => m.cancel user id (clock 0)
  | .reactivate user id clock => m.reactivate user id (clock 0)
  | .describe user id description now => m.describe user id description now
  | .delete id now => m.delete id now

/-- What calls do one after the other. -/
def follow (m : Roster) : List MembershipCall → List (Except Refusal MembershipReply) × Roster
  | [] => ([], m)
  | c :: calls =>
    let (answer, m) := m.step c
    let (answers, m) := m.follow calls
    (answer :: answers, m)

end Roster

/-- The time that a call reads first. -/
def MembershipCall.now : MembershipCall → Instant
  | .subscribe _ _ _ clock | .cancel _ _ clock | .reactivate _ _ clock => clock 0
  | .describe _ _ _ now | .delete _ now => now

/-! ## Soundness -/

namespace Roster.Sound

variable {m : Roster} (hm : m.Sound) {user : UserId} {id : Int} {now : Instant}
  (hnow : now.HasFourDigitYear)
include hm hnow

theorem enrol (topic description : String) : (m.enrol user topic description now).2.Sound := by
  unfold Roster.enrol
  cases hactive : m.activeOn? topic with
  | none => exact hm.create hnow hactive
  | some s =>
    dsimp only
    cases hl : m.link? user s.id with
    | none => exact hm.join hnow ⟨s, (mem_of_activeOn? hactive).1, rfl⟩ hl
    | some link =>
      dsimp only
      split
      · exact hm.setLink hnow .active
      · exact hm

theorem turnLink (wanted : LinkStatus) : (m.turnLink user id wanted now).2.Sound := by
  unfold Roster.turnLink
  split
  · exact hm
  · dsimp only
    split
    · exact hm
    · exact hm.setLink hnow wanted

omit hnow in
/-- Every call keeps a roster sound. -/
theorem step (c : MembershipCall) (hnow : c.now.HasFourDigitYear) : (m.step c).2.Sound := by
  cases c with
  | subscribe user topic description clock =>
    show (m.subscribe user topic description (clock 0)).2.Sound
    unfold Roster.subscribe
    dsimp only
    split
    · exact hm
    · exact hm.enrol hnow _ _
  | cancel user id clock =>
    show (m.cancel user id (clock 0)).2.Sound
    unfold Roster.cancel
    split
    · exact hm
    · exact hm.turnLink hnow .cancelled
  | reactivate user id clock =>
    show (m.reactivate user id (clock 0)).2.Sound
    unfold Roster.reactivate
    split
    · exact hm
    · split
      · exact hm.turnLink hnow .active
      · exact hm
  | describe user id description now =>
    show (m.describe user id description now).2.Sound
    unfold Roster.describe
    dsimp only
    split
    · exact hm
    · split
      · exact hm
      · split
        · exact hm
        · split
          · exact hm
          · exact hm.describe hnow
  | delete id now =>
    show (m.delete id now).2.Sound
    unfold Roster.delete
    split
    · exact hm
    · split
      · exact hm.close hnow
      · exact hm

end Roster.Sound

end ChatLedger
