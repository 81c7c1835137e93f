import ChatLedger.Proofs.Membership.RosterStore
import ChatLedger.Proofs.Membership.Rows

/-!
# Reachable stores keep a sound roster

1. `Request.membershipClock?` tells the changes to subscriptions and links from all other calls, and
   with which time they are written. `Request.perform_apart`: the others leave both tables alone.
2. `Tables.Reachable`: what any calls of all services have made of an empty store, in any order and
   whichever of them have failed, as long as these times lie in the years 0 to 9999. The text of any
   other year is not read back.
3. `Tables.Reachable.exists_roster`: the rows of a reachable store are those of a sound roster.
-/

namespace ChatLedger.Store

open Time

/-- The time with which a call writes to subscriptions or links. -/
def Request.membershipClock? : Request → Option Instant
  | createSubscription _ now | insertLink _ _ now | changeLink _ _ _ now
  | updateDescription _ _ now | cancelSubscription _ now => some now
  | _ => none

/-- What the call writes to subscriptions or links can be read back. -/
def Request.Timely (r : Request) : Prop := ∀ now ∈ r.membershipClock?, now.HasFourDigitYear

/-- Both tables have the same subscriptions and links. -/
structure Tables.SameMembers (t t' : Tables) : Prop where
  subscriptions : t'.subscriptions = t.subscriptions
  links : t'.links = t.links

/-- All other calls leave subscriptions and links alone. -/
theorem Request.perform_apart {r : Request} (h : r.membershipClock? = none) (t : Tables) :
    t.SameMembers (r.perform t).2 := by
  have step := r.perform_members t
  generalize (r.perform t).2 = t' at step ⊢
  cases step with
  | apart subscriptions links => exact ⟨subscriptions, links⟩
  | insertArticle | deleteArticle => exact ⟨rfl, rfl⟩
  | _ => cases h

/-- The rows of subscriptions and links are those of a sound roster. -/
def Tables.Rostered (t : Tables) : Prop := ∃ m : Roster, m.Sound ∧ m.store t = t

theorem Tables.rostered_store {m : Roster} (hm : m.Sound) (t : Tables) : (m.store t).Rostered :=
  ⟨m, hm, rfl⟩

/-- A call that is timely keeps a sound roster. -/
theorem Request.perform_rostered {r : Request} (timely : r.Timely) {t : Tables}
    (h : t.Rostered) : (r.perform t).2.Rostered := by
  obtain ⟨m, hm, hstore⟩ := h
  cases hclock : r.membershipClock? with
  | none =>
    obtain ⟨hsubscriptions, hlinks⟩ := perform_apart hclock t
    refine ⟨m, hm, ?_⟩
    have hs : m.subscriptions.map .ofSubscription = t.subscriptions :=
      congrArg Tables.subscriptions hstore
    have hl : m.links.map .ofLink = t.links := congrArg Tables.links hstore
    unfold Roster.store
    rw [hs, hl, ← hsubscriptions, ← hlinks]
  | some now =>
    have hnow := timely now hclock
    rw [← hstore]
    cases r with
    | createSubscription input now' =>
      cases hclock
      cases hactive : m.activeOn? input.topic with
      | none =>
        obtain ⟨answer, -, hcreated⟩ := m.perform_createSubscription hm t input hnow hactive
        rw [hcreated]
        exact Tables.rostered_store (hm.create hnow hactive) t
      | some s =>
        obtain ⟨reason, htaken⟩ := m.perform_createSubscription_taken input now hactive
        rw [htaken]
        exact Tables.rostered_store hm t
    | insertLink user id now' =>
      cases hclock
      cases hs : m.subscription? id with
      | none =>
        obtain ⟨error, hunknown⟩ := m.perform_insertLink_unknown hm t hs
        rw [hunknown]
        exact Tables.rostered_store hm t
      | some s =>
        cases hl : m.link? user id with
        | none =>
          obtain ⟨link, hjoined⟩ := m.perform_insertLink hm t hs hl
          rw [hjoined]
          exact Tables.rostered_store (hm.join hnow ⟨s, Roster.mem_of_subscription? hs⟩ hl) t
        | some l =>
          obtain ⟨reason, htaken⟩ := m.perform_insertLink_taken now hl
          rw [htaken]
          exact Tables.rostered_store hm t
    | changeLink id expected wanted now' =>
      cases hclock
      by_cases hit : ∃ l ∈ m.links, l.id = id ∧ l.status = expected
      · obtain ⟨l, hl, rfl, rfl⟩ := hit
        rw [m.perform_changeLink hm t (hm.link?_eq_some.2 ⟨hl, rfl, rfl⟩)]
        exact Tables.rostered_store (hm.setLink hnow wanted) t
      · rw [m.perform_changeLink_missed hm t fun l hl hid hstatus => hit ⟨l, hl, hid, hstatus⟩]
        exact Tables.rostered_store hm t
    | updateDescription id description now' =>
      cases hclock
      by_cases hit : ∃ s ∈ m.subscriptions, s.id = id ∧ s.status = .active
      · obtain ⟨s, hs, hid, hactive⟩ := hit
        rw [m.perform_updateDescription hm t (hm.subscription?_eq_some.2 ⟨hs, hid⟩) hactive]
        exact Tables.rostered_store (hm.describe hnow) t
      · rw [m.perform_updateDescription_missed hm t fun s hs hid hactive =>
          hit ⟨s, hs, hid, hactive⟩]
        exact Tables.rostered_store hm t
    | cancelSubscription id now' =>
      cases hclock
      by_cases hit : ∃ s ∈ m.subscriptions, s.id = id ∧ s.status = .active
      · obtain ⟨s, hs, hid, hactive⟩ := hit
        rw [m.perform_cancelSubscription hm t (hm.subscription?_eq_some.2 ⟨hs, hid⟩) hactive]
        exact Tables.rostered_store (hm.close hnow) t
      · rw [m.perform_cancelSubscription_missed hm t fun s hs hid hactive =>
          hit ⟨s, hs, hid, hactive⟩]
        exact Tables.rostered_store hm t
    | _ => cases hclock

/-- The tables that any calls have made of empty ones, whichever of them have failed. -/
def Tables.Reachable (t : Tables) : Prop :=
  ∃ (ι : Type) (history : List (Event ι)), Trace {} history t ∧ ∀ e ∈ history, e.request.Timely

/-- **Reachable stores keep a sound roster.** -/
theorem Tables.Reachable.exists_roster {t : Tables} (h : t.Reachable) :
    ∃ m : Roster, m.Sound ∧ m.store t = t := by
  obtain ⟨ι, history, trace, timely⟩ := h
  have first : Tables.Rostered {} := ⟨{}, Roster.sound_empty, rfl⟩
  refine trace.invariant first fun e he lawful h => ?_
  exact lawful.after_of h (Request.perform_rostered (timely e he) h)

end ChatLedger.Store
