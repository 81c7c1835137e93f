import ChatLedger.Proofs.Membership.Reachable
import ChatLedger.Proofs.Membership.Reference
import ChatLedger.Proofs.Store.Alone
import ChatLedger.Proofs.Validation

/-!
# The membership service refines its reference

Calls of the membership service that are made one after the other, without failures of the store.

1. The `on_…` lemmas: each operation, alone on the rows of a sound roster, does what its reference
   does.
2. `MembershipCall.follows_roster`: every sequence of calls answers as the reference, and leaves the
   rows of the roster that the reference ends in.
-/

namespace ChatLedger

open Store Time Operation

/-! ## Calls one after the other -/

/-- Makes calls one after the other. -/
def MembershipCall.inTurn (settings : Settings) :
    List MembershipCall → Tables → List (Except ServiceError MembershipReply) × Tables
  | [], t => ([], t)
  | c :: calls, t =>
    let (answer, t) := (c.program settings).run t
    let (answers, t) := inTurn settings calls t
    (answer :: answers, t)

/-- The answer is the one of the reference, with some text where a call is refused. -/
def Meets (answer : Except ServiceError MembershipReply)
    (expected : Except Refusal MembershipReply) : Prop :=
  answer.mapError ServiceError.kind = expected.mapError Refusal.kind

/-! ## Steps -/

/-- The status of the link that a request asks for. -/
def Transition.wanted : Transition → LinkStatus
  | .cancel => .cancelled
  | .subscribe | .reactivate => .active

theorem Membership.step_noLink {transition : Transition} (h : transition ≠ .subscribe) :
    (Membership.ofStatus none).step transition = .error ⟨transition⟩ := by
  cases transition with
  | subscribe => exact absurd rfl h
  | cancel => rfl
  | reactivate => rfl

/-- What is as it is asked for needs no write. -/
theorem Membership.step_same (transition : Transition) :
    (Membership.ofStatus (some transition.wanted)).step transition = .ok .nothing := by
  cases transition <;> rfl

/-- Otherwise the link gets the status that is asked for. -/
theorem Membership.step_other {transition : Transition} {status : LinkStatus}
    (h : status ≠ transition.wanted) :
    ∃ step, (Membership.ofStatus (some status)).step transition = .ok step ∧
      step.change = some (status, transition.wanted) := by
  cases status with
  | active =>
    cases transition with
    | cancel => exact ⟨.deactivate, rfl, rfl⟩
    | subscribe => exact absurd rfl h
    | reactivate => exact absurd rfl h
  | cancelled =>
    cases transition with
    | cancel => exact absurd rfl h
    | subscribe => exact ⟨.activate, rfl, rfl⟩
    | reactivate => exact ⟨.activate, rfl, rfl⟩

/-! ## Each operation -/

/-- A conflict is none of the answers of the reference. -/
theorem Meets.calm {α : Type} {f : α → MembershipReply} {answer : Except ServiceError α}
    {expected : Except Refusal MembershipReply} (h : Meets (answer.map f) expected)
    (reason : String) : answer ≠ .error (.conflict reason) := by
  rintro rfl
  cases expected with
  | ok reply => cases h
  | error refusal =>
    have hkind : "conflict" = refusal.kind := Except.error.inj h
    cases refusal <;> exact absurd hkind (by decide)

/-- A first attempt that meets the reference is the only one. -/
theorem on_retry_meets {m : Roster} {t : Tables} {attempt : Nat → Operation MembershipChange}
    {outcome : Roster.Outcome} (attempts : UInt32)
    (h : ∃ answer, (attempt 0).on (m.store t) = (answer, outcome.2.store t) ∧
      Meets (answer.map .changed) outcome.1) :
    ∃ answer, (MembershipReply.changed <$> Operation.retry attempts attempt).on (m.store t) =
      (answer, outcome.2.store t) ∧ Meets answer outcome.1 := by
  obtain ⟨answer, hattempt, hmeets⟩ := h
  exact ⟨_, on_map (on_retry attempts hattempt hmeets.calm), hmeets⟩

section Operations

variable {m : Roster} (hm : m.Sound) (t : Tables) {user : UserId} {id : Int} {now : Instant}

include hm

/-- The step to be carried out changes the status of the link that has been seen. -/
theorem on_carryOut {link : Link} (hl : m.link? user id = some link) {step : MembershipStep}
    {wanted : LinkStatus} (hstep : step.change = some (link.status, wanted)) :
    (Memberships.carryOut user id (some link) step now).on (m.store t) =
      (.ok wanted, (m.setLink user id wanted now).store t) := by
  unfold Memberships.carryOut
  rw [hstep]
  dsimp only
  rw [on_bind_ok (on_ask (m.perform_changeLink hm t hl wanted now))]
  rfl

/-- An attempt to subscribe does what its reference does. -/
theorem on_trySubscribe (user : UserId) (hnow : now.HasFourDigitYear) (topic description : String) :
    (Memberships.trySubscribe user topic description now).on (m.store t) =
      (.ok (m.enrol user topic description now).1,
        (m.enrol user topic description now).2.store t) := by
  unfold Memberships.trySubscribe Roster.enrol
  rw [on_bind_ok (on_ask (m.perform_findActiveByTopic hm t topic))]
  cases hactive : m.activeOn? topic with
  | none =>
    obtain ⟨⟨s, link⟩, hid, hcreate⟩ :=
      m.perform_createSubscription hm t ⟨user, topic, description⟩ hnow hactive
    dsimp only at hid ⊢
    rw [on_bind_ok (on_ask hcreate), ← hid]
    rfl
  | some s =>
    dsimp only
    rw [on_bind_ok (on_ask (m.perform_findLink hm t user s.id))]
    cases hl : m.link? user s.id with
    | none =>
      have hs := hm.subscription?_eq_some.2 ⟨(Roster.mem_of_activeOn? hactive).1, rfl⟩
      obtain ⟨link, hjoin⟩ := m.perform_insertLink hm t hs hl
      have hcarry : (Memberships.carryOut user s.id none .insertLink now).on (m.store t) =
          (.ok .active, (m.join user s.id now).store t) := by
        unfold Memberships.carryOut
        exact on_bind_ok (on_ask hjoin)
      refine (on_bind_ok (a := MembershipStep.insertLink) rfl).trans ?_
      exact on_bind_ok hcarry
    | some link =>
      dsimp only
      rw [Option.map_some]
      cases hstatus : link.status with
      | cancelled =>
        have hchange : MembershipStep.activate.change = some (link.status, .active) := by
          rw [hstatus]
          rfl
        refine (on_bind_ok (a := MembershipStep.activate) rfl).trans ?_
        exact on_bind_ok (on_carryOut hm t hl hchange)
      | active =>
        refine (on_bind_ok (a := MembershipStep.nothing) rfl).trans ?_
        exact on_bind_ok (on_pure _ _)

/-- The subscription that is looked up, deleted or not. -/
theorem on_found {s : Subscription} (hs : m.subscription? id = some s) :
    (Memberships.found id).on (m.store t) = (.ok s, m.store t) := by
  unfold Memberships.found
  rw [on_bind_ok (on_ask (m.perform_getSubscription hm t id)), hs]
  rfl

theorem on_found_none (hs : m.subscription? id = none) :
    (Memberships.found id).on (m.store t) =
      (.error (.notFound (Memberships.name id)), m.store t) := by
  unfold Memberships.found
  rw [on_bind_ok (on_ask (m.perform_getSubscription hm t id)), hs]
  rfl

/-- An attempt to cancel or reactivate a membership does what its reference does. -/
theorem on_tryTransition {s : Subscription} (hs : m.subscription? id = some s)
    {transition : Transition} (hne : transition ≠ .subscribe)
    (hopen : transition = .reactivate → s.status = .active) :
    ∃ answer, (Memberships.tryTransition user id transition now).on (m.store t) =
        (answer, (m.turnLink user id transition.wanted now).2.store t) ∧
      Meets (answer.map .changed) (m.turnLink user id transition.wanted now).1 := by
  unfold Memberships.tryTransition
  rw [on_bind_ok (on_found hm t hs)]
  extract_lets turn
  -- whatever was checked before, the link is looked up next
  have hturn : ∃ answer, (turn ()).on (m.store t) =
      (answer, (m.turnLink user id transition.wanted now).2.store t) ∧
      Meets (answer.map .changed) (m.turnLink user id transition.wanted now).1 := by
    unfold turn Roster.turnLink
    rw [on_bind_ok (on_ask (m.perform_findLink hm t user id))]
    cases hl : m.link? user id with
    | none =>
      dsimp only
      rw [Option.map_none, Membership.step_noLink hne]
      exact ⟨_, on_bind_error rfl, rfl⟩
    | some link =>
      dsimp only
      rw [Option.map_some]
      by_cases hsame : link.status = transition.wanted
      · have hstep : (Membership.ofStatus (some link.status)).step transition = .ok .nothing := by
          rw [hsame, Membership.step_same]
        rw [if_pos hsame, hstep, ← hsame]
        exact ⟨_, (on_bind_ok rfl).trans (on_bind_ok (a := link.status) rfl), rfl⟩
      · obtain ⟨step, hstep, hchange⟩ := Membership.step_other hsame
        rw [if_neg hsame, hstep]
        exact ⟨_, (on_bind_ok rfl).trans (on_bind_ok (on_carryOut hm t hl hchange)), rfl⟩
  by_cases hre : transition = .reactivate
  · have hcheck : Memberships.ensureOpen s id = .ok () := if_pos (hopen hre)
    rw [if_pos hre, hcheck, on_bind_ok (on_check _ _)]
    exact hturn
  · rw [if_neg hre]
    exact hturn

/-- A subscription that is looked up and has been deleted. -/
theorem on_opened_closed {s : Subscription} (hs : m.subscription? id = some s)
    (hclosed : s.status ≠ .active) :
    ∃ what, (Memberships.opened id).on (m.store t) = (.error (.notFound what), m.store t) := by
  unfold Memberships.opened
  rw [on_bind_ok (on_found hm t hs), show Memberships.ensureOpen s id = _ from if_neg hclosed]
  exact ⟨_, on_bind_error rfl⟩

theorem on_opened {s : Subscription} (hs : m.subscription? id = some s)
    (hactive : s.status = .active) :
    (Memberships.opened id).on (m.store t) = (.ok s, m.store t) := by
  unfold Memberships.opened
  rw [on_bind_ok (on_found hm t hs), show Memberships.ensureOpen s id = _ from if_pos hactive]
  exact on_bind_ok rfl

theorem on_subscribe (settings : Settings) {clock : Clock} (hnow : (clock 0).HasFourDigitYear)
    (topic description : String) :
    ∃ answer, ((MembershipCall.subscribe user topic description clock).operation settings).on
        (m.store t) = (answer, (m.subscribe user topic description (clock 0)).2.store t) ∧
      Meets answer (m.subscribe user topic description (clock 0)).1 := by
  show ∃ answer, (MembershipReply.subscribed <$>
    Memberships.subscribe settings user topic description clock).on (m.store t) = _ ∧ _
  unfold Memberships.subscribe Roster.subscribe
  dsimp only
  by_cases htopic : Text.trim topic = "" ∨ Limit.subscriptionTopic < (Text.trim topic).length
  · obtain ⟨reason, hcheck⟩ := Validation.requiredText_invalid "topic_name" htopic
    rw [if_pos (htopic.imp_right .inl), hcheck]
    exact ⟨_, on_map (on_bind_error rfl), rfl⟩
  have hcheck := Validation.requiredText_ok "topic_name" (fun h => htopic (.inl h))
    (Nat.not_lt.1 fun h => htopic (.inr h))
  rw [hcheck]
  by_cases hdescription : Limit.description < (Text.trim description).length
  · obtain ⟨reason, hlong⟩ := Validation.boundedText_long "description" hdescription
    rw [if_pos (.inr (.inr hdescription)), hlong]
    exact ⟨_, on_map ((on_bind_ok rfl).trans (on_bind_error rfl)), rfl⟩
  have hvalid : ¬ (Text.trim topic = "" ∨ Limit.subscriptionTopic < (Text.trim topic).length ∨
      Limit.description < (Text.trim description).length) := by
    rintro (h | h | h)
    · exact htopic (.inl h)
    · exact htopic (.inr h)
    · exact hdescription h
  rw [if_neg hvalid, Validation.boundedText_ok _ (Nat.not_lt.1 hdescription)]
  let attempt (made : Nat) := Memberships.trySubscribe user (Text.trim topic)
    (Text.trim description) (clock made)
  have hattempt : (attempt 0).on (m.store t) = _ :=
    on_trySubscribe hm t user hnow (Text.trim topic) (Text.trim description)
  have hretry := on_retry settings.subscriptions.attempts hattempt fun _ h => by
    cases h
  exact ⟨_, on_map ((on_bind_ok rfl).trans ((on_bind_ok rfl).trans hretry)), rfl⟩

theorem on_cancel (settings : Settings) (clock : Clock) :
    ∃ answer, ((MembershipCall.cancel user id clock).operation settings).on (m.store t) =
        (answer, (m.cancel user id (clock 0)).2.store t) ∧
      Meets answer (m.cancel user id (clock 0)).1 := by
  refine on_retry_meets _ ?_
  unfold Roster.cancel
  cases hs : m.subscription? id with
  | none => exact ⟨_, on_bind_error (on_found_none hm t hs), rfl⟩
  | some s => exact on_tryTransition hm t hs (by decide) fun h => by cases h

theorem on_reactivate (settings : Settings) (clock : Clock) :
    ∃ answer, ((MembershipCall.reactivate user id clock).operation settings).on (m.store t) =
        (answer, (m.reactivate user id (clock 0)).2.store t) ∧
      Meets answer (m.reactivate user id (clock 0)).1 := by
  refine on_retry_meets _ ?_
  unfold Roster.reactivate
  cases hs : m.subscription? id with
  | none => exact ⟨_, on_bind_error (on_found_none hm t hs), rfl⟩
  | some s =>
    dsimp only
    split
    · rename_i hactive
      exact on_tryTransition hm t hs (by decide) fun _ => hactive
    · rename_i hclosed
      unfold Memberships.tryTransition
      rw [on_bind_ok (on_found hm t hs)]
      extract_lets turn
      rw [if_pos rfl, show Memberships.ensureOpen s id = _ from if_neg hclosed]
      exact ⟨_, on_bind_error rfl, rfl⟩

theorem on_describe (settings : Settings) (description : String) :
    ∃ answer, ((MembershipCall.describe user id description now).operation settings).on
        (m.store t) = (answer, (m.describe user id description now).2.store t) ∧
      Meets answer (m.describe user id description now).1 := by
  show ∃ answer, (MembershipReply.subscription <$>
    Memberships.describe user id description now).on (m.store t) = _ ∧ _
  unfold Memberships.describe Roster.describe
  dsimp only
  by_cases hdescription : Limit.description < (Text.trim description).length
  · obtain ⟨reason, hlong⟩ := Validation.boundedText_long "description" hdescription
    rw [if_pos hdescription, hlong]
    exact ⟨_, on_map (on_bind_error rfl), rfl⟩
  rw [if_neg hdescription, Validation.boundedText_ok _ (Nat.not_lt.1 hdescription)]
  cases hs : m.subscription? id with
  | none =>
    have hopened : (Memberships.opened id).on (m.store t) = _ :=
      on_bind_error (on_found_none hm t hs)
    exact ⟨_, on_map ((on_bind_ok rfl).trans (on_bind_error hopened)), rfl⟩
  | some s =>
    dsimp only
    by_cases hactive : s.status = .active
    swap
    · obtain ⟨what, hopened⟩ := on_opened_closed hm t hs hactive
      rw [if_pos hactive]
      exact ⟨_, on_map ((on_bind_ok rfl).trans (on_bind_error hopened)), rfl⟩
    have hopened := on_opened hm t hs hactive
    rw [if_neg (not_not.2 hactive)]
    by_cases howner : s.creator = user
    · have hcheck : (check (ensureOwner s user)).on (m.store t) = (.ok (), m.store t) := by
        rw [show ensureOwner s user = _ from if_pos howner]
        rfl
      have hupdate := m.perform_updateDescription hm t hs hactive (Text.trim description) now
      rw [if_neg (not_not.2 howner)]
      exact ⟨_, on_map ((on_bind_ok rfl).trans ((on_bind_ok hopened).trans
        ((on_bind_ok hcheck).trans (on_bind_ok (on_ask hupdate))))), rfl⟩
    · have hcheck : ∃ reason, (check (ensureOwner s user)).on (m.store t) =
          (.error (.permissionDenied reason), m.store t) := by
        rw [show ensureOwner s user = _ from if_neg howner]
        exact ⟨_, rfl⟩
      obtain ⟨reason, hcheck⟩ := hcheck
      rw [if_pos howner]
      exact ⟨_, on_map ((on_bind_ok rfl).trans ((on_bind_ok hopened).trans
        (on_bind_error hcheck))), rfl⟩

theorem on_delete (settings : Settings) :
    ∃ answer, ((MembershipCall.delete id now).operation settings).on (m.store t) =
        (answer, (m.delete id now).2.store t) ∧
      Meets answer (m.delete id now).1 := by
  unfold Roster.delete
  cases hs : m.subscription? id with
  | none => exact ⟨_, on_map (on_bind_error (on_found_none hm t hs)), rfl⟩
  | some s =>
    dsimp only
    by_cases hactive : s.status = .active
    · have hcancel := m.perform_cancelSubscription hm t hs hactive now
      rw [if_pos hactive]
      exact ⟨_, on_map ((on_bind_ok (on_found hm t hs)).trans (on_bind_ok (on_ask hcancel))), rfl⟩
    · have hmissed : ∀ s' ∈ m.subscriptions, s'.id = id → s'.status ≠ .active := by
        obtain ⟨hmem, hid⟩ := Roster.mem_of_subscription? hs
        intro s' hs' hid'
        rw [hm.subscription_ext hs' hmem (hid'.trans hid.symm)]
        exact hactive
      have hcancel := m.perform_cancelSubscription_missed hm t hmissed now
      have hclosed : s.status = .cancelled := by
        cases h : s.status with
        | active => exact absurd h hactive
        | cancelled => rfl
      rw [if_neg hactive]
      refine ⟨_, on_map ((on_bind_ok (on_found hm t hs)).trans (on_bind_ok (on_ask hcancel))), ?_⟩
      show Meets (.ok (.subscription { s with status := .cancelled })) _
      rw [← hclosed]
      rfl

/-- **One call does what it means.** -/
theorem on_call (settings : Settings) (c : MembershipCall) (hnow : c.now.HasFourDigitYear) :
    ∃ answer, (c.operation settings).on (m.store t) = (answer, (m.step c).2.store t) ∧
      Meets answer (m.step c).1 := by
  cases c with
  | subscribe user topic description clock =>
    exact on_subscribe hm t settings hnow topic description
  | cancel user id clock => exact on_cancel hm t settings clock
  | reactivate user id clock => exact on_reactivate hm t settings clock
  | describe user id description now => exact on_describe hm t settings description
  | delete id now => exact on_delete hm t settings

end Operations

/-! ## Sequences of calls -/

namespace MembershipCall

/-- Calls that are made one after the other on the rows of a sound roster. -/
theorem inTurn_store (settings : Settings) {m : Roster} (hm : m.Sound) (t : Tables)
    (calls : List MembershipCall) (timely : ∀ c ∈ calls, c.now.HasFourDigitYear) :
    (inTurn settings calls (m.store t)).1.map (·.mapError ServiceError.kind) =
        (m.follow calls).1.map (·.mapError Refusal.kind) ∧
      (inTurn settings calls (m.store t)).2 = (m.follow calls).2.store t ∧
      (m.follow calls).2.Sound := by
  induction calls generalizing m with
  | nil => exact ⟨rfl, rfl, hm⟩
  | cons c calls ih =>
    have hnow := timely c List.mem_cons_self
    obtain ⟨answer, hanswer, hmeets⟩ := on_call hm t settings c hnow
    obtain ⟨hanswers, htables, hsound⟩ := ih (hm.step c hnow) fun c' hc' =>
      timely c' (List.mem_cons_of_mem _ hc')
    have hfirst : (c.program settings).run (m.store t) = (answer, (m.step c).2.store t) := hanswer
    unfold inTurn Roster.follow
    dsimp only
    rw [hfirst, List.map_cons, List.map_cons, hanswers]
    exact ⟨congrArg (· :: _) hmeets, htables, hsound⟩

/-- **The membership service refines its reference.** A reachable store keeps a sound roster, and
whatever calls are made on it one after the other, with clocks in the years 0 to 9999, they are
answered, or refused, as the reference does; they leave the rows of the roster that the reference
ends in, and all other tables as they were. -/
theorem follows_roster (settings : Settings) {t : Tables} (reachable : t.Reachable) :
    ∃ m : Roster, m.Sound ∧ m.store t = t ∧
      ∀ calls : List MembershipCall, (∀ c ∈ calls, c.now.HasFourDigitYear) →
        (inTurn settings calls t).1.map (·.mapError ServiceError.kind) =
            (m.follow calls).1.map (·.mapError Refusal.kind) ∧
          (inTurn settings calls t).2 = (m.follow calls).2.store t ∧
          (m.follow calls).2.Sound := by
  obtain ⟨m, hm, hstore⟩ := reachable.exists_roster
  refine ⟨m, hm, hstore, fun calls timely => ?_⟩
  have h := inTurn_store settings hm t calls timely
  rw [hstore] at h
  exact h

/-- A topic that is subscribed to, left, deleted and subscribed to again, and a user who comes back
too late. -/
def sampleCalls : List MembershipCall :=
  [.subscribe ⟨1⟩ " ml " "" .start2026, .subscribe ⟨2⟩ "ml" "" .start2026,
    .cancel ⟨2⟩ 1 .start2026, .delete 1 .start2026, .reactivate ⟨2⟩ 1 .start2026,
    .subscribe ⟨1⟩ "ml" "new" .start2026, .describe ⟨2⟩ 2 "mine" .start2026]

/-- The empty store is reachable, and the sample leaves two subscriptions of one topic in it. -/
theorem follows_roster_after_deletion :
    Tables.Reachable {} ∧ ∃ m : Roster, m.store {} = {} ∧
      (inTurn {} sampleCalls {}).1.map (·.mapError ServiceError.kind) =
        (m.follow sampleCalls).1.map (·.mapError Refusal.kind) ∧
      (inTurn {} sampleCalls {}).2 = (m.follow sampleCalls).2.store {} ∧
      (m.follow sampleCalls).2.subscriptions.map (·.status) = [.cancelled, .active] := by
  have reachable : Tables.Reachable {} := ⟨Unit, [], .nil, by simp⟩
  obtain ⟨m, -, hstore, hfollows⟩ := follows_roster {} reachable
  obtain ⟨hanswers, htables, -⟩ := hfollows sampleCalls (by decide)
  obtain rfl : m = {} := by
    have hs : m.subscriptions.map SubscriptionRow.ofSubscription = [] :=
      congrArg Tables.subscriptions hstore
    have hl : m.links.map LinkRow.ofLink = [] := congrArg Tables.links hstore
    cases m
    rw [List.map_eq_nil_iff] at hs hl
    cases hs
    cases hl
    rfl
  exact ⟨reachable, {}, rfl, hanswers, htables, by decide +kernel⟩

/-- In year 10000 no sequence follows the reference that comes back to a subscription: its row can
no longer be read. -/
theorem not_follows_roster_in_year10000 :
    ¬ ∀ (settings : Settings) (calls : List MembershipCall),
      (inTurn settings calls {}).1.map (·.mapError ServiceError.kind) =
        (({} : Roster).follow calls).1.map (·.mapError Refusal.kind) := by
  intro h
  have hanswers := h {}
    [.subscribe ⟨1⟩ "ml" "" .year10000, .subscribe ⟨1⟩ "ml" "" .year10000]
  revert hanswers
  decide +kernel

end MembershipCall

end ChatLedger
