import ChatLedger.Proofs.Store.Changes
import ChatLedger.Proofs.Store.Paths
import ChatLedger.Service.Memberships

/-!
# Calls of the membership service

What users may ask of the membership service, as data, and what an answer says was done to a link.

1. `MembershipCall.report?` reads an answer as the report of one change of a link, or of none.
2. `Accounts`: the store calls behind an answer make just the change that it reports, and make it
   last.
3. `MembershipCall.ends_accounts`: this holds of every call, however many attempts it takes.
-/

namespace ChatLedger

open Store Time Operation

/-- A call of the membership service. A call that may take more than one attempt is given a clock, the
others the time at which they read it. -/
inductive MembershipCall where
  | subscribe (user : UserId) (topic description : String) (clock : Clock)
  | cancel (user : UserId) (id : Int) (clock : Clock)
  | reactivate (user : UserId) (id : Int) (clock : Clock)
  | describe (user : UserId) (id : Int) (description : String) (now : Instant)
  | delete (id : Int) (now : Instant)
  deriving Repr, DecidableEq

/-- The value that a call of the membership service answers with. -/
inductive MembershipReply where
  | subscribed (result : SubscribeResult)
  | changed (change : MembershipChange)
  | subscription (subscription : Subscription)
  deriving Repr, DecidableEq

/-- What a call does. -/
def MembershipCall.operation (settings : Settings) : MembershipCall → Operation MembershipReply
  | .subscribe user topic description clock =>
    .subscribed <$> Memberships.subscribe settings user topic description clock
  | .cancel user id clock => .changed <$> Memberships.cancel settings user id clock
  | .reactivate user id clock => .changed <$> Memberships.reactivate settings user id clock
  | .describe user id description now =>
    .subscription <$> Memberships.describe user id description now
  | .delete id now => .subscription <$> Memberships.delete id now

/-- What a call does, as a program that ends in a value or an error. -/
def MembershipCall.program (settings : Settings) (c : MembershipCall) :
    Program (Except ServiceError MembershipReply) := (c.operation settings).run

/-- The times that a call may read on its clock. -/
def MembershipCall.readings : MembershipCall → List Instant
  | .subscribe _ _ _ clock | .cancel _ _ clock | .reactivate _ _ clock => clock.readings
  | .describe _ _ _ now | .delete _ now => [now]

theorem MembershipCall.readings_ne_nil (c : MembershipCall) : c.readings ≠ [] := by
  cases c <;> exact List.cons_ne_nil _ _

/-! ## Reports -/

/-- A change of one link. -/
inductive LinkEffect where
  | created
  | flipped (previous current : LinkStatus)
  deriving Repr, DecidableEq

/-- That the link of a user to a subscription has been changed. -/
structure LinkReport where
  user : UserId
  subscription : Int
  effect : LinkEffect
  deriving Repr, DecidableEq

/-- The change of a link that an outcome tells of. -/
def SubscribeOutcome.effect? : SubscribeOutcome → Option LinkEffect
  | .created | .joined => some .created
  | .reactivated => some (.flipped .cancelled .active)
  | .alreadyActive => none

/-- The change of a link that the answer tells of. -/
def MembershipChange.effect? (c : MembershipChange) : Option LinkEffect :=
  if c.changed then some (.flipped c.previous c.current) else none

/-- What the end of a subscribe call reports. -/
def subscribeReport? (user : UserId) : Except ServiceError SubscribeResult → Option LinkReport
  | .ok r => r.outcome.effect?.map fun effect => ⟨user, r.subscription, effect⟩
  | .error _ => none

/-- What the end of a call that cancels or reactivates a membership reports. -/
def changeReport? (user : UserId) : Except ServiceError MembershipChange → Option LinkReport
  | .ok c => c.effect?.map fun effect => ⟨user, c.subscription, effect⟩
  | .error _ => none

/-- What the end of a call reports. -/
def MembershipCall.report? :
    MembershipCall → Except ServiceError MembershipReply → Option LinkReport
  | .subscribe user .., .ok (.subscribed r) => subscribeReport? user (.ok r)
  | .cancel user .., .ok (.changed c) | .reactivate user .., .ok (.changed c) =>
    changeReport? user (.ok c)
  | _, _ => none

/-! ## Quiet exchanges -/

/-- The exchange has changed nothing. -/
inductive Store.Exchange.Silent : Exchange → Prop where
  | read {x : Exchange} (h : x.request.access = .reader) : Silent x
  | failed {r : Request} {e : StoreError} (h : r.isAtomic = true) : Silent ⟨r, .error e⟩
  | missed {id : Int} {expected wanted : LinkStatus} {now : Instant} :
    Silent ⟨.changeLink id expected wanted now, .ok false⟩

/-- The exchanges have changed nothing. -/
def Quiet (l : List Exchange) : Prop := ∀ x ∈ l, x.Silent

theorem quiet_nil : Quiet [] := by simp [Quiet]

theorem Quiet.append {l₁ l₂ : List Exchange} (h₁ : Quiet l₁) (h₂ : Quiet l₂) :
    Quiet (l₁ ++ l₂) := by
  intro x hx
  rcases List.mem_append.1 hx with hx | hx
  · exact h₁ x hx
  · exact h₂ x hx

theorem Store.Exchange.Silent.quiet {x : Exchange} (h : x.Silent) : Quiet [x] := by
  intro y hy
  rw [List.mem_singleton.1 hy]
  exact h

section Quiet

variable {α : Type} {r : Request} {l : List Exchange}

theorem quiet_check {a outcome : Except ServiceError α} (h : (check a).Ends l outcome) :
    Quiet l := by
  rw [(ends_check.1 h).1]
  exact quiet_nil

theorem quiet_read (hr : r.access = .reader) {outcome : Except ServiceError r.Answer}
    (h : (ask r).Ends l outcome) : Quiet l := by
  obtain ⟨a, rfl, -⟩ := ends_ask.1 h
  exact (Exchange.Silent.read hr).quiet

theorem quiet_failure (hr : r.isAtomic = true) {e : ServiceError}
    (h : (ask r).Ends l (.error e)) : Quiet l := by
  obtain ⟨a, rfl, ha⟩ := ends_ask.1 h
  cases a with
  | ok a => cases ha
  | error e => exact (Exchange.Silent.failed hr).quiet

/-- Operations that are quiet one after the other are quiet together. -/
theorem quiet_bind {β : Type} {op : Operation α} {f : α → Operation β}
    {outcome : Except ServiceError β} (h : (op >>= f).Ends l outcome)
    (first : ∀ {l a}, op.Ends l a → Quiet l)
    (second : ∀ {l a}, (f a).Ends l outcome → Quiet l) : Quiet l := by
  rcases ends_bind h with ⟨e, h, -⟩ | ⟨a, l₁, l₂, rfl, h₁, h₂⟩
  · exact first h
  · exact (first h₁).append (second h₂)

end Quiet

/-! ## Accounts -/

/-- After the earlier exchanges, this one has made the change of the report. -/
inductive LinkWrite : LinkReport → List Exchange → Exchange → Prop where
  | create {earlier : List Exchange} {user : UserId} {topic description : String} {now : Instant}
      {s : Subscription} {link : Link} : LinkWrite ⟨user, s.id, .created⟩ earlier
        ⟨.createSubscription ⟨user, topic, description⟩ now, .ok (s, link)⟩
  | insert {earlier : List Exchange} {user : UserId} {subscription : Int} {now : Instant}
      {link : Link} : LinkWrite ⟨user, subscription, .created⟩ earlier
        ⟨.insertLink user subscription now, .ok link⟩
  | change {earlier : List Exchange} {user : UserId} {subscription : Int}
      {previous current : LinkStatus} {now : Instant} {link : Link}
      (seen : ⟨.findLink user subscription, .ok (some link)⟩ ∈ earlier) (ne : previous ≠ current) :
      LinkWrite ⟨user, subscription, .flipped previous current⟩ earlier
        ⟨.changeLink link.id previous current now, .ok true⟩

/-- The exchanges have made just the change that is reported, and made it last. -/
inductive Accounts : Option LinkReport → List Exchange → Prop where
  | quiet {l : List Exchange} (h : Quiet l) : Accounts none l
  | wrote {report : LinkReport} {l : List Exchange} {x : Exchange} (h : Quiet l)
      (last : LinkWrite report l x) : Accounts (some report) (l ++ [x])

namespace Accounts

variable {report : Option LinkReport} {l l₁ l₂ : List Exchange}

theorem quiet_of_none (h : Accounts none l) : Quiet l := by
  cases h with
  | quiet h => exact h

/-- Quiet exchanges before it do not count. -/
theorem prepend (h₁ : Quiet l₁) (h : Accounts report l₂) : Accounts report (l₁ ++ l₂) := by
  cases h with
  | quiet h => exact .quiet (h₁.append h)
  | wrote h last =>
    rw [← List.append_assoc]
    refine .wrote (h₁.append h) ?_
    cases last with
    | create => exact .create
    | insert => exact .insert
    | change seen ne => exact .change (List.mem_append_right _ seen) ne

end Accounts

/-- What holds of a single attempt holds of a repetition, whose lost attempts are quiet. -/
theorem accounts_retry {α : Type} {report? : Except ServiceError α → Option LinkReport}
    {attempts : UInt32} {attempt : Nat → Operation α} {l : List Exchange}
    {outcome : Except ServiceError α} (h : (Operation.retry attempts attempt).Ends l outcome)
    (errors : ∀ e, report? (.error e) = none)
    (single : ∀ {made l outcome}, (attempt made).Ends l outcome → Accounts (report? outcome) l) :
    Accounts (report? outcome) l := by
  obtain ⟨lost, last, rfl, -, hlost, made, hlast⟩ := ends_retry h
  refine (single hlast).prepend fun x hx => ?_
  obtain ⟨exchanges, hexchanges, hx⟩ := List.mem_flatten.1 hx
  obtain ⟨made, reason, hended⟩ := hlost exchanges hexchanges
  have hquiet := single hended
  rw [errors] at hquiet
  exact hquiet.quiet_of_none x hx

/-! ## Attempts -/

section Attempts

variable {user : UserId} {id : Int} {now : Instant} {l : List Exchange}

/-- All that the carrying out of a step can come to. -/
theorem ends_carryOut {link : Option Link} {step : MembershipStep}
    {outcome : Except ServiceError LinkStatus}
    (h : (Memberships.carryOut user id link step now).Ends l outcome) :
    (∃ e, outcome = .error e ∧ Quiet l) ∨
      (∃ k seen wanted, link = some k ∧ step.change = some (seen, wanted) ∧
        outcome = .ok wanted ∧ l = [⟨.changeLink k.id seen wanted now, .ok true⟩]) ∨
      (∃ k, step = .insertLink ∧ outcome = .ok .active ∧
        l = [⟨.insertLink user id now, .ok k⟩]) ∨
      (step = .nothing ∧ outcome = .ok ((link.map (·.status)).getD .active) ∧ l = []) := by
  unfold Memberships.carryOut at h
  split at h
  · -- a link that is there is changed
    rename_i seen wanted k hchange
    rcases ends_bind h with ⟨e, h, he⟩ | ⟨hit, l₁, l₂, rfl, h₁, h₂⟩
    · exact .inl ⟨e, he, quiet_failure rfl h⟩
    · rw [ends_ask_ok h₁]
      cases hit with
      | true =>
        obtain ⟨rfl, ho⟩ := ends_pure.1 h₂
        exact .inr (.inl ⟨k, seen, wanted, rfl, hchange, ho, rfl⟩)
      | false =>
        obtain ⟨rfl, ho⟩ := ends_fail.1 h₂
        exact .inl ⟨_, ho, Exchange.Silent.missed.quiet⟩
  · -- the link has gone
    obtain ⟨rfl, ho⟩ := ends_fail.1 h
    exact .inl ⟨_, ho, quiet_nil⟩
  · rename_i hchange
    split at h
    · rename_i hstep
      rcases ends_bind h with ⟨e, h, he⟩ | ⟨k, l₁, l₂, rfl, h₁, h₂⟩
      · exact .inl ⟨e, he, quiet_failure rfl h⟩
      · obtain ⟨rfl, ho⟩ := ends_pure.1 h₂
        rw [ends_ask_ok h₁]
        exact .inr (.inr (.inl ⟨k, hstep, ho, rfl⟩))
    · rename_i hstep
      obtain ⟨rfl, ho⟩ := ends_pure.1 h
      refine .inr (.inr (.inr ⟨?_, ho, rfl⟩))
      cases step with
      | nothing => rfl
      | insertLink => exact absurd rfl hstep
      | activate => cases hchange
      | deactivate => cases hchange

/-- What a step does to the link that a user is seen to have. -/
def MembershipStep.effect? : MembershipStep → Option LinkEffect
  | .insertLink => some .created
  | step => step.change.map fun (seen, wanted) => .flipped seen wanted

/-- A look-up of the link and the carrying out of a step make the change of the step. -/
theorem accounts_carryOut {link : Option Link} {step : MembershipStep} {status : LinkStatus}
    (h : (Memberships.carryOut user id link step now).Ends l (.ok status)) :
    Accounts (step.effect?.map fun effect => ⟨user, id, effect⟩)
      (⟨.findLink user id, .ok link⟩ :: l) := by
  have hread : Quiet [⟨.findLink user id, .ok link⟩] := (Exchange.Silent.read rfl).quiet
  rcases ends_carryOut h with ⟨e, he, -⟩ | ⟨k, seen, wanted, rfl, hchange, -, rfl⟩ |
    ⟨k, rfl, -, rfl⟩ | ⟨rfl, -, rfl⟩
  · cases he
  · have hstep : step.effect? = some (.flipped seen wanted) := by
      cases step <;> cases hchange <;> rfl
    have hne : seen ≠ wanted := by
      cases step <;> cases hchange <;> decide
    rw [hstep]
    exact .wrote hread (.change (List.mem_singleton_self _) hne)
  · exact .wrote hread .insert
  · exact .quiet hread

theorem quiet_carryOut {link : Option Link} {step : MembershipStep} {e : ServiceError}
    (h : (Memberships.carryOut user id link step now).Ends l (.error e)) : Quiet l := by
  rcases ends_carryOut h with ⟨_, -, hquiet⟩ | ⟨_, _, _, -, -, ho, -⟩ | ⟨_, -, ho, -⟩ | ⟨-, ho, -⟩
  · exact hquiet
  all_goals cases ho

theorem mapError_eq_ok {ε ε' α : Type} {f : ε → ε'} {x : Except ε α} {a : α}
    (h : Except.ok a = x.mapError f) : x = .ok a := by
  cases x with
  | error e => cases h
  | ok b => cases h; rfl

/-- The answer to a subscribe call tells of what its step does. -/
theorem effect_outcomeOf {link : Option Link} {step : MembershipStep}
    (h : (Membership.ofStatus (link.map (·.status))).step .subscribe = .ok step) :
    (Memberships.outcomeOf step).effect? = step.effect? := by
  cases link with
  | none => cases h; rfl
  | some k =>
    cases hk : k.status <;> rw [Option.map_some, hk] at h <;> cases h <;> rfl

/-- One attempt to subscribe makes just the change that its answer reports. -/
theorem ends_trySubscribe {topic description : String}
    {outcome : Except ServiceError SubscribeResult}
    (h : (Memberships.trySubscribe user topic description now).Ends l outcome) :
    Accounts (subscribeReport? user outcome) l := by
  unfold Memberships.trySubscribe at h
  rcases ends_bind h with ⟨e, he, rfl⟩ | ⟨found, l₁, l₂, rfl, h₁, h₂⟩
  · exact .quiet (quiet_read rfl he)
  refine Accounts.prepend (quiet_read rfl h₁) ?_
  cases found with
  | none =>
    rcases ends_bind h₂ with ⟨e, he, rfl⟩ | ⟨⟨s, link⟩, l₃, l₄, rfl, h₃, h₄⟩
    · exact .quiet (quiet_failure rfl he)
    · obtain ⟨rfl, rfl⟩ := ends_pure.1 h₄
      rw [ends_ask_ok h₃]
      show Accounts (some ⟨user, s.id, .created⟩) _
      exact .wrote quiet_nil .create
  | some s =>
    rcases ends_bind h₂ with ⟨e, he, rfl⟩ | ⟨link, l₃, l₄, rfl, h₃, h₄⟩
    · exact .quiet (quiet_read rfl he)
    rcases ends_bind h₄ with ⟨e, he, rfl⟩ | ⟨step, l₅, l₆, rfl, h₅, h₆⟩
    · exact .quiet ((quiet_read rfl h₃).append (quiet_check he))
    rcases ends_bind h₆ with ⟨e, he, rfl⟩ | ⟨status, l₇, l₈, rfl, h₇, h₈⟩
    · exact .quiet ((quiet_read rfl h₃).append ((quiet_check h₅).append (quiet_carryOut he)))
    obtain ⟨rfl, hstep⟩ := ends_check.1 h₅
    obtain ⟨rfl, rfl⟩ := ends_pure.1 h₈
    rw [ends_ask_ok h₃, List.nil_append, List.append_nil]
    unfold subscribeReport?
    dsimp only
    rw [effect_outcomeOf (mapError_eq_ok hstep)]
    exact accounts_carryOut h₇

/-- The subscription that is looked up, if it is there, is only read. -/
theorem quiet_found {outcome : Except ServiceError Subscription}
    (h : (Memberships.found id).Ends l outcome) : Quiet l :=
  quiet_bind h (quiet_read rfl) quiet_check

/-- The change that a cancellation or reactivation tells of is that of its step. -/
theorem effect_change {k : Link} {transition : Transition} {step : MembershipStep}
    {status : LinkStatus} (h : (Membership.ofStatus (some k.status)).step transition = .ok step)
    (hcarried : (Memberships.carryOut user id (some k) step now).Ends l (.ok status)) :
    (⟨id, k.status, status⟩ : MembershipChange).effect? = step.effect? := by
  rcases ends_carryOut hcarried with ⟨e, he, -⟩ | ⟨k', seen, wanted, -, hchange, hstatus, -⟩ |
    ⟨k', rfl, -, -⟩ | ⟨rfl, hstatus, -⟩
  · cases he
  · cases hstatus
    cases hk : k.status <;> rw [hk] at h <;> cases transition <;> cases h <;> cases hchange <;> rfl
  · cases hk : k.status <;> rw [hk] at h <;> cases transition <;> cases h
  · cases hstatus
    unfold MembershipChange.effect? MembershipChange.changed
    simp [MembershipStep.effect?, MembershipStep.change]

/-- What comes after the look-up of the link, in an attempt to cancel or reactivate. -/
theorem ends_transition {transition : Transition} {refuse : NoMembership → ServiceError}
    {missing : ServiceError} {outcome : Except ServiceError MembershipChange}
    (h : (do
      let link ← ask (.findLink user id)
      let step ← check (((Membership.ofStatus (link.map (·.status))).step transition).mapError
        refuse)
      match link with
      | none => fail missing
      | some link =>
        let current ← Memberships.carryOut user id (some link) step now
        return { subscription := id, previous := link.status, current := current } :
      Operation MembershipChange).Ends l outcome) :
    Accounts (changeReport? user outcome) l := by
  rcases ends_bind h with ⟨e, he, rfl⟩ | ⟨link, l₁, l₂, rfl, h₁, h₂⟩
  · exact .quiet (quiet_read rfl he)
  rcases ends_bind h₂ with ⟨e, he, rfl⟩ | ⟨step, l₃, l₄, rfl, h₃, h₄⟩
  · exact .quiet ((quiet_read rfl h₁).append (quiet_check he))
  cases link with
  | none =>
    obtain ⟨rfl, rfl⟩ := ends_fail.1 h₄
    exact .quiet ((quiet_read rfl h₁).append ((quiet_check h₃).append quiet_nil))
  | some k =>
    rcases ends_bind h₄ with ⟨e, he, rfl⟩ | ⟨status, l₅, l₆, rfl, h₅, h₆⟩
    · exact .quiet ((quiet_read rfl h₁).append ((quiet_check h₃).append (quiet_carryOut he)))
    obtain ⟨rfl, hstep⟩ := ends_check.1 h₃
    obtain ⟨rfl, rfl⟩ := ends_pure.1 h₆
    rw [ends_ask_ok h₁, List.nil_append, List.append_nil]
    unfold changeReport?
    dsimp only
    rw [effect_change (mapError_eq_ok hstep) h₅]
    exact accounts_carryOut h₅

/-- One attempt to cancel or reactivate makes just the change that its answer reports. -/
theorem ends_tryTransition {transition : Transition}
    {outcome : Except ServiceError MembershipChange}
    (h : (Memberships.tryTransition user id transition now).Ends l outcome) :
    Accounts (changeReport? user outcome) l := by
  unfold Memberships.tryTransition at h
  rcases ends_bind h with ⟨e, he, rfl⟩ | ⟨s, l₁, l₂, rfl, h₁, h₂⟩
  · exact .quiet (quiet_found he)
  refine Accounts.prepend (quiet_found h₁) ?_
  split at h₂
  · rcases ends_bind h₂ with ⟨e, he, rfl⟩ | ⟨_, l₃, l₄, rfl, h₃, h₄⟩
    · exact .quiet (quiet_check he)
    · exact Accounts.prepend (quiet_check h₃) (ends_transition h₄)
  · exact ends_transition h₂

end Attempts

/-! ## Calls -/

/-- The exchange has changed no links. -/
inductive Store.Exchange.SparesLinks : Exchange → Prop where
  | silent {x : Exchange} (h : x.Silent) : SparesLinks x
  | describe {id : Int} {description : String} {now : Instant} {a : Except StoreError Unit} :
    SparesLinks ⟨.updateDescription id description now, a⟩
  | close {id : Int} {now : Instant} {a : Except StoreError Bool} :
    SparesLinks ⟨.cancelSubscription id now, a⟩

section Calls

variable {user : UserId} {id : Int} {clock : Clock} {now : Instant} {l : List Exchange}

theorem ends_subscribe {settings : Settings} {topic description : String}
    {outcome : Except ServiceError SubscribeResult}
    (h : (Memberships.subscribe settings user topic description clock).Ends l outcome) :
    Accounts (subscribeReport? user outcome) l := by
  unfold Memberships.subscribe at h
  rcases ends_bind h with ⟨e, he, rfl⟩ | ⟨trimmed, l₁, l₂, rfl, h₁, h₂⟩
  · exact .quiet (quiet_check he)
  refine Accounts.prepend (quiet_check h₁) ?_
  rcases ends_bind h₂ with ⟨e, he, rfl⟩ | ⟨_, l₃, l₄, rfl, h₃, h₄⟩
  · exact .quiet (quiet_check he)
  · exact (accounts_retry h₄ (fun _ => rfl) ends_trySubscribe).prepend (quiet_check h₃)

theorem ends_retryTransition {attempts : UInt32} {transition : Transition}
    {outcome : Except ServiceError MembershipChange}
    (h : (Operation.retry attempts fun made =>
      Memberships.tryTransition user id transition (clock made)).Ends l outcome) :
    Accounts (changeReport? user outcome) l :=
  accounts_retry h (fun _ => rfl) ends_tryTransition

theorem quiet_opened {outcome : Except ServiceError Subscription}
    (h : (Memberships.opened id).Ends l outcome) : Quiet l := by
  unfold Memberships.opened at h
  refine quiet_bind h quiet_found fun h => quiet_bind h quiet_check fun h => ?_
  obtain ⟨rfl, -⟩ := ends_pure.1 h
  exact quiet_nil

/-- A description is given, or the call fails without any change. -/
theorem ends_describe {description : String} {outcome : Except ServiceError Subscription}
    (h : (Memberships.describe user id description now).Ends l outcome) :
    ((∃ e, outcome = .error e) ∧ Quiet l) ∨
      (∃ s, outcome = .ok s) ∧ ∀ x ∈ l, x.SparesLinks := by
  unfold Memberships.describe at h
  dsimp only at h
  rcases ends_bind h with ⟨e, he, rfl⟩ | ⟨_, l₁, l₂, rfl, h₁, h₂⟩
  · exact .inl ⟨⟨e, rfl⟩, quiet_check he⟩
  rcases ends_bind h₂ with ⟨e, he, rfl⟩ | ⟨s, l₃, l₄, rfl, h₃, h₄⟩
  · exact .inl ⟨⟨e, rfl⟩, (quiet_check h₁).append (quiet_opened he)⟩
  rcases ends_bind h₄ with ⟨e, he, rfl⟩ | ⟨_, l₅, l₆, rfl, h₅, h₆⟩
  · exact .inl ⟨⟨e, rfl⟩, (quiet_check h₁).append ((quiet_opened h₃).append (quiet_check he))⟩
  have hearlier : Quiet (l₁ ++ (l₃ ++ l₅)) :=
    (quiet_check h₁).append ((quiet_opened h₃).append (quiet_check h₅))
  rcases ends_bind h₆ with ⟨e, he, rfl⟩ | ⟨_, l₇, l₈, rfl, h₇, h₈⟩
  · have hlast := quiet_failure rfl he
    exact .inl ⟨⟨e, rfl⟩, by simpa using hearlier.append hlast⟩
  · obtain ⟨rfl, rfl⟩ := ends_pure.1 h₈
    rw [ends_ask_ok h₇]
    refine .inr ⟨⟨_, rfl⟩, fun x hx => ?_⟩
    have hx : x ∈ l₁ ++ (l₃ ++ l₅) ∨
        x = ⟨.updateDescription id (Text.trim description) now, .ok ()⟩ := by
      simpa [or_assoc] using hx
    rcases hx with hx | rfl
    · exact .silent (hearlier x hx)
    · exact .describe

/-- A subscription is deleted, or the call fails without any change. -/
theorem ends_delete {outcome : Except ServiceError Subscription}
    (h : (Memberships.delete id now).Ends l outcome) :
    ((∃ e, outcome = .error e) ∧ Quiet l) ∨
      (∃ s, outcome = .ok s) ∧ ∀ x ∈ l, x.SparesLinks := by
  unfold Memberships.delete at h
  rcases ends_bind h with ⟨e, he, rfl⟩ | ⟨s, l₁, l₂, rfl, h₁, h₂⟩
  · exact .inl ⟨⟨e, rfl⟩, quiet_found he⟩
  rcases ends_bind h₂ with ⟨e, he, rfl⟩ | ⟨hit, l₃, l₄, rfl, h₃, h₄⟩
  · exact .inl ⟨⟨e, rfl⟩, (quiet_found h₁).append (quiet_failure rfl he)⟩
  · obtain ⟨rfl, rfl⟩ := ends_pure.1 h₄
    rw [ends_ask_ok h₃]
    refine .inr ⟨⟨_, rfl⟩, fun x hx => ?_⟩
    rcases List.mem_append.1 hx with hx | hx
    · exact .silent (quiet_found h₁ x hx)
    · rw [List.append_nil, List.mem_singleton] at hx
      exact hx ▸ .close

/-- **A call makes just the change of a link that its answer reports**, as its last store call. One
that gives or deletes a subscription spares all links. -/
theorem MembershipCall.ends_accounts {settings : Settings} {c : MembershipCall}
    {outcome : Except ServiceError MembershipReply} (h : (c.operation settings).Ends l outcome) :
    Accounts (c.report? outcome) l ∨
      (∃ s, outcome = .ok (.subscription s)) ∧ ∀ x ∈ l, x.SparesLinks := by
  cases c with
  | subscribe user topic description clock =>
    obtain ⟨result, hresult, rfl⟩ := ends_map h
    have haccounts := ends_subscribe hresult
    cases result with
    | ok r => exact .inl haccounts
    | error e => exact .inl haccounts
  | cancel user id clock =>
    obtain ⟨result, hresult, rfl⟩ := ends_map h
    have haccounts := ends_retryTransition hresult
    cases result with
    | ok r => exact .inl haccounts
    | error e => exact .inl haccounts
  | reactivate user id clock =>
    obtain ⟨result, hresult, rfl⟩ := ends_map h
    have haccounts := ends_retryTransition hresult
    cases result with
    | ok r => exact .inl haccounts
    | error e => exact .inl haccounts
  | describe user id description now =>
    obtain ⟨result, hresult, rfl⟩ := ends_map h
    rcases ends_describe hresult with ⟨⟨e, rfl⟩, hquiet⟩ | ⟨⟨s, rfl⟩, hspares⟩
    · exact .inl (.quiet hquiet)
    · exact .inr ⟨⟨s, rfl⟩, hspares⟩
  | delete id now =>
    obtain ⟨result, hresult, rfl⟩ := ends_map h
    rcases ends_delete hresult with ⟨⟨e, rfl⟩, hquiet⟩ | ⟨⟨s, rfl⟩, hspares⟩
    · exact .inl (.quiet hquiet)
    · exact .inr ⟨⟨s, rfl⟩, hspares⟩

end Calls

end ChatLedger
