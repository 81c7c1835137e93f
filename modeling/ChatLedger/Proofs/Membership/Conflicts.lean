import ChatLedger.Proofs.Membership.Calls
import ChatLedger.Proofs.Membership.Overtaken
import ChatLedger.Proofs.Store.Interleaving
import ChatLedger.Proofs.Validation

/-!
# Conflicts of the membership service

A call of the membership service ends in a conflict only if a write of each of its attempts was
turned down.

1. `Operation.Peaceful`: an operation that never ends in a conflict. `Peaceful.ends_bind` passes
   over such operations to the one that does.
2. `MembershipCall.Loses.turned`: an attempt that ends in a conflict has ended in a write that was
   turned down, right after the read that this write goes back to.
3. `MembershipCall.attempts_of_conflict`: a call that ends in a conflict has lost as many attempts
   as it may make.
-/

namespace ChatLedger

open Store Time Operation

/-! ## Operations without conflicts -/

/-- The store may answer so. -/
def Store.Exchange.Possible (x : Exchange) : Prop := ∃ t, (x.request.perform t).1 = x.answer

/-- The call is never answered with a conflict. -/
def Store.Request.Peaceful (r : Request) : Prop :=
  ∀ (t : Tables) (reason : String), (r.perform t).1 ≠ .error (.conflict reason)

namespace Operation

variable {α β : Type} {r : Request} {l : List Exchange} {reason : String}

/-- The operation never ends in a conflict. -/
structure Peaceful (op : Operation α) : Prop where
  calm : ∀ {l : List Exchange} {reason : String}, (∀ x ∈ l, x.Possible) →
    ¬ op.Ends l (.error (.conflict reason))

theorem peaceful_check {outcome : Except ServiceError α}
    (h : ∀ reason, outcome ≠ .error (.conflict reason)) : (check outcome).Peaceful :=
  ⟨fun _ hends => h _ (ends_check.1 hends).2.symm⟩

theorem peaceful_pure (a : α) : (pure a : Operation α).Peaceful :=
  ⟨fun _ hends => by cases (ends_pure.1 hends).2⟩

/-- What comes to the caller as a conflict was one in the store. -/
theorem ends_ask_conflict (h : (ask r).Ends l (.error (.conflict reason))) :
    l = [⟨r, .error (.conflict reason)⟩] := by
  obtain ⟨a, rfl, ha⟩ := ends_ask.1 h
  cases a with
  | ok a => cases ha
  | error e => cases e <;> cases ha; rfl

/-- An error of what is done with the outcome is one of the operation. -/
theorem ends_of_map_error {op : Operation α} {f : α → β} {e : ServiceError}
    (h : (f <$> op).Ends l (.error e)) : op.Ends l (.error e) := by
  obtain ⟨outcome, hends, ho⟩ := ends_map h
  cases outcome with
  | ok a => cases ho
  | error e => cases ho; exact hends

theorem peaceful_ask (h : r.Peaceful) : (ask r).Peaceful := by
  refine ⟨fun possible hends => ?_⟩
  obtain rfl := ends_ask_conflict hends
  obtain ⟨t, ht⟩ := possible _ (List.mem_singleton_self _)
  exact h t _ ht

/-- A conflict after an operation without conflicts comes from what follows it. -/
theorem Peaceful.ends_bind {op : Operation α} {f : α → Operation β} (peaceful : op.Peaceful)
    (possible : ∀ x ∈ l, x.Possible) (h : (op >>= f).Ends l (.error (.conflict reason))) :
    ∃ a l₁ l₂, l = l₁ ++ l₂ ∧ op.Ends l₁ (.ok a) ∧ (∀ x ∈ l₂, x.Possible) ∧
      (f a).Ends l₂ (.error (.conflict reason)) := by
  rcases Operation.ends_bind h with ⟨e, hends, he⟩ | ⟨a, l₁, l₂, rfl, h₁, h₂⟩
  · cases he
    exact (peaceful.calm possible hends).elim
  · exact ⟨a, l₁, l₂, rfl, h₁, fun x hx => possible x (List.mem_append_right _ hx), h₂⟩

theorem peaceful_bind {op : Operation α} {f : α → Operation β} (h : op.Peaceful)
    (hf : ∀ a, (f a).Peaceful) : (op >>= f).Peaceful := by
  refine ⟨fun possible hends => ?_⟩
  obtain ⟨a, l₁, l₂, rfl, -, possible₂, h₂⟩ := h.ends_bind possible hends
  exact (hf a).calm possible₂ h₂

/-- **A repetition that ends in a conflict** has lost all of its attempts. -/
theorem ends_retry_conflict {attempts : UInt32} {attempt : Nat → Operation α}
    (h : (Operation.retry attempts attempt).Ends l (.error (.conflict reason))) :
    ∃ lost, l = lost.flatten ∧ lost.length = max 1 attempts.toNat ∧ Lost attempt lost := by
  have loop {attempt : Nat → Operation α} {more : Nat} {l : List Exchange}
      (h : Program.Path (ChatLedger.retry (fun made => (attempt made).run) more) l
        (.done (.error (.conflict reason)))) :
      ∃ lost, l = lost.flatten ∧ lost.length = more + 1 ∧ Lost attempt lost := by
    induction more generalizing attempt l with
    | zero => exact ⟨[l], by simp, rfl, by simpa [Lost] using ⟨0, reason, h⟩⟩
    | succ more ih =>
      obtain ⟨a, l₁, l₂, rfl, h₁, h₂⟩ := Program.path_bind (p := (attempt 0).run) h
      have stays (hother : Program.Path (.done a) l₂ (.done (.error (.conflict reason)))) :
          a = .error (.conflict reason) := (Program.done.inj (Program.path_done hother).2).symm
      cases a with
      | ok _ => cases stays h₂
      | error e =>
        cases e with
        | conflict reason' =>
          obtain ⟨lost, rfl, hlength, hlost⟩ := @ih (fun made => attempt (made + 1)) _ h₂
          refine ⟨l₁ :: lost, by simp, by simp [hlength],
            List.forall_mem_cons.2 ⟨⟨0, reason', h₁⟩, fun l hl => ?_⟩⟩
          obtain ⟨made, hended⟩ := hlost l hl
          exact ⟨made + 1, hended⟩
        | _ => cases stays h₂
  obtain ⟨lost, hl, hlength, hlost⟩ := loop h
  exact ⟨lost, hl, by omega, hlost⟩

end Operation

/-! ## Reads -/

namespace Store

theorem readWord_ne_conflict {α : Type} [Vocabulary α] {text reason : String} :
    (readWord text : Except StoreError α) ≠ .error (.conflict reason) := by
  unfold readWord
  cases (Vocabulary.parse text : Except String α) <;> intro h <;> cases h

theorem readTime_ne_conflict {text reason : String} :
    readTime text ≠ .error (.conflict reason) := by
  unfold readTime
  cases readStored text <;> intro h <;> cases h

theorem bind_ne_conflict {α β : Type} {x : Except StoreError α} {f : α → Except StoreError β}
    {reason : String} (h : x ≠ .error (.conflict reason))
    (hf : ∀ a, f a ≠ .error (.conflict reason)) : x >>= f ≠ .error (.conflict reason) := by
  cases x with
  | error e => exact fun he => h (Except.error.inj he ▸ rfl)
  | ok a => exact hf a

theorem mapM_ne_conflict {Row α : Type} {found : Option Row} {read : Row → Except StoreError α}
    {reason : String} (h : ∀ r, read r ≠ .error (.conflict reason)) :
    found.mapM read ≠ .error (.conflict reason) := by
  cases found with
  | none => intro he; cases he
  | some r =>
    rw [Option.mapM_some]
    exact bind_ne_conflict (h r) fun a he => by cases he

theorem SubscriptionRow.subscription_ne_conflict (r : SubscriptionRow) {reason : String} :
    r.subscription ≠ .error (.conflict reason) :=
  bind_ne_conflict readWord_ne_conflict fun _ => bind_ne_conflict readTime_ne_conflict fun _ =>
    bind_ne_conflict readTime_ne_conflict fun _ he => by cases he

theorem LinkRow.link_ne_conflict (r : LinkRow) {reason : String} :
    r.link ≠ .error (.conflict reason) :=
  bind_ne_conflict readWord_ne_conflict fun _ => bind_ne_conflict readTime_ne_conflict fun _ =>
    bind_ne_conflict readTime_ne_conflict fun _ he => by cases he

namespace Request

theorem peaceful_findActiveByTopic (topic : String) : (findActiveByTopic topic).Peaceful :=
  fun _ _ => mapM_ne_conflict fun r => r.subscription_ne_conflict

theorem peaceful_getSubscription (id : Int) : (getSubscription id).Peaceful :=
  fun _ _ => mapM_ne_conflict fun r => r.subscription_ne_conflict

theorem peaceful_findLink (user : UserId) (id : Int) : (findLink user id).Peaceful :=
  fun _ _ => mapM_ne_conflict fun r => r.link_ne_conflict

theorem peaceful_changeLink (id : Int) (expected wanted : LinkStatus) (now : Instant) :
    (changeLink id expected wanted now).Peaceful := fun _ _ h => by cases h

theorem peaceful_cancelSubscription (id : Int) (now : Instant) :
    (cancelSubscription id now).Peaceful := fun _ _ h => by cases h

theorem peaceful_updateDescription (id : Int) (description : String) (now : Instant) :
    (updateDescription id description now).Peaceful := by
  intro t reason h
  have hchange := settle_eq_error (Prod.ext h rfl :
    settle (Tables.describe id description now) t = (.error (.conflict reason), _))
  unfold Tables.describe at hchange
  dsimp only at hchange
  split at hchange <;> cases hchange

end Request

end Store

/-! ## Attempts -/

section Attempts

variable {user : UserId} {id : Int} {now : Instant} {l : List Exchange} {reason : String}

theorem peaceful_found : (Memberships.found id).Peaceful := by
  refine peaceful_bind (peaceful_ask (Request.peaceful_getSubscription id)) fun found => ?_
  refine peaceful_check fun reason h => ?_
  cases found <;> cases h

theorem peaceful_ensureOpen (s : Subscription) :
    (check (Memberships.ensureOpen s id)).Peaceful := by
  refine peaceful_check fun reason h => ?_
  unfold Memberships.ensureOpen at h
  split at h <;> cases h

theorem peaceful_decides {α : Type} {outcome : Except ServiceError α} {P : Prop} {a : α}
    (h : Validation.Decides outcome P a) : (check outcome).Peaceful := by
  refine peaceful_check fun reason he => ?_
  by_cases hP : P
  · rw [h.passes hP] at he
    cases he
  · obtain ⟨reason', herror⟩ := h.refuses hP
    rw [herror] at he
    cases he

/-- What a step does goes back to the link that was seen. -/
theorem Membership.step_seen {link : Option Link} {transition : Transition} {step : MembershipStep}
    (h : (Membership.ofStatus (link.map (·.status))).step transition = .ok step) :
    (step = .insertLink → link = none) ∧ ∀ seen wanted, step.change = some (seen, wanted) →
      ∃ k, link = some k ∧ k.status = seen := by
  cases link with
  | none =>
    refine ⟨fun _ => rfl, fun seen wanted hchange => ?_⟩
    cases transition <;> cases h
    cases hchange
  | some k =>
    cases hk : k.status <;> cases transition <;>
      (rw [Option.map_some, hk] at h; cases h) <;> simp [MembershipStep.change, hk]

/-- **The carrying out of a step ends in a conflict** where its write is turned down. -/
theorem turned_of_carryOut {link : Option Link} {transition : Transition} {step : MembershipStep}
    (hstep : (Membership.ofStatus (link.map (·.status))).step transition = .ok step)
    (possible : ∀ x ∈ l, x.Possible)
    (h : (Memberships.carryOut user id link step now).Ends l (.error (.conflict reason))) :
    ∃ failed, l = [failed] ∧ Turned ⟨.findLink user id, .ok link⟩ failed := by
  obtain ⟨hinsert, hchanged⟩ := Membership.step_seen hstep
  unfold Memberships.carryOut at h
  split at h
  · rename_i seen wanted k hchange
    obtain ⟨_, hlink, rfl⟩ := hchanged seen wanted hchange
    cases hlink
    obtain ⟨hit, l₁, l₂, rfl, h₁, -, h₂⟩ :=
      (peaceful_ask (Request.peaceful_changeLink _ _ _ _)).ends_bind possible h
    cases hit with
    | true => cases (ends_pure.1 h₂).2
    | false =>
      obtain ⟨rfl, -⟩ := ends_fail.1 h₂
      rw [ends_ask_ok h₁]
      exact ⟨_, rfl, .status⟩
  · rename_i seen wanted hchange
    obtain ⟨_, hlink, -⟩ := hchanged _ _ hchange
    cases hlink
  · split at h
    · rename_i hstep
      obtain rfl := hinsert hstep
      rcases ends_bind h with ⟨e, hends, he⟩ | ⟨_, l₁, l₂, rfl, -, h₂⟩
      · cases he
        exact ⟨_, ends_ask_conflict hends, .link⟩
      · cases (ends_pure.1 h₂).2
    · cases (ends_pure.1 h).2

/-- **An attempt to subscribe ends in a conflict** where its write is turned down. -/
theorem turned_of_trySubscribe {topic description : String} (possible : ∀ x ∈ l, x.Possible)
    (h : (Memberships.trySubscribe user topic description now).Ends l (.error (.conflict reason))) :
    ∃ earlier seen failed, l = earlier ++ [seen, failed] ∧ Turned seen failed := by
  unfold Memberships.trySubscribe at h
  obtain ⟨found, l₁, l₂, rfl, h₁, possible, h⟩ :=
    (peaceful_ask (Request.peaceful_findActiveByTopic _)).ends_bind possible h
  rw [ends_ask_ok h₁]
  cases found with
  | none =>
    rcases ends_bind h with ⟨e, hends, he⟩ | ⟨_, l₃, l₄, rfl, -, h₄⟩
    · cases he
      rw [ends_ask_conflict hends]
      exact ⟨[], _, _, rfl, @Turned.topic ⟨user, topic, description⟩ _ _⟩
    · cases (ends_pure.1 h₄).2
  | some s =>
    obtain ⟨link, l₃, l₄, rfl, h₃, possible, h⟩ :=
      (peaceful_ask (Request.peaceful_findLink _ _)).ends_bind possible h
    rw [ends_ask_ok h₃]
    have allowed : (check (((Membership.ofStatus (link.map (·.status))).step .subscribe).mapError
        fun refusal => ServiceError.conflict refusal.message)).Peaceful := by
      refine peaceful_check fun reason he => ?_
      cases link with
      | none => cases he
      | some k => cases hk : k.status <;> rw [Option.map_some, hk] at he <;> cases he
    obtain ⟨step, l₅, l₆, rfl, h₅, possible₆, h₆⟩ := allowed.ends_bind possible h
    obtain ⟨rfl, hstep⟩ := ends_check.1 h₅
    rcases ends_bind h₆ with ⟨e, hends, he⟩ | ⟨_, l₇, l₈, rfl, -, h₈⟩
    · cases he
      obtain ⟨failed, rfl, turned⟩ := turned_of_carryOut (mapError_eq_ok hstep) possible₆ hends
      exact ⟨[_], _, _, rfl, turned⟩
    · cases (ends_pure.1 h₈).2

/-- What comes after the look-up of the subscription, in an attempt to cancel or reactivate. -/
theorem turned_of_transition {transition : Transition} {missing : String}
    {refuse : NoMembership → String} (possible : ∀ x ∈ l, x.Possible)
    (h : (do
      let link ← ask (.findLink user id)
      let step ← check (((Membership.ofStatus (link.map (·.status))).step transition).mapError
        fun refusal => .permissionDenied (refuse refusal))
      match link with
      | none => fail (.permissionDenied missing)
      | some link =>
        let current ← Memberships.carryOut user id (some link) step now
        return { subscription := id, previous := link.status, current := current } :
      Operation MembershipChange).Ends l (.error (.conflict reason))) :
    ∃ earlier seen failed, l = earlier ++ [seen, failed] ∧ Turned seen failed := by
  obtain ⟨link, l₁, l₂, rfl, h₁, possible₂, h₂⟩ :=
    (peaceful_ask (Request.peaceful_findLink _ _)).ends_bind possible h
  rw [ends_ask_ok h₁]
  have denied : (check (((Membership.ofStatus (link.map (·.status))).step transition).mapError
      fun refusal => ServiceError.permissionDenied (refuse refusal))).Peaceful := by
    refine peaceful_check fun reason he => ?_
    cases hstep : (Membership.ofStatus (link.map (·.status))).step transition <;>
      rw [hstep] at he <;> cases he
  obtain ⟨step, l₃, l₄, rfl, h₃, possible₄, h₄⟩ := denied.ends_bind possible₂ h₂
  obtain ⟨rfl, hstep⟩ := ends_check.1 h₃
  cases link with
  | none => cases (ends_fail.1 h₄).2
  | some k =>
    rcases ends_bind h₄ with ⟨e, hends, he⟩ | ⟨_, l₅, l₆, rfl, -, h₆⟩
    · cases he
      obtain ⟨failed, rfl, turned⟩ := turned_of_carryOut (mapError_eq_ok hstep) possible₄ hends
      exact ⟨[], _, _, rfl, turned⟩
    · cases (ends_pure.1 h₆).2

/-- **An attempt to cancel or reactivate ends in a conflict** where its write is turned down. -/
theorem turned_of_tryTransition {transition : Transition} (possible : ∀ x ∈ l, x.Possible)
    (h : (Memberships.tryTransition user id transition now).Ends l (.error (.conflict reason))) :
    ∃ earlier seen failed, l = earlier ++ [seen, failed] ∧ Turned seen failed := by
  unfold Memberships.tryTransition at h
  obtain ⟨s, l₁, l₂, rfl, -, possible₂, h₂⟩ := peaceful_found.ends_bind possible h
  split at h₂
  · obtain ⟨_, l₃, l₄, rfl, -, possible₄, h₄⟩ :=
      (peaceful_ensureOpen s).ends_bind possible₂ h₂
    obtain ⟨earlier, seen, failed, rfl, turned⟩ := turned_of_transition possible₄ h₄
    exact ⟨l₁ ++ (l₃ ++ earlier), seen, failed, by simp, turned⟩
  · obtain ⟨earlier, seen, failed, rfl, turned⟩ := turned_of_transition possible₂ h₂
    exact ⟨l₁ ++ earlier, seen, failed, by simp, turned⟩

end Attempts

/-! ## Calls -/

namespace MembershipCall

/-- These are the exchanges of one attempt of the call, which ends in a conflict. -/
inductive Loses : MembershipCall → List Exchange → Prop where
  | subscribe {user : UserId} {topic description : String} {clock : Clock} {made : Nat}
      {l : List Exchange} {reason : String}
      (ends : (Memberships.trySubscribe user (Text.trim topic) (Text.trim description)
        (clock made)).Ends l (.error (.conflict reason))) :
      Loses (.subscribe user topic description clock) l
  | cancel {user : UserId} {id : Int} {clock : Clock} {made : Nat} {l : List Exchange}
      {reason : String}
      (ends : (Memberships.tryTransition user id .cancel (clock made)).Ends l
        (.error (.conflict reason))) : Loses (.cancel user id clock) l
  | reactivate {user : UserId} {id : Int} {clock : Clock} {made : Nat} {l : List Exchange}
      {reason : String}
      (ends : (Memberships.tryTransition user id .reactivate (clock made)).Ends l
        (.error (.conflict reason))) : Loses (.reactivate user id clock) l

variable {c : MembershipCall} {settings : Settings} {l : List Exchange} {reason : String}

/-- **A lost attempt** has ended in a write that was turned down. -/
theorem Loses.turned (h : c.Loses l) (possible : ∀ x ∈ l, x.Possible) :
    ∃ earlier seen failed, l = earlier ++ [seen, failed] ∧ Turned seen failed := by
  cases h with
  | subscribe ends => exact turned_of_trySubscribe possible ends
  | cancel ends => exact turned_of_tryTransition possible ends
  | reactivate ends => exact turned_of_tryTransition possible ends

theorem peaceful_describe (user : UserId) (id : Int) (description : String) (now : Instant) :
    (Memberships.describe user id description now).Peaceful := by
  refine peaceful_bind (peaceful_decides (Validation.boundedText_decides _ _ _)) fun _ => ?_
  refine peaceful_bind ?_ fun s => ?_
  · exact peaceful_bind peaceful_found fun s =>
      peaceful_bind (peaceful_ensureOpen s) fun _ => peaceful_pure s
  refine peaceful_bind (peaceful_check fun reason h => ?_) fun _ => ?_
  · unfold ensureOwner at h
    split at h <;> cases h
  · exact peaceful_bind (peaceful_ask (Request.peaceful_updateDescription _ _ _))
      fun _ => peaceful_pure _

theorem peaceful_delete (id : Int) (now : Instant) : (Memberships.delete id now).Peaceful :=
  peaceful_bind peaceful_found fun _ =>
    peaceful_bind (peaceful_ask (Request.peaceful_cancelSubscription _ _)) fun _ => peaceful_pure _

/-- **A call that ends in a conflict** has lost as many attempts as it may make. -/
theorem attempts_of_conflict (possible : ∀ x ∈ l, x.Possible)
    (h : (c.operation settings).Ends l (.error (.conflict reason))) :
    ∃ lost : List (List Exchange), l = lost.flatten ∧
      lost.length = max 1 settings.subscriptions.attempts.toNat ∧
      ∀ attempt ∈ lost, c.Loses attempt := by
  cases c with
  | subscribe user topic description clock =>
    have hends := ends_of_map_error h
    unfold Memberships.subscribe at hends
    obtain ⟨trimmed, l₁, l₂, rfl, h₁, possible₂, h₂⟩ :=
      (peaceful_decides (Validation.requiredText_decides _ _ _)).ends_bind possible hends
    obtain ⟨rfl, htrimmed⟩ := ends_check.1 h₁
    obtain rfl := Validation.eq_trim_of_requiredText htrimmed.symm
    obtain ⟨_, l₃, l₄, rfl, h₃, possible₄, h₄⟩ :=
      (peaceful_decides (Validation.boundedText_decides _ _ _)).ends_bind possible₂ h₂
    obtain ⟨rfl, -⟩ := ends_check.1 h₃
    obtain ⟨lost, hl, hlength, hlost⟩ := ends_retry_conflict h₄
    refine ⟨lost, hl, hlength, fun attempt hattempt => ?_⟩
    obtain ⟨made, _, hends⟩ := hlost attempt hattempt
    exact .subscribe hends
  | cancel user id clock =>
    obtain ⟨lost, hl, hlength, hlost⟩ := ends_retry_conflict (ends_of_map_error h)
    refine ⟨lost, hl, hlength, fun attempt hattempt => ?_⟩
    obtain ⟨made, _, hends⟩ := hlost attempt hattempt
    exact .cancel hends
  | reactivate user id clock =>
    obtain ⟨lost, hl, hlength, hlost⟩ := ends_retry_conflict (ends_of_map_error h)
    refine ⟨lost, hl, hlength, fun attempt hattempt => ?_⟩
    obtain ⟨made, _, hends⟩ := hlost attempt hattempt
    exact .reactivate hends
  | describe user id description now =>
    exact ((peaceful_describe user id description now).calm possible (ends_of_map_error h)).elim
  | delete id now => exact ((peaceful_delete id now).calm possible (ends_of_map_error h)).elim

end MembershipCall

end ChatLedger
