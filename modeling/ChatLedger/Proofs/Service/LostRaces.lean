import ChatLedger.Service.Operation
import Mathlib.Data.Nat.Notation

/-!
# Lost races

What a repetition comes to, whatever its attempts end in.

1. `Counts outcomes n k`: of `n` attempts with these outcomes, the one at place `k` is the one that
   counts, namely the first that has not lost a race, or the last one.
2. `run_retry`: a repetition ends in the outcome that counts, in the state that this attempt leaves.
3. `retryCounting_eq`: the loop with a counter of 32 bits is the same repetition, and its counter
   never overflows.
-/

namespace ChatLedger

open Store

variable {α σ : Type}

/-- The outcome is that of a lost race. -/
def isConflict : Except ServiceError α → Bool
  | .error (.conflict _) => true
  | _ => false

/-- Of `n` attempts, counted from zero, the one at this place is the one that counts. -/
structure Counts (outcomes : ℕ → Except ServiceError α) (n k : ℕ) : Prop where
  within : k < n
  lost : ∀ i < k, isConflict (outcomes i) = true
  /-- A lost race counts only if no attempt is left. -/
  last : isConflict (outcomes k) = true → k + 1 = n

/-! ## Attempts one after the other -/

section Attempts

variable (attempt : ℕ → σ → Except ServiceError α × σ)

/-- The state after this many attempts. -/
def stateAfter (s : σ) : ℕ → σ
  | 0 => s
  | n + 1 => (attempt n (stateAfter s n)).2

/-- What the attempts end in that are made one after the other. -/
def outcomesFrom (s : σ) (i : ℕ) : Except ServiceError α := (attempt i (stateAfter attempt s i)).1

/-- The attempts behind the first one start in the state that it leaves. -/
theorem stateAfter_succ (s : σ) (n : ℕ) :
    stateAfter attempt s (n + 1) =
      stateAfter (fun made => attempt (made + 1)) (attempt 0 s).2 n := by
  induction n with
  | zero => rfl
  | succ n ih => exact congrArg (fun s => (attempt (n + 1) s).2) ih

theorem outcomesFrom_succ (s : σ) (i : ℕ) :
    outcomesFrom attempt s (i + 1) =
      outcomesFrom (fun made => attempt (made + 1)) (attempt 0 s).2 i :=
  congrArg (fun s => (attempt (i + 1) s).1) (stateAfter_succ attempt s i)

end Attempts

/-! ## Repetitions -/

section Repetitions

variable {m : Type → Type} [Monad m]

/-- A further attempt is made only behind a lost race. -/
theorem retry_succ (attempt : ℕ → m (Except ServiceError α)) (more : ℕ) :
    retry attempt (more + 1) = attempt 0 >>= fun outcome =>
      if isConflict outcome then retry (fun made => attempt (made + 1)) more
      else pure outcome := by
  refine congrArg (attempt 0 >>= ·) (funext fun outcome => ?_)
  cases outcome with
  | ok a => rfl
  | error e => cases e <;> rfl

/-- A further attempt starts in the state that the lost one has left. -/
theorem run_retry_succ (attempt : ℕ → StateM σ (Except ServiceError α)) (more : ℕ) (s : σ) :
    retry attempt (more + 1) s =
      if isConflict (attempt 0 s).1 then retry (fun made => attempt (made + 1)) more (attempt 0 s).2
      else attempt 0 s := by
  rw [retry_succ]
  show (if isConflict (attempt 0 s).1 then retry (fun made => attempt (made + 1)) more
    else pure (attempt 0 s).1) (attempt 0 s).2 = _
  split <;> rfl

/-- **A repetition ends in the outcome that counts**, and makes no attempt behind that one. -/
theorem run_retry (attempt : ℕ → StateM σ (Except ServiceError α)) (more : ℕ) (s : σ) :
    ∃ k, Counts (outcomesFrom attempt s) (more + 1) k ∧
      retry attempt more s = (outcomesFrom attempt s k, stateAfter attempt s (k + 1)) := by
  induction more generalizing attempt s with
  | zero => exact ⟨0, ⟨Nat.one_pos, fun _ h => absurd h (Nat.not_lt_zero _), fun _ => rfl⟩, rfl⟩
  | succ more ih =>
    by_cases hconflict : isConflict (attempt 0 s).1 = true
    · obtain ⟨k, ⟨hwithin, hlost, hlast⟩, hrest⟩ := ih (fun made => attempt (made + 1))
        (attempt 0 s).2
      refine ⟨k + 1, ⟨Nat.succ_lt_succ hwithin, fun i hi => ?_, fun h => ?_⟩, ?_⟩
      · cases i with
        | zero => exact hconflict
        | succ i =>
          rw [outcomesFrom_succ]
          exact hlost i (Nat.lt_of_succ_lt_succ hi)
      · rw [outcomesFrom_succ] at h
        exact congrArg Nat.succ (hlast h)
      · rw [run_retry_succ, if_pos hconflict, hrest, outcomesFrom_succ, stateAfter_succ attempt]
    · refine ⟨0, ⟨Nat.succ_pos _, fun _ h => absurd h (Nat.not_lt_zero _), fun h => ?_⟩, ?_⟩
      · exact absurd h hconflict
      · rw [run_retry_succ, if_neg hconflict]
        rfl

/-! ### Counting attempts -/

/-- The next number of 32 bits, if there is one. -/
def next? (n : UInt32) : Option UInt32 := if n.toNat + 1 < UInt32.size then some (n + 1) else none

theorem next?_of_lt {n budget : UInt32} (h : n < budget) :
    next? n = some (n + 1) ∧ (n + 1).toNat = n.toNat + 1 := by
  have hlt : n.toNat < budget.toNat := UInt32.lt_iff_toNat_lt.1 h
  have hsize : budget.toNat < UInt32.size := budget.toNat_lt_size
  have hnext : n.toNat + 1 < UInt32.size := by omega
  refine ⟨if_pos hnext, ?_⟩
  rw [UInt32.toNat_add]
  exact Nat.mod_eq_of_lt hnext

/-- The repetition as a loop that counts its attempts from one on: none where the counter
overflows. -/
def retryCounting (attempt : ℕ → m (Except ServiceError α)) (budget tries : UInt32) :
    m (Option (Except ServiceError α)) := do
  let outcome ← attempt 0
  if _h : isConflict outcome = true ∧ tries < budget then
    match _hnext : next? tries with
    | some tries' => retryCounting (fun made => attempt (made + 1)) budget tries'
    | none => return none
  else return some outcome
termination_by budget.toNat - tries.toNat
decreasing_by
  obtain ⟨hsome, hsucc⟩ := next?_of_lt _h.2
  have hlt : tries.toNat < budget.toNat := UInt32.lt_iff_toNat_lt.1 _h.2
  obtain rfl := Option.some.inj (_hnext.symm.trans hsome)
  omega

/-- **The counter never overflows**, and changes nothing about the repetition. -/
theorem retryCounting_eq [LawfulMonad m] (attempt : ℕ → m (Except ServiceError α))
    {budget tries : UInt32} (h : tries ≤ budget) :
    retryCounting attempt budget tries =
      some <$> retry attempt (budget.toNat - tries.toNat) := by
  have hle : tries.toNat ≤ budget.toNat := UInt32.le_iff_toNat_le.1 h
  obtain ⟨more, hmore⟩ : ∃ more, budget.toNat - tries.toNat = more := ⟨_, rfl⟩
  rw [hmore]
  induction more generalizing attempt tries with
  | zero =>
    have hnot : ¬ tries < budget := by
      rw [UInt32.lt_iff_toNat_lt]
      omega
    rw [retryCounting, map_eq_pure_bind]
    exact congrArg (attempt 0 >>= ·) (funext fun outcome => dif_neg fun h => hnot h.2)
  | succ more ih =>
    have hlt : tries < budget := by
      rw [UInt32.lt_iff_toNat_lt]
      omega
    obtain ⟨hsome, hsucc⟩ := next?_of_lt hlt
    have hrest : retryCounting (fun made => attempt (made + 1)) budget (tries + 1) =
        some <$> retry (fun made => attempt (made + 1)) more :=
      ih _ (UInt32.le_iff_toNat_le.2 (by omega)) (by omega) (by omega)
    rw [retryCounting, retry_succ, map_bind]
    refine congrArg (attempt 0 >>= ·) (funext fun outcome => ?_)
    by_cases hconflict : isConflict outcome = true
    · rw [dif_pos ⟨hconflict, hlt⟩, if_pos hconflict, ← hrest]
      split
      · rename_i hnext
        rw [Option.some.inj (hnext.symm.trans hsome)]
      · rename_i hnext
        cases hnext.symm.trans hsome
    · rw [dif_neg fun h => hconflict h.1, if_neg hconflict, map_pure]

end Repetitions

/-! ## Repeated operations -/

namespace Store.Program

instance : LawfulMonad Program :=
  LawfulMonad.mk' Program
    (fun p => by
      show p.bind done = p
      induction p with
      | done a => rfl
      | call r next ih => exact congrArg (call r) (funext ih))
    (fun _ _ => rfl)
    (fun p f g => by
      show (p.bind f).bind g = p.bind fun a => (f a).bind g
      induction p with
      | done a => rfl
      | call r next ih => exact congrArg (call r) (funext ih))

variable (perform : (r : Request) → σ → Except StoreError r.Answer × σ)

/-- A repeated program runs as its runs repeated. -/
theorem runWith_retry (attempt : ℕ → Program (Except ServiceError α)) (more : ℕ) (s : σ) :
    (retry attempt more).runWith perform s =
      retry (m := StateM σ) (fun made => (attempt made).runWith perform) more s := by
  induction more generalizing attempt s with
  | zero => rfl
  | succ more ih =>
    rw [run_retry_succ, retry_succ]
    refine (runWith_bind perform (attempt 0) _ s).trans ?_
    split
    · exact ih _ _
    · rfl

end Store.Program

/-- Attempts that end in what a script says; the state is the number of attempts made. -/
def scripted (script : ℕ → Except ServiceError α) : StateM ℕ (Except ServiceError α) :=
  fun n => (script n, n + 1)

theorem stateAfter_scripted (script : ℕ → Except ServiceError α) (n : ℕ) :
    stateAfter (fun _ => scripted script) 0 n = n := by
  induction n with
  | zero => rfl
  | succ n ih => exact congrArg Nat.succ ih

theorem outcomesFrom_scripted (script : ℕ → Except ServiceError α) :
    outcomesFrom (fun _ => scripted script) 0 = script :=
  funext fun i => congrArg script (stateAfter_scripted script i)

/-- The number of attempts that a configured number allows, which is one at the least. -/
def budgetOf (attempts : UInt32) : UInt32 := if attempts = 0 then 1 else attempts

theorem toNat_budgetOf (attempts : UInt32) : (budgetOf attempts).toNat = max 1 attempts.toNat := by
  unfold budgetOf
  split
  · rename_i hzero
    rw [hzero]
    rfl
  · rename_i hzero
    have hne : attempts.toNat ≠ 0 := fun h => hzero (UInt32.toNat_inj.1 h)
    omega

/-- **Lost races are retried within the budget, and nothing else is.** The first outcome that is no
lost race is handed on as it is, or the last one that the budget allows, a budget of none counting
as one.

1. Whatever a script says, the loop with the counter makes as many attempts as the place of the
   outcome that it ends in says, and its counter does not overflow.
2. So it is with operations, one for each attempt, whose calls are carried out in any way: what the
   repetition ends in, and the state that it leaves, are those of the attempt that counts. -/
theorem lost_races_are_retried (attempts : UInt32) :
    (∀ script : ℕ → Except ServiceError α, ∃ k, Counts script (max 1 attempts.toNat) k ∧
      (retryCounting (fun _ => scripted script) (budgetOf attempts) 1) 0 =
        (some (script k), k + 1)) ∧
    ∀ (attempt : ℕ → Operation α)
      (perform : (r : Request) → σ → Except StoreError r.Answer × σ) (s : σ),
      let run := fun made => (attempt made).run.runWith perform
      (∃ k, Counts (outcomesFrom run s) (max 1 attempts.toNat) k ∧
        (Operation.retry attempts attempt).run.runWith perform s =
          (outcomesFrom run s k, stateAfter run s (k + 1))) ∧
      retryCounting (fun made => (attempt made).run) (budgetOf attempts) 1 =
        some <$> (Operation.retry attempts attempt).run := by
  have hbudget : max 1 attempts.toNat - 1 + 1 = max 1 attempts.toNat := by omega
  have hcounting {m : Type → Type} [Monad m] [LawfulMonad m]
      (attempt : ℕ → m (Except ServiceError α)) :
      retryCounting attempt (budgetOf attempts) 1 =
        some <$> retry attempt (max 1 attempts.toNat - 1) := by
    have hone : 1 ≤ budgetOf attempts := by
      rw [UInt32.le_iff_toNat_le, toNat_budgetOf]
      exact Nat.le_max_left _ _
    rw [retryCounting_eq attempt hone, toNat_budgetOf]
    rfl
  refine ⟨fun script => ?_, fun attempt perform s => ⟨?_, hcounting fun made => (attempt made).run⟩⟩
  · obtain ⟨k, hcounts, hrun⟩ :=
      run_retry (fun _ => scripted script) (max 1 attempts.toNat - 1) 0
    rw [hbudget, outcomesFrom_scripted] at hcounts
    rw [outcomesFrom_scripted, stateAfter_scripted] at hrun
    refine ⟨k, hcounts, ?_⟩
    rw [hcounting]
    show (some ((retry (fun _ => scripted script) _) 0).1,
      ((retry (fun _ => scripted script) _) 0).2) = _
    rw [hrun]
  · obtain ⟨k, hcounts, hrun⟩ := run_retry (fun made => (attempt made).run.runWith perform)
      (max 1 attempts.toNat - 1) s
    rw [hbudget] at hcounts
    exact ⟨k, hcounts,
      (Store.Program.runWith_retry perform (fun made => (attempt made).run) _ s).trans hrun⟩

end ChatLedger
