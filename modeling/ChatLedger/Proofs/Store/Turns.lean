import ChatLedger.Proofs.Store.Interleaving

/-!
# Turns

How many turns a process needs to come to its end, whatever the store answers.

1. `Program.Within n p`: the program makes at most `n` calls. The `within_…` lemmas go along an
   operation.
2. `World.outcome?_of_within`: a process is done after as many turns of its own, at any time and in
   any order.
-/

namespace ChatLedger.Store

namespace Program

variable {α β : Type} {n k : Nat}

/-- The program makes at most so many calls. -/
def Within : Nat → Program α → Prop
  | _, done _ => True
  | n, call _ next => ∃ k, n = k + 1 ∧ ∀ answer, (next answer).Within k

theorem Within.mono {p : Program α} (h : p.Within n) (hle : n ≤ k) : p.Within k := by
  induction p generalizing n k with
  | done a => exact trivial
  | call request next ih =>
    obtain ⟨n, rfl, hnext⟩ := h
    obtain ⟨k, rfl⟩ := Nat.exists_eq_succ_of_ne_zero (Nat.ne_of_gt (Nat.lt_of_lt_of_le
      n.succ_pos hle))
    exact ⟨k, rfl, fun answer => ih answer (hnext answer) (Nat.le_of_succ_le_succ hle)⟩

theorem Within.bind {p : Program α} {f : α → Program β} (hp : p.Within n)
    (hf : ∀ a, (f a).Within k) : (p.bind f).Within (n + k) := by
  induction p generalizing n with
  | done a => exact (hf a).mono (Nat.le_add_left k n)
  | call request next ih =>
    obtain ⟨n, rfl, hnext⟩ := hp
    exact ⟨n + k, Nat.succ_add n k, fun answer => ih answer (hnext answer)⟩

end Program

end ChatLedger.Store

namespace ChatLedger.Operation

open Store

variable {α β : Type} {n k : Nat} {op : Operation α}

/-- The operation makes at most so many calls. No proof opens it but those of the rules. -/
@[irreducible]
def Within (n : Nat) (op : Operation α) : Prop := op.run.Within n

theorem within_iff : Within n op ↔ op.run.Within n := by
  unfold Operation.Within
  exact Iff.rfl

theorem within_pure (a : α) : Within 0 (pure a : Operation α) := within_iff.2 trivial

theorem within_fail (e : ServiceError) : Within 0 (fail e : Operation α) := within_iff.2 trivial

theorem Within.mono (h : Within n op) (hle : n ≤ k) : Within k op :=
  within_iff.2 (Program.Within.mono (within_iff.1 h) hle)

theorem within_bind {f : α → Operation β} (hop : Within n op) (hf : ∀ a, Within k (f a)) :
    Within (n + k) (op >>= f) := by
  rw [within_iff]
  refine Program.Within.bind (p := op.run) (within_iff.1 hop) fun outcome => ?_
  cases outcome with
  | ok a => exact within_iff.1 (hf a)
  | error e => exact trivial

/-- A check makes no call. -/
theorem within_check_bind {outcome : Except ServiceError α} {f : α → Operation β}
    (hf : ∀ a, Within n (f a)) : Within n (check outcome >>= f) := by
  rw [within_iff]
  cases outcome with
  | ok a => exact within_iff.1 (hf a)
  | error e => exact trivial

theorem within_ask_bind {r : Request} {f : r.Answer → Operation β} (hf : ∀ a, Within n (f a)) :
    Within (n + 1) (ask r >>= f) := by
  rw [within_iff]
  refine ⟨n, rfl, fun answer => ?_⟩
  cases answer with
  | ok a => exact within_iff.1 (hf a)
  | error e => exact trivial

theorem within_map {f : α → β} (hop : Within n op) : Within n (f <$> op) := by
  rw [within_iff]
  refine Program.Within.bind (p := op.run) (k := 0) (within_iff.1 hop) fun outcome => ?_
  cases outcome <;> exact trivial

/-- Each attempt makes its calls anew. -/
theorem within_retry (attempts : UInt32) {attempt : Nat → Operation α}
    (each : ∀ made, Within n (attempt made)) :
    Within (max 1 attempts.toNat * n) (Operation.retry attempts attempt) := by
  have loop (more : Nat) :
      (ChatLedger.retry (fun made => (attempt made).run) more).Within ((more + 1) * n) := by
    induction more generalizing attempt with
    | zero =>
      rw [Nat.zero_add, Nat.one_mul]
      exact within_iff.1 (each 0)
    | succ more ih =>
      rw [Nat.succ_mul (more + 1), Nat.add_comm]
      refine Program.Within.bind (p := (attempt 0).run) (within_iff.1 (each 0)) fun outcome => ?_
      split
      · exact ih fun made => each (made + 1)
      · exact trivial
  have hmax : max 1 attempts.toNat = max 1 attempts.toNat - 1 + 1 := by omega
  rw [hmax]
  exact within_iff.2 (loop _)

end ChatLedger.Operation

namespace ChatLedger.Store.World

variable {ι α : Type} [DecidableEq ι]

/-- The turns of a process in a schedule. -/
def turnsOf (i : ι) (schedule : List (Turn ι)) : Nat :=
  schedule.countP fun turn => turn.process = i

/-- What is left of a process needs as many turns less as it has had. -/
theorem within_run {i : ι} {n : Nat} (w : World ι α) (schedule : List (Turn ι))
    (h : (w.processes i).Within n) :
    ((w.run schedule).processes i).Within (n - turnsOf i schedule) := by
  induction schedule generalizing w n with
  | nil => exact h
  | cons turn schedule ih =>
    unfold turnsOf at ih ⊢
    rw [run_cons, List.countP_cons]
    by_cases hi : turn.process = i
    · subst hi
      rw [if_pos (decide_eq_true rfl)]
      rcases w.step_cases turn with ⟨hsame, a, ha⟩ | ⟨request, next, result, hnext, -, hstep⟩
      · have hdone : (w.processes turn.process).Within 0 := by
          rw [ha]
          exact trivial
        rw [hsame]
        exact (ih w hdone).mono (by omega)
      · rw [hnext] at h
        obtain ⟨k, rfl, hk⟩ := h
        rw [hstep, Nat.add_sub_add_right]
        refine ih _ ?_
        dsimp only
        rw [Function.update_self]
        exact hk result.1
    · rw [if_neg (by simpa using hi), Nat.add_zero]
      refine ih _ ?_
      rcases w.step_cases turn with ⟨hsame, -⟩ | ⟨request, next, result, -, -, hstep⟩
      · rw [hsame]
        exact h
      · rw [hstep]
        dsimp only
        rw [Function.update_of_ne (Ne.symm hi)]
        exact h

/-- **A process is done** after as many turns of its own as its operation makes calls. -/
theorem outcome?_of_within {t : Tables} (operations : ι → Operation α) {i : ι} {n : Nat}
    (h : (operations i).Within n) {schedule : List (Turn ι)} (hturns : n ≤ turnsOf i schedule) :
    (((World.mk t (fun i => (operations i).run) []).run schedule).outcome? i).isSome = true := by
  have hrest := within_run (World.mk t (fun i => (operations i).run) []) schedule
    (Operation.within_iff.1 h)
  rw [Nat.sub_eq_zero_of_le hturns] at hrest
  unfold World.outcome?
  cases hp : ((World.mk t (fun i => (operations i).run) []).run schedule).processes i with
  | done a => rfl
  | call request next =>
    rw [hp] at hrest
    obtain ⟨k, hk, -⟩ := hrest
    exact absurd hk (Nat.zero_ne_add_one k)

end ChatLedger.Store.World
