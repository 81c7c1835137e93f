import ChatLedger.Proofs.Store.Interleaving

/-!
# Rivals

Programs that run at the same time and get along, each looked at by itself.

1. `Sharing`: the tables as a state that all processes share, and what each of them can count on
   whatever its rivals do between two of its calls.
2. `Program.Safe`: alone among such rivals, a program ends as wanted, and leaves to each of them
   what it counts on. The `safe_…` lemmas go along an operation.
3. `World.run_safe`: programs that are safe each by itself are safe together, in every order of
   their calls. `World.outcomes_wanted`: so operations that come to their end do so as wanted.
-/

namespace ChatLedger.Store

/-- A state that processes share. -/
structure Sharing (ι σ : Type) where
  /-- The tables of a state. -/
  tables : σ → Tables
  /-- How the state may have changed between two calls of a process, by the doing of others. -/
  rely : ι → σ → σ → Prop
  refl : ∀ i s, rely i s s
  trans : ∀ {i s s' s''}, rely i s s' → rely i s' s'' → rely i s s''

namespace Program

variable {ι σ α β : Type} {S : Sharing ι σ} {i : ι}

/-- However others change the state before each of its calls, the program ends in a state and with
an answer as wanted, and changes the state only in ways that all others can count on. -/
def Safe (S : Sharing ι σ) (i : ι) (wanted : σ → α → Prop) : Program α → σ → Prop
  | done a, s => wanted s a
  | call request next, s => ∀ s', S.rely i s s' → ∃ answer s'',
      request.perform (S.tables s') = (answer, S.tables s'') ∧ (∀ j, j ≠ i → S.rely j s' s'') ∧
        (next answer).Safe S i wanted s''

/-- A program stays safe while others are at work. -/
theorem Safe.onward {wanted : σ → α → Prop} {p : Program α} {s s' : σ} (h : p.Safe S i wanted s)
    (stable : ∀ {s s' a}, S.rely i s s' → wanted s a → wanted s' a) (hs : S.rely i s s') :
    p.Safe S i wanted s' := by
  cases p with
  | done a => exact stable hs h
  | call request next => exact fun s'' hs' => h s'' (S.trans hs hs')

theorem Safe.imp {wanted wanted' : σ → α → Prop} {p : Program α} {s : σ}
    (h : p.Safe S i wanted s) (himp : ∀ s a, wanted s a → wanted' s a) :
    p.Safe S i wanted' s := by
  induction p generalizing s with
  | done a => exact himp s a h
  | call request next ih =>
    intro s' hs
    obtain ⟨answer, s'', hperform, hothers, hnext⟩ := h s' hs
    exact ⟨answer, s'', hperform, hothers, ih answer hnext⟩

theorem Safe.bind {middle : σ → α → Prop} {wanted : σ → β → Prop} {p : Program α}
    {f : α → Program β} {s : σ} (hp : p.Safe S i middle s)
    (hf : ∀ s a, middle s a → (f a).Safe S i wanted s) : (p.bind f).Safe S i wanted s := by
  induction p generalizing s with
  | done a => exact hf s a hp
  | call request next ih =>
    intro s' hs
    obtain ⟨answer, s'', hperform, hothers, hnext⟩ := hp s' hs
    exact ⟨answer, s'', hperform, hothers, ih answer hnext⟩

end Program

end ChatLedger.Store

namespace ChatLedger.Operation

open Store

variable {ι σ α β : Type} {S : Sharing ι σ} {i : ι} {s : σ}

/-- The operation is safe among its rivals. No proof opens it but those of the rules. -/
@[irreducible]
def Safe (S : Sharing ι σ) (i : ι) (wanted : σ → Except ServiceError α → Prop) (op : Operation α)
    (s : σ) : Prop := Program.Safe S i wanted op.run s

theorem safe_iff {wanted : σ → Except ServiceError α → Prop} {op : Operation α} :
    op.Safe S i wanted s ↔ Program.Safe S i wanted op.run s := by
  unfold Operation.Safe
  exact Iff.rfl

section Rules

variable {wanted : σ → Except ServiceError β → Prop} {f : α → Operation β}

theorem Safe.imp {wanted' : σ → Except ServiceError β → Prop} {op : Operation β}
    (h : op.Safe S i wanted s) (himp : ∀ s outcome, wanted s outcome → wanted' s outcome) :
    op.Safe S i wanted' s :=
  safe_iff.2 (Program.Safe.imp (safe_iff.1 h) himp)

theorem safe_pure {b : β} (h : wanted s (.ok b)) : (pure b : Operation β).Safe S i wanted s :=
  safe_iff.2 h

theorem safe_fail {e : ServiceError} (h : wanted s (.error e)) :
    (fail e : Operation β).Safe S i wanted s :=
  safe_iff.2 h

/-- A check that is passed. -/
theorem safe_check_bind {outcome : Except ServiceError α} {a : α} (h : outcome = .ok a)
    (hf : (f a).Safe S i wanted s) : (check outcome >>= f).Safe S i wanted s := by
  rw [h, safe_iff]
  exact safe_iff.1 hf

/-- A call that is answered, whatever the others have done before it. -/
theorem safe_ask_bind {r : Request} {f : r.Answer → Operation β}
    (h : ∀ s', S.rely i s s' → ∃ answer s'',
      r.perform (S.tables s') = (answer, S.tables s'') ∧ (∀ j, j ≠ i → S.rely j s' s'') ∧
        match answer with
        | .ok a => (f a).Safe S i wanted s''
        | .error e => wanted s'' (.error (.ofStore e))) :
    (ask r >>= f).Safe S i wanted s := by
  rw [safe_iff]
  intro s' hs
  obtain ⟨answer, s'', hperform, hothers, hnext⟩ := h s' hs
  refine ⟨answer, s'', hperform, hothers, ?_⟩
  cases answer with
  | ok a => exact safe_iff.1 hnext
  | error e => exact hnext

theorem safe_bind (op : Operation α) (middle : σ → Except ServiceError α → Prop)
    (hop : op.Safe S i middle s) (herror : ∀ s e, middle s (.error e) → wanted s (.error e))
    (hf : ∀ s a, middle s (.ok a) → (f a).Safe S i wanted s) : (op >>= f).Safe S i wanted s := by
  rw [safe_iff]
  refine Program.Safe.bind (p := op.run) (safe_iff.1 hop) fun s outcome h => ?_
  cases outcome with
  | ok a => exact safe_iff.1 (hf s a h)
  | error e => exact herror s e h

theorem safe_map {f : α → β} {op : Operation α}
    (h : op.Safe S i (fun s outcome => wanted s (outcome.map f)) s) :
    (f <$> op).Safe S i wanted s := by
  rw [safe_iff]
  refine Program.Safe.bind (p := op.run) (safe_iff.1 h) fun s outcome h => ?_
  cases outcome with
  | ok a => exact h
  | error e => exact h

end Rules

/-! ## Repetition -/

/-- What has to hold at the end of an attempt: a conflict leads to another one. -/
def Settles (again : σ → Prop) (wanted : σ → Except ServiceError α → Prop) (s : σ) :
    Except ServiceError α → Prop
  | .error (.conflict _) => again s
  | outcome => wanted s outcome

theorem Settles.cases {again : σ → Prop} {wanted : σ → Except ServiceError α → Prop}
    {outcome : Except ServiceError α} (h : Settles again wanted s outcome) :
    (∃ reason, outcome = .error (.conflict reason) ∧ again s) ∨
      wanted s outcome ∧ ∀ reason, outcome ≠ .error (.conflict reason) := by
  unfold Settles at h
  split at h
  · exact .inl ⟨_, rfl, h⟩
  · rename_i hcalm
    exact .inr ⟨h, hcalm⟩

/-- Attempts of which each conflict leaves less to lose are safe together, if there are more of them
than conflicts. -/
theorem safe_retry {wanted : σ → Except ServiceError α → Prop} {attempt : Nat → Operation α}
    {fits : σ → Prop} {losses : σ → Nat} {attempts : UInt32}
    (single : ∀ made n s, fits s → losses s ≤ n →
      (attempt made).Safe S i (Settles (fun s => fits s ∧ losses s < n) wanted) s)
    (hs : fits s) (hle : losses s < attempts.toNat) :
    (Operation.retry attempts attempt).Safe S i wanted s := by
  have loop (more : Nat) (s : σ) (hs : fits s) (hle : losses s ≤ more) :
      Program.Safe S i wanted (ChatLedger.retry (fun made => (attempt made).run) more) s := by
    induction more generalizing attempt s with
    | zero =>
      refine Program.Safe.imp (safe_iff.1 (single 0 0 s hs hle)) fun s' outcome h => ?_
      rcases h.cases with ⟨reason, -, hless⟩ | ⟨hwanted, -⟩
      · exact absurd hless.2 (Nat.not_lt_zero _)
      · exact hwanted
    | succ more ih =>
      refine Program.Safe.bind (safe_iff.1 (single 0 (more + 1) s hs hle)) fun s' outcome h => ?_
      rcases h.cases with ⟨reason, rfl, hless⟩ | ⟨hwanted, hcalm⟩
      · exact ih (fun made => single (made + 1)) s' hless.1 (Nat.le_of_lt_succ hless.2)
      · split
        · rename_i reason
          exact absurd rfl (hcalm reason)
        · exact hwanted
  exact safe_iff.2 (loop _ s hs (by omega))

end ChatLedger.Operation

/-! ## Together -/

namespace ChatLedger.Store.World

variable {ι σ α : Type} [DecidableEq ι]

/-- **Programs that are safe each by itself are safe together.** -/
theorem run_safe (S : Sharing ι σ) (wanted : ι → σ → α → Prop)
    (stable : ∀ {i s s' a}, S.rely i s s' → wanted i s a → wanted i s' a) {s : σ}
    {programs : ι → Program α} (safe : ∀ i, (programs i).Safe S i (wanted i) s)
    (schedule : List ι) :
    let w := (World.mk (S.tables s) programs []).run (schedule.map .calm)
    ∃ s', w.tables = S.tables s' ∧ ∀ i, (w.processes i).Safe S i (wanted i) s' := by
  have general (w : World ι α) (s : σ) (htables : w.tables = S.tables s)
      (hsafe : ∀ i, (w.processes i).Safe S i (wanted i) s) :
      ∃ s', (w.run (schedule.map .calm)).tables = S.tables s' ∧
        ∀ i, ((w.run (schedule.map .calm)).processes i).Safe S i (wanted i) s' := by
    induction schedule generalizing w s with
    | nil => exact ⟨s, htables, hsafe⟩
    | cons i schedule ih =>
      rw [List.map_cons, run_cons]
      rcases w.step_cases (.calm i) with ⟨hsame, -⟩ | ⟨request, next, result, hnext, rfl, hstep⟩
      · rw [hsame]
        exact ih w s htables hsafe
      · -- the process makes its call, and all others are safe as before
        have hcall := hsafe i
        rw [show w.processes i = .call request next from hnext] at hcall
        obtain ⟨answer, s', hperform, hothers, hsafe'⟩ := hcall s (S.refl i s)
        have hresult : attempt (Turn.calm i).failure request w.tables = (answer, S.tables s') := by
          rw [htables]
          exact hperform
        rw [hstep, hresult]
        refine ih _ s' rfl fun j => ?_
        dsimp only
        by_cases hj : j = i
        · subst hj
          rw [show (Turn.calm j).process = j from rfl, Function.update_self]
          exact hsafe'
        · rw [show (Turn.calm i).process = i from rfl, Function.update_of_ne hj]
          exact (hsafe j).onward stable (hothers j hj)
  exact general _ s rfl safe

/-- Operations that are safe each by itself all end as wanted. -/
theorem outcomes_wanted (S : Sharing ι σ) (wanted : ι → σ → Except ServiceError α → Prop)
    (stable : ∀ {i s s' a}, S.rely i s s' → wanted i s a → wanted i s' a) {s : σ}
    (operations : ι → Operation α) (safe : ∀ i, (operations i).Safe S i (wanted i) s)
    (schedule : List ι) :
    let w := (World.mk (S.tables s) (fun i => (operations i).run) []).run (schedule.map .calm)
    ∃ s', w.tables = S.tables s' ∧
      ∀ i outcome, w.outcome? i = some outcome → wanted i s' outcome := by
  obtain ⟨s', htables, hsafe⟩ := run_safe S wanted stable
    (fun i => Operation.safe_iff.1 (safe i)) schedule
  refine ⟨s', htables, fun i outcome houtcome => ?_⟩
  have hdone := hsafe i
  rw [Program.outcome?_eq_some.1 houtcome] at hdone
  exact hdone

end ChatLedger.Store.World
