import ChatLedger.Proofs.Store.Changes
import ChatLedger.Proofs.Store.Paths

/-!
# Operations that run alone

What an operation answers, and what it leaves behind, when no other call comes between its own.

1. `Program.run_of_reads`: what only reads leaves the tables as they are.
2. The `on_…` lemmas follow an operation from its first call on. `on_retry`: without rivals there is
   nothing to repeat.
3. `Operation.Unfailing`: none of the store calls that an operation makes on its way fails.
-/

namespace ChatLedger

/-- The store has broken down on a call: it could not be reached, or could not carry the call out. -/
def StoreError.IsFailure : StoreError → Prop
  | .connection _ | .query _ => True
  | .notFound | .conflict _ => False

/-- A store call that is not answered with a value has failed. -/
def Store.FailsOnly {α : Type} (answer : Except StoreError α) : Prop :=
  ∀ e, answer = .error e → e.IsFailure

end ChatLedger

namespace ChatLedger.Store.Program

/-- A program that only reads leaves the tables as they are. -/
theorem run_of_reads {α : Type} {p : Program α} (reads : p.Asks fun r => r.access = .reader)
    (t : Tables) : (p.run t).2 = t := by
  induction p with
  | done a => rfl
  | call request next ih =>
    have same : (request.perform t).2 = t := Request.perform_of_reader reads.1 t
    show ((next (request.perform t).1).run (request.perform t).2).2 = t
    rw [same]
    exact ih _ (reads.2 _)

/-- None of the store calls fails that a program makes when it runs alone. -/
def Unfailing {α : Type} : Program α → Tables → Prop
  | done _, _ => True
  | call request next, t =>
    (∀ e, (request.perform t).1 = .error e → ¬ e.IsFailure) ∧
      (next (request.perform t).1).Unfailing (request.perform t).2

theorem unfailing_bind {α β : Type} {p : Program α} {f : α → Program β} {t : Tables} :
    (p.bind f).Unfailing t ↔ p.Unfailing t ∧ (f (p.run t).1).Unfailing (p.run t).2 := by
  induction p generalizing t with
  | done a => exact (iff_of_eq (true_and _)).symm
  | call request next ih =>
    exact (and_congr_right fun _ => ih _).trans and_assoc.symm

end ChatLedger.Store.Program

namespace ChatLedger.Operation

open Store

variable {α β : Type} {op : Operation α} {f : α → Operation β} {t t' : Tables} {a : α}
  {e : ServiceError}

/-- The outcome of an operation that runs alone, with the tables that it leaves behind. -/
def on (op : Operation α) (t : Tables) : Except ServiceError α × Tables := Program.run op.run t

theorem on_pure (a : α) (t : Tables) : (pure a : Operation α).on t = (.ok a, t) := rfl

theorem on_check (outcome : Except ServiceError α) (t : Tables) :
    (check outcome).on t = (outcome, t) := rfl

/-- A call is carried out on the tables as they are. -/
theorem on_askWith {r : Request} {explain : StoreError → ServiceError}
    {answer : Except StoreError r.Answer} (h : r.perform t = (answer, t')) :
    (askWith explain r).on t = (answer.mapError explain, t') := by
  show ((r.perform t).1.mapError explain, (r.perform t).2) = _
  rw [h]

theorem on_ask {r : Request} {answer : Except StoreError r.Answer}
    (h : r.perform t = (answer, t')) : (ask r).on t = (answer.mapError .ofStore, t') :=
  on_askWith h

theorem on_bind_ok (h : op.on t = (.ok a, t')) : (op >>= f).on t = (f a).on t' := by
  unfold on at h ⊢
  show Program.runWith _ (Program.bind op.run _) t = _
  rw [Program.runWith_bind, show Program.runWith _ op.run t = _ from h]
  rfl

theorem on_bind_error (h : op.on t = (.error e, t')) : (op >>= f).on t = (.error e, t') := by
  unfold on at h ⊢
  show Program.runWith _ (Program.bind op.run _) t = _
  rw [Program.runWith_bind, show Program.runWith _ op.run t = _ from h]
  rfl

/-- What a call answers is handed on. -/
theorem on_handOn {r : Request} {a : r.Answer} {g : r.Answer → β} (h : r.perform t = (.ok a, t')) :
    (do return g (← ask r) : Operation β).on t = (.ok (g a), t') :=
  on_bind_ok (on_ask h)

theorem on_map {f : α → β} {outcome : Except ServiceError α} (h : op.on t = (outcome, t')) :
    (f <$> op).on t = (outcome.map f, t') := by
  unfold on at h ⊢
  show Program.runWith _ (Program.bind op.run _) t = _
  rw [Program.runWith_bind, show Program.runWith _ op.run t = _ from h]
  cases outcome <;> rfl

/-- A first attempt that does not end in a conflict is the only one. -/
theorem on_retry {attempt : Nat → Operation α} {outcome : Except ServiceError α}
    (attempts : UInt32) (h : (attempt 0).on t = (outcome, t'))
    (calm : ∀ reason, outcome ≠ .error (.conflict reason)) :
    (Operation.retry attempts attempt).on t = (outcome, t') := by
  show Program.run (ChatLedger.retry (fun made => (attempt made).run) (max 1 attempts.toNat - 1))
    t = _
  generalize max 1 attempts.toNat - 1 = more
  cases more with
  | zero => exact h
  | succ more =>
    show Program.runWith _ (Program.bind (attempt 0).run _) t = _
    rw [Program.runWith_bind, show Program.runWith _ (attempt 0).run t = _ from h]
    dsimp only
    split
    · rename_i reason
      exact absurd rfl (calm reason)
    · rfl

/-! ## Calls without failures -/

/-- None of the store calls fails that the operation makes when it runs alone. -/
def Unfailing (op : Operation α) (t : Tables) : Prop := Program.Unfailing op.run t

theorem unfailing_pure {a : α} : (pure a : Operation α).Unfailing t := trivial

theorem unfailing_check {outcome : Except ServiceError α} : (check outcome).Unfailing t := trivial

theorem unfailing_ask {r : Request} :
    (ask r).Unfailing t ↔ ∀ e, (r.perform t).1 = .error e → ¬ e.IsFailure :=
  iff_of_eq (and_true _)

theorem unfailing_map {g : α → β} : (g <$> op).Unfailing t ↔ op.Unfailing t := by
  refine Program.unfailing_bind.trans (and_iff_left ?_)
  generalize Program.run op t = ended
  obtain ⟨_ | _, t'⟩ := ended <;> trivial

theorem unfailing_bind (h : op.on t = (.ok a, t')) :
    (op >>= f).Unfailing t ↔ op.Unfailing t ∧ (f a).Unfailing t' := by
  refine Program.unfailing_bind.trans ?_
  rw [show Program.run op t = _ from h]
  rfl

theorem Unfailing.bind (h : op.Unfailing t)
    (hf : ∀ a t', op.on t = (.ok a, t') → (f a).Unfailing t') : (op >>= f).Unfailing t := by
  rcases hon : op.on t with ⟨_ | a, t'⟩
  · refine Program.unfailing_bind.2 ⟨h, ?_⟩
    rw [show Program.run op t = _ from hon]
    trivial
  · exact (unfailing_bind hon).2 ⟨h, hf a t' hon⟩

/-- A call that can only fail, and does not, is answered. -/
theorem Unfailing.exists_answer {r : Request} (h : (ask r).Unfailing t)
    (fails : FailsOnly (r.perform t).1) : ∃ a, (r.perform t).1 = .ok a := by
  cases hanswer : (r.perform t).1 with
  | error e => exact absurd (fails e hanswer) (unfailing_ask.1 h e hanswer)
  | ok a => exact ⟨a, rfl⟩

theorem unfailing_of_answer {r : Request} (h : ∃ a, (r.perform t).1 = .ok a) :
    (ask r).Unfailing t := by
  obtain ⟨a, ha⟩ := h
  refine unfailing_ask.2 fun e he => ?_
  rw [ha] at he
  cases he

end ChatLedger.Operation
