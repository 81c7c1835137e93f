import ChatLedger.Proofs.Store.Paths
import Mathlib.Data.List.Induction
import Mathlib.Logic.Function.Basic

/-!
# Interleavings

Programs that run at the same time on one store. A turn carries out the next store call of one of
them, which is one atomic step, or lets it fail without effect.

1. A `World` holds the tables, what is left of each program, and the history of all calls so far.
   `World.run` takes it through a schedule of turns; every list of turns is a schedule.
2. `World.trace_run`: the calls of a history follow one another on the tables (`Trace`).
3. `World.path_run`: the calls that one process has made so far are a path of its program.

Both facts hold at every moment of every schedule, so that what all processes do to the tables and
what one process does alone can be studied apart from each other.
-/

namespace ChatLedger.Store

/-- A store call that a process has made, with the tables right before and right after it. -/
structure Event (ι : Type) where
  process : ι
  request : Request
  answer : Except StoreError request.Answer
  before : Tables
  after : Tables

namespace Event

variable {ι : Type}

/-- The call and its answer. -/
def exchange (e : Event ι) : Exchange := ⟨e.request, e.answer⟩

/-- The call was carried out, or it failed without effect. -/
def Lawful (e : Event ι) : Prop :=
  e.request.perform e.before = (e.answer, e.after) ∨
    ∃ error, e.answer = .error error ∧ e.after = e.before

/-- An answer other than an error comes from the tables. -/
theorem Lawful.perform_of_ok {e : Event ι} (h : e.Lawful) {a : e.request.Answer}
    (ha : e.answer = .ok a) : e.request.perform e.before = (.ok a, e.after) := by
  rcases h with h | ⟨error, he, -⟩
  · rw [h, ha]
  · rw [ha] at he; cases he

/-- Whatever holds of all tables that a call may leave behind holds after a lawful event. -/
theorem Lawful.after_of {e : Event ι} (h : e.Lawful) {P : Tables → Prop} (same : P e.before)
    (carried : P (e.request.perform e.before).2) : P e.after := by
  rcases h with h | ⟨_, -, h⟩
  · rw [h] at carried; exact carried
  · rw [h]; exact same

end Event

/-! ## Traces -/

/-- The events follow one another, from the tables `start` on to the given ones. -/
inductive Trace {ι : Type} (start : Tables) : List (Event ι) → Tables → Prop where
  | nil : Trace start [] start
  | snoc {history : List (Event ι)} {e : Event ι} (earlier : Trace start history e.before)
      (lawful : e.Lawful) : Trace start (history ++ [e]) e.after

namespace Trace

variable {ι : Type} {start t : Tables} {history : List (Event ι)}

/-- A trace can be cut at any of its events. -/
theorem split {h₁ h₂ : List (Event ι)} {e : Event ι} (h : Trace start (h₁ ++ e :: h₂) t) :
    Trace start h₁ e.before ∧ e.Lawful ∧ Trace e.after h₂ t := by
  induction h₂ using List.reverseRecOn generalizing t with
  | nil =>
    generalize hl : h₁ ++ [e] = l at h
    cases h with
    | nil => simp at hl
    | snoc earlier lawful =>
      obtain ⟨rfl, he⟩ := List.append_inj' hl rfl
      cases he
      exact ⟨earlier, lawful, .nil⟩
  | append_singleton h₂ last ih =>
    generalize hl : h₁ ++ e :: (h₂ ++ [last]) = l at h
    cases h with
    | nil => simp at hl
    | snoc earlier lawful =>
      rw [← List.cons_append, ← List.append_assoc] at hl
      obtain ⟨rfl, he⟩ := List.append_inj' hl rfl
      cases he
      obtain ⟨h₁, hlaw, h₂⟩ := ih earlier
      exact ⟨h₁, hlaw, h₂.snoc lawful⟩

theorem lawful_of_mem (h : Trace start history t) {e : Event ι} (he : e ∈ history) : e.Lawful := by
  obtain ⟨h₁, h₂, rfl⟩ := List.append_of_mem he
  exact h.split.2.1

/-- The events before one of them lead to the tables right before it. -/
theorem before_of_mem (h : Trace start history t) {e : Event ι} (he : e ∈ history) :
    ∃ earlier, (∀ x ∈ earlier, x ∈ history) ∧ Trace start earlier e.before := by
  obtain ⟨h₁, h₂, rfl⟩ := List.append_of_mem he
  exact ⟨h₁, fun x hx => List.mem_append_left _ hx, h.split.1⟩

/-- What holds of some tables, and of those after each event if it holds before it, holds at the
end. -/
theorem invariant (h : Trace start history t) {P : Tables → Prop} (first : P start)
    (step : ∀ e ∈ history, e.Lawful → P e.before → P e.after) : P t := by
  induction h with
  | nil => exact first
  | snoc earlier lawful ih =>
    refine step _ (by simp) lawful (ih fun e he => step e (by simp [he]))

/-- A reflexive and transitive relation between the tables before and after each event relates the
first and the last tables. -/
theorem related (h : Trace start history t) {R : Tables → Tables → Prop} (refl : ∀ t, R t t)
    (trans : ∀ {a b c}, R a b → R b c → R a c)
    (step : ∀ e ∈ history, e.Lawful → R e.before e.after) : R start t :=
  h.invariant (P := R start) (refl start) fun e he lawful hb => trans hb (step e he lawful)

end Trace

/-! ## Worlds -/

/-- The answer of a program that has come to its end. -/
def Program.outcome? {α : Type} : Program α → Option α
  | .done a => some a
  | .call .. => none

theorem Program.outcome?_eq_some {α : Type} {p : Program α} {a : α} :
    p.outcome? = some a ↔ p = .done a := by
  cases p <;> simp [Program.outcome?]

/-- Whose turn it is, and whether the store call that is due fails. -/
structure Turn (ι : Type) where
  process : ι
  failure : Option StoreError := none
  deriving Repr

/-- A turn on which nothing fails. -/
def Turn.calm {ι : Type} (i : ι) : Turn ι := ⟨i, none⟩

/-- The tables, what is left of each process, and the calls made so far. -/
structure World (ι α : Type) where
  tables : Tables
  processes : ι → Program α
  history : List (Event ι) := []

/-- Carries a call out, unless it fails. -/
def attempt (failure : Option StoreError) (r : Request) (t : Tables) :
    Except StoreError r.Answer × Tables :=
  match failure with
  | none => r.perform t
  | some error => (.error error, t)

theorem lawful_attempt {ι : Type} (i : ι) (failure : Option StoreError) (request : Request)
    (t : Tables) :
    let result := attempt failure request t
    (⟨i, request, result.1, t, result.2⟩ : Event ι).Lawful := by
  cases failure with
  | none => exact .inl rfl
  | some error => exact .inr ⟨error, rfl, rfl⟩

/-- The calls that a process makes in a history, with their answers. -/
def exchangesOf {ι : Type} [DecidableEq ι] (i : ι) (history : List (Event ι)) : List Exchange :=
  (history.filter (·.process = i)).map Event.exchange

section ExchangesOf

variable {ι : Type} [DecidableEq ι] {i : ι} {h₁ h₂ history : List (Event ι)} {e : Event ι}

theorem mem_exchangesOf {x : Exchange} :
    x ∈ exchangesOf i history ↔ ∃ e ∈ history, e.process = i ∧ e.exchange = x := by
  simp [exchangesOf, and_assoc]

theorem exchangesOf_split (h₁ h₂ : List (Event ι)) (e : Event ι) :
    exchangesOf e.process (h₁ ++ e :: h₂) =
      exchangesOf e.process h₁ ++ e.exchange :: exchangesOf e.process h₂ := by
  simp [exchangesOf]

/-- An event of a process is its last one, or comes before it. -/
theorem exchange_cases {l : List Exchange} {x : Exchange}
    (h : exchangesOf e.process (h₁ ++ e :: h₂) = l ++ [x]) :
    (e.exchange = x ∧ exchangesOf e.process h₁ = l ∧ exchangesOf e.process h₂ = []) ∨
      ∃ l₂, l = exchangesOf e.process h₁ ++ e.exchange :: l₂ ∧
        exchangesOf e.process h₂ = l₂ ++ [x] := by
  rw [exchangesOf_split] at h
  rcases List.eq_nil_or_concat (exchangesOf e.process h₂) with hnone | ⟨l₂, y, hsome⟩
  · rw [hnone] at h
    obtain ⟨hl, hx⟩ := List.append_inj' h rfl
    exact .inl ⟨(List.cons.inj hx).1, hl, hnone⟩
  · rw [List.concat_eq_append] at hsome
    rw [hsome, ← List.cons_append, ← List.append_assoc] at h
    obtain ⟨hl, hx⟩ := List.append_inj' h rfl
    rw [(List.cons.inj hx).1] at hsome
    exact .inr ⟨l₂, hl.symm, hsome⟩

end ExchangesOf

namespace World

variable {ι α : Type} [DecidableEq ι]

/-- The answer of a process that has come to its end. -/
def outcome? (w : World ι α) (i : ι) : Option α := (w.processes i).outcome?

/-- All processes have come to their ends. -/
def Finished (w : World ι α) : Prop := ∀ i, (w.outcome? i).isSome = true

/-- One turn. A process that has come to its end lets its turn pass. -/
def step (w : World ι α) (turn : Turn ι) : World ι α :=
  match w.processes turn.process with
  | .done _ => w
  | .call request next =>
    let result := attempt turn.failure request w.tables
    { tables := result.2
      processes := Function.update w.processes turn.process (next result.1)
      history := w.history ++ [⟨turn.process, request, result.1, w.tables, result.2⟩] }

/-- The turns of a schedule, one after the other. -/
def run (w : World ι α) (schedule : List (Turn ι)) : World ι α := schedule.foldl step w

@[simp] theorem run_cons (w : World ι α) (turn : Turn ι) (schedule : List (Turn ι)) :
    w.run (turn :: schedule) = (w.step turn).run schedule := rfl

/-- All that a turn can do: nothing, or the next call of the process. -/
theorem step_cases (w : World ι α) (turn : Turn ι) :
    w.step turn = w ∧ (∃ a, w.processes turn.process = .done a) ∨
      ∃ request next result, w.processes turn.process = .call request next ∧
        result = attempt turn.failure request w.tables ∧
        w.step turn =
          { tables := result.2
            processes := Function.update w.processes turn.process (next result.1)
            history := w.history ++ [⟨turn.process, request, result.1, w.tables, result.2⟩] } := by
  unfold step
  cases h : w.processes turn.process with
  | done a => exact .inl ⟨rfl, a, rfl⟩
  | call request next => exact .inr ⟨request, next, _, rfl, rfl, rfl⟩

/-- What a turn keeps, a schedule keeps. -/
theorem run_invariant {P : World ι α → Prop} (step : ∀ w turn, P w → P (w.step turn))
    (w : World ι α) (schedule : List (Turn ι)) (first : P w) : P (w.run schedule) := by
  induction schedule generalizing w with
  | nil => exact first
  | cons turn schedule ih => exact ih _ (step w turn first)

theorem run_append (w : World ι α) (earlier later : List (Turn ι)) :
    w.run (earlier ++ later) = (w.run earlier).run later := List.foldl_append

/-- A schedule adds events to the history, which lead on to its tables. -/
theorem trace_onward (w : World ι α) (schedule : List (Turn ι)) :
    ∃ later, (w.run schedule).history = w.history ++ later ∧
      Trace w.tables later (w.run schedule).tables := by
  refine run_invariant
    (P := fun w' => ∃ later, w'.history = w.history ++ later ∧ Trace w.tables later w'.tables)
    ?_ _ schedule ⟨[], by simp, .nil⟩
  rintro w' turn ⟨later, hhistory, trace⟩
  rcases w'.step_cases turn with ⟨same, -⟩ | ⟨request, next, result, -, rfl, stepped⟩
  · rw [same]; exact ⟨later, hhistory, trace⟩
  · rw [stepped]
    have onward := trace.snoc (lawful_attempt turn.process turn.failure request w'.tables)
    exact ⟨_, by rw [hhistory, List.append_assoc], onward⟩

/-- The history leads to the tables. -/
theorem trace_run (t : Tables) (programs : ι → Program α) (schedule : List (Turn ι)) :
    let w := (World.mk t programs []).run schedule
    Trace t w.history w.tables := by
  obtain ⟨later, hhistory, trace⟩ := trace_onward (World.mk t programs []) schedule
  intro w
  rw [show w.history = later from hhistory]
  exact trace

/-- What a process has done so far is a path of its program. -/
theorem path_run (t : Tables) (programs : ι → Program α) (schedule : List (Turn ι)) (i : ι) :
    let w := (World.mk t programs []).run schedule
    (programs i).Path (exchangesOf i w.history) (w.processes i) := by
  refine run_invariant (P := fun w => (programs i).Path (exchangesOf i w.history) (w.processes i))
    ?_ _ schedule (.nil _)
  intro w turn h
  rcases w.step_cases turn with ⟨same, -⟩ | ⟨request, next, result, hnext, -, stepped⟩
  · rw [same]; exact h
  · rw [stepped]
    by_cases hi : turn.process = i
    · subst hi
      rw [hnext] at h
      simpa [exchangesOf, Event.exchange] using h.snoc result.1
    · have hi' : i ≠ turn.process := fun h => hi h.symm
      simpa [exchangesOf, hi, Function.update_of_ne hi'] using h

/-- What a process that has come to its end has done is a path of its program to the end. -/
theorem path_of_outcome {t : Tables} {programs : ι → Program α} {schedule : List (Turn ι)} {i : ι}
    {a : α} (h : ((World.mk t programs []).run schedule).outcome? i = some a) :
    (programs i).Path (exchangesOf i ((World.mk t programs []).run schedule).history)
      (.done a) := by
  rw [← Program.outcome?_eq_some.1 h]
  exact path_run t programs schedule i

/-- The calls of a process none of whose turns fails are all carried out. -/
theorem performed_run {t : Tables} {programs : ι → Program α} {schedule : List (Turn ι)} {i : ι}
    (calm : ∀ turn ∈ schedule, turn.process = i → turn.failure = none) :
    ∀ e ∈ ((World.mk t programs []).run schedule).history, e.process = i →
      e.request.perform e.before = (e.answer, e.after) := by
  have onward : ∀ w : World ι α,
      (∀ e ∈ w.history, e.process = i → e.request.perform e.before = (e.answer, e.after)) →
      ∀ e ∈ (w.run schedule).history, e.process = i →
        e.request.perform e.before = (e.answer, e.after) := by
    induction schedule with
    | nil => exact fun w first => first
    | cons turn schedule ih =>
      obtain ⟨hturn, hrest⟩ := List.forall_mem_cons.1 calm
      intro w first
      refine ih hrest (w.step turn) fun e he hi => ?_
      rcases w.step_cases turn with ⟨same, -⟩ | ⟨request, next, result, -, rfl, stepped⟩
      · exact first e (same ▸ he) hi
      · rw [stepped] at he
        rcases List.mem_append.1 he with he | he
        · exact first e he hi
        · obtain rfl := List.mem_singleton.1 he
          rw [hturn hi]
          rfl
  exact onward _ (by simp)

/-- The calls of a process in the history are calls that its program may make. -/
theorem asks_of_process {P : Request → Prop} {t : Tables} {programs : ι → Program α}
    {schedule : List (Turn ι)} {e : Event ι} (hP : (programs e.process).Asks P)
    (he : e ∈ ((World.mk t programs []).run schedule).history) : P e.request := by
  have hpath := path_run t programs schedule e.process
  refine hP.mem_path hpath e.exchange ?_
  exact List.mem_map.2 ⟨e, List.mem_filter.2 ⟨he, by simp⟩, rfl⟩

/-- Every call in the history is one that its process may make. -/
theorem asks_of_mem {P : ι → Request → Prop} {t : Tables} {programs : ι → Program α}
    {schedule : List (Turn ι)} (hP : ∀ i, (programs i).Asks (P i)) {e : Event ι}
    (he : e ∈ ((World.mk t programs []).run schedule).history) : P e.process e.request :=
  asks_of_process (hP e.process) he

end World

end ChatLedger.Store
