import ChatLedger.Store.Request

/-!
# Programs over the store

What a service does, as the store calls that it makes one after the other, each call depending on
the answers so far.

1. A `Program` says nothing about what lies between two of its calls, so that it can be run alone,
   under failures, or in turns with others.
2. `Program.runWith` runs it on any state, by a function that carries single calls out.
-/

namespace ChatLedger.Store

/-- Store calls one after the other, with an answer at the end. -/
inductive Program (α : Type) where
  | done (answer : α)
  | call (request : Request) (next : Except StoreError request.Answer → Program α)

namespace Program

/-- One program, then another that depends on its answer. -/
def bind {α β : Type} : Program α → (α → Program β) → Program β
  | done answer, f => f answer
  | call request next, f => call request fun answer => (next answer).bind f

instance : Monad Program where
  pure := done
  bind := bind

@[simp] theorem bind_done {α β : Type} (a : α) (f : α → Program β) : (done a).bind f = f a := rfl

@[simp] theorem bind_call {α β : Type} (r : Request) (next : Except StoreError r.Answer → Program α)
    (f : α → Program β) : (call r next).bind f = call r fun answer => (next answer).bind f := rfl

/-- The program of a single call. -/
def ask (request : Request) : Program (Except StoreError request.Answer) := call request done

/-- Runs a program on a state, by a function that carries single calls out. -/
def runWith {α σ : Type} (perform : (r : Request) → σ → Except StoreError r.Answer × σ) :
    Program α → σ → α × σ
  | done answer, state => (answer, state)
  | call request next, state =>
    let (answer, state) := perform request state
    (next answer).runWith perform state

@[simp] theorem runWith_done {α σ : Type}
    (perform : (r : Request) → σ → Except StoreError r.Answer × σ) (a : α) (state : σ) :
    (done a).runWith perform state = (a, state) := rfl

/-- A sequence of programs runs one after the other. -/
theorem runWith_bind {α β σ : Type}
    (perform : (r : Request) → σ → Except StoreError r.Answer × σ) (p : Program α)
    (f : α → Program β) (state : σ) :
    (p.bind f).runWith perform state =
      (f (p.runWith perform state).1).runWith perform (p.runWith perform state).2 := by
  induction p generalizing state with
  | done a => rfl
  | call r next ih => simp [bind_call, runWith, ih]

/-- Runs a program alone. -/
def run {α : Type} (p : Program α) (t : Tables) : α × Tables := p.runWith Request.perform t

end Program

end ChatLedger.Store
