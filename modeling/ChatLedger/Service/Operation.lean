import ChatLedger.Ownership
import ChatLedger.Store.Program

/-!
# Operations

What a service offers: a program over the store that ends in a value or in a `ServiceError`.

1. `Operation.check` brings in a check that needs no store, `Operation.ask` a store call.
2. `retry` repeats what has lost a race, a bounded number of times.
-/

namespace ChatLedger

open Store

/-- A program over the store that may end in an error. -/
abbrev Operation (α : Type) := ExceptT ServiceError Program α

namespace Operation

/-- The outcome of a check. -/
def check {α : Type} (outcome : Except ServiceError α) : Operation α := ExceptT.mk (pure outcome)

/-- Fails. -/
def fail {α : Type} (error : ServiceError) : Operation α := ExceptT.mk (pure (.error error))

/-- Makes a store call; `explain` says what a failure of it is to the caller. -/
def askWith (explain : StoreError → ServiceError) (request : Request) : Operation request.Answer :=
  ExceptT.mk do
    return (← Program.ask request).mapError explain

/-- Makes a store call. -/
def ask (request : Request) : Operation request.Answer := askWith .ofStore request

/-- Makes a store call that adds a record; a conflict means that there is one already. -/
def askToAdd (what : String) (request : Request) : Operation request.Answer :=
  askWith (fun
    | .conflict _ => .alreadyExists what
    | error => .ofStore error) request

/-- Makes a program without errors part of an operation. -/
def ofProgram {α : Type} (program : Program α) : Operation α := ExceptT.mk do
  return .ok (← program)

end Operation

/-! ## Lost races -/

/-- Makes an attempt, and up to `more` further ones for as long as they end in a conflict. No two
attempts need be the same: each comes with the number of those before it. -/
def retry {m : Type → Type} [Monad m] {α : Type} :
    (Nat → m (Except ServiceError α)) → Nat → m (Except ServiceError α)
  | attempt, 0 => attempt 0
  | attempt, more + 1 => do
    match ← attempt 0 with
    | .error (.conflict _) => retry (fun made => attempt (made + 1)) more
    | outcome => return outcome

/-- Makes at least one attempt, and as many as are configured for as long as they end in a
conflict. -/
def Operation.retry {α : Type} (attempts : UInt32) (attempt : Nat → Operation α) : Operation α :=
  ExceptT.mk (ChatLedger.retry (fun made => (attempt made).run) (max 1 attempts.toNat - 1))

end ChatLedger
