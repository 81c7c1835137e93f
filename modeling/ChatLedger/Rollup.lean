import ChatLedger.Session

/-!
# Roll-ups

The figures of a session over its live messages, and what became of an attempt to refresh them.
A failed attempt never undoes the change that called for it: the figures stay behind until the next
attempt.
-/

namespace ChatLedger

open Time

/-- The figures that a refresh has written. -/
structure Rollup where
  session : Uuid
  messageCount : UInt32
  tokenCount : UInt64
  totalCost : Float
  lastMessageAt : Instant
  deriving Repr, DecidableEq

/-- The names of the figures in documents. -/
def Rollup.fieldNames : List String :=
  ["session_id", "message_count", "token_count", "total_cost", "last_message_at"]

/-- The figures as members of a record. -/
def Rollup.members (r : Rollup) : List (String × Json) := [
  ("session_id", Wire.encode r.session),
  ("message_count", Wire.encode r.messageCount),
  ("token_count", Wire.encode r.tokenCount),
  ("total_cost", Wire.encode r.totalCost),
  ("last_message_at", Wire.encode r.lastMessageAt)]

instance : Wire Rollup where
  encode r := .record r.members
  decode v := do
    let [session, messages, tokens, cost, last] ← v.slots? Rollup.fieldNames | none
    return {
      session := ← session.required
      messageCount := ← messages.required
      tokenCount := ← tokens.required
      totalCost := ← cost.required
      lastMessageAt := ← last.required }

/-- What became of an attempt to refresh a roll-up. -/
inductive RollupOutcome where
  | fresh (rollup : Rollup)
  | stale (reason : String)
  deriving Repr, DecidableEq

namespace RollupOutcome

/-- The figures were written. -/
def isFresh : RollupOutcome → Bool
  | .fresh _ => true
  | .stale _ => false

/-- The figures, if they were written. -/
def rollup? : RollupOutcome → Option Rollup
  | .fresh rollup => some rollup
  | .stale _ => none

/-- What a caller is told when the figures could not be refreshed. -/
def warning? : RollupOutcome → Option String
  | .fresh _ => none
  | .stale reason => some reason

/-- The outcome that a tag and the rest of its document stand for. -/
def ofTagged? (tag : String) (rest : Json) : Option RollupOutcome :=
  if tag = "fresh" then (Wire.decode rest).map .fresh
  else if tag = "stale" then do
    let [reason] ← rest.slots? ["reason"] | none
    return .stale (← reason.required)
  else none

/-- How deeply a document with a tag may be nested. -/
def depthLimit : Nat := 127

/-- The tag stands beside the fields, under the name `state`, or first in a list. The whole
document is read before the tag is known, so that every part of it must have a value. -/
instance : Wire RollupOutcome where
  encode
    | .fresh r => .record (("state", .text "fresh") :: r.members)
    | .stale reason => .record [("state", .text "stale"), ("reason", .text reason)]
  decode v :=
    if depthLimit < v.depth || !v.isReadable then none
    else
      match v with
      | .record members =>
        match Json.valuesOf members "state" with
        | [.text tag] => ofTagged? tag (.record (members.filter fun member => member.1 != "state"))
        | _ => none
      | .list (.text tag :: rest) => ofTagged? tag (.list rest)
      | _ => none

end RollupOutcome

/-- A change that took effect, with the attempt to refresh the roll-up behind it. -/
structure Refreshed (α : Type) where
  value : α
  rollup : RollupOutcome

instance {α : Type} [Wire α] : Wire (Refreshed α) where
  encode r := .record [("value", Wire.encode r.value), ("aggregate", Wire.encode r.rollup)]
  decode v := do
    let [value, rollup] ← v.slots? ["value", "aggregate"] | none
    return { value := ← value.required, rollup := ← rollup.required }

end ChatLedger
