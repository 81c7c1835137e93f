import ChatLedger.Vocabulary

/-!
# Messages

A message belongs to one session for its whole life. Its error text goes with the status `error`
and is dropped with the status `normal`.
-/

namespace ChatLedger

open Time

/-- Who wrote a message. -/
inductive MessageRole where
  | system
  | user
  | assistant
  deriving Repr, DecidableEq, Inhabited

instance : Vocabulary MessageRole where
  kind := "message role"
  values := [.system, .user, .assistant]
  word
    | .system => "system"
    | .user => "user"
    | .assistant => "assistant"

/-- Whether a message came through. -/
inductive MessageStatus where
  | normal
  | error
  deriving Repr, DecidableEq, Inhabited

instance : Vocabulary MessageStatus where
  kind := "message status"
  values := [.normal, .error]
  word
    | .normal => "normal"
    | .error => "error"

/-- A message of a session. -/
structure Message where
  id : Uuid
  session : Uuid
  role : MessageRole
  content : String
  tokens : UInt32
  cost : Float
  status : MessageStatus
  errorText : Option String
  createdAt : Instant
  updatedAt : Instant
  deriving Repr, DecidableEq

instance : Wire Message where
  encode m := .record [
    ("id", Wire.encode m.id),
    ("session_id", Wire.encode m.session),
    ("role", Wire.encode m.role),
    ("content", Wire.encode m.content),
    ("tokens", Wire.encode m.tokens),
    ("cost", Wire.encode m.cost),
    ("status", Wire.encode m.status),
    ("error_msg", Wire.encode m.errorText),
    ("created_at", Wire.encode m.createdAt),
    ("updated_at", Wire.encode m.updatedAt)]
  decode v := do
    let [id, session, role, content, tokens, cost, status, errorText, created, updated] ←
        v.slots? ["id", "session_id", "role", "content", "tokens", "cost", "status", "error_msg",
          "created_at", "updated_at"]
      | none
    return {
      id := ← id.required
      session := ← session.required
      role := ← role.required
      content := ← content.required
      tokens := ← tokens.required
      cost := ← cost.required
      status := ← status.required
      errorText := ← errorText.optional
      createdAt := ← created.required
      updatedAt := ← updated.required }

/-- What a user says to add a message. -/
structure NewMessage where
  /-- A fresh identifier is taken when there is none. -/
  id : Option Uuid
  role : MessageRole
  content : String
  tokens : UInt32
  cost : Float
  status : MessageStatus := .normal
  errorText : Option String
  deriving Repr, DecidableEq

instance : Wire NewMessage where
  encode m := .record [
    ("id", Wire.encode m.id),
    ("role", Wire.encode m.role),
    ("content", Wire.encode m.content),
    ("tokens", Wire.encode m.tokens),
    ("cost", Wire.encode m.cost),
    ("status", Wire.encode m.status),
    ("error_msg", Wire.encode m.errorText)]
  decode v := do
    let [id, role, content, tokens, cost, status, errorText] ←
        v.slots? ["id", "role", "content", "tokens", "cost", "status", "error_msg"]
      | none
    return {
      id := ← id.optional
      role := ← role.required
      content := ← content.required
      tokens := ← tokens.required
      cost := ← cost.required
      status := ← status.withDefault .normal
      errorText := ← errorText.optional }

/-- A message that came through, with a fresh identifier. -/
def NewMessage.plain (role : MessageRole) (content : String) (tokens : UInt32) (cost : Float) :
    NewMessage where
  id := none
  role := role
  content := content
  tokens := tokens
  cost := cost
  errorText := none

/-! ## Partial updates -/

/-- New values for some fields of a message. -/
structure MessageUpdate where
  content : Option String := none
  tokens : Option UInt32 := none
  cost : Option Float := none
  status : Option MessageStatus := none
  errorText : Option String := none
  deriving Repr, DecidableEq, Inhabited

instance : Wire MessageUpdate where
  encode u := .record [
    ("content", Wire.encode u.content),
    ("tokens", Wire.encode u.tokens),
    ("cost", Wire.encode u.cost),
    ("status", Wire.encode u.status),
    ("error_msg", Wire.encode u.errorText)]
  decode v := do
    let [content, tokens, cost, status, errorText] ←
        v.slots? ["content", "tokens", "cost", "status", "error_msg"]
      | none
    return {
      content := ← content.optional
      tokens := ← tokens.optional
      cost := ← cost.optional
      status := ← status.optional
      errorText := ← errorText.optional }

/-- No field gets a new value. -/
def MessageUpdate.isEmpty (u : MessageUpdate) : Bool :=
  u.content.isNone && u.tokens.isNone && u.cost.isNone && u.status.isNone && u.errorText.isNone

/-- The message with the new values. Whoever sets it back to `normal` clears the error text. -/
def Message.apply (m : Message) (u : MessageUpdate) (now : Instant) : Message :=
  let status := u.status.getD m.status
  { m with
    content := u.content.getD m.content
    tokens := u.tokens.getD m.tokens
    cost := u.cost.getD m.cost
    status := status
    errorText := if status = .normal then none else u.errorText <|> m.errorText
    updatedAt := now }

end ChatLedger
