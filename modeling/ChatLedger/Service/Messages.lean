import ChatLedger.Service.Sessions

/-!
# Messages

What users do with the messages of their sessions.

1. Whose a message is follows from its session, which is looked up on every call.
2. Every change is followed by a refresh of the session's roll-up, whose outcome is part of the
   answer. A refresh that fails never undoes the change. It reads the clock anew.
-/

namespace ChatLedger.Messages

open Store Time Operation

/-- The message, if it is there and belongs to a session of the user. -/
def owned (user : UserId) (id : Uuid) : Operation Message := do
  let message ← check (ensureFound (← ask (.getMessage id)) ("message " ++ id.text))
  let _ ← Sessions.owned user message.session
  return message

/-- Refuses an error text that is too long. -/
def validateErrorText : Option String → Except ServiceError Unit
  | some text => Validation.boundedText "error_msg" text Limit.errorText
  | none => .ok ()

/-- Refuses a new message with a field out of bounds. -/
def validateNew (settings : Settings) (input : NewMessage) : Except ServiceError Unit := do
  let _ ← Validation.requiredText "content" input.content settings.limits.messageChars.toNat
  Validation.cost "cost" input.cost
  validateErrorText input.errorText

/-- Refuses an update without fields, or with a field out of bounds. -/
def validateUpdate (settings : Settings) (update : MessageUpdate) : Except ServiceError Unit := do
  Validation.require (!update.isEmpty) "message update has no fields"
  if let some content := update.content then
    let _ ← Validation.requiredText "content" content settings.limits.messageChars.toNat
  if let some cost := update.cost then
    Validation.cost "cost" cost
  validateErrorText update.errorText

/-- The message that an input stands for. The error text of a message that came through is
dropped. -/
def ofInput (session : Uuid) (input : NewMessage) (now : Instant) (fresh : Uuid) : Message where
  id := input.id.getD fresh
  session := session
  role := input.role
  content := input.content
  tokens := input.tokens
  cost := input.cost
  status := input.status
  errorText := if input.status = .error then input.errorText else none
  createdAt := now
  updatedAt := now

/-- Adds a message to a session, under its own identifier or the given one. -/
def create (settings : Settings) (user : UserId) (session : Uuid) (input : NewMessage)
    (clock : Clock) (fresh : Uuid) : Operation (Refreshed Message) := do
  check (validateNew settings input)
  let _ ← Sessions.owned user session
  let message := ofInput session input (clock 0) fresh
  askToAdd ("message " ++ message.id.text) (.insertMessage message)
  return { value := message, rollup := ← ofProgram (Sessions.refresh session (clock 1)) }

/-- Gives some fields of a message new values. -/
def update (settings : Settings) (user : UserId) (id : Uuid) (update : MessageUpdate)
    (clock : Clock) : Operation (Refreshed Message) := do
  check (validateUpdate settings update)
  let _ ← owned user id
  let message ← ask (.updateMessage id update (clock 0))
  return { value := message, rollup := ← ofProgram (Sessions.refresh message.session (clock 1)) }

/-- Deletes a message, and answers with its session. -/
def delete (user : UserId) (id : Uuid) (clock : Clock) : Operation (Refreshed Uuid) := do
  let message ← owned user id
  ask (.deleteMessage id (clock 0))
  return {
    value := message.session
    rollup := ← ofProgram (Sessions.refresh message.session (clock 1)) }

/-- A page of the messages of a session. -/
def list (settings : Settings) (user : UserId) (session : Uuid) (page size : Option UInt32) :
    Operation (Page Message) := do
  let _ ← Sessions.owned user session
  let request := settings.paging.resolve .messages page size
  return .ofItems (← ask (.listSessionMessages session request)) request

/-- A page of the messages of all sessions of the user. -/
def listAll (settings : Settings) (user : UserId) (page size : Option UInt32) :
    Operation (Page Message) := do
  let request := settings.paging.resolve .messages page size
  return .ofItems (← ask (.listUserMessages user request)) request

/-- A page of the user's messages that contain the keyword. -/
def search (settings : Settings) (user : UserId) (keyword : String) (page size : Option UInt32) :
    Operation (Page Message) := do
  let keyword ← check (Validation.keyword keyword)
  let request := settings.paging.resolve .messages page size
  return .ofItems (← ask (.searchUserMessages user keyword request)) request

/-- A page of the user's messages that did not come through. -/
def errors (settings : Settings) (user : UserId) (page size : Option UInt32) :
    Operation (Page Message) := do
  let request := settings.paging.resolve .messages page size
  return .ofItems (← ask (.errorMessages user request)) request

/-- The user's latest messages, at least one and at most as many as a page holds. -/
def recent (user : UserId) (limit : UInt32) : Operation (List Message) :=
  ask (.recentMessages user (PageRequest.clamp 1 maxPageSize limit))

/-- Figures over the messages of a session. -/
def statsIn (user : UserId) (session : Uuid) : Operation MessageStats := do
  let _ ← Sessions.owned user session
  ask (.sessionMessageStats session)

/-- Figures over all messages of a user. -/
def stats (user : UserId) : Operation MessageStats := ask (.userMessageStats user)

end ChatLedger.Messages
