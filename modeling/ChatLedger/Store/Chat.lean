import ChatLedger.Store.Figures

/-!
# Changes to sessions and messages

1. A change either fails and leaves all tables as they were, or gives an answer and new tables.
2. No change touches a deleted session or message.
3. Deleting a session deletes its live messages in the same change.
-/

namespace ChatLedger.Store

open Time

/-- A change to the tables. -/
abbrev Change (α : Type) := Tables → Except StoreError (α × Tables)

/-- The rows with a change to those that satisfy a condition. -/
def changeWhere {α : Type} (condition : α → Bool) (change : α → α) (rows : List α) : List α :=
  rows.map fun row => if condition row then change row else row

/-- Fails where a column that has to hold an amount would hold none. -/
def requireAmount (x : Float) (column : String) : Except StoreError Unit :=
  if (storedAmount? x).isSome then .ok ()
  else .error (.query ("NOT NULL constraint failed: " ++ column))

/-- Fails unless a row that is referred to exists. -/
def requireReference (found : Bool) : Except StoreError Unit :=
  if found then .ok () else .error (.query "FOREIGN KEY constraint failed")

/-- Fails where a unique key is taken. -/
def requireUnique (taken : Bool) (reason : String) : Except StoreError Unit :=
  if taken then .error (.conflict reason) else .ok ()

namespace Tables

/-! ## Sessions -/

/-- Adds a session. -/
def insertSession (s : Session) : Change Unit := fun t => do
  requireAmount s.totalCost "chat_sessions.total_cost"
  requireUnique (t.sessions.any fun r => r.has s.id)
    ("session '" ++ s.id.text ++ "' already exists")
  return ((), { t with sessions := t.sessions ++ [.ofSession (nextRow t.sessions) s] })

/-- Changes the session of an identifier, unless there is none or it is deleted. -/
def changeSession (id : Uuid) (change : SessionRow → SessionRow) : Change Unit := fun t =>
  if t.sessions.any fun r => r.has id && r.isLive then
    .ok ((), { t with sessions := changeWhere (fun r => r.has id && r.isLive) change t.sessions })
  else .error .notFound

/-- Sets the topic of a session. -/
def setTopic (id : Uuid) (topic : String) (now : Instant) : Change Unit :=
  changeSession id (·.setTopic topic now)

/-- Sets the status of a session. -/
def setStatus (id : Uuid) (status : SessionStatus) (now : Instant) : Change Unit :=
  changeSession id (·.setStatus status now)

/-- Deletes the live messages that satisfy a condition, and says how many there were. -/
def deleteMessages (condition : MessageRow → Bool) (now : Instant) (t : Tables) : UInt64 × Tables :=
  let doomed (r : MessageRow) := condition r && r.isLive
  (countWhere doomed t.messages,
    { t with messages := changeWhere doomed (·.delete now) t.messages })

/-- Deletes a session with its messages, and says how many there were. -/
def deleteSession (id : Uuid) (now : Instant) : Change UInt64 := fun t => do
  let ((), t) ← setStatus id .deleted now t
  return deleteMessages (fun m => m.session == id.text) now t

/-- Deletes all sessions of a user with their messages. -/
def deleteSessionsOf (user : UserId) (now : Instant) : Change SessionsDeleted := fun t =>
  let doomed (r : SessionRow) := r.isLive && r.owner == user.number
  let (messages, t) :=
    deleteMessages (fun m => t.sessions.any fun s => doomed s && s.id == m.session) now t
  .ok (⟨countWhere doomed t.sessions, messages⟩,
    { t with sessions := changeWhere doomed (·.setStatus .deleted now) t.sessions })

/-- Computes the roll-up of a session anew; no answer where it is missing or deleted. -/
def refreshRollup (id : Uuid) (now : Instant) : Change (Option Rollup) := fun t => do
  if (t.session? id).isNone then return (none, t)
  let rows := t.kept id.text
  let tokens ← sumOf (rows.map (·.tokens))
  let cost := totalOf (rows.map (·.cost))
  let change (r : SessionRow) : SessionRow :=
    { r with
      messageCount := rows.length
      tokenCount := tokens
      totalCost := cost
      lastMessageAt := some now.storedText
      updatedAt := now.storedText }
  let rollup : Rollup :=
    { session := id
      messageCount := UInt32.ofNat rows.length
      tokenCount := UInt64.ofInt tokens
      totalCost := cost
      lastMessageAt := now }
  return (some rollup,
    { t with sessions := changeWhere (fun r => r.has id && r.isLive) change t.sessions })

/-! ## Messages -/

/-- Adds a message. -/
def insertMessage (m : Message) : Change Unit := fun t => do
  requireAmount m.cost "chat_messages.cost"
  requireUnique (t.messages.any fun r => r.has m.id)
    ("message '" ++ m.id.text ++ "' already exists")
  requireReference (t.sessions.any fun s => s.has m.session)
  return ((), { t with messages := t.messages ++ [.ofMessage (nextRow t.messages) m] })

/-- The text is the word of a message status. -/
def isMessageStatus (text : String) : Bool :=
  (Vocabulary.ofWord? text : Option MessageStatus).isSome

/-- Gives some columns of a live message new values, and answers with its row. What an update does
not name keeps its stored value, whatever other updates have done to it. -/
def updateMessage (id : Uuid) (u : MessageUpdate) (now : Instant) : Change MessageRow := fun t => do
  match t.messages.find? fun r => r.has id && r.isLive with
  | none => .error .notFound
  | some row =>
    let changed := row.update u now
    if !isMessageStatus changed.status then
      throw (.query "CHECK constraint failed: status IN ('normal', 'error')")
    return (changed, { t with
      messages := changeWhere (fun r => r.has id && r.isLive) (·.update u now) t.messages })

/-- Deletes a message. -/
def deleteMessage (id : Uuid) (now : Instant) : Change Unit := fun t =>
  if t.messages.any fun r => r.has id && r.isLive then
    .ok ((), (deleteMessages (·.has id) now t).2)
  else .error .notFound

end Tables

end ChatLedger.Store
