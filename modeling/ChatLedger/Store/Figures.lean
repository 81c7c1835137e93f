import ChatLedger.Rollup
import ChatLedger.Statistics
import ChatLedger.Store.Tables

/-!
# Figures

Statistics over rows.

1. Figures over sessions come from their stored roll-ups, figures over messages from the messages
   themselves. Only what is shown counts.
2. Sums of amounts depend on the order of their terms in the last digit. Sessions are taken by
   status and then from the earliest, the messages of each from the earliest.
-/

namespace ChatLedger.Store.Tables

/-- Sessions in the order in which they are summed. -/
def summed (rows : List SessionRow) : List SessionRow :=
  rows.mergeSort fun a b =>
    a.status < b.status ||
      (a.status == b.status && notAfter (a.createdAt, a.row) (b.createdAt, b.row))

/-- The live messages kept for a session, from the earliest. -/
def kept (t : Tables) (session : String) : List MessageRow :=
  oldestFirst (fun m => (m.createdAt, m.row))
    (t.messages.filter fun m => m.isLive && m.session == session)

/-! ## Sessions -/

/-- Figures over the live sessions of a user. -/
def sessionStats (t : Tables) (user : UserId) : Except StoreError SessionStats := do
  let rows := summed (t.sessionsOf user)
  let messages := UInt64.ofInt (← sumOf (rows.map (·.messageCount)))
  let tokens := UInt64.ofInt (← sumOf (rows.map (·.tokenCount)))
  let sessions := countOf rows
  return {
    sessions := sessions
    activeSessions := countWhere (fun s => s.status == Vocabulary.word SessionStatus.active) rows
    messages := messages
    tokens := tokens
    cost := totalOf (rows.map (·.totalCost))
    messagesPerSession := average messages sessions }

/-- Figures over sessions of one model. -/
def usageOf (model : String) (rows : List SessionRow) : Except StoreError ModelUsage := do
  return {
    model := model
    sessions := countOf rows
    messages := UInt64.ofInt (← sumOf (rows.map (·.messageCount)))
    tokens := UInt64.ofInt (← sumOf (rows.map (·.tokenCount)))
    cost := totalOf (rows.map (·.totalCost)) }

/-- The dearer model comes first, and of two as dear the one whose name does. -/
def dearerFirst (a b : ModelUsage) : Bool :=
  b.cost < a.cost || (a.cost == b.cost && a.model ≤ b.model)

/-- Figures over the live sessions of a user, one entry a model. -/
def modelUsage (t : Tables) (user : UserId) : Except StoreError (List ModelUsage) := do
  let rows := summed (t.sessionsOf user)
  let models := (rows.map (·.model)).eraseDups
  let entries ← models.mapM fun model => usageOf model (rows.filter fun s => s.model == model)
  return entries.mergeSort dearerFirst

/-! ## Messages -/

/-- Figures over messages. -/
def messageStats (rows : List MessageRow) : Except StoreError MessageStats := do
  let tokens := UInt64.ofInt (← sumOf (rows.map (·.tokens)))
  let messages := countOf rows
  let written (role : MessageRole) := countWhere (fun m => m.role == Vocabulary.word role) rows
  return {
    messages := messages
    userMessages := written .user
    assistantMessages := written .assistant
    systemMessages := written .system
    tokens := tokens
    cost := totalOf (rows.map (·.cost))
    tokensPerMessage := average tokens messages }

/-- Figures over the shown messages of a session. -/
def sessionMessageStats (t : Tables) (session : Uuid) : Except StoreError MessageStats :=
  messageStats (t.messagesIn session)

/-- Figures over the shown messages of a user. -/
def userMessageStats (t : Tables) (user : UserId) : Except StoreError MessageStats :=
  messageStats ((summed (t.sessionsOf user)).flatMap fun s => t.kept s.id)

end ChatLedger.Store.Tables
