import ChatLedger.Service.Operation
import ChatLedger.Settings
import ChatLedger.Validation

/-!
# Sessions

What users do with their sessions.

1. Input is checked first, then that the session exists, then that the caller owns it.
2. A deleted session is gone for everyone; its messages are deleted with it.
-/

namespace ChatLedger.Sessions

open Store Time Operation

/-- The session, if it is there and belongs to the user. -/
def owned (user : UserId) (id : Uuid) : Operation Session := do
  let session ← check (ensureFound (← ask (.getSession id)) ("session " ++ id.text))
  check (ensureOwner session user)
  return session

/-- Opens a session under the given identifier. -/
def create (settings : Settings) (user : UserId) (input : NewSession) (now : Instant)
    (fresh : Uuid) : Operation Session := do
  let topic ← check (Validation.requiredText "topic" input.topic Limit.sessionTopic)
  let model ←
    match input.model with
    | some model => check (Validation.requiredText "model" model Limit.sessionModel)
    | none => pure settings.sessions.model
  let session : Session :=
    { id := fresh
      owner := user
      topic := topic
      model := model
      channel := input.channel.getD 1
      messageCount := 0
      tokenCount := 0
      totalCost := 0.0
      status := .active
      createdAt := now
      updatedAt := now
      lastMessageAt := none }
  askToAdd ("session " ++ session.id.text) (.createSession session)
  return session

/-- Gives a session another topic. -/
def updateTopic (user : UserId) (id : Uuid) (topic : String) (now : Instant) :
    Operation Session := do
  let topic ← check (Validation.requiredText "topic" topic Limit.sessionTopic)
  let session ← owned user id
  ask (.updateSessionTopic id topic now)
  return { session with topic := topic, updatedAt := now }

/-- Ends a session, which stays as it is if it has ended already. -/
def finish (user : UserId) (id : Uuid) (now : Instant) : Operation Session := do
  let session ← owned user id
  if session.status = .ended then return session
  ask (.setSessionStatus id .ended now)
  return { session with status := .ended, updatedAt := now }

/-- Deletes a session, and says how many messages went with it. -/
def delete (user : UserId) (id : Uuid) (now : Instant) : Operation UInt64 := do
  let _ ← owned user id
  ask (.deleteSession id now)

/-- Deletes all sessions of a user. -/
def deleteAll (user : UserId) (now : Instant) : Operation SessionsDeleted :=
  ask (.deleteUserSessions user now)

/-- A page of the user's sessions. -/
def list (settings : Settings) (user : UserId) (page size : Option UInt32) :
    Operation (Page Session) := do
  let request := settings.paging.resolve .sessions page size
  return .ofItems (← ask (.listSessions user request)) request

/-- A page of the user's sessions whose topic contains the keyword. -/
def search (settings : Settings) (user : UserId) (keyword : String) (page size : Option UInt32) :
    Operation (Page Session) := do
  let keyword ← check (Validation.keyword keyword)
  let request := settings.paging.resolve .sessions page size
  return .ofItems (← ask (.searchSessions user keyword request)) request

/-- Figures over the user's sessions. -/
def stats (user : UserId) : Operation SessionStats := ask (.sessionStats user)

/-- Figures over the user's sessions, model by model. -/
def usage (user : UserId) : Operation (List ModelUsage) := ask (.modelUsage user)

/-- Refreshes the roll-up of a session. This never fails: what goes wrong is part of the
outcome. -/
def refresh (id : Uuid) (now : Instant) : Program RollupOutcome := do
  match ← Program.ask (.refreshRollup id now) with
  | .ok (some rollup) => return .fresh rollup
  | .ok none => return .stale ("session " ++ id.text ++ " is missing or deleted")
  | .error error => return .stale ("aggregate recompute failed: " ++ error.message)

/-- Refreshes the roll-up of a session on demand. -/
def recompute (user : UserId) (id : Uuid) (now : Instant) : Operation RollupOutcome := do
  let _ ← owned user id
  ofProgram (refresh id now)

end ChatLedger.Sessions
