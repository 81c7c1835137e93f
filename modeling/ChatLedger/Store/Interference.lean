import ChatLedger.Store.Database

/-!
# Interference

Programs under failures and concurrent writers at exact points.

1. An `Incident` names a kind of store call and says what happens when one is about to be made: the
   call fails, finds nothing, or another writer comes in between.
2. Of several incidents for one call the first that is left takes place, as often as it says. What
   a call never meets has no effect.
-/

namespace ChatLedger.Store

/-- The name of a kind of store call. -/
def Request.name : Request → String
  | .createSession .. => "create_session"
  | .getSession .. => "get_session"
  | .updateSessionTopic .. => "update_session_topic"
  | .setSessionStatus .. => "set_session_status"
  | .deleteSession .. => "delete_session_cascade"
  | .deleteUserSessions .. => "delete_user_sessions"
  | .listSessions .. => "list_sessions"
  | .searchSessions .. => "search_sessions"
  | .sessionStats .. => "session_stats"
  | .modelUsage .. => "model_usage"
  | .refreshRollup .. => "recompute_aggregate"
  | .insertMessage .. => "insert_message"
  | .getMessage .. => "get_message"
  | .updateMessage .. => "update_message"
  | .deleteMessage .. => "soft_delete_message"
  | .listSessionMessages .. => "list_session_messages"
  | .listUserMessages .. => "list_user_messages"
  | .searchUserMessages .. => "search_user_messages"
  | .errorMessages .. => "error_messages"
  | .recentMessages .. => "recent_messages"
  | .sessionMessageStats .. => "session_message_stats"
  | .userMessageStats .. => "user_message_stats"
  | .findActiveByTopic .. => "find_active_by_topic"
  | .getSubscription .. => "get_subscription"
  | .findLink .. => "find_link"
  | .createSubscription .. => "create_subscription_with_link"
  | .insertLink .. => "insert_link"
  | .changeLink .. => "transition_link"
  | .updateDescription .. => "update_description"
  | .cancelSubscription .. => "cancel_subscription"
  | .listSubscriptions .. => "list_user_subscriptions"
  | .listArticles .. => "list_articles"
  | .listUserArticles .. => "list_user_articles"
  | .insertArticle .. => "insert_article"
  | .deleteArticle .. => "soft_delete_article"

/-- What comes between a program and its call. -/
inductive Disturbance where
  | fail (error : StoreError)
  /-- A roll-up is not refreshed, as if its session were missing; other calls are not disturbed. -/
  | missing
  /-- Another writer comes first; it is told how often it came before. -/
  | rival (act : Nat → Database → Database)

/-- A disturbance of the calls of one name. -/
structure Incident where
  name : String
  times : Nat
  disturbance : Disturbance
  /-- How often it has taken place. -/
  used : Nat := 0

namespace Incident

/-- The incident meets calls of this name, and is not used up. -/
def meets (i : Incident) (name : String) : Bool := i.name == name && i.used < i.times

/-- The incidents once a call of this name has met the first of them that it can, with that one. -/
def take? (name : String) : List Incident → Option Incident × List Incident
  | [] => (none, [])
  | i :: rest =>
    if i.meets name then (some i, { i with used := i.used + 1 } :: rest)
    else
      let (found, rest) := take? name rest
      (found, i :: rest)

end Incident

/-- The answer of a call that finds nothing, where a call can say so. -/
def Request.missing? : (r : Request) → Option r.Answer
  | .refreshRollup .. => some none
  | _ => none

/-- A database and the incidents that are still to come. -/
structure Disturbed where
  database : Database
  incidents : List Incident

namespace Disturbed

/-- Carries a call out, with the incident that it meets. -/
def perform (r : Request) (d : Disturbed) : Except StoreError r.Answer × Disturbed :=
  let (met, incidents) := Incident.take? r.name d.incidents
  let undisturbed (database : Database) : Except StoreError r.Answer × Disturbed :=
    let (answer, database) := database.perform r
    (answer, ⟨database, incidents⟩)
  match met with
  | none => undisturbed d.database
  | some incident =>
    match incident.disturbance with
    | .fail error => (.error error, ⟨d.database, incidents⟩)
    | .missing =>
      match r.missing? with
      | some answer => (.ok answer, ⟨d.database, incidents⟩)
      | none => undisturbed d.database
    | .rival act => undisturbed (act incident.used d.database)

/-- Runs a program under incidents. -/
def run {α : Type} (p : Program α) (incidents : List Incident) (database : Database) :
    α × Database :=
  let (answer, after) := p.runWith perform ⟨database, incidents⟩
  (answer, after.database)

end Disturbed

end ChatLedger.Store
