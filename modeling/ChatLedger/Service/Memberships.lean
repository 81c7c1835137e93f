import ChatLedger.Membership
import ChatLedger.Service.Operation
import ChatLedger.Settings
import ChatLedger.Validation

/-!
# Memberships

How users come to and leave subscriptions.

1. A request is looked up, decided by the membership state machine, and carried out by one write.
   What the look-up saw may have changed by then: the write then ends in a conflict, and the whole
   request is made anew.
2. Every attempt reads the clock for itself.
3. Deleting a subscription leaves its links as they are; they count no more.
-/

namespace ChatLedger.Memberships

open Store Time Operation

/-- What a subscription is called in error texts. -/
def name (id : Int) : String := "subscription " ++ toString id

/-- The subscription, deleted or not. -/
def found (id : Int) : Operation Subscription := do
  check (ensureFound (← ask (.getSubscription id)) (name id))

/-- Refuses a subscription that has been deleted. -/
def ensureOpen (s : Subscription) (id : Int) : Except ServiceError Unit :=
  if s.status = .active then .ok () else .error (.notFound (name id ++ " has been deleted"))

/-- The subscription, if it has not been deleted. -/
def opened (id : Int) : Operation Subscription := do
  let subscription ← found id
  check (ensureOpen subscription id)
  return subscription

/-! ## Transitions -/

/-- Carries out a step towards a subscription; `link` is what the look-up saw. Answers with the
status that the link has then. -/
def carryOut (user : UserId) (subscription : Int) (link : Option Link) (step : MembershipStep)
    (now : Instant) : Operation LinkStatus :=
  match step.change, link with
  | some (seen, wanted), some link => do
    if ← ask (.changeLink link.id seen wanted now) then return wanted
    else fail (.conflict ("link " ++ toString link.id ++ " changed concurrently"))
  | some _, none => fail (.conflict ("link for " ++ name subscription ++ " disappeared"))
  | none, link =>
    if step = .insertLink then do
      let _ ← ask (.insertLink user subscription now)
      return .active
    else return (link.map (·.status)).getD .active

/-- How a step answers a subscribe call. -/
def outcomeOf : MembershipStep → SubscribeOutcome
  | .insertLink => .joined
  | .activate => .reactivated
  | .deactivate | .nothing => .alreadyActive

/-- One attempt to make a user a member of the subscription on a topic. -/
def trySubscribe (user : UserId) (topic description : String) (now : Instant) :
    Operation SubscribeResult := do
  match ← ask (.findActiveByTopic topic) with
  | none =>
    let (subscription, _) ← ask (.createSubscription ⟨user, topic, description⟩ now)
    return { subscription := subscription.id, outcome := .created }
  | some subscription =>
    let link ← ask (.findLink user subscription.id)
    let step ← check (((Membership.ofStatus (link.map (·.status))).step .subscribe).mapError
      fun refusal => .conflict refusal.message)
    let _ ← carryOut user subscription.id link step now
    return { subscription := subscription.id, outcome := outcomeOf step }

/-- One attempt to cancel or reactivate a membership. -/
def tryTransition (user : UserId) (id : Int) (transition : Transition) (now : Instant) :
    Operation MembershipChange := do
  let subscription ← found id
  if transition = .reactivate then check (ensureOpen subscription id)
  let link ← ask (.findLink user id)
  let step ← check (((Membership.ofStatus (link.map (·.status))).step transition).mapError
    fun refusal =>
      .permissionDenied ("user " ++ toString user ++ " on " ++ name id ++ ": " ++ refusal.message))
  match link with
  | none =>
    fail (.permissionDenied ("user " ++ toString user ++ " is not subscribed to " ++ name id))
  | some link =>
    let current ← carryOut user id (some link) step now
    return { subscription := id, previous := link.status, current := current }

/-- Makes a user a member of the subscription on a topic, which is created if there is none. -/
def subscribe (settings : Settings) (user : UserId) (topic description : String) (clock : Clock) :
    Operation SubscribeResult := do
  let topic ← check (Validation.requiredText "topic_name" topic Limit.subscriptionTopic)
  let description := Text.trim description
  check (Validation.boundedText "description" description Limit.description)
  Operation.retry settings.subscriptions.attempts fun made =>
    trySubscribe user topic description (clock made)

/-- Cancels a membership; the link is kept. -/
def cancel (settings : Settings) (user : UserId) (id : Int) (clock : Clock) :
    Operation MembershipChange :=
  Operation.retry settings.subscriptions.attempts fun made =>
    tryTransition user id .cancel (clock made)

/-- Makes a cancelled membership active. -/
def reactivate (settings : Settings) (user : UserId) (id : Int) (clock : Clock) :
    Operation MembershipChange :=
  Operation.retry settings.subscriptions.attempts fun made =>
    tryTransition user id .reactivate (clock made)

/-! ## Subscriptions -/

/-- Gives a subscription another description, which only its creator may do. -/
def describe (user : UserId) (id : Int) (description : String) (now : Instant) :
    Operation Subscription := do
  let description := Text.trim description
  check (Validation.boundedText "description" description Limit.description)
  let subscription ← opened id
  check (ensureOwner subscription user)
  ask (.updateDescription id description now)
  return { subscription with description := description, updatedAt := now }

/-- Deletes a subscription. Deleting it again changes nothing. -/
def delete (id : Int) (now : Instant) : Operation Subscription := do
  let subscription ← found id
  let changed ← ask (.cancelSubscription id now)
  return { subscription with
    status := .cancelled
    updatedAt := if changed then now else subscription.updatedAt }

/-- A page of the effective memberships of a user. -/
def list (settings : Settings) (user : UserId) (page size : Option UInt32) :
    Operation (Page SubscriptionView) := do
  let request := settings.paging.resolve .subscriptions page size
  return .ofItems (← ask (.listSubscriptions user request)) request

end ChatLedger.Memberships
