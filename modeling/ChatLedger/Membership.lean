import ChatLedger.Subscription

/-!
# The membership state machine

Where a user stands towards a subscription, and the one write that each request needs.

1. A link is added only where there is none, so that a pair never gets a second one.
2. From then on the link changes between active and cancelled, and a request for what it already
   is needs no write.
-/

namespace ChatLedger

/-- Where a user stands towards a subscription. -/
inductive Membership where
  | noLink
  | active
  | cancelled
  deriving Repr, DecidableEq

/-- The standing that a link shows. -/
def Membership.ofStatus : Option LinkStatus → Membership
  | none => .noLink
  | some .active => .active
  | some .cancelled => .cancelled

/-- What a user asks for. -/
inductive Transition where
  | subscribe
  | cancel
  | reactivate
  deriving Repr, DecidableEq

instance : Vocabulary Transition where
  kind := "transition"
  values := [.subscribe, .cancel, .reactivate]
  word
    | .subscribe => "subscribe"
    | .cancel => "cancel"
    | .reactivate => "reactivate"

/-- The write that a request needs. -/
inductive MembershipStep where
  /-- The only link of the pair is added, active. -/
  | insertLink
  | activate
  | deactivate
  | nothing
  deriving Repr, DecidableEq

/-- A request that asks for a link where there is none. -/
structure NoMembership where
  transition : Transition
  deriving Repr, DecidableEq

/-- The text of the refusal. -/
def NoMembership.message (e : NoMembership) : String :=
  "cannot " ++ Vocabulary.word e.transition ++ " without an existing membership"

/-- The write that brings a user from a standing to what is asked for. -/
def Membership.step : Membership → Transition → Except NoMembership MembershipStep
  | .noLink, .subscribe => .ok .insertLink
  | .noLink, transition => .error ⟨transition⟩
  | .active, .cancel => .ok .deactivate
  | .active, _ => .ok .nothing
  | .cancelled, .cancel => .ok .nothing
  | .cancelled, _ => .ok .activate

/-- How a write changes the status of a link that is there. -/
def MembershipStep.change : MembershipStep → Option (LinkStatus × LinkStatus)
  | .activate => some (.cancelled, .active)
  | .deactivate => some (.active, .cancelled)
  | .insertLink | .nothing => none

end ChatLedger
