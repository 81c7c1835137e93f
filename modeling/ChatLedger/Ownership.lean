import ChatLedger.Error
import ChatLedger.Session
import ChatLedger.Subscription

/-!
# Ownership

Some records have one user who alone may change them. Whether a record exists is settled first,
then whose it is.
-/

namespace ChatLedger

/-- A record with a single owner. -/
class Owned (α : Type) where
  owner : α → UserId
  /-- What the record is called in error texts. -/
  describe : α → String

instance : Owned Session where
  owner session := session.owner
  describe session := "session " ++ session.id.text

instance : Owned Subscription where
  owner subscription := subscription.creator
  describe subscription := "subscription " ++ toString subscription.id

/-- Refuses every user but the owner. -/
def ensureOwner {α : Type} [Owned α] (record : α) (user : UserId) : Except ServiceError Unit :=
  if Owned.owner record = user then .ok ()
  else
    .error (.permissionDenied
      ("user " ++ toString user ++ " does not own " ++ Owned.describe record))

/-- What was found, or the error that there is no such thing. -/
def ensureFound {α : Type} (found : Option α) (what : String) : Except ServiceError α :=
  match found with
  | some a => .ok a
  | none => .error (.notFound what)

end ChatLedger
