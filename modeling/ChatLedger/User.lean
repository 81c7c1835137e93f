import ChatLedger.Decimal.Reading
import ChatLedger.Json.Wire

/-!
# Users

Users are known by a number only; whoever calls has made sure of it.
-/

namespace ChatLedger

/-- The number of a user. -/
structure UserId where
  number : Int
  deriving Repr, DecidableEq, Inhabited

namespace UserId

/-- The user that a text names, blanks around the number aside. -/
def parse (text : String) : Except Decimal.IntegerFault UserId :=
  (Decimal.parseSigned Bounds.lowest Bounds.highest (Text.trim text)).map UserId.mk

instance : ToString UserId := ⟨fun user => toString user.number⟩

instance : Wire UserId where
  encode user := Wire.encode user.number
  decode v := (Wire.decode v).map UserId.mk

end UserId

end ChatLedger
