import ChatLedger.Decimal.Layout
import ChatLedger.Error
import ChatLedger.Text.Blank

/-!
# Validation

What callers say is checked before the store is asked for anything.

1. `requiredText` trims a text and refuses what is empty or too long.
2. `boundedText` refuses what is too long; length is counted in characters.
3. `cost` and `inRange` refuse numbers that are not finite or out of bounds.
-/

namespace ChatLedger

/-! ## Limits -/

namespace Limit

/-- Characters of the topic of a session. -/
def sessionTopic : Nat := 200
/-- Characters of the model of a session. -/
def sessionModel : Nat := 50
/-- Characters of the error text of a message. -/
def errorText : Nat := 2000
/-- Characters of the topic of a subscription. -/
def subscriptionTopic : Nat := 100
/-- Characters of the description of a subscription. -/
def description : Nat := 1000
/-- Characters of the title of an article. -/
def articleTitle : Nat := 255
/-- Characters of the summary of an article. -/
def articleSummary : Nat := 1000
/-- Characters of the content of an article. -/
def articleContent : Nat := 10000
/-- Characters of the author of an article. -/
def articleAuthor : Nat := 100
/-- Characters of the address of an article. -/
def articleUrl : Nat := 500
/-- Characters of the key points of an article. -/
def articleKeyPoints : Nat := 2000
/-- Characters of the name of a journal. -/
def articleJournal : Nat := 200
/-- The best rating of an article. -/
def articleRating : Float := 10.0
/-- Characters of a search keyword. -/
def keyword : Nat := 200

end Limit

/-! ## Checks -/

namespace Validation

/-- A refusal, unless the condition holds. -/
def require (condition : Bool) (reason : String) : Except ServiceError Unit :=
  if condition then .ok () else .error (.validationFailed reason)

/-- Refuses a text of more than `max` characters. -/
def boundedText (field value : String) (max : Nat) : Except ServiceError Unit :=
  require (value.length ≤ max)
    (field ++ " is " ++ toString value.length ++ " characters, limit is " ++ toString max)

/-- The text without the blanks at its ends, unless nothing or more than `max` characters are
left. -/
def requiredText (field value : String) (max : Nat) : Except ServiceError String := do
  let trimmed := Text.trim value
  require (!trimmed.isEmpty) (field ++ " must not be empty")
  boundedText field trimmed max
  return trimmed

/-- Refuses what is no amount of money. -/
def cost (field : String) (value : Float) : Except ServiceError Unit :=
  require (value.isFinite && !(value < 0.0))
    (field ++ " must be a finite non-negative number, got " ++ Decimal.Layout.plain.render value)

/-- Refuses a number outside the bounds. -/
def inRange (field : String) (value min max : Float) : Except ServiceError Unit :=
  let text := Decimal.Layout.plain.render
  require (value.isFinite && !(value < min) && !(max < value))
    (field ++ " must be between " ++ text min ++ " and " ++ text max ++ ", got " ++ text value)

/-- The search keyword without the blanks at its ends. -/
def keyword (value : String) : Except ServiceError String :=
  requiredText "keyword" value Limit.keyword

end Validation

end ChatLedger
