import ChatLedger.Json.Wire
import ChatLedger.Text.Lowercase

/-!
# Vocabularies

Small closed sets of words, such as the states a record can be in.

1. `Vocabulary.parse` reads a word in any case; what it refuses it shows in lower case.
2. In documents a word stands exactly as written, or as the only name of a record whose value is
   null.
-/

namespace ChatLedger

/-- A type whose values are the words of a closed set. -/
class Vocabulary (α : Type) where
  /-- What one of the words is, as error texts name it. -/
  kind : String
  values : List α
  word : α → String

namespace Vocabulary

variable {α : Type} [Vocabulary α]

/-- The value with exactly this word. -/
def ofWord? (word : String) : Option α :=
  (values (α := α)).find? fun value => Vocabulary.word value == word

/-- The value with this word in any case, or the text of the refusal. -/
def parse (text : String) : Except String α :=
  let lowered := Text.lowercase text
  match ofWord? lowered with
  | some value => .ok value
  | none => .error ("invalid " ++ kind α ++ ": '" ++ lowered ++ "'")

instance : Wire α where
  encode value := .text (word value)
  decode
    | .text s => ofWord? s
    | .record [(name, .null)] => ofWord? name
    | _ => none

end Vocabulary

/-- Whether a message or an article is shown or has been deleted. Nothing is ever removed. -/
inductive RecordState where
  | live
  | deleted
  deriving Repr, DecidableEq, Inhabited

instance : Vocabulary RecordState where
  kind := "record state"
  values := [.live, .deleted]
  word
    | .live => "live"
    | .deleted => "deleted"

end ChatLedger
