/-!
# Documents

JSON documents once their numbers are read. A record keeps its members in order, repeated names
included, since what a repeated name means is for the reader of the record to decide.
-/

namespace ChatLedger

/-- A JSON document. -/
inductive Json where
  | null
  | bool (b : Bool)
  /-- A number without point and exponent, from `-2 ^ 63` to `2 ^ 64 - 1`; minus zero is none. -/
  | integer (n : Int)
  | number (x : Float)
  | text (s : String)
  | list (items : List Json)
  | record (members : List (String × Json))
  /-- A well-formed text without a value: a number out of range, or a string with half of a
  character. It does no harm where it is ignored. -/
  | unreadable
  deriving Repr, BEq, Inhabited

namespace Json

mutual

/-- How deeply lists and records are nested. -/
def depth : Json → Nat
  | .list items => itemsDepth items + 1
  | .record members => membersDepth members + 1
  | _ => 0

/-- The greatest depth among items. -/
def itemsDepth : List Json → Nat
  | [] => 0
  | item :: rest => max item.depth (itemsDepth rest)

/-- The greatest depth among members. -/
def membersDepth : List (String × Json) → Nat
  | [] => 0
  | (_, value) :: rest => max value.depth (membersDepth rest)

end

mutual

/-- Every part of the document has a value. -/
def isReadable : Json → Bool
  | .list items => itemsReadable items
  | .record members => membersReadable members
  | .unreadable => false
  | _ => true

/-- Every item has a value. -/
def itemsReadable : List Json → Bool
  | [] => true
  | item :: rest => item.isReadable && itemsReadable rest

/-- Every member has a value. -/
def membersReadable : List (String × Json) → Bool
  | [] => true
  | (_, value) :: rest => value.isReadable && membersReadable rest

end

mutual

/-- The document with the members of each record in the order of their names. -/
def sorted : Json → Json
  | .list items => .list (sortedItems items)
  | .record members => .record ((sortedMembers members).mergeSort fun a b => a.1 ≤ b.1)
  | value => value

/-- Each item with its members in order. -/
def sortedItems : List Json → List Json
  | [] => []
  | item :: rest => item.sorted :: sortedItems rest

/-- Each member's value with its own members in order. -/
def sortedMembers : List (String × Json) → List (String × Json)
  | [] => []
  | (name, value) :: rest => (name, value.sorted) :: sortedMembers rest

end

/-- The members of a record with the given name. -/
def valuesOf (members : List (String × Json)) (name : String) : List Json :=
  (members.filter fun member => member.1 == name).map (·.2)

end Json

end ChatLedger
