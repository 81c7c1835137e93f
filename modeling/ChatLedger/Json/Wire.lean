import ChatLedger.Bounds
import ChatLedger.Json.Value
import ChatLedger.Time.Reading
import ChatLedger.Time.Text
import ChatLedger.Uuid

/-!
# Values in documents

`Wire α` says how a value of `α` is written to a document and read from one.

1. Integers are read from integers within the range of their type, numbers also from integers,
   optional values from `null`.
2. A record is read from its members by name, in any order, others ignored; or from a list of all
   its fields in order. A name that is known and repeated is refused.
3. What a missing field means is said where it is read: `Slot.required`, `Slot.optional` and
   `Slot.withDefault`.
-/

namespace ChatLedger

open Time

/-- A type whose values can be written to a document and read from one. -/
class Wire (α : Type) where
  encode : α → Json
  decode : Json → Option α

namespace Wire

/-- A whole number within the bounds. -/
def integerWithin (low high : Int) : Json → Option Int
  | .integer n => if low ≤ n ∧ n ≤ high then some n else none
  | _ => none

instance : Wire Bool where
  encode b := .bool b
  decode
    | .bool b => some b
    | _ => none

instance : Wire String where
  encode s := .text s
  decode
    | .text s => some s
    | _ => none

instance : Wire UInt32 where
  encode n := .integer n.toNat
  decode v := (integerWithin 0 Bounds.count32 v).map fun n => UInt32.ofNat n.toNat

instance : Wire UInt64 where
  encode n := .integer n.toNat
  decode v := (integerWithin 0 Bounds.count64 v).map fun n => UInt64.ofNat n.toNat

/-- Whole numbers of 64 bits with a sign. -/
instance : Wire Int where
  encode n := .integer n
  decode v := integerWithin Bounds.lowest Bounds.highest v

/-- A whole number of 64 bits as a binary64 number. -/
def numberOfInteger (n : Int) : Float :=
  if n < 0 then -(n.natAbs.toUInt64.toFloat) else n.toNat.toUInt64.toFloat

instance : Wire Float where
  encode x := if x.isFinite then .number x else .null
  decode
    | .number x => some x
    | .integer n => some (numberOfInteger n)
    | _ => none

instance : Wire Uuid where
  encode id := .text id.text
  decode
    | .text s => Uuid.parse? s
    | _ => none

instance : Wire Instant where
  encode t := .text t.wireText
  decode
    | .text s => readWire? s
    | _ => none

instance {α : Type} [Wire α] : Wire (Option α) where
  encode
    | some a => encode a
    | none => .null
  decode
    | .null => some none
    | v => (decode v).map some

instance {α : Type} [Wire α] : Wire (List α) where
  encode items := .list (items.map encode)
  decode
    | .list items => items.mapM decode
    | _ => none

instance {α β : Type} [Wire α] [Wire β] : Wire (α × β) where
  encode pair := .list [encode pair.1, encode pair.2]
  decode
    | .list [a, b] => do return (← decode a, ← decode b)
    | _ => none

end Wire

/-! ## Records -/

/-- What a document holds for one field of a record. -/
inductive Slot where
  | given (value : Json)
  /-- The record has no member of that name. -/
  | absent
  /-- The list of fields ends before this one. -/
  | cutOff

namespace Slot

/-- A field that has to be there. -/
def required {α : Type} [Wire α] : Slot → Option α
  | .given v => Wire.decode v
  | .absent | .cutOff => none

/-- A field that may be missing from a record, though not from a list. -/
def optional {α : Type} [Wire α] : Slot → Option (Option α)
  | .given v => Wire.decode v
  | .absent => some none
  | .cutOff => none

/-- A field that may be missing, and then has the given value. -/
def withDefault {α : Type} [Wire α] (default : α) : Slot → Option α
  | .given v => Wire.decode v
  | .absent | .cutOff => some default

end Slot

/-- The field of a record, unless it is repeated. -/
def Json.slot? (members : List (String × Json)) (name : String) : Option Slot :=
  match Json.valuesOf members name with
  | [] => some .absent
  | [value] => some (.given value)
  | _ => none

/-- The fields of the given names, in their order. -/
def Json.slots? (names : List String) : Json → Option (List Slot)
  | .record members => names.mapM (Json.slot? members)
  | .list items =>
    if items.length ≤ names.length then
      some (items.map .given ++ List.replicate (names.length - items.length) .cutOff)
    else none
  | _ => none

end ChatLedger
