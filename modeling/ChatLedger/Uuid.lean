/-!
# Identifiers

Identifiers of 128 bits, as 32 hexadecimal digits.

1. `Uuid.text` writes the digits in groups of 8, 4, 4, 4 and 12, joined by hyphens, in lower case.
2. `Uuid.parse` also accepts capital digits, the digits without hyphens, braces around the groups,
   and a leading `urn:uuid:` of either case. It says why it refuses a text.
-/

namespace ChatLedger

/-- An identifier of 128 bits. -/
structure Uuid where
  digits : List (Fin 16)
  length_eq : digits.length = 32
  deriving DecidableEq

namespace Uuid

/-- The identifier with these 32 digits, if there are so many. -/
def ofDigits? (digits : List (Fin 16)) : Option Uuid :=
  if h : digits.length = 32 then some ⟨digits, h⟩ else none

/-- The lowest 128 bits of a number as an identifier. -/
def ofNat (n : Nat) : Uuid :=
  ⟨(List.range 32).map fun i => Fin.ofNat 16 (n / Nat.pow 16 (31 - i)), by simp⟩

/-- An identifier that begins with a time in milliseconds, so that later ones are greater, and
holds 74 bits of `random` beside the marks of its version and variant. -/
def ofTime (millis random : Nat) : Uuid :=
  let long := random % 0x4000000000000000
  let short := random / 0x4000000000000000 % 0x1000
  ofNat (((millis % 0x1000000000000 * 0x10000 + 0x7000 + short) * 0x10000000000000000) +
    0x8000000000000000 + long)

/-! ## The text form -/

/-- The character of a hexadecimal digit, in lower case. -/
def hexChar (d : Fin 16) : Char :=
  if d.val < 10 then Char.ofNat ('0'.toNat + d.val) else Char.ofNat ('a'.toNat + (d.val - 10))

/-- The digits from `start` on, `count` of them. -/
def group (digits : List (Fin 16)) (start count : Nat) : List Char :=
  ((digits.drop start).take count).map hexChar

/-- The five groups joined by hyphens. -/
def chars (id : Uuid) : List Char :=
  group id.digits 0 8 ++ '-' :: group id.digits 8 4 ++ '-' :: group id.digits 12 4 ++
    '-' :: group id.digits 16 4 ++ '-' :: group id.digits 20 12

/-- The text of an identifier. -/
def text (id : Uuid) : String := String.ofList id.chars

instance : ToString Uuid := ⟨text⟩
instance : Repr Uuid := ⟨fun id _ => id.text⟩

/-! ## Reading -/

/-- Why a text is no identifier. -/
inductive Fault where
  | character (c : Char) (position : Nat)
  | length (bytes : Nat)
  | groupCount (count : Nat)
  | groupLength (group size : Nat)
  deriving Repr, DecidableEq

/-- The number of digits of a group. -/
def groupSize (index : Nat) : Nat := if index = 0 then 8 else if index = 4 then 12 else 4

/-- The text of the fault. -/
def Fault.message : Fault → String
  | .character c position =>
    "invalid character: found `" ++ String.singleton c ++ "` at " ++ toString position
  | .length bytes => "invalid length: found " ++ toString bytes
  | .groupCount count => "invalid group count: expected 5, found " ++ toString count
  | .groupLength index size =>
    "invalid group length in group " ++ toString index ++ ": expected " ++
      toString (groupSize index) ++ ", found " ++ toString size

/-- The value of a hexadecimal digit of either case. -/
def hexValue? (c : Char) : Option (Fin 16) :=
  let n := c.toNat
  if '0'.toNat ≤ n ∧ n ≤ '9'.toNat then some (Fin.ofNat 16 (n - '0'.toNat))
  else if 'a'.toNat ≤ n ∧ n ≤ 'f'.toNat then some (Fin.ofNat 16 (n - 'a'.toNat + 10))
  else if 'A'.toNat ≤ n ∧ n ≤ 'F'.toNat then some (Fin.ofNat 16 (n - 'A'.toNat + 10))
  else none

/-- The digits of a text that holds nothing else. -/
def hexDigits? (cs : List Char) : Option (List (Fin 16)) := cs.mapM hexValue?

/-- Five groups of the right lengths, joined by hyphens. -/
def ofGroups? (cs : List Char) : Option Uuid := do
  if cs.length ≠ 36 then none
  if [8, 13, 18, 23].any fun i => cs[i]? != some '-' then none
  let digits ← hexDigits?
    (cs.take 8 ++ (cs.drop 9).take 4 ++ (cs.drop 14).take 4 ++ (cs.drop 19).take 4 ++ cs.drop 24)
  ofDigits? digits

/-- The mark of the longest text form, in lower case. -/
def urnMark : List Char := ['u', 'r', 'n', ':', 'u', 'u', 'i', 'd', ':']

/-- The text inside its braces or behind its mark, if it has them. -/
def unwrap? (cs : List Char) : Option (List Char) :=
  match cs, cs.getLast? with
  | '{' :: rest, some '}' => some rest.dropLast
  | _, _ =>
    if urnMark.isPrefixOf (cs.map Char.toLower) then some (cs.drop urnMark.length) else none

/-- The identifier that the text names, if any. -/
def parse? (source : String) : Option Uuid :=
  let cs := source.toList
  if cs.length = 32 then (hexDigits? cs).bind ofDigits?
  else ofGroups? ((unwrap? cs).getD cs)

/-- The places of the hyphens of a text, counted in characters. -/
def hyphens (cs : List Char) : List Nat := (List.range cs.length).filter fun i => cs[i]? == some '-'

/-- What is wrong with a text that names no identifier: a character that belongs to none, a length
that only digits without hyphens could mend, or the first group of a wrong length. -/
def faultOf (source : String) : Fault :=
  let inner? := unwrap? source.toList
  let cs := inner?.getD source.toList
  let isForeign (c : Char) : Bool := c != '-' && (hexValue? c).isNone
  match (List.range cs.length).find? fun i => cs[i]?.any isForeign with
  | some i => .character (cs[i]?.getD ' ') i
  | none =>
    let marks := hyphens cs
    if inner? = none ∧ marks = [] ∧ cs.length ≠ 36 then .length cs.length
    else if marks.length ≠ 4 then .groupCount (marks.length + 1)
    else
      let starts := [0, 9, 14, 19, 24]
      match (List.range 4).find? fun i => (marks[i]?.getD 0) + 1 ≠ (starts[i + 1]?.getD 0) with
      | some i => .groupLength i ((marks[i]?.getD 0) - (starts[i]?.getD 0))
      | none => .groupLength 4 (source.utf8ByteSize - 24)

/-- The identifier that the text names, or what is wrong with it. -/
def parse (source : String) : Except Fault Uuid :=
  match parse? source with
  | some id => .ok id
  | none => .error (faultOf source)

end Uuid

end ChatLedger
