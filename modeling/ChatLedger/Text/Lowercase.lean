import ChatLedger.Text.Blank
import ChatLedger.Text.LetterCase

/-!
# Lower-casing

Full lower-casing of a text:

1. every letter follows `lowerRuns`;
2. a capital `I` with a dot becomes two characters, the plain letter and a combining dot;
3. a capital sigma that ends a word becomes the final form, any other the ordinary form. It ends
   a word when, ignorable characters aside, a cased letter stands before it and none behind it.
-/

namespace ChatLedger.Text

/-- The character is looked through when the neighbours of a letter are examined. -/
def isCaseIgnorable (c : Char) : Bool := inRanges caseIgnorableRanges c.toNat

/-- The character is a letter with case, and not ignorable. -/
def isCased (c : Char) : Bool := inRanges casedRanges c.toNat

/-- The first character that is not ignorable is a cased letter. -/
def startsCased (cs : List Char) : Bool :=
  match cs.dropWhile isCaseIgnorable with
  | [] => false
  | c :: _ => isCased c

/-- Where `n` moves under the runs, if one covers it. -/
def shiftedBy (runs : List (Nat × Nat × Nat × Int)) (n : Nat) : Nat :=
  let covers : Nat × Nat × Nat × Int → Bool := fun (first, last, step, _) =>
    first ≤ n && n ≤ last && (n - first) % step == 0
  match runs.find? covers with
  | some (_, _, _, shift) => ((n : Int) + shift).toNat
  | none => n

/-- The lower-case form of one character that does not depend on its neighbours. -/
def lowerChar (c : Char) : List Char :=
  if c.toNat < 0x80 then [c.toLower]
  else if c.toNat = 0x130 then ['i', Char.ofNat 0x307]
  else [Char.ofNat (shiftedBy lowerRuns c.toNat)]

/-- Lower-casing of the characters behind those in `before`, which stands in reverse. -/
def lowerFrom (before : List Char) : List Char → List Char
  | [] => []
  | c :: rest =>
    let lowered :=
      if c = 'Σ' then
        if startsCased before && !startsCased rest then ['ς'] else ['σ']
      else lowerChar c
    lowered ++ lowerFrom (c :: before) rest

/-- The text in lower case. -/
def lowercase (text : String) : String := String.ofList (lowerFrom [] text.toList)

end ChatLedger.Text
