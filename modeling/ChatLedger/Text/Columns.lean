import ChatLedger.Text.Emoji

/-!
# Columns

How many columns of a terminal a line of text takes. The line is read from its end: what a character
adds depends on the character and on what stands behind it, its `Context`.

1. A character by itself takes one column, two or none.
2. Ligatures of letters and sequences that are one emoji take the columns of what is drawn.
3. A selector says how the character before it is drawn: as an emoji, in two columns, or as text, in
   one. It is passed over where it stands inside a ligature or before a joiner.
-/

namespace ChatLedger.Text

/-! ## Contexts -/

/-- Vowels of Kirat Rai, which are written as sequences of strokes. -/
inductive StrokeVowel where
  | e
  | ai
  deriving Repr, DecidableEq

/-- What a text begins with, as far as the character before it minds. -/
inductive Lead where
  | plain
  | ligature (e : LigatureEnd)
  | emoji (e : EmojiEnd)
  | vowel (v : StrokeVowel)
  /-- The selector of full-width quotation marks. -/
  | wideForm
  deriving Repr, DecidableEq

/-- What stands behind a character, with the selectors before it. -/
structure Context where
  lead : Lead
  /-- The character before is to be drawn as text. -/
  asText : Bool
  /-- The character before is to be drawn as an emoji. -/
  asEmoji : Bool
  deriving Repr, DecidableEq

namespace Lead

/-- What a text begins with when its first character is this one. -/
def ofChar (c : Char) : Lead :=
  match LigatureEnd.ofChar? c, EmojiEnd.ofChar? c with
  | some e, _ => .ligature e
  | none, some e => .emoji e
  | none, none =>
    if c.toNat = 0x16D67 then .vowel .e
    else if c.toNat = 0x16D68 then .vowel .ai
    else if c = '\ufe01' then .wideForm
    else .plain

/-- The columns that a stroke adds before a vowel, and what the text begins with then. -/
def mergeStroke? (v : StrokeVowel) (c : Char) : Option (Int × Lead) :=
  if c.toNat = 0x16D63 then some (0, .plain)
  else if v = .e then
    if c.toNat = 0x16D67 then some (0, .vowel .ai)
    else if c.toNat = 0x16D68 then some (1, .vowel .e)
    else if c.toNat = 0x16D69 then some (0, .plain)
    else none
  else none

/-- The columns that a character adds, and what the text begins with then, if the character merges
with what stands behind it. -/
def merge? (lead : Lead) (c : Char) : Option (Int × Lead) :=
  match lead with
  | .plain => none
  | .ligature e => (e.merge? c).map fun (columns, e?) => (columns, e?.elim .plain .ligature)
  | .emoji e => (e.merge? c).map fun (columns, e) => (columns, .emoji e)
  | .vowel v => mergeStroke? v c
  | .wideForm =>
    if c = '\u2018' ∨ c = '\u2019' ∨ c = '\u201c' ∨ c = '\u201d' then some (2, .plain) else none

/-- The columns that a character adds, and what the text begins with then. -/
def add (lead : Lead) (c : Char) : Int × Lead :=
  (lead.merge? c).getD (charColumns c, ofChar c)

/-- A ligature, which selectors do not break. -/
def isLigature : Lead → Bool
  | .ligature _ => true
  | _ => false

/-- An emoji with a joiner before it. -/
def isJoined : Lead → Bool
  | .emoji .joined => true
  | .emoji .joinedKeyCap => true
  | _ => false

end Lead

/-! ## Reading from the end -/

/-- Draws the character before it as an emoji. -/
def emojiSelector : Char := '\ufe0f'

/-- Draws the character before it as text. -/
def textSelector : Char := '\ufe0e'

namespace Context

/-- The end of a line. -/
def atEnd : Context := ⟨.plain, false, false⟩

/-- The context when a character has been read that the emoji selector does not apply to. -/
def withoutEmoji (k : Context) : Context :=
  if k.asEmoji then if k.lead.isLigature then { k with asEmoji := false } else atEnd else k

/-- The context before an emoji selector. -/
def selectEmoji (k : Context) : Context :=
  if k.lead.isLigature || k.lead.isJoined then { k with asEmoji := true }
  else ⟨.plain, false, true⟩

/-- The context before a text selector. -/
def selectText (k : Context) : Context :=
  if k.lead.isLigature then { k with asText := true } else ⟨.plain, true, false⟩

/-- The columns that a character adds, and the context before it. -/
def add (k : Context) (c : Char) : Int × Context :=
  if k.asEmoji && isVariable c then
    (if k.lead.isJoined then 0 else 2, ⟨.emoji .emoji, false, false⟩)
  else
    let k := k.withoutEmoji
    if c = emojiSelector then (0, k.selectEmoji)
    else if c = textSelector then (0, k.selectText)
    else if k.asText && isNarrowable c then (1, atEnd)
    else
      let (columns, lead) := k.lead.add c
      (columns, ⟨lead, false, false⟩)

/-- The columns of a line and the context before it. -/
def readLine (cs : List Char) : Int × Context :=
  cs.foldr (fun c (columns, k) => ((k.add c).1 + columns, (k.add c).2)) (0, atEnd)

@[simp] theorem readLine_nil : readLine [] = (0, atEnd) := rfl

theorem readLine_cons (c : Char) (cs : List Char) :
    readLine (c :: cs) =
      (((readLine cs).2.add c).1 + (readLine cs).1, ((readLine cs).2.add c).2) := rfl

end Context

/-- The columns of a line of text. -/
def columns (line : String) : Nat := (Context.readLine line.toList).1.toNat

/-! ## Fitting a text -/

/-- The text with blanks behind it, up to a number of columns. -/
def padTo (width : Nat) (text : String) : String :=
  text ++ String.ofList (List.replicate (width - columns text) ' ')

/-- The text, or so many of its first characters that it ends in three dots and has `max`
characters. -/
def truncate (text : String) (max : Nat) : String :=
  if text.toList.length ≤ max then text
  else String.ofList (text.toList.take (max - 3) ++ ['.', '.', '.'])

end ChatLedger.Text
