import ChatLedger.Text.EmojiRanges
import ChatLedger.Text.Ligature

/-!
# Emoji sequences

Characters that are drawn together as one emoji of two columns. A text is read from its end, so an
`EmojiEnd` says with what the text behind a character begins, and `EmojiEnd.merge?` what the
character then adds to its columns.

1. A skin tone belongs to the emoji before it.
2. Flag letters take one column each and pair up from the start of their run. Of those before a
   joiner a last pair is part of the joined emoji; a letter left over is not.
3. A joiner makes one emoji of those around it. What stands before it is an emoji, a key cap, a flag
   of two letters, a skin tone, or a flag with tags.
-/

namespace ChatLedger.Text

/-- The character is drawn as an emoji by itself. -/
def isEmoji (c : Char) : Bool := inRanges emojiRanges c.toNat

/-- A selector behind the character can turn it into an emoji or into text. -/
def isVariable (c : Char) : Bool := inRanges variableRanges c.toNat

/-- The character is an emoji of two columns that a selector can turn into text of one: squared
ideographs keep their two. -/
def isNarrowable (c : Char) : Bool :=
  isEmoji c && isVariable c && !inRanges [(0x1F200, 0x1F2FF)] c.toNat

/-- The character is an emoji whose skin tone can be chosen. -/
def isToned (c : Char) : Bool := inRanges tonedRanges c.toNat

/-- The character gives the emoji before it a skin tone. -/
def isTone (c : Char) : Bool := inRanges [(0x1F3FB, 0x1F3FF)] c.toNat

/-- Two such letters are the flag of a region. -/
def isFlagLetter (c : Char) : Bool := inRanges [(0x1F1E6, 0x1F1FF)] c.toNat

/-- Frames the character before it as the cap of a key. -/
def keyCap : Char := '\u20e3'

/-- A flag that tags behind it say the region of. -/
def isTaggedFlag (c : Char) : Bool := c.toNat = 0x1F3F4

/-- A letter of a tag. -/
def isTagLetter (c : Char) : Bool := inRanges [(0xE0061, 0xE007A)] c.toNat

/-- A digit of a tag. -/
def isTagDigit (c : Char) : Bool := inRanges [(0xE0030, 0xE0039)] c.toNat

/-- Ends the tags of a flag. -/
def isTagEnd (c : Char) : Bool := c.toNat = 0xE007F

/-- What a text begins with, when a character before it can belong to the same emoji. -/
inductive EmojiEnd where
  | emoji
  | tone
  /-- So many flag letters. -/
  | flagLetters (count : Nat)
  /-- A joiner and an emoji. -/
  | joined
  /-- A key cap before a joiner and an emoji. -/
  | joinedKeyCap
  /-- So many flag letters before a joiner and an emoji. -/
  | joinedFlagLetters (count : Nat)
  /-- So many digits and letters and the end of tags before a joiner and an emoji. -/
  | joinedTags (digits letters : Nat)
  deriving Repr, DecidableEq

namespace EmojiEnd

/-- What a text begins with when its first character is this one. -/
def ofChar? (c : Char) : Option EmojiEnd :=
  if isFlagLetter c then some (.flagLetters 1)
  else if isTone c then some .tone
  else if isEmoji c then some .emoji
  else none

/-- A joiner can join this to what stands before. -/
def isJoinable : EmojiEnd → Bool
  | .emoji => true
  | .tone => true
  | .flagLetters count => 2 ≤ count
  | .joinedFlagLetters count => 2 ≤ count
  | _ => false

/-- The columns that a character adds before a joiner and an emoji, and what the text begins with
then, if the character can be joined. -/
def joinTo? (c : Char) : Option (Int × EmojiEnd) :=
  if c = keyCap then some (0, .joinedKeyCap)
  else if isFlagLetter c then some (1, .joinedFlagLetters 1)
  else if isTone c then some (0, .tone)
  else if isTagEnd c then some (0, .joinedTags 0 0)
  else if isEmoji c then some (0, .emoji)
  else none

/-- What the tags begin with when one more stands before them: up to six letters, behind up to
three digits. -/
def addTag? (digits letters : Nat) (c : Char) : Option EmojiEnd :=
  if isTagLetter c && digits == 0 && letters < 6 then some (.joinedTags 0 (letters + 1))
  else if isTagDigit c && (if digits = 0 then letters ≤ 4 else digits < 3) then
    some (.joinedTags (digits + 1) letters)
  else if isTaggedFlag c && (digits == 3 || (digits == 0 && 3 ≤ letters)) then some .emoji
  else none

/-- The columns that a character adds before the end of an emoji, and what the text begins with
then, if the character belongs to the emoji. -/
def merge? (e : EmojiEnd) (c : Char) : Option (Int × EmojiEnd) :=
  if c = joiner then if e.isJoinable then some (0, .joined) else none
  else
    match e with
    | .tone => if isToned c then some (0, .emoji) else none
    | .flagLetters count => if isFlagLetter c then some (1, .flagLetters (count + 1)) else none
    | .joined => joinTo? c
    | .joinedFlagLetters count =>
      if !isFlagLetter c then none
      else if count % 2 = 1 then some (-1, .joinedFlagLetters (count + 1))
      else some (3, .joinedFlagLetters (count + 1))
    | .joinedTags digits letters => (addTag? digits letters c).map (0, ·)
    | .emoji | .joinedKeyCap => none

end EmojiEnd

end ChatLedger.Text
