import ChatLedger.Text.Blank
import ChatLedger.Text.ColumnRanges

/-!
# Ligatures

Letters that are drawn as one with the letters behind them, by script. A text is read from its end,
so a `LigatureEnd` says with what the text behind a character begins, and `LigatureEnd.merge?` what
the character then adds to its columns.

1. Arabic: a lam before an alef takes no column, whatever joining marks stand between.
2. Hebrew, Buginese, Old Turkic: certain letters merge around a joiner.
3. Tifinagh: two consonants merge around a joiner, or around the consonant joiner of the script.
4. Khmer: a letter written as a subscript, and the sign before it that says so, take no column.
5. Lisu: the first of two tone marks takes no column.
-/

namespace ChatLedger.Text

/-! ## Single characters -/

/-- The columns of a character by itself. One Khmer sign is drawn as three letters. -/
def charColumns (c : Char) : Nat :=
  let n := c.toNat
  if n < 0xA1 then 1
  else if n = 0x17D8 then 3
  else if inRanges zeroWidthRanges n then 0
  else if inRanges wideRanges n then 2
  else 1

/-- Joins the characters around it. -/
def joiner : Char := '\u200d'

/-- Marks that show nothing, which a ligature passes over. -/
def isPassedOver (c : Char) : Bool :=
  inRanges [(0x34F, 0x34F), (0x17B4, 0x17B5), (0x180B, 0x180D), (0x180F, 0x180F),
    (0xFE00, 0xFE0F), (0xE0100, 0xE01EF)] c.toNat

/-- Marks over and under Arabic letters, which leave them joined. -/
def isArabicMark (c : Char) : Bool := charColumns c == 0 && !inRanges nonJoiningRanges c.toNat

/-- The letter lam and its variants. -/
def isLam (c : Char) : Bool :=
  inRanges [(0x644, 0x644), (0x6B5, 0x6B8), (0x76A, 0x76A), (0x8A6, 0x8A6), (0x8C7, 0x8C7)] c.toNat

/-- The letter alef and its variants. -/
def isAlef (c : Char) : Bool :=
  inRanges [(0x622, 0x623), (0x625, 0x625), (0x627, 0x627), (0x671, 0x673), (0x675, 0x675),
    (0x773, 0x774), (0x870, 0x882)] c.toNat

/-- Consonants of Tifinagh. -/
def isTifinaghConsonant (c : Char) : Bool := inRanges [(0x2D31, 0x2D65), (0x2D6F, 0x2D6F)] c.toNat

/-- Joins two consonants of Tifinagh. -/
def tifinaghJoiner : Char := '\u2d7f'

/-- Khmer letters that have a subscript form. -/
def isKhmerLetter (c : Char) : Bool :=
  inRanges [(0x1780, 0x1782), (0x1784, 0x1787), (0x1789, 0x178C), (0x178E, 0x1793),
    (0x1795, 0x1798), (0x179B, 0x179D), (0x17A0, 0x17A0), (0x17A2, 0x17A2), (0x17A7, 0x17A7),
    (0x17AB, 0x17AC), (0x17AF, 0x17AF)] c.toNat

/-- Writes the Khmer letter behind it as a subscript. -/
def khmerSubscript : Char := '\u17d2'

/-! ## Pairs -/

/-- Letters that merge with a letter before a joiner. -/
inductive JoinedLetter where
  | lamed
  | ya
  | tifinagh
  | orkhonI
  deriving Repr, DecidableEq

/-- What a text begins with, when a character before it can merge with that. -/
inductive LigatureEnd where
  | alef
  /-- The letter, and whether a joiner stands before it. -/
  | letter (kind : JoinedLetter) (joined : Bool)
  /-- The Buginese vowel i, a joiner and the letter ya. -/
  | vowelAndYa
  /-- The consonant joiner of Tifinagh and a consonant. -/
  | joinedConsonant
  | khmerLetter
  | lisuTone
  deriving Repr, DecidableEq

namespace LigatureEnd

/-- What a text begins with when its first character is this one. -/
def ofChar? (c : Char) : Option LigatureEnd :=
  if isAlef c then some .alef
  else if c = '\u05dc' then some (.letter .lamed false)
  else if c = '\u1a10' then some (.letter .ya false)
  else if isTifinaghConsonant c then some (.letter .tifinagh false)
  else if c.toNat = 0x10C03 then some (.letter .orkhonI false)
  else if isKhmerLetter c then some .khmerLetter
  else if c = '\ua4fc' ∨ c = '\ua4fd' then some .lisuTone
  else none

/-- What the text begins with when a joiner is put before it. -/
def join : LigatureEnd → LigatureEnd
  | .letter kind _ => .letter kind true
  | e => e

/-- The columns that a character other than a mark adds to what it merges with, and what the text
begins with then. -/
def pair? : LigatureEnd → Char → Option (Int × Option LigatureEnd)
  | .alef, c => if isLam c then some (0, none) else none
  | .letter .lamed true, c => if c = '\u05d0' then some (0, none) else none
  | .letter .ya true, c => if c = '\u1a17' then some (0, some .vowelAndYa) else none
  | .vowelAndYa, c => if c = '\u1a15' then some (0, none) else none
  | .letter .tifinagh joined, c =>
    if c = tifinaghJoiner then some (1, some .joinedConsonant)
    else if joined && isTifinaghConsonant c then some (0, none)
    else none
  | .joinedConsonant, c => if isTifinaghConsonant c then some (-1, none) else none
  | .letter .orkhonI true, c => if c.toNat = 0x10C32 then some (0, none) else none
  | .khmerLetter, c => if c = khmerSubscript then some (-1, none) else none
  | .lisuTone, c => if inRanges [(0xA4F8, 0xA4FB)] c.toNat then some (0, none) else none
  | .letter _ false, _ => none

/-- The columns that a character adds before the end of a ligature, and what the text begins with
then, if the character belongs to the ligature. -/
def merge? (e : LigatureEnd) (c : Char) : Option (Int × Option LigatureEnd) :=
  if e = .alef then
    (e.pair? c).or (if isArabicMark c then some (0, some .alef) else none)
  else if c = joiner then some (0, some e.join)
  else if isPassedOver c then some (0, some e)
  else e.pair? c

end LigatureEnd

end ChatLedger.Text
