import HiddenEquation.Text.Emoji
import HiddenEquation.Text.Invisible
import HiddenEquation.Text.Wide

/-!
# Width of texts on a screen

A text is as wide as its characters together, in columns. Most characters take one column, wide ones
two and invisible ones none. Some characters are drawn together with those after them: a picture
joined to another or in a skin tone, a picture whose style is asked for, a Khmer consonant below
another. So the width of a character depends on what follows it, and a text is measured from its
end. The classes of characters are those of Unicode 15.1.

## Main definitions

* `columns` : the columns of a character that stands alone.
* `Follower` : what follows a character, as far as its width depends on it.
* `advance` : the columns that one more character adds in front of a follower.
* `measure`, `width` : the columns of a text.
-/

namespace HiddenEquation.Text

/-- The columns of a character that stands alone. Control characters take one each. -/
def columns (c : Char) : Nat :=
  if c.toNat ≤ 0xA0 then 1
  else if c = '\u17D8' then 3
  else if c = '\u115F' ∨ c = '\u17A4' then 2
  else if c = '\u2D7F' then 1
  else if isInvisible c then 0
  else if isWide c then 2
  else 1

/-- The character that joins two pictures. -/
def joiner : Char := '\u200D'

/-- The character that asks for the text style of the character before it. -/
def textSelector : Char := '\uFE0E'

/-- The character that asks for the emoji style of the character before it. -/
def emojiSelector : Char := '\uFE0F'

/-- The key cap that is drawn around the character before it. -/
def keycap : Char := '\u20E3'

/-- The Khmer sign that puts the consonant after it below the one before it. -/
def khmerStacker : Char := '\u17D2'

/-- The Khmer letters that can be put below a consonant. -/
def khmerStackedRanges : List (Nat × Nat) :=
  [(0x1780, 0x1782), (0x1784, 0x1787), (0x1789, 0x178C), (0x178E, 0x1793), (0x1795, 0x1798),
    (0x179B, 0x179D), (0x17A0, 0x17A0), (0x17A2, 0x17A2), (0x17A7, 0x17A7), (0x17AB, 0x17AC),
    (0x17AF, 0x17AF)]

/-- Whether a character is one of the letters of which two make a flag. -/
def isRegionalLetter (c : Char) : Bool := inRanges [(0x1F1E6, 0x1F1FF)] c

/-- The tag at the end of the name of a region. -/
def tagEnd : Char := Char.ofNat 0xE007F

/-- What follows a character, as far as its width depends on it. -/
inductive Follower where
  | other
  /-- A selector of the text style. -/
  | textRequest
  /-- A selector of the emoji style. -/
  | emojiRequest
  | skinTone
  | emoji
  /-- A joiner before an emoji, and perhaps a selector of the emoji style before the joiner. -/
  | joined (selected : Bool)
  /-- A key cap and a joiner before an emoji, and perhaps such a selector before the key cap. -/
  | joinedKeycap (selected : Bool)
  /-- The end of the name of a region, spelt with tags, before a joiner and an emoji. -/
  | joinedTags (letters digits : Nat)
  /-- Regional letters before a joiner and an emoji, and whether each of them has its pair. -/
  | joinedFlags (paired : Bool)
  /-- A Khmer letter that can be put below a consonant. -/
  | khmerLetter
  deriving DecidableEq, Repr

namespace Follower

/-- A character as a follower of the one before it. -/
def ofChar (c : Char) : Follower :=
  if c = textSelector then textRequest
  else if c = emojiSelector then emojiRequest
  else if isSkinTone c then skinTone
  else if isEmoji c then emoji
  else if inRanges khmerStackedRanges c then khmerLetter
  else other

/-- The columns that an emoji takes in its own style, if that style is asked for by a follower. The
columns of joined pictures are counted for the last of them. -/
def selectedWidth? : Follower → Option Int
  | emojiRequest => some 2
  | joined true | joinedKeycap true => some 0
  | _ => none

/-- A follower of a character to which the selector of a style at its start means nothing. Such a
selector stands between the character and a joiner, so that the joiner does not join it either. -/
def dropSelector : Follower → Follower
  | textRequest | emojiRequest | joined true | joinedKeycap true => other
  | follower => follower

/-- A follower with a selector of the emoji style in front of it. -/
def selectEmoji : Follower → Follower
  | joined _ => joined true
  | joinedKeycap _ => joinedKeycap true
  | khmerLetter => khmerLetter
  | _ => emojiRequest

/-- A follower with a selector of the text style in front of it. -/
def selectText : Follower → Follower
  | khmerLetter => khmerLetter
  | _ => textRequest

/-- The columns that a character adds to a follower that it is drawn together with, and both of them
as a follower. The name of a region has three to six letters after a black flag, or three digits
and up to four letters. Regional letters make flags in pairs, counted from the first letter, and a
flag before a joiner is drawn within the columns of the emoji after it. -/
def combine? (c : Char) : Follower → Option (Int × Follower)
  | skinTone =>
    if takesSkinTone c then some (0, emoji)
    else if c = joiner then some (0, joined false)
    else none
  | emoji => if c = joiner then some (0, joined false) else none
  | joined _ =>
    if c = keycap then some (0, joinedKeycap false)
    else if isSkinTone c then some (0, skinTone)
    else if c = tagEnd then some (0, joinedTags 0 0)
    else if isRegionalLetter c then some (1, joinedFlags false)
    else if isEmoji c then some (0, emoji)
    else none
  | joinedFlags paired =>
    if !isRegionalLetter c then none
    else if paired then some (3, joinedFlags false)
    else some (-1, joinedFlags true)
  | joinedTags letters digits =>
    if inRanges [(0xE0061, 0xE007A)] c && letters < 6 && digits = 0 then
      some (0, joinedTags (letters + 1) 0)
    else if inRanges [(0xE0030, 0xE0039)] c && letters ≤ 4 && digits < 3 then
      some (0, joinedTags letters (digits + 1))
    else if c = '🏴' && (digits = 3 || (digits = 0 && 3 ≤ letters)) then some (0, emoji)
    else none
  | khmerLetter =>
    if c = khmerStacker then some (-1, other)
    else if c = joiner || inRanges ignorableMarkRanges c then some (0, khmerLetter)
    else none
  | _ => none

end Follower

/-- The columns that one more character adds in front of a follower, and what then follows the
character before it. -/
def advance (c : Char) (next : Follower) : Int × Follower :=
  if next.selectedWidth?.isSome && hasStyles c then (next.selectedWidth?.getD 0, .emoji)
  else if c.toNat ≤ 0xA0 then (1, .other)
  else if c = emojiSelector then (0, next.dropSelector.selectEmoji)
  else if c = textSelector then (0, next.selectText)
  else if next = .textRequest && hasTextStyle c then (1, .other)
  else (next.dropSelector.combine? c).getD (columns c, .ofChar c)

/-- The columns of the end of a text, and that end as a follower of the character before it. -/
def measure : List Char → Int × Follower
  | [] => (0, .other)
  | c :: rest =>
    let (total, next) := measure rest
    let (more, here) := advance c next
    (more + total, here)

/-- The columns of a text. -/
def width (text : String) : Nat := (measure text.toList).1.toNat

end HiddenEquation.Text
