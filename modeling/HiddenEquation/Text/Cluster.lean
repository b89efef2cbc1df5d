import HiddenEquation.Text.Cluster.Conjunct
import HiddenEquation.Text.Cluster.Marks
import HiddenEquation.Text.Cluster.Pictograph
import HiddenEquation.Text.Ranges

/-!
# Clusters of characters

A cluster is what a reader takes for one character: a letter with its marks, a Korean syllable, a
flag, a family of joined pictures. A text is cut into extended grapheme clusters by the rules of
Unicode 17. Whether a character belongs to the cluster before it depends on its break class and on
how that cluster ends so far.

## Main definitions

* `BreakClass`, `BreakClass.ofChar` : the part that a character plays in a cluster.
* `Tail`, `Tail.joins`, `Tail.extend` : how a cluster ends, what belongs to it, and how it goes on.
* `clusters` : the clusters of a text.

## Main results

* `flatten_charClusters` : cutting a text into clusters loses nothing.
-/

namespace HiddenEquation.Text

/-- The part that a character plays in a cluster. -/
inductive BreakClass where
  | other
  | carriageReturn
  | lineFeed
  | control
  /-- A mark drawn over, under or around the character before it. -/
  | extender
  /-- An extender that links two consonants. -/
  | linker
  /-- An extender that keeps two letters apart. -/
  | nonJoiner
  | joiner
  /-- A mark drawn beside the character before it. -/
  | spacing
  /-- A mark that belongs to the character after it. -/
  | prefixed
  /-- One of the two letters of a flag. -/
  | regional
  /-- A consonant at the start of a Korean syllable. -/
  | lead
  | vowel
  /-- A consonant at the end of a Korean syllable. -/
  | trail
  /-- A Korean syllable without a trailing consonant. -/
  | openSyllable
  | closedSyllable
  | pictograph
  /-- A consonant that a linker can link. -/
  | consonant
  deriving DecidableEq, Repr

/-- The part that a Korean letter or syllable plays, or a vowel sign that acts like one. -/
def BreakClass.ofSyllabic? (c : Char) : Option BreakClass :=
  if inRanges [(0x1100, 0x115F), (0xA960, 0xA97C)] c then some .lead
  else if inRanges [(0x1160, 0x11A7), (0xD7B0, 0xD7C6), (0x16D63, 0x16D63), (0x16D67, 0x16D6A)] c
  then some .vowel
  else if inRanges [(0x11A8, 0x11FF), (0xD7CB, 0xD7FB)] c then some .trail
  else if inRanges [(0xAC00, 0xD7A3)] c then
    some (if (c.toNat - 0xAC00) % 28 = 0 then .openSyllable else .closedSyllable)
  else none

/-- The part that a character plays in a cluster. -/
def BreakClass.ofChar (c : Char) : BreakClass :=
  if c = '\r' then .carriageReturn
  else if c = '\n' then .lineFeed
  else if inRanges [(0x20, 0x7E)] c then .other
  else if inRanges controlRanges c then .control
  else if c = '\u200D' then .joiner
  else if c = '\u200C' then .nonJoiner
  else if inRanges linkerRanges c then .linker
  else if inRanges extenderRanges c then .extender
  else if inRanges spacingRanges c then .spacing
  else if inRanges prefixedRanges c then .prefixed
  else if inRanges [(0x1F1E6, 0x1F1FF)] c then .regional
  else if inRanges pictographRanges c then .pictograph
  else if inRanges consonantRanges c then .consonant
  else (ofSyllabic? c).getD .other

/-- How a cluster ends, as far as it matters for the character after it. -/
inductive Tail where
  | other
  /-- A control character or a line feed, to which nothing belongs. -/
  | control
  | carriageReturn
  | prefixed
  | lead
  | vowel
  | trail
  /-- The first letter of a flag. -/
  | regional
  /-- A picture, perhaps with extenders. -/
  | pictograph
  /-- A picture, perhaps with extenders, and a joiner. -/
  | joinedPictograph
  /-- A consonant, perhaps with extenders. -/
  | consonant
  /-- A consonant with extenders, one of which links. -/
  | linkedConsonant
  deriving DecidableEq, Repr

namespace Tail

/-- How a cluster ends that consists of one character. -/
def ofClass : BreakClass → Tail
  | .control | .lineFeed => .control
  | .carriageReturn => .carriageReturn
  | .prefixed => .prefixed
  | .lead => .lead
  | .vowel | .openSyllable => .vowel
  | .trail | .closedSyllable => .trail
  | .regional => .regional
  | .pictograph => .pictograph
  | .consonant => .consonant
  | _ => .other

/-- Whether a character belongs to a cluster that ends like this. -/
def joins : Tail → BreakClass → Bool
  | carriageReturn, next => next = .lineFeed
  | control, _ => false
  | _, .control | _, .carriageReturn | _, .lineFeed => false
  | _, .extender | _, .linker | _, .nonJoiner | _, .joiner | _, .spacing => true
  | prefixed, _ => true
  | lead, .lead | lead, .vowel | lead, .openSyllable | lead, .closedSyllable => true
  | vowel, .vowel | vowel, .trail => true
  | trail, .trail => true
  | regional, .regional => true
  | joinedPictograph, .pictograph => true
  | linkedConsonant, .consonant => true
  | _, _ => false

/-- How a cluster ends after one more character that belongs to it. -/
def extend : Tail → BreakClass → Tail
  | pictograph, .extender | pictograph, .linker | pictograph, .nonJoiner => pictograph
  | pictograph, .joiner => joinedPictograph
  | consonant, .extender | consonant, .joiner => consonant
  | consonant, .linker => linkedConsonant
  | linkedConsonant, .extender | linkedConsonant, .joiner | linkedConsonant, .linker =>
    linkedConsonant
  | regional, .regional => other
  | _, last => ofClass last

end Tail

/-- Cut the characters after a cluster that ends like this: those that still belong to it, and the
clusters after it. -/
def cutAfter (tail : Tail) : List Char → List Char × List (List Char)
  | [] => ([], [])
  | c :: rest =>
    let next := BreakClass.ofChar c
    if tail.joins next then
      let (more, later) := cutAfter (tail.extend next) rest
      (c :: more, later)
    else
      let (more, later) := cutAfter (Tail.ofClass next) rest
      ([], (c :: more) :: later)

theorem flatten_cutAfter (tail : Tail) (chars : List Char) :
    (cutAfter tail chars).1 ++ (cutAfter tail chars).2.flatten = chars := by
  induction chars generalizing tail with
  | nil => rfl
  | cons c rest ih =>
    rw [cutAfter]
    split <;> simp [ih]

/-- The clusters of a list of characters. Nothing belongs to what comes before the first one. -/
def charClusters (chars : List Char) : List (List Char) := (cutAfter .control chars).2

/-- The clusters of a text, put together, are the text. -/
theorem flatten_charClusters (chars : List Char) : (charClusters chars).flatten = chars := by
  have before : (cutAfter .control chars).1 = [] := by cases chars <;> rfl
  simpa [charClusters, before] using flatten_cutAfter .control chars

/-- The clusters of a text. -/
def clusters (text : String) : List String := (charClusters text.toList).map String.ofList

end HiddenEquation.Text
