import PriceOverlay.Http.Domain.Character
import PriceOverlay.Http.Domain.Punycode
import PriceOverlay.Text.Composition
import PriceOverlay.Text.Direction
import PriceOverlay.Text.Joining
/-!
# Domain names

A name consists of labels between dots. A label may be written with any letters, or in
ASCII by its spelling after `xn--`. No label starts with a mark, the signs that join or part
letters stand only between letters that they can have an effect on, and where a name has
letters from right to left, each label has one direction.
-/
namespace PriceOverlay.Http.Domain

open Text

/-- How a label starts that is spelled in ASCII. -/
def spellingMark : List Char := ['x', 'n', '-', '-']

def isAscii (c : Char) : Bool := decide (c.toNat < 0x80)

/-- The label of a spelling: the only way to write it, and with a reason to spell it. -/
def ofSpelling? (cs : List Char) : Option (List Char) :=
  if 2000 < cs.length then none
  else (Punycode.decode? cs).filter fun label =>
    !label.all isAscii && !spellingMark.isPrefixOf label && label.all isPlain &&
      composed label == label

/-- Reads a label, which counts as composed text. -/
def label? (cs : List Char) : Option (List Char) :=
  if cs.all isAscii then
    if spellingMark.isPrefixOf cs then ofSpelling? (cs.drop 4) else some cs
  else if spellingMark.isPrefixOf cs || decide (1000 < cs.length) then none
  else some cs

/-! ## Signs that join and part letters -/

/-- Whether letters on both sides would join. -/
def wouldJoin (before after : List Char) : Bool :=
  (before.dropWhile isTransparent).head?.any joinsAfter &&
    (after.dropWhile isTransparent).head?.any joinsBefore

/-- Whether each sign has an effect, after the characters before it in reverse: on a
consonant without a vowel, or between letters that would join. -/
def signsFit (before : List Char) : List Char → Bool
  | [] => true
  | c :: r =>
    let isSilent := before.head?.any fun d => combiningClass d == virama
    (if c == nonJoiner then isSilent || wouldJoin before r else c != joiner || isSilent) &&
      signsFit (c :: before) r

/-! ## Directions -/

/-- Whether a label has one direction: it starts with a letter, ends, apart from marks, with
one or a number, and has no letters of the other direction. -/
def isDirected (ds : List Direction) : Bool :=
  match ds.head?, (ds.reverse.dropWhile (· == .mark)).head? with
  | none, _ => true
  | some .left, some last =>
    [.left, .europeanNumber].contains last && !ds.contains .right && !ds.contains .arabicNumber
  | some .right, some last =>
    [.right, .europeanNumber, .arabicNumber].contains last && !ds.contains .left &&
      !(ds.contains .europeanNumber && ds.contains .arabicNumber)
  | _, _ => false

/-- Whether labels have letters or numbers from right to left. -/
def isRightward (labels : List (List Direction)) : Bool :=
  labels.any fun ds => ds.contains .right || ds.contains .arabicNumber

/-! ## Names -/

/-- Whether labels may make up a name. -/
def areLabels (labels : List (List Char)) : Bool :=
  let directions := labels.map fun label => label.map direction
  labels.all (fun label => !label.head?.any isMark && signsFit [] label) &&
    (!isRightward directions || directions.all isDirected)

/-- Reads a name. -/
def name? (cs : List Char) : Option (List Char) := do
  let parts ← cs.mapM counted?
  let labels ← ((composed parts.flatten).splitOn '.').mapM label?
  if areLabels labels then some (['.'].intercalate labels) else none

end PriceOverlay.Http.Domain
