/-!
# White space and words

White space is the Unicode property `White_Space`. A text splits into words at every run
of it, and blanks at either end belong to no word.
-/
namespace PriceOverlay.Text

/-- The 25 code points of the Unicode property `White_Space`. -/
def blanks : List Nat :=
  [0x9, 0xA, 0xB, 0xC, 0xD, 0x20, 0x85, 0xA0, 0x1680, 0x2000, 0x2001, 0x2002, 0x2003, 0x2004,
    0x2005, 0x2006, 0x2007, 0x2008, 0x2009, 0x200A, 0x2028, 0x2029, 0x202F, 0x205F, 0x3000]

def isBlank (c : Char) : Bool := blanks.contains c.toNat

/-- The maximal runs of characters that are not blank. -/
def words (cs : List Char) : List (List Char) :=
  (cs.splitOnP isBlank).filter (!·.isEmpty)

/-- The text without the blanks at its start. -/
def trimStart (cs : List Char) : List Char := cs.dropWhile isBlank

/-- The text without the characters of a class at either end. -/
def trimEnds (p : Char → Bool) (cs : List Char) : List Char :=
  ((cs.dropWhile p).reverse.dropWhile p).reverse

/-- The text without the blanks at either end. -/
def trim (cs : List Char) : List Char := trimEnds isBlank cs

/-- What follows `start` in a text that begins with it. -/
def after? (start cs : List Char) : Option (List Char) :=
  if start.isPrefixOf cs then some (cs.drop start.length) else none

/-- What comes before `finish` in a text that ends with it. -/
def before? (finish cs : List Char) : Option (List Char) :=
  if finish.isSuffixOf cs then some (cs.take (cs.length - finish.length)) else none

end PriceOverlay.Text
