import PriceOverlay.Decimal.Reader
/-!
# Bytes as text

Any bytes are read as UTF-8. Bytes that are none give the replacement character, one for
each run that starts like a character and breaks off, and one for each other byte.
-/
namespace PriceOverlay.Text.Utf8

/-- The character for bytes that are no text. -/
def replacement : Char := '\uFFFD'

/-- What a first byte contributes to its character, and the ranges of the bytes that have
to follow it; none if no character starts with the byte. -/
def first? (b : Nat) : Option (Nat × List (Nat × Nat)) :=
  let tail := (0x80, 0xBF)
  if b ≤ 0x7F then some (b, [])
  else if b < 0xC2 then none
  else if b ≤ 0xDF then some (b - 0xC0, [tail])
  else if b = 0xE0 then some (0, [(0xA0, 0xBF), tail])
  else if b = 0xED then some (0xD, [(0x80, 0x9F), tail])
  else if b ≤ 0xEF then some (b - 0xE0, [tail, tail])
  else if b = 0xF0 then some (0, [(0x90, 0xBF), tail, tail])
  else if b ≤ 0xF3 then some (b - 0xF0, [tail, tail, tail])
  else if b = 0xF4 then some (4, [(0x80, 0x8F), tail, tail])
  else none

/-- The bytes at the start that are in the ranges, one for each. -/
def matching : List (Nat × Nat) → List Nat → List Nat
  | range :: ranges, b :: bs =>
    if range.1 ≤ b ∧ b ≤ range.2 then b :: matching ranges bs else []
  | _, _ => []

/-- The character that starts with a byte, and how many of the bytes after it belong to it. -/
def lead (b : Nat) (bs : List Nat) : Char × Nat :=
  match first? b with
  | none => (replacement, 0)
  | some (n, ranges) =>
    let tail := matching ranges bs
    (if tail.length = ranges.length then
      Char.ofNat (tail.foldl (fun n c => 64 * n + (c - 0x80)) n)
    else replacement, tail.length)

/-- The characters of some bytes. -/
def decode : List Nat → List Char
  | [] => []
  | b :: bs => (lead b bs).1 :: decode (bs.drop (lead b bs).2)
termination_by bs => bs.length
decreasing_by simp only [List.length_drop, List.length_cons]; omega

/-- The bytes of a character. -/
def encode (c : Char) : List Nat := (String.utf8EncodeChar c).map UInt8.toNat

/-- The bytes that characters stand for in which a percent sign before two hexadecimal
digits gives a byte by its number. -/
def unescape : List Char → List Nat
  | '%' :: a :: b :: r =>
    match Decimal.digitIn? 16 a, Decimal.digitIn? 16 b with
    | some a, some b => (16 * a + b) :: unescape r
    | _, _ => 0x25 :: unescape (a :: b :: r)
  | c :: r => encode c ++ unescape r
  | [] => []

end PriceOverlay.Text.Utf8
