import PriceOverlay.Text.Columns
import PriceOverlay.Text.Emoji
import PriceOverlay.Text.Joining
/-!
# Widths on a terminal

The width of a text is that of its characters, apart from characters that are drawn as one:
emoji with their marks, skin tones and joiners, and the ligatures of some scripts. What a
character adds depends on what comes after it, so that a text is measured from its end.
-/
namespace PriceOverlay.Text

open Emoji

/-! ## What comes after a character -/

/-- The end of a ligature. -/
inductive Ligature where
  | alef
  | lamed (joined : Bool)
  | ya (joined : Bool)
  /-- The vowel sign before a joined `ya`. -/
  | vowelYa
  | tifinagh (joined : Bool)
  /-- The sign of Tifinagh that joins, before a letter. -/
  | tifinaghSign
  /-- The second mark of a tone of Lisu. -/
  | tone
  | orkhonI (joined : Bool)
  /-- A letter of Khmer that may be written below another one. -/
  | subscript
  deriving DecidableEq, Repr

/-- How a mark asks for a character to be drawn. -/
inductive Style where
  | own
  | plain
  | image
  deriving DecidableEq, Repr

/-- What comes after a character, as far as it matters to its width. -/
inductive After where
  | other
  /-- A mark for the style of the character. -/
  | marked (style : Style)
  | tone
  /-- Letters of flags. -/
  | flag (several : Bool)
  | emoji
  /-- A joiner before an emoji, perhaps with a keycap before it and a mark before that. -/
  | joined (keycap marked : Bool)
  /-- Letters of flags before a joined emoji: the first one, or an even or odd count. -/
  | joinedFlag (count : Nat)
  /-- The letters and digits at the end of the name of a region, before a joined emoji. -/
  | region (letters digits : Nat)
  /-- A vowel sign of Kirat Rai, which may be a part of another one. -/
  | vowel (long : Bool)
  | ligature (l : Ligature) (style : Style)
  deriving DecidableEq, Repr

namespace Ligature

/-- The ligature with a joiner in it, if there is one. -/
def join? : Ligature → Option Ligature
  | alef => none
  | lamed _ => some (lamed true)
  | ya _ => some (ya true)
  | tifinagh _ => some (tifinagh true)
  | orkhonI _ => some (orkhonI true)
  | l => some l

/-- The forms of alef that make a ligature with lam. -/
def alefs : Ranges :=
  [(0x622, 0x623), (0x625, 0x625), (0x627, 0x627), (0x671, 0x673), (0x675, 0x675), (0x773, 0x774),
    (0x870, 0x882)]

/-- The forms of lam. -/
def lams : Ranges :=
  [(0x644, 0x644), (0x6B5, 0x6B8), (0x76A, 0x76A), (0x8A6, 0x8A6), (0x8C7, 0x8C7)]

/-- The consonants of Tifinagh. -/
def tifinaghLetters : Ranges := [(0x2D31, 0x2D65), (0x2D6F, 0x2D6F)]

/-- The letters of Khmer that are written below another one after a sign for it. -/
def khmerLetters : Ranges :=
  [(0x1780, 0x1782), (0x1784, 0x1787), (0x1789, 0x178C), (0x178E, 0x1793), (0x1795, 0x1798),
    (0x179B, 0x179D), (0x17A0, 0x17A0), (0x17A2, 0x17A2), (0x17A7, 0x17A7), (0x17AB, 0x17AC),
    (0x17AF, 0x17AF)]

/-- The ligature that a character may be the end of. -/
def ending? (c : Char) : Option Ligature :=
  if alefs.has c then some alef
  else if c == '\u05DC' then some (lamed false)
  else if khmerLetters.has c then some subscript
  else if c == '\u1A10' then some (ya false)
  else if tifinaghLetters.has c then some (tifinagh false)
  else if c == '\uA4FC' || c == '\uA4FD' then some tone
  else if c.toNat == 0x10C03 then some (orkhonI false)
  else none

/-- What a character adds before the end of a ligature, if it belongs to the ligature. -/
def extend? (c : Char) : Ligature → Option (Int × After)
  | alef =>
    if lams.has c then some (0, .other)
    else if columns c == 0 && isTransparent c then some (0, .ligature alef .own)
    else none
  | lamed true => if c == '\u05D0' then some (0, .other) else none
  | ya true => if c == '\u1A17' then some (0, .ligature vowelYa .own) else none
  | vowelYa => if c == '\u1A15' then some (0, .other) else none
  | tifinagh joined =>
    if c == '\u2D7F' then some (1, .ligature tifinaghSign .own)
    else if joined && tifinaghLetters.has c then some (0, .other)
    else none
  | tifinaghSign => if tifinaghLetters.has c then some (-1, .other) else none
  | tone => if '\uA4F8' ≤ c ∧ c ≤ '\uA4FB' then some (0, .other) else none
  | orkhonI true => if c.toNat == 0x10C32 then some (0, .other) else none
  | subscript => if c == '\u17D2' then some (-1, .other) else none
  | _ => none

/-- The marks that do not break up a ligature. -/
def passedOver : Ranges :=
  [(0x34F, 0x34F), (0x17B4, 0x17B5), (0x180B, 0x180D), (0x180F, 0x180F), (0xFE00, 0xFE0F),
    (0xE0100, 0xE01EF)]

end Ligature

namespace After

/-- What comes after the character before this one, where this one stands alone. -/
def starting (c : Char) : After :=
  match Ligature.ending? c with
  | some l => .ligature l .own
  | none =>
    if c == plainMark then .marked .plain
    else if c == imageMark then .marked .image
    else if c.toNat == 0x16D67 then .vowel false
    else if c.toNat == 0x16D68 then .vowel true
    else if isFlagLetter c then .flag false
    else if isTone c then .tone
    else if imageRanges.has c then .emoji
    else .other

/-- The style that a mark asks for. -/
def style : After → Style
  | marked s => s
  | joined _ true => .image
  | ligature _ s => s
  | _ => .own

/-- What comes after without the mark at its start. -/
def unmarked : After → After
  | marked _ => other
  | joined _ true => other
  | ligature l _ => ligature l .own
  | a => a

/-- What comes after with a mark in front of it. -/
def withMark (s : Style) : After → After
  | ligature l _ => ligature l s
  | joined keycap false => if s = .image then joined keycap true else marked s
  | _ => marked s

/-- Whether it is to be drawn together with an emoji before it. -/
def isJoined : After → Bool
  | joined _ _ => true
  | _ => false

/-- Whether a joiner before it joins it to another emoji. -/
def canBeJoined : After → Bool
  | emoji | tone | flag true => true
  | joinedFlag n => decide (2 ≤ n)
  | _ => false

/-- What a character adds that belongs to an emoji after a joiner. -/
def extendJoined? (c : Char) : Option (Int × After) :=
  if c == '\u20E3' then some (0, joined true false)
  else if isFlagLetter c then some (1, joinedFlag 1)
  else if isTone c then some (0, tone)
  else if c.toNat == 0xE007F then some (0, region 0 0)
  else if imageRanges.has c then some (0, emoji)
  else none

/-- What a character adds that belongs to the name of a region. -/
def extendRegion? (c : Char) (letters digits : Nat) : Option (Int × After) :=
  if 0xE0061 ≤ c.toNat ∧ c.toNat ≤ 0xE007A then
    if digits = 0 ∧ letters < 6 then some (0, region (letters + 1) 0) else none
  else if 0xE0030 ≤ c.toNat ∧ c.toNat ≤ 0xE0039 then
    if letters ≤ 4 ∧ digits < 3 then some (0, region letters (digits + 1)) else none
  else if c.toNat == 0x1F3F4 && decide ((digits = 0 ∧ 3 ≤ letters) ∨ digits = 3) then
    some (0, emoji)
  else none

/-- What a character adds that is drawn together with what comes after it. -/
def extend? (c : Char) (a : After) : Option (Int × After) :=
  if c == joiner && a.canBeJoined then some (0, joined false false)
  else match a with
    | ligature l _ => l.extend? c
    | tone => if tonedRanges.has c then some (0, emoji) else none
    | flag _ => if isFlagLetter c then some (1, flag true) else none
    | joined false false => extendJoined? c
    | joinedFlag n =>
      if isFlagLetter c then some (if n % 2 = 1 then (-1, joinedFlag 2) else (3, joinedFlag 3))
      else none
    | region letters digits => extendRegion? c letters digits
    | vowel false =>
      if c.toNat == 0x16D63 || c.toNat == 0x16D69 then some (0, other)
      else if c.toNat == 0x16D67 then some (0, vowel true)
      else if c.toNat == 0x16D68 then some (1, vowel false)
      else none
    | vowel true => if c.toNat == 0x16D63 then some (0, other) else none
    | _ => none

/-- What a character beyond Latin adds, and what comes after the one before it. -/
def before (c : Char) (a : After) : Int × After :=
  let alone := ((columns c : Int), starting c)
  if a = other then alone
  else if c == imageMark then (0, a.withMark .image)
  else if c == plainMark then (0, a.withMark .plain)
  else if a.style = .plain && narrowedRanges.has c then (1, other)
  else
    let a := if a.style = .plain then a.unmarked else a
    match a with
    | ligature l s =>
      if c == joiner then
        (0, match l.join? with
          | some l => ligature l s
          | none => other)
      else if Ligature.passedOver.has c then (0, a)
      else (a.extend? c).getD alone
    | a => (a.extend? c).getD alone

/-- What a character adds, and what comes after the one before it. -/
def step (c : Char) (a : After) : Int × After :=
  if a.style = .image && markedRanges.has c then
    (if a.isJoined then 0 else 2, emoji)
  else
    let a := if a.style = .image then a.unmarked else a
    if c.toNat ≤ 0xA0 then (columns c, other) else before c a

end After

/-- The columns of a text. -/
def width (s : String) : Nat :=
  let measured := s.toList.foldr (fun c p => let (n, a) := p.2.step c; (p.1 + n, a))
    ((0 : Int), After.other)
  measured.1.toNat

end PriceOverlay.Text
