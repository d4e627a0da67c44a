import PriceOverlay.Decimal.Reader
/-!
# Texts in TOML

A text stands between quotes, in which escapes count, or between apostrophes, in which
nothing does; three of them open a text that may have several lines. Such a text loses a
line break right after its opening, may hold up to two of its marks side by side, and
between quotes a backslash at the end of a line joins it with what follows.
-/
namespace PriceOverlay.Toml

/-- The white space inside a line. -/
def isBlank (c : Char) : Bool := c == ' ' || c == '\t'

def skip (cs : List Char) : List Char := cs.dropWhile isBlank

/-- A character that may stand in a line: no control but the tab. -/
def isPlain (c : Char) : Bool := c == '\t' || decide (0x20 ≤ c.toNat ∧ c.toNat ≠ 0x7F)

/-- What follows a line break. -/
def newline? : List Char → Option (List Char)
  | '\n' :: r => some r
  | '\r' :: '\n' :: r => some r
  | _ => none

/-- Whether nothing but blanks stands before a line break. -/
def endsLine (cs : List Char) : Bool := (newline? (skip cs)).isSome

/-! ## Escapes -/

/-- The character of a short escape. -/
def escape? : Char → Option Char
  | 'b' => some '\x08'
  | 't' => some '\t'
  | 'n' => some '\n'
  | 'f' => some '\x0c'
  | 'r' => some '\r'
  | '"' => some '"'
  | '\\' => some '\\'
  | _ => none

/-- The character of a code point in hexadecimal. -/
def codePoint? (ds : List Char) : Option Char := do
  let n ← Decimal.numberIn? 16 ds
  if n.isValidChar then some (Char.ofNat n) else none

/-! ## Reading

Each reader starts after the opening mark and yields the text and what follows it. -/

/-- A text of one line between quotes. -/
def quoted : List Char → Option (List Char × List Char)
  | [] => none
  | '"' :: r => some ([], r)
  | '\\' :: 'u' :: a :: b :: c :: d :: r => do
    let e ← codePoint? [a, b, c, d]
    (quoted r).map fun p => (e :: p.1, p.2)
  | '\\' :: 'U' :: a :: b :: c :: d :: e :: f :: g :: h :: r => do
    let e ← codePoint? [a, b, c, d, e, f, g, h]
    (quoted r).map fun p => (e :: p.1, p.2)
  | '\\' :: c :: r => do
    let e ← escape? c
    (quoted r).map fun p => (e :: p.1, p.2)
  | c :: r => if isPlain c then (quoted r).map fun p => (c :: p.1, p.2) else none

/-- A text of one line between apostrophes. -/
def literal (cs : List Char) : Option (List Char × List Char) :=
  let s := cs.takeWhile fun c => isPlain c && c != '\''
  match cs.drop s.length with
  | '\'' :: r => some (s, r)
  | _ => none

/-- The end of a text of several lines: up to two marks of its own, and the three that
close it. -/
def closing? (mark : Char) (cs : List Char) : Option (List Char × List Char) :=
  let run := (cs.takeWhile (· == mark)).length
  if run < 3 then none
  else
    let own := min (run - 3) 2
    some (List.replicate own mark, cs.drop (own + 3))

/-- A text of several lines between quotes. While `joining`, blanks and line breaks are
passed over. -/
def quotedLines (joining : Bool) : List Char → Option (List Char × List Char)
  | [] => none
  | '\\' :: 'u' :: a :: b :: c :: d :: r => do
    let e ← codePoint? [a, b, c, d]
    (quotedLines false r).map fun p => (e :: p.1, p.2)
  | '\\' :: 'U' :: a :: b :: c :: d :: e :: f :: g :: h :: r => do
    let e ← codePoint? [a, b, c, d, e, f, g, h]
    (quotedLines false r).map fun p => (e :: p.1, p.2)
  | '\\' :: c :: r =>
    if endsLine (c :: r) then quotedLines true r
    else do
      let e ← escape? c
      (quotedLines false r).map fun p => (e :: p.1, p.2)
  | '\r' :: '\n' :: r =>
    if joining then quotedLines true r
    else (quotedLines false r).map fun p => ('\n' :: p.1, p.2)
  | c :: r =>
    if joining && (isBlank c || c == '\n') then quotedLines true r
    else match closing? '"' (c :: r) with
      | some p => some p
      | none =>
        if isPlain c || c == '\n' then (quotedLines false r).map fun p => (c :: p.1, p.2)
        else none

/-- A text of several lines between apostrophes. -/
def literalLines : List Char → Option (List Char × List Char)
  | [] => none
  | '\r' :: '\n' :: r => (literalLines r).map fun p => ('\n' :: p.1, p.2)
  | c :: r =>
    match closing? '\'' (c :: r) with
    | some p => some p
    | none =>
      if isPlain c || c == '\n' then (literalLines r).map fun p => (c :: p.1, p.2) else none

/-- What follows a line break at the start, if there is one. -/
def afterNewline (cs : List Char) : List Char := (newline? cs).getD cs

/-- A text from its opening mark on. -/
def text? : List Char → Option (List Char × List Char)
  | '"' :: '"' :: '"' :: r => quotedLines false (afterNewline r)
  | '"' :: r => quoted r
  | '\'' :: '\'' :: '\'' :: r => literalLines (afterNewline r)
  | '\'' :: r => literal r
  | _ => none

end PriceOverlay.Toml
