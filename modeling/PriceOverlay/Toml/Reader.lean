import PriceOverlay.Toml.Document
import PriceOverlay.Toml.Number
import PriceOverlay.Toml.Text
/-!
# Reading TOML

A document is read line by line: headers, and keys with their values. One fault anywhere
refuses the whole document.
-/
namespace PriceOverlay.Toml

/-! ## Keys -/

/-- The characters of a key without quotes. -/
def inKey (c : Char) : Bool :=
  decide (('a' ≤ c ∧ c ≤ 'z') ∨ ('A' ≤ c ∧ c ≤ 'Z')) || Decimal.isDigit c || c == '_' || c == '-'

/-- One part of a key. -/
def keyPart? : List Char → Option (String × List Char)
  | '"' :: r => (quoted r).map fun p => (String.ofList p.1, p.2)
  | '\'' :: r => (literal r).map fun p => (String.ofList p.1, p.2)
  | cs =>
    let name := cs.takeWhile inKey
    if name.isEmpty then none else some (String.ofList name, cs.drop name.length)

/-- The parts of a key, with blanks around them. -/
def key? (fuel : Nat) (cs : List Char) : Option (List String × List Char) :=
  match fuel with
  | 0 => none
  | fuel + 1 => do
    let (part, r) ← keyPart? (skip cs)
    match skip r with
    | '.' :: r => (key? fuel r).map fun p => (part :: p.1, p.2)
    | r => pure ([part], r)

/-- How deep keys and values may be nested. -/
def depthLimit : Nat := 80

/-! ## Values -/

/-- What follows a comment, which ends before a line break. -/
def afterComment (cs : List Char) : List Char :=
  match cs with
  | '#' :: r => r.dropWhile isPlain
  | r => r

/-- What follows blanks, line breaks and comments. -/
def skipLines (fuel : Nat) (cs : List Char) : List Char :=
  match fuel with
  | 0 => cs
  | fuel + 1 =>
    let r := skip cs
    match newline? (afterComment r) with
    | some r => skipLines fuel r
    | none => r

mutual
/-- A value, and what follows it. -/
def value? (fuel depth : Nat) (cs : List Char) : Option (Node × List Char) :=
  match fuel with
  | 0 => none
  | fuel + 1 =>
    match cs with
    | '"' :: _ | '\'' :: _ => (text? cs).map fun p => (.value (.text (String.ofList p.1)), p.2)
    | '[' :: r =>
      if depthLimit ≤ depth + 1 then none
      else (items? fuel (depth + 1) (skipLines r.length r)).map fun p =>
        (.value (.list p.1), p.2)
    | '\x7b' :: r =>
      if depthLimit ≤ depth + 1 then none
      else match skip r with
        | '\x7d' :: r => some (.value (.table []), r)
        | r => do
          let (es, r) ← fields? fuel (depth + 1) [] r
          pure (← es.closed?, r)
    | 't' :: 'r' :: 'u' :: 'e' :: r => some (.value (.bool true), r)
    | 'f' :: 'a' :: 'l' :: 's' :: 'e' :: r => some (.value (.bool false), r)
    | cs =>
      match time? cs with
      | some (t, r) => some (.time t, r)
      | none => (number? cs).map fun p => (.value p.1, p.2)

/-- The items of a list, and its closing bracket. -/
def items? (fuel depth : Nat) (cs : List Char) : Option (List Setting × List Char) :=
  match fuel with
  | 0 => none
  | fuel + 1 =>
    match cs with
    | ']' :: r => some ([], r)
    | cs => do
      let (n, r) ← value? fuel depth cs
      let s ← n.setting?
      match skipLines r.length r with
      | ',' :: r => (items? fuel depth (skipLines r.length r)).map fun p => (s :: p.1, p.2)
      | ']' :: r => pure ([s], r)
      | _ => none

/-- The fields of an inline table from one of them on, and its closing brace. -/
def fields? (fuel depth : Nat) (es : Entries) (cs : List Char) : Option (Entries × List Char) :=
  match fuel with
  | 0 => none
  | fuel + 1 => do
    let (key, r) ← key? (depthLimit - 1) cs
    let '=' :: r := r | none
    let (n, r) ← value? fuel depth (skip r)
    let es ← es.define? key n .header
    match skip r with
    | ',' :: r => fields? fuel depth es r
    | '\x7d' :: r => pure (es, r)
    | _ => none
end

/-! ## Lines -/

/-- What follows the rest of a line that holds nothing but a comment. -/
def lineEnd? (cs : List Char) : Option (List Char) :=
  match afterComment (skip cs) with
  | [] => some []
  | r => newline? r

/-- The document so far, and the header that its lines belong to. -/
structure Position where
  entries : Entries
  header : List String

/-- Reads one line that is not empty. -/
def line? (p : Position) (cs : List Char) : Option (Position × List Char) :=
  match cs with
  | '[' :: '[' :: r => do
    let (path, r) ← key? (depthLimit - 1) r
    let ']' :: ']' :: r := r | none
    pure (⟨← p.entries.openRow? path, path⟩, ← lineEnd? r)
  | '[' :: r => do
    let (path, r) ← key? (depthLimit - 1) r
    let ']' :: r := r | none
    pure (⟨← p.entries.openTable? path, path⟩, ← lineEnd? r)
  | cs => do
    let (key, r) ← key? (depthLimit - 1) cs
    let '=' :: r := r | none
    let (n, r) ← value? (2 * r.length + 2) 0 (skip r)
    pure (⟨← p.entries.assign? p.header key n, p.header⟩, ← lineEnd? r)

/-- Reads the lines from a position on. -/
def lines? (fuel : Nat) (p : Position) (cs : List Char) : Option Entries :=
  match fuel with
  | 0 => none
  | fuel + 1 =>
    match skip cs with
    | [] => some p.entries
    | r =>
      match lineEnd? r with
      | some r => lines? fuel p r
      | none => do
        let (p, r) ← line? p r
        lines? fuel p r

/-- The settings of a document; none if it has a fault. -/
def read? (text : String) : Option Setting :=
  let cs := text.toList
  let cs := match cs with
    | '\uFEFF' :: r => r
    | r => r
  (lines? (cs.length + 1) ⟨[], []⟩ cs).bind Entries.setting?

end PriceOverlay.Toml
