import PriceOverlay.Json.Reader
/-!
# JSON texts that end early

A text that breaks off before its value is complete still tells something of it: the items
and fields that are complete, in containers that are still open.
-/
namespace PriceOverlay.Json

/-- What is there of a value where its text ends. -/
inductive Start where
  /-- Not even the comma before it. -/
  | unannounced
  /-- Nothing, or a part of a text. -/
  | nothing
  /-- A part of a word such as `true`. -/
  | word
  /-- A part of a number. -/
  | number
  /-- The items of a list so far, and the start of the next one. -/
  | arr (items : List Json) (next : Start)
  /-- The fields of an object so far, and the name and the start of the next one; before its
  name is complete, the start of the name. -/
  | obj (fields : List (String × Json)) (name : Option String) (next : Start)
  /-- A start that no value can have that is read, and how it goes on. -/
  | invalid (next : Start)

namespace Start

def isUnannounced : Start → Bool
  | unannounced => true
  | _ => false

/-- Whether there is at most a part of a text. -/
def isText : Start → Bool
  | unannounced | nothing => true
  | _ => false

/-- Whether there is a part of something without quotes. -/
def isBare : Start → Bool
  | word | number => true
  | _ => false

/-- Whether there is no list and no object. -/
def isScalar : Start → Bool
  | unannounced | nothing | word | number => true
  | _ => false

/-- Whether every part of the value so far can be read. -/
def valid : Start → Bool
  | unannounced | nothing | word | number => true
  | arr items next => items.all Json.valid && next.valid
  | obj fields name next =>
    fields.all (·.2.valid) && (name.isSome || !next.isBare) && next.valid
  | invalid _ => false

/-- Whether a value that is not read may end early here: anywhere but in a number. -/
def isIgnorable : Start → Bool
  | unannounced | nothing | word => true
  | number => false
  | arr _ next | invalid next => next.isIgnorable
  | obj _ name next => (name.isSome || !next.isBare) && next.isIgnorable

/-! ## Reading -/

/-- Code points after an opening quote, up to where the text ends; none if it does not end
early. An escape is four bytes long. -/
def pointsSoFar? : List Char → Option (List Nat)
  | [] => some []
  | '"' :: _ => none
  | ['\\'] => some []
  | '\\' :: 'u' :: a :: b :: c :: d :: r => do
    let n ← Decimal.numberIn? 16 [a, b, c, d]
    pure (n :: (← pointsSoFar? r))
  | '\\' :: 'u' :: r => if (String.ofList r).utf8ByteSize < 4 then some [] else none
  | '\\' :: c :: r => do
    let e ← escape? c
    pure (e.toNat :: (← pointsSoFar? r))
  | c :: r => if c.toNat < 0x20 then none else (pointsSoFar? r).map (c.toNat :: ·)

/-- Whether surrogates come in pairs, as far as code points go. -/
def arePaired : List Nat → Bool
  | [] => true
  | [p] => decide (p < 0xDC00 ∨ 0xE000 ≤ p)
  | p :: q :: r =>
    if 0xD800 ≤ p ∧ p < 0xDC00 then decide (0xDC00 ≤ q ∧ q < 0xE000) && arePaired r
    else decide (p < 0xDC00 ∨ 0xE000 ≤ p) && arePaired (q :: r)

/-- The start of a text after its opening quote. -/
def ofText (points : List Nat) : Start :=
  if arePaired points then .nothing else .invalid .nothing

/-- Whether characters are a part of a number: not one, until another digit follows. -/
def isInNumber (cs : List Char) : Bool :=
  (readNumber cs).isNone &&
    match readNumber (cs ++ ['0']) with
    | some (_, []) => true
    | _ => false

/-- Whether characters are a part of a word such as `true`. -/
def isInWord (cs : List Char) : Bool :=
  ["true", "false", "null"].any fun w => cs.isPrefixOf w.toList && cs != w.toList

/-- The start of an object with names that can be read, unless nested too deep. -/
def objectAt (depth : Nat) (fields : List (Option String × Json)) (name : Option (Option String))
    (next : Start) : Start :=
  match fields.mapM (fun f => f.1.map (·, f.2)), name with
  | none, _ | some _, some none => .invalid next
  | some fs, some (some n) => if depth < depthLimit then .obj fs (some n) next else .invalid next
  | some fs, none => if depth < depthLimit then .obj fs none next else .invalid next

mutual
/-- The start of a value; none for characters that start no value. -/
def ofValue? (fuel depth : Nat) (cs : List Char) : Option Start :=
  match fuel with
  | 0 => none
  | fuel + 1 =>
    match skip cs with
    | [] => some .nothing
    | '"' :: r => (pointsSoFar? r).map ofText
    | '[' :: r => ofItems? fuel (depth + 1) [] r
    | '\x7b' :: r => ofFields? fuel (depth + 1) [] r
    | r =>
      if isInNumber r then some .number
      else if isInWord r then some .word
      else none

/-- The start of a list from one of its items on. -/
def ofItems? (fuel depth : Nat) (items : List Json) (cs : List Char) : Option Start :=
  let opened (items : List Json) (next : Start) : Start :=
    if depth < depthLimit then .arr items next else .invalid next
  match fuel with
  | 0 => none
  | fuel + 1 =>
    match skip cs with
    | [] => some (opened items .nothing)
    | r =>
      match readValue fuel depth r with
      | none => (ofValue? fuel depth r).map (opened items)
      | some (x, r) =>
        match skip r with
        | [] => some (opened (items ++ [x]) .unannounced)
        | ',' :: r => ofItems? fuel depth (items ++ [x]) r
        | _ => none

/-- The start of an object from one of its fields on. -/
def ofFields? (fuel depth : Nat) (fields : List (Option String × Json)) (cs : List Char) :
    Option Start :=
  match fuel with
  | 0 => none
  | fuel + 1 =>
    match skip cs with
    | [] => some (objectAt depth fields none .nothing)
    | '"' :: r =>
      match readText r with
      | none => (pointsSoFar? r).map fun points => objectAt depth fields none (ofText points)
      | some (name, r) =>
        match skip r with
        | [] => some (objectAt depth fields (some name) .nothing)
        | ':' :: r =>
          match readValue fuel depth r with
          | none => (ofValue? fuel depth r).map (objectAt depth fields (some name))
          | some (x, r) =>
            match skip r with
            | [] => some (objectAt depth (fields ++ [(name, x)]) none .unannounced)
            | ',' :: r => ofFields? fuel depth (fields ++ [(name, x)]) r
            | _ => none
        | _ => none
    | r =>
      if !fields.isEmpty then none
      else if isInNumber r then some (objectAt depth [] none .number)
      else if isInWord r then some (objectAt depth [] none .word)
      else none
end

/-- What is there of the value of a text that ends early; none for any other text. -/
def ofText? (text : String) : Option Start :=
  let cs := text.toList
  if (read? text).isSome then none else ofValue? (2 * cs.length + 2) 0 cs

/-! ## What a start can become -/

/-- Whether a start can become a table of texts. -/
def mayBeTexts : Start → Bool
  | obj fields name next =>
    fields.all (·.2.str?.isSome) && if name.isSome then next.isScalar else next.isText
  | s => s.isScalar

/-- Whether a start can become a list, given which items there are and how they start. -/
def mayBeList (item : Json → Bool) (start : Start → Bool) : Start → Bool
  | arr items next => items.all item && start next
  | s => s.isScalar

/-- What a field of a record can be, and how it can start. -/
structure Shape where
  name : String
  accepts : Json → Bool
  admits : Start → Bool := isScalar

/-- Whether a start can become a record, written as an object or as a list. A list is
complete with the last field, and a comma after it is too much. -/
def mayBeRecord (spec : List Shape) : Start → Bool
  | obj fields name next =>
    (spec.all fun f =>
      decide (((fields.map (·.1) ++ name.toList).filter (· == f.name)).length ≤ 1) &&
        fields.all fun g => g.1 != f.name || f.accepts g.2) &&
      match name, spec.find? fun f => some f.name == name with
      | some _, some f => f.admits next
      | some _, none => next.isIgnorable
      | none, _ => next.isText
  | arr items next =>
    decide (items.length ≤ spec.length) && ((spec.zip items).all fun p => p.1.accepts p.2) &&
      match spec[items.length]? with
      | some f => f.admits next
      | none => next.isUnannounced
  | s => s.isScalar

end Start
end PriceOverlay.Json
