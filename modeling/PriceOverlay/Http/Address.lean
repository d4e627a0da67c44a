import PriceOverlay.Decimal.Reader
/-!
# Numeric hosts

The host of a URL may be an address in digits: four numbers between dots, in decimal,
octal or hexadecimal, of which the last may stand for several, or eight groups of
hexadecimal digits between colons in brackets, one run of which may be left out.
-/
namespace PriceOverlay.Http

namespace IPv4

/-- A part of an address; a mark of its base alone stands for zero. -/
def part? : List Char → Option Nat
  | [] => none
  | '0' :: 'x' :: r | '0' :: 'X' :: r => if r.isEmpty then some 0 else Decimal.numberIn? 16 r
  | ['0'] => some 0
  | '0' :: r => Decimal.numberIn? 8 r
  | r => Decimal.numberIn? 10 r

/-- The parts of a host, without the empty one after a dot at the end. -/
def parts (host : List Char) : List (List Char) :=
  let ps := host.splitOn '.'
  if 1 < ps.length ∧ ps.getLast? = some [] then ps.dropLast else ps

/-- Whether a host has to be an address: its last part is a number. -/
def isNumeric (host : List Char) : Bool :=
  match (parts host).getLast? with
  | none => false
  | some p => Decimal.isDigits p || (p.take 2 == ['0', 'x'] || p.take 2 == ['0', 'X']) &&
      (part? p).isSome

/-- The address, if the host is one. -/
def parse? (host : List Char) : Option Nat := do
  let ps := parts host
  if 4 < ps.length then none
  let ns ← ps.mapM part?
  let last ← ns.getLast?
  let init := ns.dropLast
  if init.any (255 < ·) || 1 <<< (8 * (5 - ns.length)) ≤ last then none
  else some (init.zipIdx.foldl (fun a p => a + p.1 <<< (8 * (3 - p.2))) last)

end IPv4

namespace IPv6

/-- One to four hexadecimal digits. -/
def isGroup (cs : List Char) : Bool :=
  decide (0 < cs.length ∧ cs.length ≤ 4) && (Decimal.numberIn? 16 cs).isSome

/-- A decimal number up to 255 without leading zeros. -/
def isOctet (cs : List Char) : Bool :=
  match Decimal.natural? cs with
  | some n => decide (n ≤ 255) && (cs.length == 1 || cs.head? != some '0')
  | none => false

/-- How many groups a row of them has; the last may be four octets, which count for two. -/
def groups? (cs : List Char) : Option Nat :=
  if cs.isEmpty then some 0
  else
    let gs := cs.splitOn ':'
    let last := gs.getLast?.getD []
    if last.contains '.' then
      let octets := last.splitOn '.'
      if octets.length = 4 && octets.all isOctet && gs.dropLast.all isGroup then
        some (gs.length + 1)
      else none
    else if gs.all isGroup then some gs.length
    else none

/-- Cuts a text at the first pair of colons. -/
def atGap : List Char → Option (List Char × List Char)
  | ':' :: ':' :: r => some ([], r)
  | c :: r => (atGap r).map fun p => (c :: p.1, p.2)
  | [] => none

/-- Whether a text is an address: eight groups, or fewer around one gap. -/
def isAddress (cs : List Char) : Bool :=
  match atGap cs with
  | none => groups? cs == some 8
  | some (before, after) =>
    match groups? before, groups? after with
    | some a, some b => decide (a + b ≤ 7) && !before.contains '.'
    | _, _ => false

end IPv6
end PriceOverlay.Http
