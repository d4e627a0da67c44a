import PriceOverlay.Cli.Grid
import PriceOverlay.Json.Writer
/-!
# Output of commands

A command writes lines, some of them about errors, or it fails with a message and the
causes behind it.
-/
namespace PriceOverlay.Cli

inductive Format where
  | table
  | json
  deriving DecidableEq, Repr

structure Output where
  out : List String := []
  errors : List String := []

namespace Output

/-- Lines as they are written. -/
def written (ls : List String) : String := String.join (ls.map (· ++ "\n"))

end Output

/-- A heading and the line under it. -/
def heading (title : String) : List String := [title, Grid.repeated 50 '-']

def success (message : String) : String := "✓ " ++ message
def failed (message : String) : String := "✗ " ++ message
def warning (message : String) : String := "⚠ " ++ message
def information (message : String) : String := "ℹ " ++ message

/-- The lines of a grid, or of a message if it has no rows. -/
def gridOr (message : String) (g : Grid) : List String :=
  if g.rows.isEmpty then [message] else g.text

/-- Why a command failed. -/
structure Failure where
  message : String
  cause : Option String := none
  /-- Whether the command broke off, so that it does not report the failure itself. -/
  brokenOff : Bool := false
  deriving DecidableEq, Repr

namespace Failure

/-- A sum has outgrown its word. -/
def overflow : Failure := { message := "attempt to add with overflow", brokenOff := true }

/-- The failure and its cause, indented. -/
def text (f : Failure) : String :=
  (if f.brokenOff then "" else "Error: ") ++ f.message ++
    (match f.cause with
      | none => ""
      | some c => "\n\nCaused by:\n    " ++ "\n    ".intercalate (Grid.lines c)) ++ "\n"

/-- The code that a failure ends a run with. -/
def code (f : Failure) : Nat := if f.brokenOff then 101 else 1

end Failure
end PriceOverlay.Cli
