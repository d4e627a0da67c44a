import PriceOverlay.Cli.Arguments
import PriceOverlay.Cli.Lint
/-!
# Running a command line

A run writes two texts and ends with a code: 0 if all went well, 1 if the command failed or
found errors, 2 if the command line cannot be read, 101 if the command broke off.
-/
namespace PriceOverlay.Cli

/-- The servers that commands ask. -/
structure Network where
  metrics : Http.Transport
  cluster : Http.Transport

namespace Network

/-- No server can be reached. -/
def offline : Network := ⟨.offline, .offline⟩

end Network

structure Outcome where
  code : Nat
  stdout : String := ""
  stderr : String := ""
  deriving DecidableEq, Repr

namespace Outcome

/-- The outcome of a command that may fail; one that is not clean ends with 1. -/
def of (clean : Bool) : Except Failure Output → Outcome
  | .ok o => ⟨if clean then 0 else 1, Output.written o.out, Output.written o.errors⟩
  | .error f => ⟨f.code, "", f.text⟩

end Outcome

def versionText : String := "ovc 0.1.0\n"

/-- Runs a command. -/
def Command.run (c : Command) (format : Format) (net : Network) : Outcome :=
  match c with
  | .lint nodePool annotations =>
    let report := Lint.Report.of nodePool annotations
    .of report.clean (.ok (report.output format))
  | .analyze o => .of true (Cli.analyze o net.metrics format)
  | .overlays f => .of true (Cli.listOverlays f net.cluster format)

/-- Runs a command line. -/
def run (net : Network) (environment : String → Option String) (arguments : List String) :
    Outcome :=
  match invocation environment arguments with
  | .ok i => i.command.run i.format net
  | .error .version => { code := 0, stdout := versionText }
  | .error (.help place length) =>
    { code := 0, stdout := Help.text environment place.options length }
  | .error .misuse => { code := 2 }

end PriceOverlay.Cli
