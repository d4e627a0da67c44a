import PriceOverlay.Cli.Run
/-!
# The command line

Reads the arguments and the one environment variable that counts, and writes the outcome.
No network is linked in, so that only what needs none can succeed.
-/
open PriceOverlay in
def main (arguments : List String) : IO UInt32 := do
  let url ← IO.getEnv Cli.urlVariable
  let o := Cli.run .offline (fun name => if name = Cli.urlVariable then url else none) arguments
  (← IO.getStdout).putStr o.stdout
  (← IO.getStderr).putStr o.stderr
  return o.code.toUInt32
