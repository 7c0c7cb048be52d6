import Variants.Demo

/-!
The command line: prints the demonstration.
-/

def main : IO Unit := do
  match Variants.Demo.lines with
  | .ok lines => lines.forM IO.println
  | .error failure => IO.eprintln failure.message
