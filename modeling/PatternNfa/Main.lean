import PatternNfa.Command

/-! The program itself. The level of its journal is taken from the environment. -/

def main (arguments : List String) : IO UInt32 := do
  let wanted := (← IO.getEnv "RUST_LOG").bind PatternNfa.Level.ofFilter?
  let report := (PatternNfa.Command.read arguments).report wanted
  report.diagnostics.forM IO.eprintln
  IO.print report.output
  return report.exitCode
