import VideoCodec.Cli
/-!
# The command-line program

Reads the arguments, runs the configuration command, writes its output and
ends with its exit code.
-/

/-- Runs the configuration command on the process arguments. -/
def main (args : List String) : IO UInt32 := do
  let out := VideoCodec.Cli.run args
  IO.print out.stdout
  IO.eprint out.stderr
  pure out.exitCode.toUInt32
