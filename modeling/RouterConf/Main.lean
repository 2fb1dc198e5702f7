import RouterConf.Cli.Command
import RouterConf.Files.Snapshot
import RouterConf.Host.Minimal

/-!
# The command line

Runs a command line on a snapshot of files that is read from standard input. What the command prints
goes to standard output and standard error, and after it the snapshot as the command left it, so
that one run may follow another. Nothing else is touched: a plan can be looked at before it is real.

The environment may set the write directory, and the time that records bear.
-/

namespace RouterConf

/-- All that can still be read from a stream, after `done`. -/
partial def readAll (stream : IO.FS.Stream) (done : String) : IO String := do
  let line ← stream.getLine
  if line.isEmpty then return done else readAll stream (done ++ line)

def timeOf (environment : Option String) : Timestamp :=
  (environment.bind Timestamp.ofText?).getD .epoch

end RouterConf

open RouterConf in
def main (arguments : List String) : IO UInt32 := do
  match Snapshot.ofText? (← readAll (← IO.getStdin) "") with
  | none =>
    IO.eprintln "error: standard input holds no snapshot of files"
    return 2
  | some files =>
    let now := timeOf (← IO.getEnv "PDCONF_TIME")
    let (outcome, after) :=
      Command.run Host.minimal now (← IO.getEnv "PDCONF_WRITE_DIR") arguments files
    IO.print outcome.output
    IO.eprint outcome.errors
    IO.println (Snapshot.text after)
    return outcome.exit.toUInt32
