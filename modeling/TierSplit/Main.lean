import TierSplit.CommandLine.Execute
import TierSplit.Concrete.Exchange

/-! The command line. The parser is a separate program: next to a file `x` it leaves the tree of the
module in `x.tree.json`, and that of a component document in `x.html.json`. -/

open TierSplit

def readIfThere (path : String) : IO (Option String) := do
  try
    return some (← IO.FS.readFile path)
  catch _ =>
    return none

def readTree (path : String) : IO (Option Concrete.Node) := do
  return ((← readIfThere path).bind Json.parse?).bind Concrete.tree?

/-- The variables of the settings, in capitals and in small letters. -/
def readEnvironment : IO Settings.Variables := do
  let names := Settings.fieldNames.flatMap fun f =>
    [(Settings.variableName f).toUpper, Settings.variableName f]
  names.filterMapM fun name => do
    return (← IO.getEnv name).map fun value => (name, value)

def readWorld (path : String) : IO CommandLine.World := do
  let entries ← [path, ".env"].filterMapM fun name => do
    return (← readIfThere name).map fun text => (name, text)
  let tree ← readTree (path ++ ".tree.json")
  let document ← readTree (path ++ ".html.json")
  return ⟨⟨entries⟩, ← readEnvironment, tree, document⟩

def main (args : List String) : IO UInt32 := do
  let path := ((CommandLine.parse? args).bind CommandLine.Command.path?).getD ""
  let world ← readWorld path
  let started ← IO.monoNanosNow
  let exit := (CommandLine.execute world args).exit
  let code := exit.code
  let elapsed := Float.ofNat ((← IO.monoNanosNow) - started) / 1000000.0
  for line in CommandLine.logLines world args elapsed do
    IO.eprintln line
  match exit with
  | .usage => IO.eprintln "usage: compile PATH [--json] | blocks PATH | component PATH [--resource R]"
  | .shown _ screen => IO.print (screen.toText (Decimal.toFixed elapsed ++ "ms"))
  | .crashed _ => IO.eprintln "the command cannot be carried out"
  return code.toUInt32
