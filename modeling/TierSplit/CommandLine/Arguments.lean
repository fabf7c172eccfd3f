/-! Arguments of the command line. Options may stand before or after the path, a long option may carry
its value after an equals sign, short options may be run together, and two dashes end the options. -/

namespace TierSplit.CommandLine

inductive Command where
  | compile (path : String) (asJson verbose : Bool)
  | blocks (path : String) (verbose : Bool)
  | component (path : String) (resource : Option String) (verbose : Bool)
  | help
deriving Repr, DecidableEq

/-- An option under its long name, its short letter if it has one, and whether a value follows. -/
structure Switch where
  long : String
  short : Option Char
  valued : Bool
deriving Repr, DecidableEq

def verboseSwitch : Switch := ⟨"--verbose", some 'v', false⟩

def helpSwitch : Switch := ⟨"--help", none, false⟩

def jsonSwitch : Switch := ⟨"--json", none, false⟩

def resourceSwitch : Switch := ⟨"--resource", some 'r', true⟩

structure Given where
  operands : List String
  switches : List (Switch × String)
deriving Repr, DecidableEq

def Given.empty : Given := ⟨[], []⟩

def Given.operand (g : Given) (s : String) : Given := { g with operands := s :: g.operands }

def Given.switch (g : Given) (s : Switch) (value : String) : Given :=
  { g with switches := (s, value) :: g.switches }

def Given.has (g : Given) (s : Switch) : Bool := g.switches.any (·.1 == s)

def Given.value? (g : Given) (s : Switch) : Option String := (g.switches.find? (·.1 == s)).map (·.2)

inductive Reading where
  | done (given : Given)
  | wantsValue (given : Given) (switch : Switch)
  | unknown

def splitLong (arg : List Char) : String × Option String :=
  match arg.dropWhile (· != '=') with
  | _ :: value => (String.ofList (arg.takeWhile (· != '=')), some (String.ofList value))
  | [] => (String.ofList arg, none)

def readLong (known : List Switch) (g : Given) (arg : List Char) : Reading :=
  let parts := splitLong arg
  match known.find? (·.long == parts.1), parts.2 with
  | none, _ => .unknown
  | some s, none => if s.valued then .wantsValue g s else .done (g.switch s "")
  | some s, some value => if s.valued then .done (g.switch s value) else .unknown

/-- Letters run together; the rest after a letter that wants a value is that value. -/
def readShort (known : List Switch) (g : Given) : List Char → Reading
  | [] => .done g
  | c :: rest =>
    match known.find? (·.short == some c) with
    | none => .unknown
    | some s =>
      if s.valued then
        if rest.isEmpty then .wantsValue g s else .done (g.switch s (String.ofList rest))
      else readShort known (g.switch s "") rest

def readArgument (known : List Switch) (g : Given) (arg : String) : Reading :=
  match arg.toList with
  | '-' :: '-' :: rest => readLong known g ('-' :: '-' :: rest)
  | '-' :: c :: rest => readShort known g (c :: rest)
  | _ => .done (g.operand arg)

def readAll (known : List Switch) (g : Given) : List String → Option Given
  | [] => some g
  | arg :: rest =>
    if arg = "--" then some (rest.foldl Given.operand g)
    else
      match readArgument known g arg with
      | .unknown => none
      | .done g => readAll known g rest
      | .wantsValue g s =>
        match rest with
        | [] => none
        | value :: more => readAll known (g.switch s value) more

def readCommand (known : List Switch) (args : List String) (build : String → Given → Command) :
    Option Command :=
  match readAll (helpSwitch :: known) .empty args with
  | none => none
  | some g =>
    if g.has helpSwitch then some .help
    else
      match g.operands with
      | [path] => some (build path g)
      | _ => none

def ofName (name : String) (args : List String) : Option Command :=
  match name with
  | "compile" =>
    readCommand [jsonSwitch, verboseSwitch] args fun path g =>
      .compile path (g.has jsonSwitch) (g.has verboseSwitch)
  | "blocks" => readCommand [verboseSwitch] args fun path g => .blocks path (g.has verboseSwitch)
  | "component" =>
    readCommand [resourceSwitch, verboseSwitch] args fun path g =>
      .component path (g.value? resourceSwitch) (g.has verboseSwitch)
  | _ => none

def parse? : List String → Option Command
  | "--" :: name :: args => ofName name args
  | "--help" :: _ => some .help
  | name :: args => ofName name args
  | [] => none

end TierSplit.CommandLine
