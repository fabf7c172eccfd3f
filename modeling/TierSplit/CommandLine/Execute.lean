import TierSplit.CommandLine.Arguments
import TierSplit.CommandLine.Files
import TierSplit.CommandLine.Screen
import TierSplit.Settings.Layers

/-! Executing a command on the files of the working directory. -/

namespace TierSplit.CommandLine

structure World where
  files : Files
  environment : Settings.Variables
  tree : Option Concrete.Node
  documentTree : Option Concrete.Node

/-- What ends a command without a report. -/
inductive Crash where
  | settings (fault : Settings.Fault)
  | logging (fault : Log.Fault)
  | failure (failure : Failure)
  | markup

inductive Exit where
  | usage
  | shown (code : Nat) (screen : Screen)
  | crashed (crash : Crash)

def Exit.code : Exit → Nat
  | .usage => 2
  | .shown code _ => code
  | .crashed _ => 1

def noteLines? (markup : String) : Option (List Closing) :=
  (shown? markup).map fun text =>
    (printedLines text).flatMap fun line => (Text.splitLines (String.ofList line ++ "\n")).map .note

/-- A diagnostic in two notes: code and message, then its context if there is any. -/
def report (r : Report) : Exit :=
  let head := noteLines? ("[bold red]✗ " ++ r.code ++ "[/bold red] " ++ r.message)
  let context := if r.context.isEmpty then some [] else noteLines? ("[dim]" ++ r.details ++ "[/dim]")
  match head, context with
  | some lines, some others => .shown 1 (.panels [] (lines ++ others))
  | _, _ => .crashed .markup

def fail : Failure → Exit
  | .diagnostic d => report d.report
  | e => .crashed (.failure e)

/-- How a command ended, and what it logs if compiling took `elapsed` milliseconds. -/
structure Execution where
  exit : Exit
  events : Float → List Log.Event

def Execution.quiet (exit : Exit) : Execution := ⟨exit, fun _ => []⟩

def compileFile (world : World) (settings : Settings) (path text : String) (view : Result → Exit) :
    Execution :=
  let run := Compiler.compile settings.options (shownPath path) (Text.unifyLineEnds text) world.tree
  match run.outcome with
  | .ok s => ⟨view s.result, run.events⟩
  | .error e => ⟨fail e, run.events⟩

def showFragments (asJson : Bool) (r : Result) : Exit :=
  if asJson then .shown 0 (.exact (outputText r.server)) else .shown 0 (fragmentPanels r.server)

def showBlocks (path : String) (r : Result) : Exit :=
  match shown? ("Tier blocks: " ++ fileName path) with
  | some title => .shown 0 (blockTable title r.blocks)
  | none => .crashed .markup

def defaultResource (path flag : String) : String := path ++ "?" ++ flag ++ "=true"

def resourceOf (path flag : String) : Option String → String
  | some "" => defaultResource path flag
  | some resource => resource
  | none => defaultResource path flag

def showLoaded : Component.Loaded → Exit
  | .passthrough => .shown 0 (.panels [] [.note "passthrough"])
  | .compiled _ s => .shown 0 (.exact (outputText s.result.server))

def loadComponent (world : World) (settings : Settings) (path text : String)
    (resource : Option String) : Execution :=
  let loaded := Component.load settings.options settings.selection (Text.unifyLineEnds text)
    (resourceOf (shownPath path) settings.flag resource) ⟨world.documentTree, world.tree⟩
  match loaded.outcome with
  | .ok result => ⟨showLoaded result, loaded.events⟩
  | .error e => ⟨fail e, loaded.events⟩

def Command.path? : Command → Option String
  | .compile path _ _ | .blocks path _ | .component path _ _ => some path
  | .help => none

def Command.isVerbose : Command → Bool
  | .compile _ _ verbose | .blocks _ verbose | .component _ _ verbose => verbose
  | .help => false

def executeOn (world : World) (settings : Settings) (text : String) : Command → Execution
  | .compile path asJson _ => compileFile world settings path text (showFragments asJson)
  | .blocks path _ => compileFile world settings path text (showBlocks path)
  | .component path resource _ => loadComponent world settings path text resource
  | .help => .quiet (.shown 0 (.exact ""))

def settingsOf (world : World) : Except Settings.Fault Settings :=
  Settings.load [] world.environment (world.files.read? ".env")

def logLevel (command : Command) (settings : Settings) : String :=
  if command.isVerbose then "DEBUG" else settings.logLevel

/-- A command whose path names no file is refused before the settings are looked at. -/
def executeCommand (world : World) (command : Command) : Execution :=
  match command.path? with
  | none => .quiet (.shown 0 (.exact ""))
  | some path =>
    match world.files.read? path with
    | none => .quiet .usage
    | some text =>
      match settingsOf world with
      | .error fault => .quiet (.crashed (.settings fault))
      | .ok settings =>
        match Log.threshold (logLevel command settings) with
        | .error fault => .quiet (.crashed (.logging fault))
        | .ok _ => executeOn world settings text command

def execute (world : World) (args : List String) : Execution :=
  match parse? args with
  | some command => executeCommand world command
  | none => .quiet .usage

def logLines (world : World) (args : List String) (elapsed : Float) : List String :=
  match parse? args, settingsOf world with
  | some command, .ok settings =>
    match Log.lines (logLevel command settings) settings.logFormat "tiersplit"
        ((execute world args).events elapsed) with
    | .ok lines => lines
    | .error fault => [fault.message]
  | _, _ => []

end TierSplit.CommandLine
