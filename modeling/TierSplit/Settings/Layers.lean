import TierSplit.Json.Reader
import TierSplit.Settings.Basic
import TierSplit.Settings.EnvFile

/-! The layers that settings come from: what the caller gives, then the environment, then the
environment file, then the defaults. Variables carry a common prefix and are found in any case; a
list is written as JSON. -/

namespace TierSplit.Settings

inductive Layer where
  | environment
  | file
deriving Repr, DecidableEq

inductive Fault where
  /-- The list of extensions is not JSON. -/
  | unreadable (layer : Layer)
  | invalid (problems : List Problem)
deriving Repr, DecidableEq

def Layer.name : Layer → String
  | .environment => "EnvSettingsSource"
  | .file => "DotEnvSettingsSource"

def unreadableMessage (layer : Layer) : String :=
  "error parsing value for field \"component_extensions\" from source \"" ++ layer.name ++ "\""

abbrev Variables := List (String × String)

def variableName (field : String) : String := "codegraph_tiers_" ++ field

/-- The last variable of a name, in any case; one without a value gives none. -/
def given? (entries : List EnvFile.Binding) (name : String) : Option String :=
  (entries.reverse.find? fun v => Text.lowerCase v.1 == name).bind (·.2)

def layerField (layer : Layer) (entries : List EnvFile.Binding) (name : String) :
    Except Fault (Option (String × Value)) :=
  match given? entries (variableName name) with
  | none => .ok none
  | some text =>
    if name = "component_extensions" then
      match Json.parse? text with
      | none => .error (.unreadable layer)
      | some .null => .ok none
      | some v => .ok (some (name, v))
    else .ok (some (name, .str text))

def layerFields (layer : Layer) (entries : List EnvFile.Binding) : List String → Except Fault Fields
  | [] => .ok []
  | name :: rest => do
    let first ← layerField layer entries name
    let others ← layerFields layer entries rest
    return first.toList ++ others

/-- Settings from the caller's fields, the environment and the text of the environment file. -/
def load (given : Fields) (environment : Variables) (file : Option String) : Except Fault Settings := do
  let fromEnvironment ←
    layerFields .environment (environment.map fun v => (v.1, some v.2)) fieldNames
  let fileVariables :=
    match file with
    | some text => EnvFile.parse environment text
    | none => []
  let fromFile ← layerFields .file fileVariables fieldNames
  match check (given ++ fromEnvironment ++ fromFile) with
  | .ok s => .ok s
  | .error problems => .error (.invalid problems)

end TierSplit.Settings
