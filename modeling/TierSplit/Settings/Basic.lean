import TierSplit.Component.Load
import TierSplit.Log.Line
import TierSplit.Problem

/-! Settings and the checks that they pass. The reserved names must be identifiers, and the two
channels must differ; the latter is looked at once every field is in order. -/

namespace TierSplit

structure Settings where
  markerLabel : String
  language : String
  inputChannel : String
  outputChannel : String
  extensions : List String
  flag : String
  logLevel : String
  logFormat : Log.Format
deriving Repr, DecidableEq

namespace Settings

def default : Settings :=
  ⟨"on", "javascript", "__tierIn", "__tierOut", [".vue"], "tiers", "WARNING", .console⟩

def channels (s : Settings) : Channels := ⟨s.inputChannel, s.outputChannel⟩

def options (s : Settings) : Options := ⟨s.markerLabel, s.language, s.channels, Scope.usualRoom⟩

def selection (s : Settings) : Component.Selection := ⟨s.extensions, s.flag⟩

def isNameStart (c : Char) : Bool := c.isAlpha || c == '_' || c == '$'

def isNamePart (c : Char) : Bool := isNameStart c || c.isDigit

def isName : List Char → Bool
  | [] => false
  | c :: rest => isNameStart c && rest.all isNamePart

/-- A name, with at most one newline after it. -/
def isNameLine (cs : List Char) : Bool :=
  isName cs || (cs.getLast? == some '\n' && isName cs.dropLast)

def checkName (v : Value) : Checked String :=
  match Checked.text v with
  | .ok s =>
    if isNameLine s.toList then .ok s
    else Checked.fail (.refused ("not a JavaScript identifier: " ++ Text.quoted s))
  | .error ps => .error ps

def checkFormat : Value → Checked Log.Format
  | .str "console" => .ok .console
  | .str "json" => .ok .json
  | _ => Checked.fail (.notChoice "console" "json")

/-- Checks a field if it is given. -/
def field {α : Type} (given : Fields) (name : String) (default : α) (check : Value → Checked α) :
    Checked α :=
  match given.get? name with
  | some v => Checked.within (.field name) (check v)
  | none => .ok default

def check (given : Fields) : Checked Settings :=
  let markerLabel := field given "marker_label" default.markerLabel checkName
  let language := field given "language" default.language Checked.text
  let input := field given "input_channel" default.inputChannel checkName
  let output := field given "output_channel" default.outputChannel checkName
  let extensions := field given "component_extensions" default.extensions (Checked.list Checked.text)
  let flag := field given "component_flag" default.flag Checked.text
  let logLevel := field given "log_level" default.logLevel Checked.text
  let logFormat := field given "log_format" default.logFormat checkFormat
  match markerLabel, language, input, output, extensions, flag, logLevel, logFormat with
  | .ok markerLabel, .ok language, .ok input, .ok output, .ok extensions, .ok flag, .ok logLevel,
      .ok logFormat =>
    if input = output then
      Checked.fail (.refused "input_channel and output_channel must differ")
    else .ok ⟨markerLabel, language, input, output, extensions, flag, logLevel, logFormat⟩
  | _, _, _, _, _, _, _, _ =>
    .error (markerLabel.problems ++ language.problems ++ input.problems ++ output.problems ++
      extensions.problems ++ flag.problems ++ logLevel.problems ++ logFormat.problems)

def fieldNames : List String :=
  ["marker_label", "language", "input_channel", "output_channel", "component_extensions",
    "component_flag", "log_level", "log_format"]

def toFields (s : Settings) : Fields :=
  [("marker_label", .str s.markerLabel), ("language", .str s.language),
    ("input_channel", .str s.inputChannel), ("output_channel", .str s.outputChannel),
    ("component_extensions", .strs s.extensions), ("component_flag", .str s.flag),
    ("log_level", .str s.logLevel), ("log_format", .str s.logFormat.name)]

end Settings

end TierSplit
