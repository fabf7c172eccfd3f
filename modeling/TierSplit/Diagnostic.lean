import TierSplit.Value

/-! Diagnostics. A diagnostic is the cause of a rejection; its report carries a code, a message and
named context. A failure is a diagnostic, a lack of room for a deep program, or one of the accidents that
sound inputs do not lead to. -/

namespace TierSplit

inductive Category where
  | structural
  | placement
  | shape
  | parse
  | configuration
  | component
  | custom (code : String)
deriving Repr, DecidableEq

def Category.code : Category → String
  | .structural => "STRUCTURAL_ERROR"
  | .placement => "TIER_PLACEMENT_ERROR"
  | .shape => "MARKER_SHAPE_ERROR"
  | .parse => "SOURCE_PARSE_ERROR"
  | .configuration => "CONFIGURATION_ERROR"
  | .component => "COMPONENT_ERROR"
  | .custom code => code

def Category.name : Category → String
  | .structural => "StructuralError"
  | .placement => "TierPlacementError"
  | .shape => "MarkerShapeError"
  | .parse => "SourceParseError"
  | .configuration => "ConfigurationError"
  | .component => "ComponentError"
  | .custom _ => "TierCompilerError"

/-- The category of a name; the general one takes its code from the caller. -/
def Category.ofName? (name code : String) : Option Category :=
  [.structural, .placement, .shape, .parse, .configuration, .component, .custom code].find?
    (·.name == name)

structure Report where
  category : Category
  message : String
  context : Fields
deriving Repr

namespace Report

/-- A report, unless its context takes the name of one of its own parts. -/
def new? (category : Category) (message : String) (context : Fields) : Option Report :=
  if context.any fun e => ["self", "code", "message"].contains e.1 then none
  else some ⟨category, message, context⟩

def code (r : Report) : String := r.category.code

/-- The report on one line, code first. -/
def summary (r : Report) : String := "[" ++ r.code ++ "] " ++ r.message

def describe (r : Report) : String :=
  r.category.name ++ "(code=" ++ Text.quoted r.code ++ ", message=" ++ Text.quoted r.message ++ ", " ++
    ", ".intercalate (r.context.map fun e => e.1 ++ "=" ++ e.2.literal) ++ ")"

def details (r : Report) : String :=
  ", ".intercalate (r.context.map fun e => e.1 ++ "=" ++ e.2.display)

end Report

inductive Diagnostic where
  /-- The first statement of the module is not a marker. -/
  | unopened (label : String)
  /-- A marker stands neither in the module body nor in the body of its async function. -/
  | misplaced (offset : Int)
  /-- The innermost function around a marker is not async. -/
  | notAsync (offset functionOffset : Int)
  /-- A function was entered and never left. -/
  | unterminated (offset : Int)
  /-- No tier names follow the label. -/
  | noTiers (offset : Int)
  /-- Something other than an identifier stands among the tier names. -/
  | notIdentifier (kind : String) (offset : Int)
  | unknownTier (name : String) (offset : Int)
  | unsupportedLanguage (language : String)
  | noTree (path : String)
  | syntaxErrors (path : String) (first : Int) (others : List Int)
  | noScript (path : String)
deriving Repr, DecidableEq

def Diagnostic.report : Diagnostic → Report
  | .unopened label =>
    ⟨.structural, "Module must open with a '" ++ label ++ ":' tier marker", [("offset", .int 0)]⟩
  | .misplaced offset =>
    ⟨.structural, "Tier marker must be placed at the top of the module or of an async function body",
      [("offset", .int offset)]⟩
  | .notAsync offset functionOffset =>
    ⟨.placement, "Tier marker inside a non-async function",
      [("offset", .int offset), ("function_offset", .int functionOffset)]⟩
  | .unterminated offset =>
    ⟨.structural, "Unterminated function nesting at end of traversal", [("offset", .int offset)]⟩
  | .noTiers offset =>
    ⟨.shape, "Tier marker must be followed by tier names", [("offset", .int offset)]⟩
  | .notIdentifier kind offset =>
    ⟨.shape, "Tier marker payload must be identifiers, got " ++ kind, [("offset", .int offset)]⟩
  | .unknownTier name offset =>
    ⟨.shape, "Unknown tier " ++ Text.quoted name ++ " (expected one of: client, server)",
      [("offset", .int offset), ("tier", .str name)]⟩
  | .unsupportedLanguage language =>
    ⟨.configuration, "Language not supported: " ++ language, [("language", .str language)]⟩
  | .noTree path => ⟨.parse, "Failed to parse file: " ++ path, [("file_path", .str path)]⟩
  | .syntaxErrors path first others =>
    ⟨.parse, "Syntax error in " ++ path ++ " at byte offset " ++ intLiteral first,
      [("file_path", .str path), ("offsets", .ints (first :: others))]⟩
  | .noScript path =>
    ⟨.component, "No <script> element in " ++ path, [("resource_path", .str path)]⟩

inductive Failure where
  | diagnostic (d : Diagnostic)
  /-- More calls would be open at once than there is room for. -/
  | tooDeep
  /-- A byte range begins or ends inside a character. -/
  | cutCharacter
  /-- A tree says that it has errors, but holds none. -/
  | noErrorNode
  /-- A script element has no parts. -/
  | emptyElement
  | frozenBlock (id : Nat)
  | unfrozenBlock (id : Nat)
  /-- A position lies outside its list. -/
  | noSuchPosition
  /-- A value is not the name of a tier. -/
  | notTier (literal : String)
deriving Repr, DecidableEq

def Failure.message : Failure → String
  | .diagnostic d => d.report.summary
  | .tooDeep => "maximum recursion depth exceeded"
  | .cutCharacter => "Byte range cuts a character"
  | .noErrorNode => "Tree with errors holds no error node"
  | .emptyElement => "Script element has no parts"
  | .frozenBlock id => "Tier block " ++ Nat.repr id ++ " is frozen"
  | .unfrozenBlock id => "Tier block " ++ Nat.repr id ++ " must be frozen before generation"
  | .noSuchPosition => "Position out of range"
  | .notTier literal => literal ++ " is not a valid Tier"

def Failure.kind : Failure → String
  | .diagnostic d => d.report.category.name
  | .tooDeep => "RecursionError"
  | .cutCharacter => "UnicodeDecodeError"
  | .noErrorNode | .emptyElement | .noSuchPosition => "IndexError"
  | .frozenBlock _ | .unfrozenBlock _ => "RuntimeError"
  | .notTier _ => "ValueError"

/-- Only diagnostics have a code. -/
def Failure.code : Failure → Option String
  | .diagnostic d => some d.report.code
  | _ => none

end TierSplit
