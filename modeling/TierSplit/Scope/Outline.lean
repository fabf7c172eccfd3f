import TierSplit.Scope.Store
import TierSplit.Syntax.Node

/-! The outline of a program: what it uses and binds, scope by scope, before any name is resolved.

Every node is visited with a duty. A plan says, from the node and its direct children alone, which
children get which duty and in which order, and which of them lie in a new scope. The outline
follows the plans. -/

namespace TierSplit.Scope

open Syntax

inductive Item where
  | use (o : Occurrence)
  /-- A hoisted binding lands in the nearest function or module scope. -/
  | bind (hoisted : Bool) (o : Occurrence)
  | scope (kind : Kind) (items : List Item)
deriving Repr

inductive Duty where
  /-- Evaluate. -/
  | visit
  /-- Bind the names of a pattern. -/
  | pattern (hoisted : Bool)
  /-- Bind the names of every child as patterns. -/
  | parameters
  /-- Evaluate a function body in the function's own scope. -/
  | body
  | declarator (hoisted : Bool)
  | exportClause
  | exportSpecifier
  /-- Bind what an import statement brings in. -/
  | imported
deriving Repr, DecidableEq

abbrev Step := Nat × Duty

/-- What to do at a node: it is itself used or bound, or some children are followed, the inner ones
in a new scope. -/
inductive Plan where
  | use
  | bind (hoisted : Bool)
  | follow (outer : List Step)
  | enclose (outer : List Step) (kind : Kind) (inner : List Step)
deriving Repr, DecidableEq

namespace Plan

def steps : Plan → List Step
  | .use | .bind _ => []
  | .follow outer => outer
  | .enclose outer _ inner => outer ++ inner

/-- The same duty for every child from index `i` on. -/
def allFrom (duty : Duty) (i : Nat) : List Node → List Step
  | [] => []
  | _ :: rest => (i, duty) :: allFrom duty (i + 1) rest

def all (duty : Duty) (n : Node) : List Step := allFrom duty 0 n.children

def filterFrom (test : Node → Bool) (duty : Duty) (i : Nat) : List Node → List Step
  | [] => []
  | c :: rest =>
    if test c then (i, duty) :: filterFrom test duty (i + 1) rest
    else filterFrom test duty (i + 1) rest

def filter (test : Node → Bool) (duty : Duty) (n : Node) : List Step :=
  filterFrom test duty 0 n.children

def inField (field : String) (duty : Duty) (n : Node) : List Step :=
  match n.fieldIndex? field with
  | some i => [(i, duty)]
  | none => []

def nameIn (field : String) (hoisted : Bool) (n : Node) : List Step :=
  match n.child? field with
  | some c => if c.isIdentifier then inField field (.pattern hoisted) n else []
  | none => []

def others (field : String) (duty : Duty) (n : Node) : List Step :=
  match n.fieldIndex? field with
  | some i => (all duty n).filter (·.1 != i)
  | none => all duty n

def isFunctionDeclaration (kind : String) : Bool :=
  kind == "function_declaration" || kind == "generator_function_declaration"

def isFunctionExpression (kind : String) : Bool :=
  kind == "function_expression" || kind == "function" || kind == "generator_function"

/-- A function binds its name outside if it is a declaration and inside if it is an expression. The
name of a method is evaluated outside. Parameters and body share one scope. -/
def function (n : Node) : Plan :=
  .enclose
    ((if isFunctionDeclaration n.kind then nameIn "name" false n else []) ++
      (if n.kind == "method_definition" then inField "name" .visit n else []))
    .function
    ((if isFunctionExpression n.kind then nameIn "name" false n else []) ++
      inField "parameter" (.pattern false) n ++ inField "parameters" .parameters n ++
      inField "body" .body n)

/-- A class declaration binds its name outside; a named class expression has a scope of its own. -/
def classLike (n : Node) : Plan :=
  if n.kind == "class_declaration" then .follow (nameIn "name" false n ++ others "name" .visit n)
  else
    match nameIn "name" false n with
    | [] => .follow (others "name" .visit n)
    | name => .enclose [] .classBody (name ++ others "name" .visit n)

def forIn (n : Node) : Plan :=
  let duty :=
    if "var" ∈ n.keywords then .pattern true
    else if "let" ∈ n.keywords ∨ "const" ∈ n.keywords then .pattern false
    else .visit
  .enclose [] .loop (inField "left" duty n ++ others "left" .visit n)

/-- The clause of a statement with a source names what another module holds, and is not followed; nor
is the source. -/
def exportStep (reexport : Bool) (n : Node) (s : Step) : Option Step :=
  match n.children[s.1]? with
  | some c =>
    if c.kind == "export_clause" then if reexport then none else some (s.1, .exportClause)
    else if c.inField "source" then none
    else some s
  | none => none

def exported (n : Node) : Plan :=
  let reexport := (n.fieldIndex? "source").isSome
  .follow ((all .visit n).filterMap (exportStep reexport n))

def visit (n : Node) : Plan :=
  if n.isIdentifier then .use
  else if n.isFunction then function n
  else if n.kind == "class_declaration" || n.kind == "class" then classLike n
  else if n.kind == "variable_declaration" then
    .follow (filter (·.kind == "variable_declarator") (.declarator true) n)
  else if n.kind == "lexical_declaration" then
    .follow (filter (·.kind == "variable_declarator") (.declarator false) n)
  else if n.kind == "statement_block" || n.kind == "switch_body" then .enclose [] .block (all .visit n)
  else if n.kind == "for_statement" then .enclose [] .loop (all .visit n)
  else if n.kind == "for_in_statement" then forIn n
  else if n.kind == "catch_clause" then
    .enclose [] .handler (inField "parameter" (.pattern false) n ++ others "parameter" .visit n)
  else if n.kind == "import_statement" then .follow (all .imported n)
  else if n.kind == "export_statement" then exported n
  else .follow (all .visit n)

/-- A pattern binds its identifiers; keys and default values in it are evaluated. -/
def pattern (hoisted : Bool) (n : Node) : Plan :=
  if n.isIdentifier then .bind hoisted
  else if n.kind == "object_pattern" || n.kind == "array_pattern" || n.kind == "rest_pattern" then
    .follow (all (.pattern hoisted) n)
  else if n.kind == "pair_pattern" then
    .follow (inField "key" .visit n ++ inField "value" (.pattern hoisted) n)
  else if n.kind == "assignment_pattern" || n.kind == "object_assignment_pattern" then
    .follow (inField "left" (.pattern hoisted) n ++ inField "right" .visit n)
  else visit n

/-- A specifier binds its alias, or else its name; a clause binds its identifiers. -/
def imported (n : Node) : Plan :=
  let names :=
    if n.kind == "import_specifier" then
      match n.child? "alias" with
      | some _ => nameIn "alias" true n
      | none => nameIn "name" true n
    else if n.kind == "import_clause" || n.kind == "namespace_import" then
      filter (·.isIdentifier) (.pattern true) n
    else []
  .follow (names ++ all .imported n)

def exportSpecifier (n : Node) : Plan :=
  match n.child? "name" with
  | some c => if c.isIdentifier then .follow (inField "name" .visit n) else .follow []
  | none => .follow []

def of (duty : Duty) (n : Node) : Plan :=
  match duty with
  | .visit => visit n
  | .pattern hoisted => pattern hoisted n
  | .parameters => .follow (all (.pattern false) n)
  | .body => if n.kind == "statement_block" then .follow (all .visit n) else visit n
  | .declarator hoisted =>
    .follow (inField "name" (.pattern hoisted) n ++ inField "value" .visit n)
  | .exportClause => .follow (all .exportSpecifier n)
  | .exportSpecifier => exportSpecifier n
  | .imported => imported n

end Plan

abbrev Contribution := Duty → Path → List Item

def followSteps (children : List Contribution) (path : Path) (steps : List Step) : List Item :=
  steps.flatMap fun s =>
    match children[s.1]? with
    | some contribute => contribute s.2 (s.1 :: path)
    | none => []

def occurrenceItems (f : Occurrence → Item) (n : Node) (path : Path) : List Item :=
  match (Site.mk path n).occurrence? with
  | some o => [f o]
  | none => []

def Plan.items (plan : Plan) (n : Node) (children : List Contribution) (path : Path) : List Item :=
  match plan with
  | .use => occurrenceItems .use n path
  | .bind hoisted => occurrenceItems (.bind hoisted) n path
  | .follow outer => followSteps children path outer
  | .enclose outer kind inner =>
    followSteps children path outer ++ [.scope kind (followSteps children path inner)]

mutual

def contribution : Node → Contribution
  | ⟨role, kind, start, stop, field, keywords, children⟩ => fun duty path =>
    let n : Node := ⟨role, kind, start, stop, field, keywords, children⟩
    (Plan.of duty n).items n (contributions children) path

def contributions : List Node → List Contribution
  | [] => []
  | c :: rest => contribution c :: contributions rest

end

/-- The outline of a module; its root is not evaluated itself. -/
def outline (program : Node) : List Item :=
  followSteps (contributions program.children) [] (Plan.all .visit program)

end TierSplit.Scope
