import TierSplit.Scope.Outline
import TierSplit.Proofs.Ancestry

/-! The scope rules, construct by construct, with no name resolved and no scope created. A site
either is evaluated or is bound as a pattern. The rule of a construct says what the site adds to the
scope around it: its uses and bindings and the scopes it opens, in visiting order. -/

namespace TierSplit.Scope

open Syntax

abbrev Below (s : Site) := {t : Site // sizeOf t.node < sizeOf s.node}

namespace Below

def parts (s : Site) : List (Below s) :=
  s.children.attach.map fun t =>
    ⟨t.1, Node.sizeOf_lt_of_mem_children (Site.node_mem_of_mem_children t.2)⟩

def nested {s : Site} (t : Below s) : List (Below s) :=
  (parts t.1).map fun u => ⟨u.1, Nat.lt_trans u.2 t.2⟩

def inField (field : String) {s : Site} (t : Below s) : Bool := t.1.node.inField field

/-- The first of the parts in a field, as a list of at most one. -/
def first (field : String) {s : Site} (ts : List (Below s)) : List (Below s) :=
  (ts.find? (inField field)).toList

/-- All the parts but the first one in a field. -/
def others (field : String) {s : Site} (ts : List (Below s)) : List (Below s) :=
  ts.eraseP (inField field)

end Below

/-- The identifier in a field of a site, if the first part in that field is one. -/
def nameIn (field : String) (s : Site) : List Occurrence :=
  (((s.children.find? (·.node.inField field))).bind Site.occurrence?).toList

def declarationKinds : List String := ["function_declaration", "generator_function_declaration"]

def expressionKinds : List String := ["function_expression", "function", "generator_function"]

/-- The bindings of one node of an import statement: the alias of a specifier, or else its name; the
identifiers of a clause. -/
def importBindings (s : Site) : List Item :=
  if s.node.kind = "import_specifier" then
    if s.children.any (·.node.inField "alias") then (nameIn "alias" s).map (.bind true)
    else (nameIn "name" s).map (.bind true)
  else if s.node.kind = "import_clause" ∨ s.node.kind = "namespace_import" then
    (s.children.filterMap Site.occurrence?).map (.bind true)
  else []

section

variable (s : Site) (evaluate : Below s → List Item) (bind : Bool → Below s → List Item)

/-- The parameters and the body share the scope of the function. A declaration binds its name
around that scope, an expression inside it; the name of a method is evaluated around it. -/
def functionRule : List Item :=
  (if s.node.kind ∈ declarationKinds then (nameIn "name" s).map (.bind false) else []) ++
    (if s.node.kind = "method_definition" then
      (Below.first "name" (Below.parts s)).flatMap evaluate else []) ++
    [.scope .function
      ((if s.node.kind ∈ expressionKinds then (nameIn "name" s).map (.bind false) else []) ++
        (Below.first "parameter" (Below.parts s)).flatMap (bind false) ++
        ((Below.first "parameters" (Below.parts s)).flatMap Below.nested).flatMap (bind false) ++
        (Below.first "body" (Below.parts s)).flatMap fun body =>
          if body.1.node.kind = "statement_block" then body.nested.flatMap evaluate
          else evaluate body)]

/-- A declaration binds its name around the class; any other named class has a scope that holds the
name. -/
def classRule : List Item :=
  let name := (nameIn "name" s).map (.bind false)
  let rest := (Below.others "name" (Below.parts s)).flatMap evaluate
  if s.node.kind = "class_declaration" ∨ name = [] then name ++ rest
  else [.scope .classBody (name ++ rest)]

def variablesRule (hoisted : Bool) : List Item :=
  ((Below.parts s).filter (·.1.node.kind = "variable_declarator")).flatMap fun declarator =>
    (Below.first "name" declarator.nested).flatMap (bind hoisted) ++
      (Below.first "value" declarator.nested).flatMap evaluate

/-- The keyword of the head tells how the head binds; without one it is evaluated. -/
def forInRule : List Item :=
  let head :=
    if "var" ∈ s.node.keywords then bind true
    else if "let" ∈ s.node.keywords ∨ "const" ∈ s.node.keywords then bind false
    else evaluate
  [.scope .loop
    ((Below.first "left" (Below.parts s)).flatMap head ++
      (Below.others "left" (Below.parts s)).flatMap evaluate)]

def catchRule : List Item :=
  [.scope .handler
    ((Below.first "parameter" (Below.parts s)).flatMap (bind false) ++
      (Below.others "parameter" (Below.parts s)).flatMap evaluate)]

/-- The names in the clause of an export are uses, unless the statement has a source. -/
def exportRule : List Item :=
  (Below.parts s).flatMap fun t =>
    if t.1.node.kind = "export_clause" then
      if (Below.parts s).any (Below.inField "source") then []
      else t.nested.flatMap fun specifier => (nameIn "name" specifier.1).map .use
    else if Below.inField "source" t then []
    else evaluate t

def evaluationRule : List Item :=
  if s.node.isIdentifier then s.occurrence?.toList.map .use
  else if s.node.isFunction then functionRule s evaluate bind
  else
    match s.node.kind with
    | "class_declaration" | "class" => classRule s evaluate
    | "variable_declaration" => variablesRule s evaluate bind true
    | "lexical_declaration" => variablesRule s evaluate bind false
    | "statement_block" | "switch_body" => [.scope .block ((Below.parts s).flatMap evaluate)]
    | "for_statement" => [.scope .loop ((Below.parts s).flatMap evaluate)]
    | "for_in_statement" => forInRule s evaluate bind
    | "catch_clause" => catchRule s evaluate bind
    | "import_statement" => (s.node.sites s.path).flatMap importBindings
    | "export_statement" => exportRule s evaluate
    | _ => (Below.parts s).flatMap evaluate

/-- What binding a site as a pattern adds: identifiers are bound, keys and default values are
evaluated, and so is what is no pattern. -/
def patternRule (hoisted : Bool) : List Item :=
  if s.node.isIdentifier then s.occurrence?.toList.map (.bind hoisted)
  else
    match s.node.kind with
    | "object_pattern" | "array_pattern" | "rest_pattern" =>
      (Below.parts s).flatMap (bind hoisted)
    | "pair_pattern" =>
      (Below.first "key" (Below.parts s)).flatMap evaluate ++
        (Below.first "value" (Below.parts s)).flatMap (bind hoisted)
    | "assignment_pattern" | "object_assignment_pattern" =>
      (Below.first "left" (Below.parts s)).flatMap (bind hoisted) ++
        (Below.first "right" (Below.parts s)).flatMap evaluate
    | _ => evaluationRule s evaluate bind

end

mutual

def evaluated (s : Site) : List Item :=
  evaluationRule s (fun t => evaluated t.1) fun hoisted t => bound hoisted t.1
termination_by sizeOf s.node
decreasing_by all_goals exact t.2

def bound (hoisted : Bool) (s : Site) : List Item :=
  patternRule s (fun t => evaluated t.1) (fun h t => bound h t.1) hoisted
termination_by sizeOf s.node
decreasing_by all_goals exact t.2

end

def moduleItems (program : Node) : List Item := (Site.root program).children.flatMap evaluated

end TierSplit.Scope
