import TierSplit.Text.Blank

/-! Environment files: lines `KEY=value`, with comments, an optional `export` and optional quotes. A
value may refer to others as `${NAME}` or `${NAME:-default}`. A line that cannot be read is passed
over. -/

namespace TierSplit.EnvFile

open Text

abbrev Binding := String × Option String

def dropExport (cs : List Char) : List Char :=
  match cs with
  | 'e' :: 'x' :: 'p' :: 'o' :: 'r' :: 't' :: c :: rest =>
    if isInnerBlank c then rest.dropWhile isInnerBlank else cs
  | _ => cs

def isKeyChar (c : Char) : Bool := c != '=' && c != '#' && !isBlank c

def key? (cs : List Char) : Option (Option String × List Char) :=
  match cs with
  | '#' :: _ => some (none, cs)
  | '\'' :: rest =>
    match rest.takeWhile (· != '\''), rest.dropWhile (· != '\'') with
    | [], _ => none
    | _, [] => none
    | name, _ :: after => some (some (String.ofList name), after)
  | _ =>
    match cs.takeWhile isKeyChar with
    | [] => none
    | name => some (some (String.ofList name), cs.dropWhile isKeyChar)

/-- The characters up to the closing quote and what follows it; a backslash and the character after
it belong together, so that a quote after a backslash does not close. -/
def quotedBody (quote : Char) : List Char → Option (List Char × List Char)
  | [] => none
  | '\\' :: c :: rest => (quotedBody quote rest).map fun r => ('\\' :: c :: r.1, r.2)
  | c :: rest =>
    if c = quote then some ([], rest)
    else if c = '\\' then none
    else (quotedBody quote rest).map fun r => (c :: r.1, r.2)

def escaped? (c : Char) : Option Char :=
  match c with
  | '\\' => some '\\'
  | '\'' => some '\''
  | '"' => some '"'
  | 'a' => some (Char.ofNat 7)
  | 'b' => some (Char.ofNat 8)
  | 'f' => some (Char.ofNat 12)
  | 'n' => some '\n'
  | 'r' => some '\r'
  | 't' => some '\t'
  | 'v' => some (Char.ofNat 11)
  | _ => none

/-- Resolves the escapes that a quote allows. -/
def unescape (allowed : Char → Bool) : List Char → List Char
  | '\\' :: c :: rest =>
    if allowed c then
      match escaped? c with
      | some e => e :: unescape allowed rest
      | none => '\\' :: unescape allowed (c :: rest)
    else '\\' :: unescape allowed (c :: rest)
  | c :: rest => c :: unescape allowed rest
  | [] => []

def cutComment : List Char → List Char
  | [] => []
  | c :: rest =>
    if isBlank c then
      match rest.dropWhile isBlank with
      | '#' :: _ => []
      | _ => c :: cutComment rest
    else c :: cutComment rest

/-- The value after an equals sign and what follows it. A quote may stand after blanks; without one
the value runs to a comment or to the end of the line. -/
def value? (cs : List Char) : Option (List Char × List Char) :=
  match cs.dropWhile isInnerBlank with
  | '\'' :: rest =>
    (quotedBody '\'' rest).map fun r => (unescape (fun c => c == '\\' || c == '\'') r.1, r.2)
  | '"' :: rest =>
    (quotedBody '"' rest).map fun r => (unescape (fun c => (escaped? c).isSome) r.1, r.2)
  | _ =>
    let part := cs.takeWhile fun c => !isLineEnd c
    some (trim (cutComment part), cs.dropWhile fun c => !isLineEnd c)

/-- After a value there may be a comment, and then the line ends. -/
def endOfLine? (cs : List Char) : Option (List Char) :=
  let rest := cs.dropWhile isInnerBlank
  let rest :=
    match rest with
    | '#' :: more => more.dropWhile fun c => !isLineEnd c
    | _ => rest
  match rest with
  | [] => some []
  | '\r' :: '\n' :: more => some more
  | c :: more => if isLineEnd c then some more else none

def binding (cs : List Char) : Except (List Char) (Option Binding × List Char) :=
  let cs := dropExport cs
  match key? cs with
  | none => .error cs
  | some (key, rest) =>
    let rest := rest.dropWhile isInnerBlank
    let valued : Except (List Char) (Option String × List Char) :=
      match rest with
      | '=' :: more =>
        match value? more with
        | some (value, after) => .ok (some (String.ofList value), after)
        | none => .error more
      | _ => .ok (none, rest)
    match valued with
    | .error place => .error place
    | .ok (value, after) =>
      match endOfLine? after with
      | some next => .ok (key.map fun k => (k, value), next)
      | none => .error after

def dropLine (cs : List Char) : List Char :=
  match cs.dropWhile fun c => !isLineEnd c with
  | _ :: rest => rest
  | [] => []

/-- All bindings of a text; every step takes at least one character. -/
def bindings : Nat → List Char → List Binding
  | 0, _ => []
  | fuel + 1, cs =>
    match cs.dropWhile isBlank with
    | [] => []
    | cs =>
      match binding cs with
      | .ok (some b, rest) => b :: bindings fuel rest
      | .ok (none, rest) => bindings fuel rest
      | .error place => bindings fuel (dropLine place)

/-- A reference after its dollar sign and brace: name, default, and the text after it. -/
def reference? (cs : List Char) : Option (String × String × List Char) :=
  let isClosing := fun c : Char => c == '\x7d'
  let name := cs.takeWhile fun c => !isClosing c && c != ':'
  match cs.dropWhile fun c => !isClosing c && c != ':' with
  | ':' :: '-' :: rest =>
    match rest.dropWhile fun c => !isClosing c with
    | _ :: after => some (String.ofList name, String.ofList (rest.takeWhile fun c => !isClosing c), after)
    | [] => none
  | c :: after => if isClosing c then some (String.ofList name, "", after) else none
  | [] => none

def expand (lookup : String → Option (Option String)) : Nat → List Char → List Char
  | 0, cs => cs
  | fuel + 1, cs =>
    match cs with
    | '$' :: '\x7b' :: rest =>
      match reference? rest with
      | some (name, default, after) =>
        let found :=
          match lookup name with
          | some value => value.getD ""
          | none => default
        found.toList ++ expand lookup fuel after
      | none => '$' :: expand lookup fuel ('\x7b' :: rest)
    | c :: rest => c :: expand lookup fuel rest
    | [] => []

def put (key : String) (value : Option String) : List Binding → List Binding
  | [] => [(key, value)]
  | b :: rest => if b.1 = key then (key, value) :: rest else b :: put key value rest

def find? (key : String) (bs : List Binding) : Option (Option String) :=
  (bs.find? (·.1 == key)).map (·.2)

/-- Resolves the values in order; a reference sees the values before it and then the environment. -/
def resolve (environment : List (String × String)) (done : List Binding) : List Binding → List Binding
  | [] => done
  | (key, none) :: rest => resolve environment (put key none done) rest
  | (key, some value) :: rest =>
    let lookup := fun name =>
      match find? name done with
      | some v => some v
      | none => (environment.find? (·.1 == name)).map fun e => some e.2
    let text := String.ofList (expand lookup (value.length + 1) value.toList)
    resolve environment (put key (some text) done) rest

def parse (environment : List (String × String)) (text : String) : List Binding :=
  let cs := unifyLines (dropMark text.toList)
  resolve environment [] (bindings (cs.length + 1) cs)

end TierSplit.EnvFile
