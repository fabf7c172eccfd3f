import TierSplit.Component.Resource

/-! Files of the working directory, found by relative paths. -/

namespace TierSplit.CommandLine

/-- The pieces of a path; empty ones and single dots do not count. -/
def segments (path : String) : List String :=
  ((Resource.pieces '/' path.toList).filter fun p => !p.isEmpty && p != ['.']).map String.ofList

def shownPath (path : String) : String :=
  match path.toList, segments path with
  | '/' :: _, parts => "/" ++ "/".intercalate parts
  | _, [] => "."
  | _, parts => "/".intercalate parts

def fileName (path : String) : String := (segments path).getLast?.getD ""

structure Files where
  entries : List (String × String)

namespace Files

def isDirectory (files : Files) (location : List String) : Bool :=
  location.isEmpty || files.entries.any fun e =>
    location.isPrefixOf (segments e.1) && location != segments e.1

/-- Follows the pieces of a path from a location; every piece but the last names a directory. -/
def follow (files : Files) (location : List String) : List String → Option (List String)
  | [] => some location
  | piece :: rest =>
    if files.isDirectory location then
      if piece = ".." then
        if location.isEmpty then none else follow files location.dropLast rest
      else follow files (location ++ [piece]) rest
    else none

def read? (files : Files) (path : String) : Option String :=
  match path.toList with
  | [] => none
  | '/' :: _ => none
  | cs =>
    if cs.getLast? == some '/' then none
    else
      match files.follow [] (segments path) with
      | some location => (files.entries.find? fun e => segments e.1 == location).map (·.2)
      | none => none

end Files

end TierSplit.CommandLine
