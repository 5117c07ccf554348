/-
EgressPolicy/Files/Path.lean

Paths, which are texts whose names are separated by slashes.

A path that starts with a slash is absolute, any other one is relative.  The
parent of a path is what stands in front of its last name.  Repeated slashes
and single dots are no names, except for a single dot at the start of a
relative path; so `a/./b`, `a//b` and `a/b/` all have the parent `a`.
-/
namespace EgressPolicy.Path

/-- The path does not start at the root. -/
def isRelative (path : String) : Bool := path.toList.head? != some '/'

/-- The piece between two slashes is no name. -/
def isIdle (piece : List Char) : Bool := piece = [] || piece = ['.']

/-- The pieces without those at the end that are no names. -/
def dropIdle (pieces : List (List Char)) : List (List Char) :=
  (pieces.reverse.dropWhile isIdle).reverse

/-- The path of the pieces. -/
def ofPieces (pieces : List (List Char)) : String :=
  String.ofList (['/'].intercalate pieces)

/-- What stands in front of the last name; the root has no parent, nor has
the empty path. -/
def parent? (path : String) : Option String :=
  match path.toList.splitOn '/' with
  | [] => none
  | [] :: rest =>
    match dropIdle rest with
    | [] => none
    | names =>
      match dropIdle names.dropLast with
      | [] => some "/"
      | above => some (ofPieces ([] :: above))
  | first :: rest =>
    match dropIdle rest with
    | [] => some ""
    | names => some (ofPieces (first :: dropIdle names.dropLast))

example : ["a/./b", "a//b", "a/b/"].map parent? = List.replicate 3 (some "a") := by
  decide +kernel

example : ["", "/", "b", "./b", "/b"].map parent? = [none, none, some "", some ".", some "/"] := by
  decide +kernel

/-- A relative path, as seen from the directory `base`. -/
def join (base path : String) : String :=
  if base = "" ∨ base.toList.getLast? = some '/' then base ++ path else base ++ "/" ++ path

@[simp] theorem join_empty (path : String) : join "" path = path := by simp [join]

/-- The path as seen from `base`, if there is one; absolute paths stay. -/
def rebase (base : Option String) (path : String) : String :=
  match base with
  | some base => if isRelative path then join base path else path
  | none => path

theorem rebase_of_absolute {path : String} (h : isRelative path = false) (base : Option String) :
    rebase base path = path := by
  cases base <;> simp [rebase, h]

end EgressPolicy.Path
