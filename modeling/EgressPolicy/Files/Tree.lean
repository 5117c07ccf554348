/-
EgressPolicy/Files/Tree.lean

Files that are kept in memory.

A tree holds files by the names that lead to each from the top directory,
and the directories are those that these names pass through.  Reading follows
a path name by name; single dots stay and double dots go up.  Above the top,
and at the root that absolute paths start from, there are directories without
files.  A name has at most 255 bytes, and a path less than 4096.
-/
import EgressPolicy.Files.Path
import EgressPolicy.Files.Basic

namespace EgressPolicy

/-- Files, each with the names that lead to it from the top. -/
structure FileTree where
  files : List (List (List Char) × ByteArray)

namespace FileTree

/-- The tree of files that are given with their paths. -/
def ofFiles (files : List (String × ByteArray)) : FileTree :=
  ⟨files.map fun (path, bytes) => (path.toList.splitOn '/', bytes)⟩

/-- There is a directory at the end of these names. -/
def hasDirectory (t : FileTree) (names : List (List Char)) : Bool :=
  names.isEmpty || t.files.any fun (file, _) => names.length < file.length && names.isPrefixOf file

/-- What a path leads to that goes on from a directory outside the tree. -/
def outside (pieces : List (List Char)) : FileContent :=
  if pieces.all fun piece => Path.isIdle piece || piece = ['.', '.'] then .error .isDirectory
  else .error .missing

/-- How many bytes the name takes up. -/
def sizeOf (name : List Char) : Nat := (String.ofList name).utf8ByteSize

/-- What a path leads to that goes on from the directory `here`. -/
def follow (t : FileTree) (here : List (List Char)) : List (List Char) → FileContent
  | [] => .error .isDirectory
  | piece :: rest =>
    if Path.isIdle piece then follow t here rest
    else if piece = ['.', '.'] then
      if here = [] then outside rest else follow t here.dropLast rest
    else if 255 < sizeOf piece then .error .nameTooLong
    else if t.hasDirectory (here ++ [piece]) then follow t (here ++ [piece]) rest
    else
      match t.files.lookup (here ++ [piece]) with
      | some bytes => if rest = [] then .ok bytes else .error .notDirectory
      | none => .error .missing

/-- The content of the file at a path. -/
def read (t : FileTree) (path : String) : FileContent :=
  if path.toList.contains '\x00' then .error .nulInPath
  else if 4096 ≤ path.utf8ByteSize then .error .nameTooLong
  else
    match path.toList.splitOn '/' with
    | [[]] => .error .missing
    | [] :: rest => outside rest
    | pieces => t.follow [] pieces

end FileTree
end EgressPolicy
