/-
EgressPolicy/Files/Basic.lean

What can be wrong with a file that is to be read as text.
-/
namespace EgressPolicy

/-- Why a file gives no text. -/
inductive FileFault where
  /-- There is no such file. -/
  | missing
  /-- A name on the way to the file is not that of a directory. -/
  | notDirectory
  /-- The name is that of a directory. -/
  | isDirectory
  /-- The file may not be read. -/
  | forbidden
  /-- A name on the way to the file is longer than any file's. -/
  | nameTooLong
  /-- The path has a NUL character in it. -/
  | nulInPath
  /-- The bytes are not UTF-8. -/
  | notUtf8
deriving DecidableEq

/-- The wording of the fault. -/
def FileFault.message : FileFault → String
  | missing => "No such file or directory (os error 2)"
  | notDirectory => "Not a directory (os error 20)"
  | isDirectory => "Is a directory (os error 21)"
  | forbidden => "Permission denied (os error 13)"
  | nameTooLong => "File name too long (os error 36)"
  | nulInPath => "file name contained an unexpected NUL byte"
  | notUtf8 => "stream did not contain valid UTF-8"

/-- The bytes of a file, or why there are none. -/
abbrev FileContent := Except FileFault ByteArray

/-- The text of a file. -/
def FileContent.text (content : FileContent) : Except FileFault String :=
  match content with
  | .error fault => .error fault
  | .ok bytes =>
    match String.fromUTF8? bytes with
    | some s => .ok s
    | none => .error .notUtf8

end EgressPolicy
