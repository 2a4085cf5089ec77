/-
Texts that are found by path.

* `Files`: the text at each path, or why there is none;
* `Folder.files`: the files of a flat folder;
* `pathExtension?`: the extension of the last name of a path.
-/
import RecordRules.Keyed
import RecordRules.Text.CodeTable

namespace RecordRules

/-- Why no text is found at a path. -/
inductive FileFault where
  /-- Nothing is there. -/
  | missing
  /-- A name in the middle of the path is that of a file. -/
  | insideFile
  /-- The path leads to a folder. -/
  | isFolder
  /-- The file holds no text. -/
  | notText
  /-- The system refuses to read the file. -/
  | refused (reason : String)
  deriving DecidableEq, Repr

/-- A file fault in words. -/
def FileFault.message : FileFault → String
  | missing => "No such file or directory (os error 2)"
  | insideFile => "Not a directory (os error 20)"
  | isFolder => "Is a directory (os error 21)"
  | notText => "stream did not contain valid UTF-8"
  | refused reason => reason

/-- The text at each path. -/
abbrev Files := String → Except FileFault String

/-! ### Paths -/

/-- The names of a path, which slashes separate. -/
def pathNames (path : String) : List (List Char) := splitChars '/' path.toList

/-- The names of a path that lead somewhere: empty ones and single dots do not. -/
def pathSteps (path : String) : List String :=
  ((pathNames path).filter fun name => name ≠ [] ∧ name ≠ ['.']).map String.ofList

/-- What follows the last dot of the last name. A dot at its beginning does not
count. -/
def pathExtension? (path : String) : Option String :=
  (pathSteps path).getLast?.bind fun name =>
    let extension := (name.toList.reverse.takeWhile (· ≠ '.')).reverse
    if extension.length + 1 < name.length then some (String.ofList extension) else none

/-! ### Folders -/

/-- Texts by their names. -/
structure Folder where
  texts : Keyed String

/-- The files of a folder, for paths that start in it. -/
def Folder.files (folder : Folder) : Files := fun path =>
  if path = "" ∨ path.toList.head? = some '/' then .error .missing
  else
    match pathSteps path with
    | [] => .error .isFolder
    | name :: rest =>
      match folder.texts.get? name with
      | none => .error .missing
      | some text =>
        if rest = [] ∧ (pathNames path).getLast? = some name.toList then .ok text else .error .insideFile

end RecordRules
