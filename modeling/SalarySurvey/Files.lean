import SalarySurvey.Text.Utf8

/-!
# Files

Reading files by path, and why it may fail. `FileTree` is a snapshot of a file system, in which a
path is walked component by component, from the root if it begins with a slash and else from the
working folder: empty components and single dots stand still, two dots go up, except at the root,
and a path that goes on behind a file fails.
-/
namespace SalarySurvey

/-- Why a file cannot be read. -/
inductive FileError where
  /-- Nothing has the path. -/
  | notFound
  /-- The path is that of a folder. -/
  | isFolder
  /-- The path goes on behind a file. -/
  | notFolder
  /-- The path or one of its components is too long. -/
  | nameTooLong
  /-- The path has a NUL character. -/
  | nulInPath
  /-- The bytes are not a text. -/
  | notText
  /-- Any other reason, in the words of the system. -/
  | other (reason : String)
  deriving DecidableEq

/-- The words of the system for an error. -/
def FileError.message : FileError → String
  | notFound => "No such file or directory (os error 2)"
  | isFolder => "Is a directory (os error 21)"
  | notFolder => "Not a directory (os error 20)"
  | nameTooLong => "File name too long (os error 36)"
  | nulInPath => "file name contained an unexpected NUL byte"
  | notText => "stream did not contain valid UTF-8"
  | other reason => reason

/-- What a path leads to. -/
inductive FileEntry where
  /-- A file with its bytes. -/
  | file (bytes : List UInt8)
  /-- A folder. -/
  | folder

/-- The bytes of a file. A folder can be opened but not read. -/
def FileEntry.bytes : FileEntry → Except FileError (List UInt8)
  | file bytes => .ok bytes
  | folder => .error .isFolder

/-- The text of a file. -/
def FileEntry.text (entry : FileEntry) : Except FileError String := do
  match Text.Utf8.decode (← entry.bytes) with
  | .ok text => .ok (String.ofList text)
  | .error _ => .error .notText

/-- The components of a path. -/
abbrev Path := List String

/-- The components of a path, empty ones included. -/
def Path.ofText (text : String) : Path :=
  (text.toList.splitOn '/').map String.ofList

/-- The components that lead somewhere else: all but empty ones and single dots. -/
def Path.names (path : Path) : Path :=
  path.filter fun name => name ≠ "" ∧ name ≠ "."

/-- Where a component leads from a folder. -/
def Path.next (place : Path) (name : String) : Except FileError Path :=
  if name = "" ∨ name = "." then .ok place
  else if name = ".." then .ok place.dropLast
  else if 255 < name.utf8ByteSize then .error .nameTooLong
  else .ok (place ++ [name])

/-- A snapshot of a file system. -/
structure FileTree where
  /-- The files, each with its path from the root and its bytes. -/
  files : List (Path × List UInt8)
  /-- Paths from the root to folders. The folders that lead to a file need not be among them. -/
  folders : List Path
  /-- The path from the root to the working folder. -/
  working : Path

namespace FileTree

/-- The path from the root for a path from the working folder that does not go up. -/
def below (tree : FileTree) (path : String) : Path :=
  tree.working ++ (Path.ofText path).names

/-- The tree with one more file, given by a path from the working folder that does not go up. -/
def withFile (tree : FileTree) (path : String) (bytes : List UInt8) : FileTree :=
  { tree with files := tree.files ++ [(tree.below path, bytes)] }

/-- Whether there is a folder at a path from the root. -/
def isFolder (tree : FileTree) (path : Path) : Bool :=
  path.isEmpty ||
    (tree.working :: tree.folders ++ tree.files.map Prod.fst).any fun name => path.isPrefixOf name

/-- What is at a path from the root without empty components and dots. -/
def lookup? (tree : FileTree) (path : Path) : Option FileEntry :=
  match tree.files.find? (·.1 == path) with
  | some (_, bytes) => some (.file bytes)
  | none => if tree.isFolder path then some .folder else none

/-- Where a path leads from a place. -/
def walk (tree : FileTree) (place : Path) : Path → Except FileError FileEntry
  | [] =>
    match tree.lookup? place with
    | some entry => .ok entry
    | none => .error .notFound
  | name :: rest =>
    match tree.lookup? place with
    | none => .error .notFound
    | some (.file _) => .error .notFolder
    | some .folder => (place.next name).bind fun next => tree.walk next rest

/-- What a path leads to. -/
def find (tree : FileTree) (path : String) : Except FileError FileEntry :=
  if path.toList.contains '\x00' then .error .nulInPath
  else if path = "" then .error .notFound
  else if 4096 ≤ path.utf8ByteSize then .error .nameTooLong
  else
    let place := if path.toList.head? = some '/' then [] else tree.working
    tree.walk place (Path.ofText path)

end FileTree

end SalarySurvey
