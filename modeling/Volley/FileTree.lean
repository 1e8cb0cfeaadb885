import Volley.Assoc
import Volley.FileTree.Path
import Volley.Text.Quoted

/-!
# File trees

The files that a command sees: folders, text files and scenario files. A path is followed component
by component from the current folder or the root; a double dot leads to the parent of a folder that
exists. A path that is too long, or comes to a component that is, leads nowhere.

## Main definitions

- `FileTree`, `FileTree.Entry`.
- `FileTree.locate`, `FileTree.entry?`, `FileTree.isFile`.
- `FileTree.put`: adds a file and its folders.
- `FileTree.makeFolders`, `FileTree.write`: what a program does to write a file; `FileError` says
  why it cannot.
-/

namespace Volley

/-- Why a file cannot be written. -/
inductive FileError where
  | alreadyThere (path : String)
  | notFolder (path : String)
  | isFolder (path : String)
  | nameTooLong (path : String)
  | nullInPath
  deriving DecidableEq, Repr

namespace FileError

def message : FileError → String
  | alreadyThere path => "[Errno 17] File exists: " ++ Text.quoted path
  | notFolder path => "[Errno 20] Not a directory: " ++ Text.quoted path
  | isFolder path => "[Errno 21] Is a directory: " ++ Text.quoted path
  | nameTooLong path => "[Errno 36] File name too long: " ++ Text.quoted path
  | nullInPath => "embedded null byte"

end FileError

/-- What stands at a place of a file tree; scenario files hold an `α`. -/
inductive FileTree.Entry (α : Type) where
  | folder
  | text (content : String)
  | scenarios (content : α)

/-- A file tree: places, as the components that lead to them, and what stands there. Places below
the root start with a slash of their own. The current folder, those above it and the root are not
listed. -/
structure FileTree (α : Type) where
  entries : Assoc (List String) (FileTree.Entry α) := []

namespace FileTree

variable {α : Type}

/-- The result of following a path. -/
inductive Location where
  /-- The path leads to this place, whether or not something stands there. -/
  | place (parts : List String)
  | missing
  | blocked
  | tooLong
  deriving DecidableEq, Repr

def root : List String := ["/"]

/-- Whether a place is the current folder or one above it. -/
def isOutside (place : List String) : Bool :=
  place.all (· == "..")

/-- What stands at a place; the root, the current folder and those above it are folders. -/
def at? (t : FileTree α) (place : List String) : Option (Entry α) :=
  if isOutside place || place == root then some .folder else t.entries.find? place

/-- The parent of a folder; that of the root is the root itself. -/
def parentPlace (place : List String) : List String :=
  if place = root then root
  else if isOutside place then place ++ [".."]
  else place.dropLast

def origin (p : Path) : List String :=
  if p.rooted then root else []

def follow (t : FileTree α) (place : List String) : List String → Location
  | [] => .place place
  | part :: rest =>
    match t.at? place with
    | none => .missing
    | some .folder =>
      -- The length of a component is looked at only inside a folder.
      if Path.maxComponentBytes < part.utf8ByteSize then .tooLong
      else follow t (if part = ".." then parentPlace place else place ++ [part]) rest
    -- A file is on the way.
    | some _ => .blocked

def locate (t : FileTree α) (p : Path) : Location :=
  if p.isTooLong then .tooLong else t.follow (origin p) p.parts

def entry? (t : FileTree α) (p : Path) : Option (Entry α) :=
  match t.locate p with
  | .place place => t.at? place
  | _ => none

def isFile (t : FileTree α) (p : Path) : Bool :=
  match t.entry? p with
  | some (.text _) => true
  | some (.scenarios _) => true
  | _ => false

def textAt? (t : FileTree α) (p : Path) : Option String :=
  match t.entry? p with
  | some (.text content) => some content
  | _ => none

def setEntry (t : FileTree α) (place : List String) (entry : Entry α) : FileTree α :=
  { entries := t.entries.set place entry }

/-- Makes one folder; it may be there already. `none` if a folder on the way is missing. -/
def makeFolder (t : FileTree α) (p : Path) : Option (Except FileError (FileTree α)) :=
  if p.hasNull then some (.error .nullInPath)
  else match t.locate p with
  | .missing => none
  | .blocked => some (.error (.notFolder p.text))
  | .tooLong => some (.error (.nameTooLong p.text))
  | .place place =>
    match t.at? place with
    | some .folder => some (.ok t)
    | some _ => some (.error (.alreadyThere p.text))
    | none =>
      -- A folder is made only in one that is there, so that its parents are made before it.
      match t.at? place.dropLast with
      | none => none
      | some .folder => some (.ok (t.setEntry place .folder))
      | some _ => some (.error (.notFolder p.text))

/-- Makes the folder that `p` leads to by its first components, and before it, if one is missing,
those on the way. `fuel` is the number of components that may still be left out. -/
def makeFoldersFor (t : FileTree α) (rooted : Bool) (parts : List String) :
    (fuel : Nat) → Except FileError (FileTree α)
  | 0 => .ok t
  | fuel + 1 =>
    let p : Path := { rooted, parts }
    match t.makeFolder p with
    | some result => result
    | none =>
      match makeFoldersFor t rooted parts.dropLast fuel with
      | .error e => .error e
      | .ok made => (made.makeFolder p).getD (.ok made)

def makeFolders (t : FileTree α) (p : Path) : Except FileError (FileTree α) :=
  t.makeFoldersFor p.rooted p.parts (p.parts.length + 1)

/-- Writes a text file into a folder that has been made. -/
def write (t : FileTree α) (p : Path) (content : String) : Except FileError (FileTree α) :=
  if p.hasNull then .error .nullInPath
  else match t.locate p with
  | .missing => .error (.notFolder p.text)
  | .blocked => .error (.notFolder p.text)
  | .tooLong => .error (.nameTooLong p.text)
  | .place place =>
    match t.at? place with
    | some .folder => .error (.isFolder p.text)
    -- A file that is there is replaced.
    | _ => .ok (t.setEntry place (.text content))

/-- Puts a file or a folder at a path, making the folders that lead to it. A tree that has no room
for it stays as it is. -/
def put (t : FileTree α) (p : Path) (entry : Entry α) : FileTree α :=
  match t.makeFolders p.parent with
  | .error _ => t
  | .ok made =>
    match made.locate p with
    | .place place => made.setEntry place entry
    | _ => t

end FileTree

end Volley
