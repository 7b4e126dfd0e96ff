import Archimate.Files.Name
import Archimate.Files.Path
import Archimate.Text.Quoted

namespace Archimate

/-- Why the operating system does not do what it is asked to: its number of the error, and its
words for it. -/
structure FileError where
  number : Nat
  reason : String
deriving DecidableEq, Repr

namespace FileError

def missing : FileError := ⟨2, "No such file or directory"⟩

def denied : FileError := ⟨13, "Permission denied"⟩

def notDirectory : FileError := ⟨20, "Not a directory"⟩

def isDirectory : FileError := ⟨21, "Is a directory"⟩

def nameTooLong : FileError := ⟨36, "File name too long"⟩

/-- Whether a look-up that ends so counts as one that finds nothing: nothing is there, a file
stands on the way, or links lead in a circle. -/
def findsNothing (error : FileError) : Bool := [2, 9, 20, 40].contains error.number

def isPermission (error : FileError) : Bool := [1, 13].contains error.number

def kind (error : FileError) : String :=
  if error.isPermission then "PermissionError"
  else match error.number with
  | 2 => "FileNotFoundError"
  | 20 => "NotADirectoryError"
  | 21 => "IsADirectoryError"
  | _ => "OSError"

def message (error : FileError) (path : Path) : Text :=
  "[Errno " ++ toString error.number ++ "] " ++ error.reason ++ ": " ++ path.text.quoted

end FileError

/-- The names on the way from the root to an entry. -/
abbrev Place := List FileName

def FileName.limit : Nat := 255

/-- One step of a path; above the root there is only the root. -/
def Place.step (place : Place) (part : Text) : Except FileError Place :=
  if part = Path.above then .ok place.dropLast
  else match FileName.ofText? part with
  | some name => if name.length ≤ FileName.limit then .ok (place ++ [name]) else .error .nameTooLong
  | none => .error .missing

inductive FileEntry where
  /-- Entering or listing a directory can be refused. -/
  | directory (entering listing : Option FileError := none)
  | file (bytes : ByteArray)
  /-- A file that is there and cannot be opened. -/
  | closed (error : FileError)
  /-- A name that is listed and cannot be looked up, such as a link that leads nowhere. -/
  | broken (error : FileError)

/-- The entries below the root, each at its place, and the place where relative paths begin. -/
structure FileTree where
  entries : List (Place × FileEntry)
  workingDirectory : Place

namespace FileTree

def empty : FileTree := ⟨[], []⟩

def stored? (t : FileTree) (place : Place) : Option FileEntry :=
  if place = [] then some .directory else t.entries.lookup place

/-- Leaves a place for another one; only a directory lets one through. -/
def enter (t : FileTree) (place : Place) : Except FileError Unit :=
  match t.stored? place with
  | some (.directory none _) => .ok ()
  | some (.directory (some error) _) => .error error
  | some (.broken error) => .error error
  | some _ => .error .notDirectory
  | none => .error .missing

def start (t : FileTree) (p : Path) : Place :=
  if p.root = [] then t.workingDirectory else []

def stepFrom (t : FileTree) (place : Place) (part : Text) : Except FileError Place := do
  t.enter place
  place.step part

def follow (t : FileTree) (place : Place) : List Text → Except FileError Place
  | [] => .ok place
  | part :: parts => do
    let next ← t.stepFrom place part
    t.follow next parts

/-- Follows a path, however long it is. -/
def walk (t : FileTree) (p : Path) : Except FileError Place := t.follow (t.start p) p.parts

def place (t : FileTree) (p : Path) : Except FileError Place :=
  match p.bytes? with
  | some bytes => if bytes.length ≤ Path.limit then t.walk p else .error .nameTooLong
  | none => .error .missing

def entryAt (t : FileTree) (place : Place) : Except FileError FileEntry :=
  match t.stored? place with
  | some (.broken error) => .error error
  | some entry => .ok entry
  | none => .error .missing

def find (t : FileTree) (p : Path) : Except FileError FileEntry := t.place p >>= t.entryAt

/-- Whether a look-up finds what is asked for, unless the look-up is refused. -/
def finds (t : FileTree) (p : Path) (holds : FileEntry → Bool) : Except FileError Bool :=
  match t.find p with
  | .ok entry => .ok (holds entry)
  | .error error => if error.findsNothing then .ok false else .error error

def exists? (t : FileTree) (p : Path) : Except FileError Bool := t.finds p fun _ => true

def isDirectory (t : FileTree) (p : Path) : Except FileError Bool :=
  t.finds p fun
    | .directory .. => true
    | _ => false

def namesAt (t : FileTree) (place : Place) : List FileName :=
  t.entries.filterMap fun (steps, _) =>
    if steps.dropLast = place then steps.getLast? else none

def listAt (t : FileTree) (place : Place) : Except FileError (List FileName) :=
  match t.entryAt place with
  | .ok (.directory _ none) => .ok (t.namesAt place)
  | .ok (.directory _ (some error)) => .error error
  | .ok _ => .error .notDirectory
  | .error error => .error error

def names (t : FileTree) (p : Path) : Except FileError (List FileName) := t.place p >>= t.listAt

def read (t : FileTree) (p : Path) : Except FileError ByteArray :=
  match t.find p with
  | .ok (.file bytes) => .ok bytes
  | .ok (.directory _ listing) => .error (listing.getD .isDirectory)
  | .ok (.closed error) => .error error
  | .ok (.broken error) => .error error
  | .error error => .error error

def set (t : FileTree) (place : Place) (entry : FileEntry) : FileTree :=
  { t with entries := t.entries.filter (·.1 != place) ++ [(place, entry)] }

/-- Makes a directory where there is nothing. -/
def makeDirectory (t : FileTree) (place : Place) : FileTree :=
  if (t.stored? place).isSome then t else t.set place .directory

/-- Follows parts of a path from a place, and makes every place that is left behind a directory. -/
def makeWay (t : FileTree) (place : Place) : List Text → Place × FileTree
  | [] => (place, t)
  | part :: parts =>
    (t.makeDirectory place).makeWay ((place.step part).toOption.getD place) parts

/-- Writes an entry, with the directories above it. -/
def write (t : FileTree) (p : Path) (entry : FileEntry) : FileTree :=
  let (place, t) := t.makeWay (t.start p) p.parts
  t.set place entry

/-- The tree without one place and all that is in it. -/
def without (t : FileTree) (gone : Place) : FileTree :=
  { t with entries := t.entries.filter fun entry => !gone.isPrefixOf entry.1 }

def remove (t : FileTree) (p : Path) : FileTree :=
  match t.walk p with
  | .ok place => t.without place
  | .error _ => t

end FileTree

end Archimate
