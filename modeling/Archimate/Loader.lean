import Archimate.Architecture.Assembly
import Archimate.Failure
import Archimate.Files
import Archimate.Text.Order
import Archimate.Text.Utf8

namespace Archimate

/-- Where models come from: a directory with one subdirectory for each layer. A merge can be made to
fail. -/
structure ModelSource where
  files : FileTree
  directory : Path
  mergeFault : Option Text := none

namespace ModelSource

def modelSuffix : Text := ".pkl"

def unreadable (path : Path) (cause : Text) : Failure :=
  .model ("Cannot read Pkl file: " ++ cause) (some path.text)

/-- Why a path cannot be handed to the operating system at all. -/
def misnamed? (path : Path) : Option Failure :=
  match FileName.unwritten? 0 path.text with
  | some message => some (.other "UnicodeEncodeError" message)
  | none =>
    if path.bytes?.isSome then none else some (.other "ValueError" "embedded null byte")

/-- The text of a file with its line ends unified. -/
def decode (bytes : ByteArray) : Except Text Text :=
  match String.fromUTF8? bytes with
  | some s => .ok (Text.unifyNewlines s)
  | none => .error (Text.utf8Fault 0 bytes.data.toList)

def readText (files : FileTree) (path : Path) : Except Failure Text :=
  match misnamed? path with
  | some failure => .error failure
  | none =>
    match files.read path with
    | .ok bytes => (decode bytes).mapError (unreadable path)
    | .error e => .error (unreadable path (e.message path))

def readDocument (files : FileTree) (path : Path) : Except Failure Document := do
  let text ← readText files path
  (Document.parse text path.name).mapError Failure.ofLiteral

/-- The names in a directory; one that may not be listed shows none. -/
def shownNames (files : FileTree) (directory : Path) : Except FileError (List FileName) :=
  match files.names directory with
  | .ok names => .ok names
  | .error e => if e.isPermission then .ok [] else .error e

/-- The model files among some files, sorted by name. -/
def modelsAmong (names : List FileName) : List Text :=
  ((names.map FileName.text).filter modelSuffix.isSuffixOf).mergeSort Text.le

/-- The model files of a directory; none when there is no such directory. -/
def modelNames (files : FileTree) (directory : Path) : Except FileError (List Text) := do
  if ← files.isDirectory directory then
    let names ← shownNames files directory
    return modelsAmong names
  else return []

/-- Reads one file of a directory; a failure is reported. -/
def readEntry (files : FileTree) (directory : Path) (name : Text) :
    Logged (Option Document) :=
  match readDocument files (directory.child name) with
  | .ok document => pure (some document)
  | .error failure => do
    Logged.note (failure.report
      [("model_file", .string name), ("directory", .string directory.text)])
    pure none

def readEntries (files : FileTree) (directory : Path) : List Text → Logged (List Document)
  | [] => pure []
  | name :: names => do
    let document ← readEntry files directory name
    let documents ← readEntries files directory names
    pure (document.toList ++ documents)

/-- The documents of a directory. What fails is the look-up of the directory or its listing; files
that cannot be read are reported and passed over. -/
def readDirectory (files : FileTree) (directory : Path) :
    ExceptT Failure Logged (List Document) := do
  let names ← (modelNames files directory).mapError (Failure.ofFile directory)
  readEntries files directory names

def layerDocuments (source : ModelSource) (layer : Layer) :
    ExceptT Failure Logged (List Document) :=
  readDirectory source.files (source.directory.child layer.word)

def merged (source : ModelSource) : ExceptT Failure Logged Architecture := do
  let business ← source.layerDocuments .business
  let application ← source.layerDocuments .application
  let technology ← source.layerDocuments .technology
  match source.mergeFault with
  | none => return .merge business application technology
  | some fault => throw (.fault fault)

/-- The merged architecture of all layer directories; whatever keeps it from being made is
reported. -/
def loadAll (source : ModelSource) : Logged (Option Architecture) := do
  match ← source.merged.run with
  | .ok a => return some a
  | .error failure =>
    Logged.note ⟨.error, "Failed to load architecture models: " ++ failure.message, .empty⟩
    return none

/-- The architecture of one file; none when it is missing or cannot be read. -/
def loadFile (files : FileTree) (path : Path) : ExceptT Failure Logged (Option Architecture) := do
  if ← (files.exists? path).mapError (Failure.ofFile path) then
    match readDocument files path with
    | .ok document => return some (.ofDocument document)
    | .error failure =>
      Logged.note ⟨.error,
        "Failed to load architecture model from: " ++ path.text ++ ": " ++ failure.message, .empty⟩
      return none
  else
    Logged.note ⟨.warning, "PKL model file not found: " ++ path.text, .empty⟩
    return none

end ModelSource

end Archimate
