import Archimate.Files
import Archimate.Literal.Parse
import Archimate.Log

namespace Archimate

inductive Failure where
  /-- A model file cannot be read. -/
  | model (message : Text) (path : Option Text)
  /-- An architecture has errors and cannot be saved. -/
  | validation (message : Text) (codes : List Text)
  /-- A loaded architecture cannot be stored. -/
  | load (message : Text) (uid : Option Text)
  | notFound (uid : Text)
  /-- Anything that goes wrong below the service, under the name it is known by. -/
  | other (kind : String) (message : Text)
deriving DecidableEq

namespace Failure

def ofLiteral (e : LiteralError) : Failure := .other "ValueError" e.message

def ofFile (path : Path) (e : FileError) : Failure := .other e.kind (e.message path)

/-- A fault of the surroundings: a full disk, a broken merge. -/
def fault (message : Text) : Failure := .other "RuntimeError" message

def kind : Failure → String
  | .model .. => "ModelLoadError"
  | .validation .. => "ArchitectureValidationError"
  | .load .. => "ArchitectureLoadError"
  | .notFound .. => "ArchitectureNotFoundError"
  | .other kind _ => kind

/-- Adds a remark behind the message unless the remark is empty. -/
def remark (message : Text) (label : String) (text : Text) : Text :=
  if text = [] then message else message ++ " | " ++ label ++ ": " ++ text

def message : Failure → Text
  | .model message path => remark message "Path" (path.getD [])
  | .validation message codes => remark message "Errors" ((", " : Text).intercalate (codes.take 5))
  | .load message _ => message
  | .notFound uid => "Architecture not found: " ++ uid
  | .other _ message => message

/-- Failures of this library carry the time at which they arose. -/
def timeDetails : Failure → List (Text × LogDetail)
  | .other .. => []
  | _ => [("exception_timestamp", .timeOfFailure)]

/-- What the failure itself adds to its report. -/
def ownDetails : Failure → List (Text × LogDetail)
  | .model _ path => [("model_path", .value (.ofOption path))]
  | .validation _ codes => [("error_codes", .value (.strings codes))]
  | .load _ uid => [("architecture_uid", .value (.ofOption uid))]
  | .notFound uid => [("architecture_uid", .value (.string uid))]
  | .other .. => []

def generalDetails (f : Failure) : List (Text × LogDetail) :=
  [("error_type", .value (.string f.kind)), ("error_message", .value (.string f.message)),
   ("timestamp", .timeOfWriting)]

def details (f : Failure) (context : List (Text × Json)) : Dictionary Text LogDetail :=
  .ofList <|
    f.generalDetails
    ++ context.map (fun entry => (entry.1, .value entry.2))
    ++ f.timeDetails ++ f.ownDetails

def report (f : Failure) (context : List (Text × Json)) : LogRecord where
  level := .error
  message := "Exception occurred: " ++ f.kind
  details := f.details context

end Failure

end Archimate
