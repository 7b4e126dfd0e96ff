import Archimate.Command.Arguments
import Archimate.Command.Report
import Archimate.Loader
import Archimate.Relationship.Validation
import Archimate.Settings

namespace Archimate.Command

inductive Ending where
  | valid
  | findings
  | notLoaded
deriving DecidableEq, Repr

def Ending.code : Ending → Nat
  | .valid => 0
  | .findings => 1
  | .notLoaded => 2

structure Outcome where
  ending : Ending
  output : Text := []
  errors : Text := []
  logs : List LogRecord := []

/-- An argument that is given and not empty. -/
def given? (argument : Option Text) : Option Text :=
  argument.filter (· != [])

def directoryOf (settings : Settings) (a : Arguments) : Text :=
  (given? a.directory).getD settings.modelsDirectory

/-- The architecture of the file that is asked for, else of the models directory. -/
def load (files : FileTree) (settings : Settings) (a : Arguments) :
    ExceptT Failure Logged (Option Architecture) :=
  match given? a.file with
  | some file => ModelSource.loadFile files (.ofText file)
  | none => ExceptT.lift
    (ModelSource.loadAll { files := files, directory := .ofText (directoryOf settings a) })

def report (a : Arguments) (elapsed : Text) (architecture : Architecture) : Outcome :=
  let verdict := Relationships.validate architecture.relationships
  { ending := if verdict.isValid then .valid else .findings
    output :=
      if a.json then jsonReport architecture.summary verdict
      else textReport architecture.summary verdict elapsed }

def failureText (settings : Settings) (a : Arguments) : Text :=
  "No architecture could be loaded from "
    ++ (given? a.file).getD (directoryOf settings a) ++ "\n"

/-- What becomes of the command once something or nothing is loaded. -/
def conclude (settings : Settings) (a : Arguments) (elapsed : Text) : Option Architecture → Outcome
  | some architecture => report a elapsed architecture
  | none => { ending := .notLoaded, errors := failureText settings a }

/-- The command fails when the look-up of a file is refused. -/
def run (files : FileTree) (settings : Settings) (a : Arguments) (elapsed : Text) :
    Except Failure Outcome :=
  let loaded := (load files settings a).run
  loaded.value.map fun found => { conclude settings a elapsed found with logs := loaded.logs }

end Archimate.Command
