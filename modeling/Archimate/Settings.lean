import Archimate.Dictionary
import Archimate.Number.Whole
import Archimate.Text.LetterCase

namespace Archimate

structure Settings where
  modelsDirectory : Text
  logLevel : Text
  host : Text
  port : Int
  loadOnStartup : Bool
deriving DecidableEq

/-- Settings that are given and not looked up. -/
structure GivenSettings where
  modelsDirectory : Option Text := none
  logLevel : Option Text := none
  host : Option Text := none
  port : Option Int := none
  loadOnStartup : Option Bool := none

inductive SettingsError where
  | portText (error : WholeError)
  | portRange (port : Int)

def SettingsError.message : SettingsError → Text
  | .portText error => error.message
  | .portRange port => "AAC_PORT=" ++ toString port ++ " outside range (0, 65536)"

namespace Settings

abbrev Environment := Dictionary String Text

/-- The text of a variable; the default stands for one that is not there. -/
def lookup (env : Environment) (name : String) (default : Text) : Text :=
  (env.find? name).getD default

/-- The words that switch a setting on. -/
def affirmative : List Text := ["1", "true", "yes", "on"]

def isAffirmative (t : Text) : Bool :=
  affirmative.contains (Text.lower (Text.trim t))

def readPort (env : Environment) (given : GivenSettings) : Except WholeError Int :=
  match given.port with
  | some port => .ok port
  | none => Whole.read (lookup env "AAC_PORT" "8080")

def read (env : Environment) (given : GivenSettings) : Except SettingsError Settings :=
  match readPort env given with
  | .error e => .error (.portText e)
  | .ok port =>
    if 0 < port ∧ port < 65536 then
      .ok
        { modelsDirectory := given.modelsDirectory.getD (lookup env "AAC_MODELS_DIR" "data/models")
          logLevel := given.logLevel.getD (Text.upper (lookup env "AAC_LOG_LEVEL" "INFO"))
          host := given.host.getD (lookup env "AAC_HOST" "0.0.0.0")
          port := port
          loadOnStartup :=
            given.loadOnStartup.getD (isAffirmative (lookup env "AAC_LOAD_ON_STARTUP" "true")) }
    else .error (.portRange port)

end Settings

end Archimate
