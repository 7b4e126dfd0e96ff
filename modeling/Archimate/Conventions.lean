import Archimate.Text.Blank

namespace Archimate

structure Conventions where
  architectureVersion : Text := "1.0.0"
  unknownModule : Text := "Unknown"
  unknownSource : Text := "unknown"
  unknownReference : Text := "unknown"
  mergedUid : Text := "merged-architecture"
  mergedName : Text := "Merged Architecture"
  businessLayerUid : Text := "business-layer"
  applicationLayerUid : Text := "application-layer"
  technologyLayerUid : Text := "technology-layer"
deriving DecidableEq, Inhabited

def conventions : Conventions := {}

namespace Conventions

def named (c : Conventions) : List (String × Text) :=
  [("ARCHITECTURE_VERSION", c.architectureVersion), ("UNKNOWN_MODULE", c.unknownModule),
   ("UNKNOWN_SOURCE", c.unknownSource), ("UNKNOWN_REFERENCE", c.unknownReference),
   ("MERGED_UID", c.mergedUid), ("MERGED_NAME", c.mergedName),
   ("BUSINESS_LAYER_UID", c.businessLayerUid), ("APPLICATION_LAYER_UID", c.applicationLayerUid),
   ("TECHNOLOGY_LAYER_UID", c.technologyLayerUid)]

/-- Replaces the name that is known by the word; other words change nothing. -/
def set (c : Conventions) (word : String) (value : Text) : Conventions :=
  match word with
  | "ARCHITECTURE_VERSION" => { c with architectureVersion := value }
  | "UNKNOWN_MODULE" => { c with unknownModule := value }
  | "UNKNOWN_SOURCE" => { c with unknownSource := value }
  | "UNKNOWN_REFERENCE" => { c with unknownReference := value }
  | "MERGED_UID" => { c with mergedUid := value }
  | "MERGED_NAME" => { c with mergedName := value }
  | "BUSINESS_LAYER_UID" => { c with businessLayerUid := value }
  | "APPLICATION_LAYER_UID" => { c with applicationLayerUid := value }
  | "TECHNOLOGY_LAYER_UID" => { c with technologyLayerUid := value }
  | _ => c

/-- The first name that is blank. -/
def blank? (c : Conventions) : Option String :=
  (c.named.find? fun entry => Text.allBlank entry.2).map Prod.fst

def blankMessage (word : String) : String :=
  "Mapper default " ++ word ++ " must not be blank"

end Conventions

end Archimate
