import Archimate.Architecture
import Archimate.Loader

namespace Archimate

abbrev Store := Dictionary Text Architecture

namespace Store

def save (store : Store) (a : Architecture) : Store := store.insert a.uid a

def all (store : Store) : List Architecture := store.values

def delete (store : Store) (uid : Text) : Store := store.erase uid

theorem find?_save (store : Store) (a : Architecture) (uid : Text) :
    (store.save a).find? uid = if uid = a.uid then some a else store.find? uid :=
  Dictionary.find?_insert store a.uid uid a

end Store

/-- What the service stands on; the store can be made to refuse writing. -/
structure Surroundings where
  source : ModelSource
  saveFault : Option Text := none

inductive ServiceError where
  | invalid (findings : List Finding)
  | notFound (uid : Text)
  | notStored (uid : Text)
  | unreadable (error : LiteralError)
  | fault (message : Text)

def ServiceError.failure : ServiceError → Failure
  | .invalid findings => .validation "Architecture validation failed" (findings.map fun f => f.code)
  | .notFound uid => .notFound uid
  | .notStored uid => .load ("Failed to save loaded architecture: " ++ uid) (some uid)
  | .unreadable error => .ofLiteral error
  | .fault message => .fault message

namespace Service

structure Outcome (α : Type) where
  result : Except ServiceError α
  store : Store
  logs : List LogRecord := []

def require (store : Store) (uid : Text) : Except ServiceError Architecture :=
  match store.find? uid with
  | some a => .ok a
  | none => .error (.notFound uid)

def write (s : Surroundings) (store : Store) (a : Architecture) : Except ServiceError Store :=
  match s.saveFault with
  | none => .ok (store.save a)
  | some message => .error (.fault message)

/-- Validates an architecture and stores it. -/
def save (s : Surroundings) (store : Store) (a : Architecture) : Outcome Architecture :=
  if a.validate.isValid then
    match write s store a with
    | .ok store => ⟨.ok a, store, []⟩
    | .error e => ⟨.error e, store, []⟩
  else ⟨.error (.invalid a.validate.errors), store, []⟩

def delete (store : Store) (uid : Text) : Bool × Store :=
  (store.contains uid, store.delete uid)

def relationships (store : Store) (uid : Text) : List Relationship :=
  ((store.find? uid).map Architecture.relationships).getD []

def relationshipsFor (store : Store) (uid element : Text) : List Relationship :=
  (relationships store uid).filter (·.involves element)

def elements (store : Store) (uid : Text) (kind : ElementKind) : List (Element kind) :=
  ((store.find? uid).map fun a => a.container kind).getD []

def validateRelationships (store : Store) (uid : Text) : Except ServiceError Verdict :=
  (require store uid).map fun a => Relationships.validate a.relationships

def sortedDistinct (texts : List String) : List String :=
  texts.eraseDups.mergeSort fun a b => a ≤ b

/-- The warning about a loaded architecture whose relationships have findings. -/
def findingsWarning (a : Architecture) (findings : List Finding) : LogRecord where
  level := .warning
  message := "Architecture " ++ a.uid ++ " loaded with " ++ toString findings.length
    ++ " relationship finding(s): "
    ++ ", ".intercalate (sortedDistinct (findings.map Finding.code))

def reloadWarnings (a : Architecture) : List LogRecord :=
  match Relationships.findings a.relationships with
  | [] => []
  | findings => [findingsWarning a findings]

/-- Loads the models and stores the architecture; answers what was stored. -/
def reload (s : Surroundings) (store : Store) : Outcome (List Architecture) :=
  let loaded := s.source.loadAll
  match loaded.value with
  | none => ⟨.ok [], store, loaded.logs⟩
  | some a =>
    match write s store a with
    | .ok store => ⟨.ok [a], store, loaded.logs ++ reloadWarnings a⟩
    | .error _ => ⟨.error (.notStored a.uid), store, loaded.logs⟩

end Service

end Archimate
