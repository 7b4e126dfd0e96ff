import Archimate.Settings
import Archimate.Web.Answer.Change
import Archimate.Web.Answer.Question

namespace Archimate.Web

structure Request where
  method : Method
  address : Address
  body : String

def Endpoint.answer (s : Surroundings) (now : String) (store : Store) (body : String) :
    Endpoint → Reply
  | .question q => ⟨q.answer now store, store, []⟩
  | .change c => c.answer s store body

def fullAnswer (s : Surroundings) (now : String) (store : Store) (r : Request) : Reply :=
  match Destination.find r.method r.address with
  | .endpoint e => e.answer s now store r.body
  | .otherMethod => ⟨.methodNotAllowed, store, []⟩
  | .elsewhere a => ⟨.redirect a, store, []⟩
  | .nowhere => ⟨.notFound, store, []⟩

def answer (s : Surroundings) (now : String) (store : Store) (r : Request) : Reply :=
  let reply := fullAnswer s now store r
  let response := reply.response.sealed
  { reply with response := if r.method = .head then response.withoutContent else response }

/-- Loads the models when the service starts; a failure is reported and the service goes on. -/
def start (s : Surroundings) (store : Store) : Store × List LogRecord :=
  let outcome := Service.reload s store
  match outcome.result with
  | .ok _ => (outcome.store, outcome.logs)
  | .error e =>
    (outcome.store, outcome.logs ++
      [e.failure.report
        [("stage", .string "startup"), ("models_dir", .string s.source.directory.text)]])

structure Launch where
  title : String
  version : String
  host : Text
  port : Int
  reload : Bool
  logLevel : Text
deriving DecidableEq

/-- The server takes its host, port and log level from the settings, the level in lower case. -/
def Launch.ofSettings (s : Settings) : Launch where
  title := "Architecture-as-Code Model Service"
  version := Web.version
  host := s.host
  port := s.port
  reload := false
  logLevel := Text.lower s.logLevel

end Archimate.Web
