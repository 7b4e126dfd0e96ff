import Archimate.Json
import Archimate.Json.Model
import Archimate.Service
import Archimate.Web.Address

namespace Archimate.Web

inductive Content where
  | empty
  | json (value : Json)
  | text (value : String)
  | location (address : String)

structure Response where
  status : Nat
  content : Content

namespace Response

def ok (value : Json) : Response := ⟨200, .json value⟩

def created (value : Json) : Response := ⟨201, .json value⟩

def deleted : Response := ⟨204, .empty⟩

def redirect (a : Address) : Response := ⟨307, .location a.written⟩

def refusal (status : Nat) (detail : Text) : Response :=
  ⟨status, .json (.named [("detail", .string detail)])⟩

def notFound : Response := refusal 404 "Not Found"

def methodNotAllowed : Response := refusal 405 "Method Not Allowed"

/-- The answer to a failure that nothing else explains. -/
def internalError : Response := ⟨500, .text "Internal Server Error"⟩

/-- The answer with what can be sent of it; one that cannot be sent fails as a whole. -/
def sealed (r : Response) : Response :=
  match r.content with
  | .json value =>
    if value.shown.canBeSent then { r with content := .json value.shown } else internalError
  | _ => r

/-- A redirect keeps its address, which is no part of the content that is sent. -/
def withoutContent (r : Response) : Response :=
  match r.content with
  | .location _ => r
  | _ => { r with content := .empty }

end Response

def version : String := "0.1.0"

structure Reply where
  response : Response
  store : Store
  logs : List LogRecord := []

def failureResponse : ServiceError → Response
  | .notFound uid =>
    ⟨404, .json (.named [("error", .string (ServiceError.notFound uid).failure.message)])⟩
  | .invalid findings =>
    ⟨422, .json (.named [("error", .string "Architecture validation failed"),
      ("errors", findingsJson findings)])⟩
  | _ => .internalError

end Archimate.Web
