import Archimate.Json.Read
import Archimate.Text.Encoding
import Archimate.Web.Response

namespace Archimate.Web

structure ModelText where
  content : Text
  filename : Text
deriving DecidableEq

/-- What is wrong with one member of a body: the object misses it, or its value is no text. -/
inductive MemberError where
  | missing (object : Json)
  | notText (value : Json)

inductive BodyError where
  | missing
  | malformed (position : Nat)
  /-- The bytes write no text, a number is too long or the nesting too deep. -/
  | unreadable
  | notObject (value : Json)
  | members (errors : List (String × MemberError))

namespace BodyError

def problem (kind : String) (place : List Json) (message : String) (input : Json) : Json :=
  .named [("type", .string kind), ("loc", .array (.string "body" :: place)),
    ("msg", .string message), ("input", input)]

def memberProblem (name : String) : MemberError → Json
  | .missing object => problem "missing" [.string name] "Field required" object
  | .notText value => problem "string_type" [.string name] "Input should be a valid string" value

def problems : BodyError → List Json
  | .missing => [problem "missing" [] "Field required" .null]
  | .malformed position =>
    [problem "json_invalid" [.whole position] "JSON decode error" (.object [])]
  | .unreadable => []
  | .notObject value =>
    [problem "model_attributes_type" []
      "Input should be a valid dictionary or object to extract fields from" value]
  | .members errors => errors.map fun entry => memberProblem entry.1 entry.2

def response (e : BodyError) : Response :=
  match e with
  | .unreadable => .refusal 400 "There was an error parsing the body"
  | e => ⟨422, .json (.named [("detail", .array e.problems)])⟩

end BodyError

namespace ModelText

def defaultFilename : Text := "request.pkl"

def textOf : Json → Except MemberError Text
  | .string value => .ok value
  | value => .error (.notText value)

def contentOf (members : List (Text × Json)) : Except MemberError Text :=
  match members.lookup ("content" : Text) with
  | some value => textOf value
  | none => .error (.missing (.object members))

def filenameOf (members : List (Text × Json)) : Except MemberError Text :=
  match members.lookup ("filename" : Text) with
  | some value => textOf value
  | none => .ok defaultFilename

def errorOf {α : Type} (name : String) : Except MemberError α → List (String × MemberError)
  | .ok _ => []
  | .error e => [(name, e)]

def ofMembers (members : List (Text × Json)) : Except BodyError ModelText :=
  match contentOf members, filenameOf members with
  | .ok content, .ok filename => .ok ⟨content, filename⟩
  | content, filename =>
    .error (.members (errorOf "content" content ++ errorOf "filename" filename))

def ofJson : Json → Except BodyError ModelText
  | .object members => ofMembers members
  | value => .error (.notObject value)

/-- A mark at the start of a text that says in which order its bytes come. -/
def withoutByteOrderMark : Text → Text
  | .char '\ufeff' :: rest => rest
  | text => text

/-- The text of a body; a mark in front of it counts for nothing. -/
def textOfBody? (body : String) : Option Text :=
  (Text.ofBytes? (Text.utf8 body.toList)).map withoutByteOrderMark

def ofText (text : Text) : Except BodyError ModelText :=
  match Json.read text with
  | .ok value => ofJson value
  | .error (.malformed remaining) => .error (.malformed (text.length - remaining))
  | .error _ => .error .unreadable

def read (body : String) : Except BodyError ModelText :=
  if body = "" then .error .missing
  else match textOfBody? body with
    | some text => ofText text
    | none => .error .unreadable

end ModelText

end Archimate.Web
