import Archimate.Web.Endpoint
import Archimate.Web.ModelText
import Archimate.Web.Response

namespace Archimate.Web

namespace Change

def architectureOf (text : ModelText) : Except ServiceError Architecture :=
  match Document.parse text.content text.filename with
  | .ok document => .ok (.ofDocument document)
  | .error e => .error (.unreadable e)

def save (s : Surroundings) (store : Store) (status : Nat) (a : Architecture) : Reply :=
  let outcome := Service.save s store a
  match outcome.result with
  | .ok saved => ⟨⟨status, .json saved.toJson⟩, outcome.store, outcome.logs⟩
  | .error e => ⟨failureResponse e, outcome.store, outcome.logs⟩

def answerCreate (s : Surroundings) (store : Store) (text : ModelText) : Reply :=
  match architectureOf text with
  | .ok a => save s store 201 a
  | .error e => ⟨failureResponse e, store, []⟩

/-- Stores the declared architecture under an id that is already in use. -/
def answerReplace (s : Surroundings) (store : Store) (id : Text) (text : ModelText) : Reply :=
  match Service.require store id, architectureOf text with
  | .ok _, .ok a => save s store 200 { a with uid := id }
  | .error e, _ => ⟨failureResponse e, store, []⟩
  | .ok _, .error e => ⟨failureResponse e, store, []⟩

def reloadJson (loaded : List Architecture) : Json :=
  .named [("loaded", .ofNat loaded.length),
    ("architectures", .array (loaded.map fun a =>
      .named [("uid", .string a.uid), ("name", .string a.name)]))]

def answerReload (s : Surroundings) (store : Store) : Reply :=
  let outcome := Service.reload s store
  match outcome.result with
  | .ok loaded => ⟨.ok (reloadJson loaded), outcome.store, outcome.logs⟩
  | .error e => ⟨failureResponse e, outcome.store, outcome.logs⟩

def answerDelete (store : Store) (id : Text) : Reply :=
  match Service.delete store id with
  | (true, store) => ⟨.deleted, store, []⟩
  | (false, store) => ⟨failureResponse (.notFound id), store, []⟩

/-- Goes on with the model text of a body that can be read. -/
def withText (store : Store) (body : String) (answer : ModelText → Reply) : Reply :=
  match ModelText.read body with
  | .ok text => answer text
  | .error e => ⟨e.response, store, []⟩

def answer (s : Surroundings) (store : Store) (body : String) : Change → Reply
  | .create => withText store body (answerCreate s store)
  | .reload => answerReload s store
  | .replace id => withText store body (answerReplace s store id)
  | .delete id => answerDelete store id

end Change

end Archimate.Web
