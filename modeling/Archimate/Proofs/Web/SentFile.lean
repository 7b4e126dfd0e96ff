import Archimate.Proofs.Document.LineEnds
import Archimate.Proofs.Loader.File
import Archimate.Proofs.Loader.Isolation
import Archimate.Proofs.Web.Frame

namespace Archimate
open Text

/-- The file at the path holds the text in UTF-8. -/
def FileTree.Stores (files : FileTree) (path : Path) (text : Text) : Prop :=
  ∃ s : String, text = s ∧ files.find path = .ok (.file s.toUTF8)

namespace ModelSource

variable {files : FileTree} {path : Path} {text : Text}

theorem decode_toUTF8 (s : String) : decode s.toUTF8 = .ok (unifyNewlines s) := by
  have hread : String.fromUTF8? s.toUTF8 = some s := (dif_pos s.isValidUTF8).trans rfl
  unfold decode
  rw [hread]

theorem misnamed?_eq_none (h : path.bytes?.isSome = true) : misnamed? path = none := by
  have hnamed : (FileName.ofText? path.text).isSome = true := by
    obtain ⟨bytes, hbytes⟩ := Option.isSome_iff_exists.mp h
    exact Option.isSome_iff_exists.mpr ⟨bytes, (Option.filter_eq_some_iff.mp hbytes).1⟩
  unfold misnamed?
  rw [FileName.unwritten?_eq_none hnamed, h]
  rfl

theorem readDocument_of_stores (h : files.Stores path text) (hpaired : ReturnsPaired text) :
    readDocument files path = (Document.parse text path.name).mapError Failure.ofLiteral := by
  obtain ⟨s, rfl, hfound⟩ := h
  have hread : readText files path = .ok (unifyNewlines s) := by
    unfold readText FileTree.read
    rw [misnamed?_eq_none (FileTree.isSome_bytes?_of_find hfound), hfound]
    dsimp only
    rw [decode_toUTF8]
    rfl
  rw [readDocument, hread, unifyNewlines_of_returnsPaired hpaired]
  show Except.mapError _ (Document.parse (dropReturns s) path.name) = _
  rw [Document.parse_dropReturns]

theorem loadFile_of_stores (h : files.Stores path text) (hpaired : ReturnsPaired text) :
    (loadFile files path).run.value =
      .ok ((Document.parse text path.name).toOption.map Architecture.ofDocument) := by
  have hread := readDocument_of_stores h hpaired
  obtain ⟨s, -, hfound⟩ := h
  have hexists : files.exists? path = .ok true := by
    unfold FileTree.exists? FileTree.finds
    rw [hfound]
  rw [loadFile_value hexists, if_pos rfl, hread]
  cases Document.parse text path.name <;> rfl

end ModelSource

namespace Web

variable {s : Surroundings} {store : Store} {r : Request} {a : Architecture} {text : ModelText}

namespace Reply

def sent (reply : Reply) : Reply := { reply with response := reply.response.sealed }

/-- The architecture is stored and shown; without one, the request fails. -/
def ofBuilt (store : Store) (status : Nat) : Option Architecture → Reply
  | some a => ⟨⟨status, .json a.toJson⟩, store.save a, []⟩
  | none => ⟨.internalError, store, []⟩

end Reply

theorem answer_of_change {c : Change} (s : Surroundings) (now : String) (store : Store)
    (h : Destination.find r.method r.address = .endpoint (.change c)) :
    answer s now store r = (c.answer s store r.body).sent := by
  have hfull := fullAnswer_of_change s now store h
  have hresponse := response_of_change s now store h
  rw [hfull] at hresponse
  unfold answer at hresponse ⊢
  dsimp only at hresponse ⊢
  rw [hresponse, hfull]
  rfl

namespace Change

theorem save_of_writable (hvalid : a.errors = []) (hfault : s.saveFault = none) (status : Nat) :
    save s store status a = .ofBuilt store status (some a) := by
  unfold save Service.save Service.write
  rw [if_pos (Architecture.isValid_validate_iff.mpr hvalid), hfault]
  rfl

theorem answerCreate_eq (store : Store) (text : ModelText) (hfault : s.saveFault = none) :
    answerCreate s store text = .ofBuilt store 201 (architectureOf text).toOption := by
  unfold answerCreate
  rcases architectureOf_cases text with ⟨a, ha, hvalid⟩ | ⟨e, he⟩
  · rw [ha]
    exact save_of_writable hvalid hfault 201
  · rw [he]
    rfl

theorem answerReplace_eq {id : String} (text : ModelText) (hfault : s.saveFault = none)
    (hin : store.contains id = true) :
    answerReplace s store id text =
      .ofBuilt store 200 ((architectureOf text).toOption.map fun a => { a with uid := id }) := by
  obtain ⟨old, -, -, hrequire⟩ | ⟨-, hout, -⟩ := Service.require_cases store id
  · unfold answerReplace
    rw [hrequire]
    rcases architectureOf_cases text with ⟨a, ha, hvalid⟩ | ⟨e, he⟩
    · have hrenamed : { a with uid := (id : Text) }.errors = [] := hvalid
      rw [ha]
      exact save_of_writable hrenamed hfault 200
    · rw [he]
      rfl
  · exact absurd (Dictionary.contains_iff.mp hin) hout

theorem toOption_architectureOf (text : ModelText) :
    (architectureOf text).toOption =
      (Document.parse text.content text.filename).toOption.map Architecture.ofDocument := by
  unfold architectureOf
  cases Document.parse text.content text.filename <;> rfl

end Change

/-- Carriage returns in front of line feeds do not change what a text says. A file that holds such a
text is read as the text itself, and a request that sends it under the name of the file builds what
is loaded from the file; a replaced architecture keeps its id. -/
theorem file_and_request_agree (text : Text) :
    (∀ source, Document.parse text source = Document.parse (dropReturns text) source) ∧
    (ReturnsPaired text → ∀ (files : FileTree) (path : Path), files.Stores path text →
      ModelSource.readDocument files path =
        (Document.parse text path.name).mapError Failure.ofLiteral ∧
      ∃ loaded, (ModelSource.loadFile files path).run.value = .ok loaded ∧
        ∀ r : Request, ModelText.read r.body = .ok ⟨text, path.name⟩ →
          Change.declared? r.body = loaded ∧
          ∀ (s : Surroundings) (now : String) (store : Store), s.saveFault = none →
            (Destination.find r.method r.address = .endpoint (.change .create) →
              answer s now store r = (Reply.ofBuilt store 201 loaded).sent) ∧
            ∀ id : String, store.contains id = true →
              Destination.find r.method r.address = .endpoint (.change (.replace id)) →
              answer s now store r = (Reply.ofBuilt store 200
                (loaded.map fun a => { a with uid := id })).sent) := by
  refine ⟨fun source => (Document.parse_dropReturns text source).symm, ?_⟩
  intro hpaired files path hstores
  refine ⟨ModelSource.readDocument_of_stores hstores hpaired, _,
    ModelSource.loadFile_of_stores hstores hpaired, ?_⟩
  intro r hread
  have hbuilt := Change.toOption_architectureOf ⟨text, path.name⟩
  refine ⟨by rw [Change.declared?, hread, ← hbuilt], ?_⟩
  intro s now store hfault
  have hsent (answer : ModelText → Reply) :
      Change.withText store r.body answer = answer ⟨text, path.name⟩ := by
    unfold Change.withText
    rw [hread]
  refine ⟨fun hcreate => ?_, fun id hin hreplace => ?_⟩
  · rw [answer_of_change s now store hcreate, Change.answer, hsent,
      Change.answerCreate_eq store _ hfault, hbuilt]
  · rw [answer_of_change s now store hreplace, Change.answer, hsent,
      Change.answerReplace_eq _ hfault hin, hbuilt]

/-- A file with the line ends of another system. -/
def returnsFile : String := "module m\r\na: B = new \x7b\r\n  x = 1,\r\n\x7d\r\n"

def returnsTree : FileTree := ⟨[(ModelSource.placeOf ["m.pkl"], .file returnsFile.toUTF8)], []⟩

def returnsBody : String :=
  "\x7b\"content\":\"module m\\r\\na: B = new \x7b\\r\\n  x = 1,\\r\\n\x7d\\r\\n\"," ++
    "\"filename\":\"m.pkl\"\x7d"

def createReturns : Request := ⟨.post, .read "/api/v1/architectures", returnsBody⟩

def replaceReturns : Request := ⟨.put, .read "/api/v1/architectures/arch-m", returnsBody⟩

def returnsDocument : Document where
  moduleName := some "m"
  source := "m.pkl"
  objects := [⟨"a", "B", .ofList [("x", .whole 1)]⟩]

theorem file_and_request_agree_returns :
    ReturnsPaired returnsFile ∧ returnsTree.Stores (.ofText "m.pkl") returnsFile ∧
      ModelText.read returnsBody = .ok ⟨returnsFile, "m.pkl"⟩ ∧
      Document.parse returnsFile "m.pkl" = Document.parse (dropReturns returnsFile) "m.pkl" ∧
      ModelSource.readDocument returnsTree (.ofText "m.pkl") = .ok returnsDocument ∧
      ∃ loaded, (ModelSource.loadFile returnsTree (.ofText "m.pkl")).run.value = .ok loaded ∧
        answer bareSurroundings "" .empty createReturns =
          (Reply.ofBuilt .empty 201 loaded).sent ∧
        answer bareSurroundings "" (Store.save .empty (.ofDocument returnsDocument))
            replaceReturns =
          (Reply.ofBuilt (Store.save .empty (.ofDocument returnsDocument)) 200
            (loaded.map fun a => { a with uid := ("arch-m" : String) })).sent := by
  have hpaired : ReturnsPaired returnsFile := by decide +kernel
  have hstores : returnsTree.Stores (.ofText "m.pkl") returnsFile := by
    refine ⟨returnsFile, rfl, ?_⟩
    have hplace : returnsTree.place (.ofText "m.pkl") = .ok (ModelSource.placeOf ["m.pkl"]) := by
      decide +kernel
    unfold FileTree.find
    rw [hplace]
    rfl
  have hread : ModelText.read returnsBody = .ok ⟨returnsFile, "m.pkl"⟩ := by
    rw [← toOption_eq_some_iff]
    decide +kernel
  have hparse : Document.parse returnsFile "m.pkl" = .ok returnsDocument := by decide +kernel
  have hin : (Store.save .empty (.ofDocument returnsDocument)).contains
      (("arch-m" : String) : Text) = true := by decide +kernel
  obtain ⟨hdropped, hagree⟩ := file_and_request_agree returnsFile
  obtain ⟨hfile, loaded, hloaded, hrequests⟩ :=
    hagree hpaired returnsTree (.ofText "m.pkl") hstores
  have hname : (Path.ofText "m.pkl").name = "m.pkl" := by decide
  rw [hname] at hfile hrequests
  rw [hparse] at hfile
  obtain ⟨hcreate, -⟩ := (hrequests createReturns hread).2 bareSurroundings "" .empty rfl
  obtain ⟨-, hreplace⟩ := (hrequests replaceReturns hread).2 bareSurroundings ""
    (Store.save .empty (.ofDocument returnsDocument)) rfl
  exact ⟨hpaired, hstores, hread, hdropped "m.pkl", hfile, loaded, hloaded,
    hcreate (by decide +kernel), hreplace "arch-m" hin (by decide +kernel)⟩

end Web

end Archimate
