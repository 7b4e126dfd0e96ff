import Archimate.Proofs.Web.Frame

namespace Archimate.Web

variable {s : Surroundings} {now : String} {store : Store} {r : Request} {q : Question}
  {a : Architecture} {id : String}

namespace Question

theorem eq_documentation_of_head (h : .head ∈ q.methods) : q = .documentation := by
  cases q <;> simp [methods] at h ⊢

theorem about_of_find? {uid : Text} (hfound : store.find? uid = some a)
    (answer : Architecture → Response) : about store uid answer = answer a := by
  unfold about Service.require
  rw [hfound]

theorem ok_status_ne (value : Json) : (Response.ok value).status ≠ 422 :=
  Nat.ne_of_beq_eq_false rfl

theorem refusal_status_ne {status : Nat} (detail : Text) (h : status ≠ 422) :
    (Response.refusal status detail).status ≠ 422 := h

theorem about_status_ne {uid : Text} {answer : Architecture → Response}
    (h : ∀ a, (answer a).status ≠ 422) : (about store uid answer).status ≠ 422 := by
  unfold about
  rcases Service.require_cases store uid with ⟨a, -, -, hrequire⟩ | ⟨-, -, hrequire⟩
  · rw [hrequire]
    exact h a
  · rw [hrequire]
    exact Nat.ne_of_beq_eq_false rfl

theorem chosen_status_ne {α : Type} [Choice α] {label word : String} {answer : α → Response}
    (h : ∀ member, (answer member).status ≠ 422) : (chosen label word answer).status ≠ 422 := by
  unfold chosen
  split
  · exact h _
  · exact refusal_status_ne _ (by decide)

theorem elementsResponse_status_ne (a : Architecture) (layer : Layer) (view : String) :
    (elementsResponse a layer view).status ≠ 422 := by
  unfold elementsResponse
  split
  · exact ok_status_ne _
  · exact refusal_status_ne _ (by decide)

theorem answer_status_ne (now : String) (store : Store) (q : Question) :
    (q.answer now store).status ≠ 422 := by
  cases q with
  | documentation => exact Nat.ne_of_beq_eq_false rfl
  | health => exact ok_status_ne _
  | architectures => exact ok_status_ne _
  | elements id layer view =>
    exact about_status_ne fun a => elementsResponse_status_ne a layer view
  | relationshipsOfType id type =>
    exact about_status_ne fun a => chosen_status_ne fun _ => ok_status_ne _
  | relationshipsOfCategory id category =>
    exact about_status_ne fun a => chosen_status_ne fun _ => ok_status_ne _
  | relationshipTypes => exact ok_status_ne _
  | relationshipType word =>
    have hchosen : (chosen "relationship type" word fun (type : RelationshipType) =>
        .ok type.toJson).status ≠ 422 := chosen_status_ne fun type => ok_status_ne type.toJson
    exact hchosen
  | _ => exact about_status_ne fun a => ok_status_ne _

end Question

/-- The answer to a question is what is sent of it; only the documentation is offered for heads. -/
theorem response_of_question (s : Surroundings) (now : String) (store : Store)
    (h : Destination.find r.method r.address = .endpoint (.question q))
    (hq : q ≠ .documentation) :
    (answer s now store r).response = (q.answer now store).sealed := by
  have hmethod : r.method ≠ .head := by
    intro hhead
    have hmem := Destination.mem_methods h
    rw [hhead] at hmem
    exact hq (Question.eq_documentation_of_head hmem)
  unfold answer fullAnswer
  rw [h]
  exact if_neg hmethod

theorem response_architectures (s : Surroundings) (now : String) (store : Store)
    (h : Destination.find r.method r.address = .endpoint (.question .architectures)) :
    (answer s now store r).response =
      (Response.ok (.array (store.all.map Architecture.toJson))).sealed :=
  response_of_question s now store h nofun

/-- What a question about one architecture answers when it is stored. -/
theorem response_about (s : Surroundings) (now : String) {uid : Text}
    {respond : Architecture → Response}
    (h : Destination.find r.method r.address = .endpoint (.question q)) (hq : q ≠ .documentation)
    (habout : q.answer now store = Question.about store uid respond)
    (hfound : store.find? uid = some a) :
    (answer s now store r).response = (respond a).sealed := by
  rw [response_of_question s now store h hq, habout, Question.about_of_find? hfound]

theorem response_architecture (s : Surroundings) (now : String)
    (h : Destination.find r.method r.address = .endpoint (.question (.architecture id)))
    (hfound : store.find? id = some a) :
    (answer s now store r).response = (Response.ok a.toJson).sealed :=
  response_about s now h nofun rfl hfound

theorem Response.sealed_ok {value : Json} (hsent : value.shown.canBeSent = true) :
    (Response.ok value).sealed = .ok value.shown := by
  rw [Response.ok, Response.sealed_json, if_pos hsent]
  rfl

theorem member?_sealed_ok {value : Json} {name : String} (hname : Json.isInternal name = false)
    (hsent : value.shown.canBeSent = true) :
    (Response.ok value).sealed.member? name = (value.member? name).map Json.shown := by
  rw [Response.sealed_ok hsent]
  exact Json.member?_shown hname value

theorem healthJson_sent (now : String) (store : Store) :
    (Question.healthJson now store).shown.canBeSent = true := by
  refine Json.canBeSent_named ?_
  simp [Json.ofNat, Json.fits_shown_string, Json.fits_shown_whole]

theorem member?_health (s : Surroundings) (now : String) (store : Store)
    (h : Destination.find r.method r.address = .endpoint (.question .health)) :
    (answer s now store r).response.member? "architectures_loaded" =
      some (.ofNat store.size) := by
  rw [response_of_question s now store h nofun]
  have hname : Json.isInternal ("architectures_loaded" : Text) = false := by decide
  refine (member?_sealed_ok hname (healthJson_sent now store)).trans ?_
  simp [Question.healthJson, Json.member?_named_cons, Json.ofNat, Json.shown]

/-- A valid architecture is found valid, unless what else is found in it cannot be sent. -/
theorem response_validation (s : Surroundings) (now : String)
    (h : Destination.find r.method r.address = .endpoint (.question (.validation id)))
    (hfound : store.find? id = some a) (hvalid : a.errors = []) :
    (answer s now store r).response.status = 200 ∧
        (answer s now store r).response.member? "isValid" = some (.bool true) ∧
        (answer s now store r).response.member? "errors" = some (.array []) ∨
      a.validate.toJson.shown.canBeSent = false ∧
        (answer s now store r).response = .internalError := by
  rw [response_about s now h nofun rfl hfound]
  have hisValid : Json.isInternal ("isValid" : Text) = false := by decide
  have herrors : Json.isInternal ("errors" : Text) = false := by decide
  cases hsent : a.validate.toJson.shown.canBeSent with
  | true =>
    rw [member?_sealed_ok hisValid hsent, member?_sealed_ok herrors hsent, Response.sealed_ok hsent]
    refine Or.inl ⟨rfl, ?_, ?_⟩
    · simp [Verdict.toJson, Json.member?_named_cons, Json.shown,
        Architecture.isValid_validate_iff.mpr hvalid]
    · simp [Verdict.toJson, Json.member?_named_cons, Json.shown, Json.shownItems,
        Architecture.validate, findingsJson, hvalid]
  | false =>
    rw [Response.ok, Response.sealed_json, if_neg (Bool.eq_false_iff.mp hsent)]
    exact Or.inr ⟨rfl, rfl⟩

theorem Change.Effect.explained {c : Change} {ws : List Store.Write} {reply : Reply}
    (h : Effect store c ws reply) : reply.response.Explained := by
  cases h with
  | refused _ _ _ hrefusal => exact hrefusal.explained
  | _ => exact Response.explained_of_ne (Nat.ne_of_beq_eq_false rfl)

theorem explained_fullAnswer (s : Surroundings) (now : String) (store : Store) (r : Request) :
    (fullAnswer s now store r).response.Explained := by
  cases hfind : Destination.find r.method r.address with
  | endpoint e =>
    cases e with
    | question q =>
      unfold fullAnswer
      rw [hfind]
      exact Response.explained_of_ne (q.answer_status_ne now store)
    | change c => exact (effect_fullAnswer s now store hfind).explained
  | _ =>
    unfold fullAnswer
    rw [hfind]
    exact Response.explained_of_ne (Nat.ne_of_beq_eq_false rfl)

theorem Response.Explained.member?_sealed {response : Response} (h : response.Explained)
    (hstatus : response.sealed.status = 422) : response.sealed.member? "error" = none := by
  obtain ⟨status, content⟩ := response
  cases content with
  | json value =>
    rw [sealed_json] at hstatus ⊢
    split at hstatus
    · rename_i hsent
      obtain ⟨problems, hcontent⟩ := h hstatus
      obtain rfl : value = _ := Content.json.inj hcontent
      rw [if_pos hsent]
      have hname : Json.isInternal ("error" : Text) = false := by decide
      refine (Json.member?_shown hname (.named [("detail", problems)])).trans ?_
      simp [Json.member?_named_cons, Json.member?_named_nil]
    · cases hstatus
  | _ => rfl

theorem Response.member?_withoutContent (response : Response) (name : String) :
    response.withoutContent.member? name = none := by
  obtain ⟨status, content⟩ := response
  cases content <;> rfl

/-- An answer that finds fault with a request has no member for a failure of the service. -/
theorem member?_error_of_status (s : Surroundings) (now : String) (store : Store) (r : Request)
    (h : (answer s now store r).response.status = 422) :
    (answer s now store r).response.member? "error" = none := by
  have hexplained := explained_fullAnswer s now store r
  unfold answer at h ⊢
  dsimp only at h ⊢
  split
  · exact Response.member?_withoutContent _ _
  · rename_i hmethod
    rw [if_neg hmethod] at h
    exact hexplained.member?_sealed h

end Archimate.Web
