import Archimate.Web.Endpoint

namespace Archimate.Web

def Question.methods : Question → List Method
  | .documentation => [.get, .head]
  | .validation _ => [.post]
  | .relationshipValidation _ => [.post]
  | _ => [.get]

def Change.method : Change → Method
  | .create => .post
  | .reload => .post
  | .replace _ => .put
  | .delete _ => .delete

def Endpoint.methods : Endpoint → List Method
  | .question q => q.methods
  | .change c => [c.method]

namespace Offer

def Proper (offer : Offer) : Prop := offer.method ∈ offer.endpoint.methods

theorem proper_asks_layer {word : String} {question : Layer → Question}
    (h : ∀ layer, .get ∈ (question layer).methods) :
    ∀ offer ∈ ((Layer.ofWord? word).map fun layer => asks (question layer)).toList,
      offer.Proper := by
  intro offer hoffer
  obtain ⟨layer, -, rfl⟩ := Option.map_eq_some_iff.mp (Option.mem_toList.mp hoffer)
  exact h layer

theorem proper_ofArchitecture (id word : String) :
    ∀ offer ∈ ofArchitecture id word, offer.Proper := by
  unfold ofArchitecture
  split
  case h_4 => exact proper_asks_layer fun layer => List.mem_singleton_self _
  all_goals simp [Proper, asks, checks, Endpoint.methods, Question.methods]

theorem proper_underWord (parts : List String) : ∀ offer ∈ underWord parts, offer.Proper := by
  unfold underWord
  split
  case h_8 => exact proper_ofArchitecture _ _
  all_goals simp [Proper, documentation, asks, checks, changes, Endpoint.methods,
    Question.methods, Change.method]

theorem proper_underName (parts : List String) : ∀ offer ∈ underName parts, offer.Proper := by
  unfold underName
  split
  case h_2 => exact proper_asks_layer fun layer => List.mem_singleton_self _
  all_goals simp [Proper, asks, changes, Endpoint.methods, Question.methods, Change.method]

theorem proper_ofAddress (a : Address) : ∀ offer ∈ ofAddress a, offer.Proper := by
  unfold ofAddress
  split
  · simp
  · exact List.forall_mem_append.mpr ⟨proper_underWord _, proper_underName _⟩

end Offer

theorem Destination.mem_methods {method : Method} {a : Address} {e : Endpoint}
    (h : find method a = .endpoint e) : method ∈ e.methods := by
  unfold find at h
  split at h
  · split at h <;> cases h
  · split at h
    · rename_i offer hfound
      cases h
      have hmethod : offer.method = method := by simpa using List.find?_some hfound
      rw [← hmethod]
      exact Offer.proper_ofAddress a offer (List.mem_of_find?_eq_some hfound)
    · cases h

theorem Destination.method_of_change {method : Method} {a : Address} {c : Change}
    (h : find method a = .endpoint (.change c)) : method = c.method :=
  List.mem_singleton.mp (mem_methods h)

end Archimate.Web
