import Archimate.Proofs.Json.Sent
import Archimate.Proofs.Web.Effect
import Archimate.Proofs.Web.Routing

namespace Archimate.Web

open Store (Write SameBut)

namespace Response

def isSuccess (r : Response) : Bool := 200 ≤ r.status && r.status < 300

def member? (r : Response) (name : String) : Option Json :=
  match r.content with
  | .json value => value.member? name
  | _ => none

theorem sealed_json (status : Nat) (value : Json) :
    sealed ⟨status, .json value⟩ =
      if value.shown.canBeSent then ⟨status, .json value.shown⟩ else internalError := rfl

theorem isSuccess_of_sealed {r : Response} (h : r.sealed.isSuccess = true) :
    r.isSuccess = true := by
  obtain ⟨status, content⟩ := r
  cases content with
  | json value =>
    rw [sealed_json] at h
    split at h
    · exact h
    · cases h
  | _ => exact h

theorem Refusal.isSuccess_eq_false {r : Response} (h : r.Refusal) : r.isSuccess = false := by
  have := h.failed
  simp only [isSuccess, Bool.and_eq_false_iff, decide_eq_false_iff_not]
  omega

theorem Refusal.isSuccess_sealed {r : Response} (h : r.Refusal) : r.sealed.isSuccess = false := by
  refine Bool.eq_false_iff.mpr fun hsuccess => ?_
  have := isSuccess_of_sealed hsuccess
  rw [h.isSuccess_eq_false] at this
  cases this

end Response

namespace Change

/-- Changes that save what the body declares: under its own uid, or under the id in the address. -/
inductive Saves : Change → Text → Prop where
  | create (uid : Text) : Saves .create uid
  | replace (id : String) : Saves (.replace id) id

end Change

namespace Request

/-- What a request writes: the writes of the change that it leads to. -/
def writes (s : Surroundings) (store : Store) (r : Request) : List Write :=
  match Destination.find r.method r.address with
  | .endpoint (.change c) => c.writes s store r.body
  | _ => []

/-- The request stored an architecture that its answer cannot show, and fails for that. -/
structure StoredUnsent (store : Store) (r : Request) (reply : Reply) (c : Change)
    (a : Architecture) : Prop where
  found : Destination.find r.method r.address = .endpoint (.change c)
  saves : c.Saves a.uid
  unsendable : a.toJson.shown.canBeSent = false
  response : reply.response = .internalError
  store_eq : reply.store = store.save a

end Request

variable {s : Surroundings} {now : String} {store : Store} {r : Request} {c : Change}

theorem Request.writes_of_change
    (h : Destination.find r.method r.address = .endpoint (.change c)) :
    r.writes s store = c.writes s store r.body := by
  unfold writes
  rw [h]

theorem fullAnswer_of_change (s : Surroundings) (now : String) (store : Store)
    (h : Destination.find r.method r.address = .endpoint (.change c)) :
    fullAnswer s now store r = c.answer s store r.body := by
  unfold fullAnswer
  rw [h]
  rfl

theorem effect_fullAnswer (s : Surroundings) (now : String) (store : Store)
    (h : Destination.find r.method r.address = .endpoint (.change c)) :
    Change.Effect store c (r.writes s store) (fullAnswer s now store r) := by
  rw [Request.writes_of_change h, fullAnswer_of_change s now store h]
  exact Change.effect_answer s store r.body c

theorem keeps_of_no_change (s : Surroundings) (now : String) (store : Store)
    (h : ∀ c, Destination.find r.method r.address ≠ .endpoint (.change c)) :
    r.writes s store = [] ∧ (answer s now store r).store = store := by
  unfold Request.writes answer fullAnswer
  cases hfind : Destination.find r.method r.address with
  | endpoint e =>
    cases e with
    | question q => exact ⟨rfl, rfl⟩
    | change c => exact absurd hfind (h c)
  | otherMethod => exact ⟨rfl, rfl⟩
  | elsewhere a => exact ⟨rfl, rfl⟩
  | nowhere => exact ⟨rfl, rfl⟩

/-- The store that a request leaves is the one that its writes make. -/
theorem store_answer (s : Surroundings) (now : String) (store : Store) (r : Request) :
    (answer s now store r).store = store.applyAll (r.writes s store) := by
  by_cases hchange : ∃ c, Destination.find r.method r.address = .endpoint (.change c)
  · obtain ⟨c, hc⟩ := hchange
    exact (effect_fullAnswer s now store hc).store_eq
  · obtain ⟨hwrites, hstore⟩ := keeps_of_no_change s now store (not_exists.mp hchange)
    rw [hwrites, hstore]
    rfl

theorem response_of_change (s : Surroundings) (now : String) (store : Store)
    (h : Destination.find r.method r.address = .endpoint (.change c)) :
    (answer s now store r).response = (fullAnswer s now store r).response.sealed := by
  have hmethod : r.method ≠ .head := by
    rw [Destination.method_of_change h]
    cases c <;> simp [Change.method]
  exact if_neg hmethod

theorem sameBut_of_target {uid : Text} (s : Surroundings) (now : String) (store : Store)
    (h : Destination.find r.method r.address = .endpoint (.change c))
    (htarget : c.target? = some uid) : SameBut uid store (answer s now store r).store := by
  rw [store_answer]
  exact Store.sameBut_applyAll ((effect_fullAnswer s now store h).uid_of_mem htarget) store

theorem keeps_of_get (s : Surroundings) (now : String) (store : Store) (h : r.method = .get) :
    (answer s now store r).store = store := by
  refine (keeps_of_no_change s now store fun c hc => ?_).2
  have hmethod := Destination.method_of_change hc
  rw [h] at hmethod
  cases c <;> cases hmethod

theorem reloadJson_sent (source : ModelSource) :
    (Change.reloadJson [source.readable]).shown.canBeSent = true := by
  have hjson : Change.reloadJson [source.readable] =
      .named [("loaded", .ofNat 1), ("architectures", .array [.named
        [("uid", .string conventions.mergedUid), ("name", .string conventions.mergedName)]])] := rfl
  rw [hjson]
  decide +kernel

theorem sealed_saved (status : Nat) (a : Architecture) :
    a.toJson.shown.canBeSent = true ∧
        Response.sealed ⟨status, .json a.toJson⟩ = ⟨status, .json a.toJson.shown⟩ ∨
      a.toJson.shown.canBeSent = false ∧
        Response.sealed ⟨status, .json a.toJson⟩ = .internalError := by
  rw [Response.sealed_json]
  cases hsent : a.toJson.shown.canBeSent with
  | true => exact Or.inl ⟨rfl, rfl⟩
  | false => exact Or.inr ⟨rfl, rfl⟩

/-- A change that fails has written nothing, or what it cannot show. -/
theorem keeps_or_storedUnsent (s : Surroundings) (now : String) (store : Store)
    (h : Destination.find r.method r.address = .endpoint (.change c))
    (hfailed : (answer s now store r).response.isSuccess = false) :
    (answer s now store r).store = store ∨
      ∃ a, r.StoredUnsent store (answer s now store r) c a := by
  have heffect := effect_fullAnswer s now store h
  have hresponse := response_of_change s now store h
  have hstore : (answer s now store r).store = (fullAnswer s now store r).store := rfl
  rw [hresponse] at hfailed
  -- Only what is sent can fail behind a write, and of what is shown after one only an architecture
  -- holds texts of the request.
  generalize fullAnswer s now store r = reply at heffect hresponse hstore hfailed
  generalize r.writes s store = ws at heffect
  cases heffect with
  | refused => exact Or.inl hstore
  | created a =>
    rcases sealed_saved 201 a with ⟨-, hsealed⟩ | ⟨hunsent, hsealed⟩
    · rw [Response.created, hsealed] at hfailed
      cases hfailed
    · exact Or.inr ⟨a, h, .create _, hunsent, hresponse.trans hsealed, hstore⟩
  | replaced id a hvalid huid =>
    rcases sealed_saved 200 a with ⟨-, hsealed⟩ | ⟨hunsent, hsealed⟩
    · rw [Response.ok, hsealed] at hfailed
      cases hfailed
    · exact Or.inr ⟨a, h, huid ▸ .replace id, hunsent, hresponse.trans hsealed, hstore⟩
  | deleted => cases hfailed
  | reloadedNone => exact Or.inl hstore
  | reloaded source =>
    rw [Response.ok, Response.sealed_json, reloadJson_sent] at hfailed
    cases hfailed

/-- A creation that succeeds stores an architecture and shows its uid. -/
theorem shows_created (s : Surroundings) (now : String) (store : Store)
    (h : Destination.find r.method r.address = .endpoint (.change .create))
    (hsuccess : (answer s now store r).response.isSuccess = true) :
    ∃ a, (answer s now store r).response.member? "uid" = some (.string a.uid) ∧
      (answer s now store r).store = store.save a := by
  have heffect := effect_fullAnswer s now store h
  have hresponse := response_of_change s now store h
  have hstore : (answer s now store r).store = (fullAnswer s now store r).store := rfl
  rw [hresponse] at hsuccess
  generalize fullAnswer s now store r = reply at heffect hresponse hstore hsuccess
  generalize r.writes s store = ws at heffect
  cases heffect with
  | refused _ _ _ hrefusal =>
    rw [hrefusal.isSuccess_sealed] at hsuccess
    cases hsuccess
  | created a =>
    have hname : Json.isInternal ("uid" : Text) = false := by decide
    rcases sealed_saved 201 a with ⟨-, hsealed⟩ | ⟨-, hsealed⟩
    · refine ⟨a, ?_, hstore⟩
      rw [hresponse, Response.created, hsealed]
      show a.toJson.shown.member? "uid" = _
      rw [Json.member?_shown hname]
      simp [Architecture.toJson, Json.member?_named_cons, Json.shown]
    · rw [Response.created, hsealed] at hsuccess
      cases hsuccess

/-- A request that fails or only reads changes nothing, unless it stored what it cannot show; any
other request changes one entry. -/
theorem answer_changes_one_entry (s : Surroundings) (now : String) (store : Store) (r : Request) :
    ((answer s now store r).response.isSuccess = false →
      (answer s now store r).store = store ∨
        ∃ c a, r.StoredUnsent store (answer s now store r) c a) ∧
    (r.method = .get → (answer s now store r).store = store) ∧
    (∀ q, Destination.find r.method r.address = .endpoint (.question q) →
      (answer s now store r).store = store) ∧
    (Destination.find r.method r.address = .endpoint (.change .create) →
      (answer s now store r).response.isSuccess = true →
      ∃ a, (answer s now store r).response.member? "uid" = some (.string a.uid) ∧
        (answer s now store r).store = store.save a ∧
        SameBut a.uid store (answer s now store r).store) ∧
    ∀ c uid, Destination.find r.method r.address = .endpoint (.change c) →
      c.target? = some uid → SameBut uid store (answer s now store r).store := by
  refine ⟨?_, keeps_of_get s now store, ?_, ?_, fun c uid => sameBut_of_target s now store⟩
  · intro hfailed
    by_cases hchange : ∃ c, Destination.find r.method r.address = .endpoint (.change c)
    · obtain ⟨c, hc⟩ := hchange
      exact (keeps_or_storedUnsent s now store hc hfailed).imp id fun hunsent => ⟨c, hunsent⟩
    · exact Or.inl (keeps_of_no_change s now store (not_exists.mp hchange)).2
  · intro q hq
    refine (keeps_of_no_change s now store fun c hc => ?_).2
    rw [hq] at hc
    cases hc
  · intro hcreate hsuccess
    obtain ⟨a, hshown, hstore⟩ := shows_created s now store hcreate hsuccess
    exact ⟨a, hshown, hstore, hstore ▸ Store.sameBut_apply store (.saved a)⟩

/-- Nothing to load, and a store that takes what it is given. -/
def bareSurroundings : Surroundings where
  source := ⟨.empty, ⟨[], []⟩, none⟩

def bank : Architecture :=
  .ofDocument ⟨some "Bank", ModelText.defaultFilename,
    [⟨"l", "Application", .ofList [("uid", .text "loans")]⟩]⟩

def bankStore : Store := Store.save .empty bank

def bankDeletion : Request := ⟨.delete, .read "/api/v1/architectures/arch-Bank", ""⟩

def shop : Architecture :=
  .ofDocument ⟨some "Shop", ModelText.defaultFilename,
    [⟨"t", "Application", .ofList [("uid", .text "till")]⟩]⟩

def shopBody : String :=
  "\x7b\"content\":\"module Shop\\nt: Application = new \x7b\\n uid = \\\"till\\\"\\n\x7d\"\x7d"

def shopCreation : Request := ⟨.post, .read "/api/v1/architectures", shopBody⟩

def missingReplacement : Request := ⟨.put, .read "/api/v1/architectures/arch-Post", shopBody⟩

theorem answer_changes_one_entry_shop :
    (∃ a, (answer bareSurroundings "" bankStore shopCreation).response.member? "uid" =
        some (.string a.uid) ∧
      (answer bareSurroundings "" bankStore shopCreation).store = bankStore.save a ∧
      SameBut a.uid bankStore (answer bareSurroundings "" bankStore shopCreation).store) ∧
    (answer bareSurroundings "" bankStore missingReplacement).response.status = 404 ∧
    (answer bareSurroundings "" bankStore missingReplacement).store = bankStore ∧
    SameBut "arch-Bank" bankStore (answer bareSurroundings "" bankStore bankDeletion).store := by
  have hstatus :
      (answer bareSurroundings "" bankStore missingReplacement).response.status = 404 := by
    decide +kernel
  obtain ⟨-, -, -, hcreate, -⟩ :=
    answer_changes_one_entry bareSurroundings "" bankStore shopCreation
  obtain ⟨hfailed, -⟩ := answer_changes_one_entry bareSurroundings "" bankStore missingReplacement
  obtain ⟨-, -, -, -, htarget⟩ :=
    answer_changes_one_entry bareSurroundings "" bankStore bankDeletion
  refine ⟨hcreate (by decide +kernel) (by decide +kernel), hstatus, ?_,
    htarget (.delete "arch-Bank") "arch-Bank" (by decide +kernel) rfl⟩
  rcases hfailed (by rw [Response.isSuccess, hstatus]; rfl) with hstore | ⟨c, a, hunsent⟩
  · exact hstore
  · rw [hunsent.response] at hstatus
    cases hstatus

/-- Its file name is half of a surrogate pair, which the architecture shows as its source. -/
def unsentCreation : Request where
  method := .post
  address := .read "/api/v1/architectures"
  body := "\x7b\"content\":\"\",\"filename\":\"\\ud800\"\x7d"

theorem unsentCreation_fails_and_stores :
    400 ≤ (answer bareSurroundings "" .empty unsentCreation).response.status ∧
      (answer bareSurroundings "" .empty unsentCreation).store ≠ .empty := by
  decide +kernel

end Archimate.Web
