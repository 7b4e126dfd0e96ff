import Archimate.Architecture.Assembly
import Archimate.Proofs.Literal.Numbers

namespace Archimate

/-- A whole number with more digits than can be written. -/
structure Unwritable where
  value : Int

namespace Checked

/-- A text that shows the numbers, unless one of them cannot be written. -/
def showing {α : Type} (numbers : List Int) (a : α) : Except Unwritable α :=
  match numbers.find? fun n => digitLimit < digitCount n with
  | some n => .error ⟨n⟩
  | none => .ok a

def reference (r : Record) (key : Text) : Except Unwritable Text :=
  match r.value? key with
  | some value => showing value.numbers value.written
  | none => .ok conventions.unknownReference

def property (entry : Text × Atom) : Except Unwritable (Text × Text) :=
  showing entry.2.numbers (entry.1, entry.2.plain)

def properties (r : Record) (key : Text) : Except Unwritable (Dictionary Text Text) :=
  match r.value? key with
  | some (.map entries) =>
    ((entries.entries.filter (·.2 != .null)).mapM property).map Dictionary.ofList
  | _ => .ok .empty

def elementProperties (r : Record) : Except Unwritable (Dictionary Text Text) := do
  let own ← properties r "properties"
  if own.isEmpty then properties r "metadata" else .ok own

def element (kind : ElementKind) (r : Record) : Except Unwritable (Option (Element kind)) :=
  match Element.ofRecord? kind r with
  | some e => (elementProperties r).map fun properties => some { e with properties := properties }
  | none => .ok none

def relationship (r : Record) : Except Unwritable (Option Relationship) :=
  match Relationship.ofRecord? r with
  | some relationship => do
    let source ← reference r "source"
    let target ← reference r "target"
    let properties ← properties r "properties"
    .ok (some { relationship with source := source, target := target, properties := properties })
  | none => .ok none

def each {α : Type} (become : Record → Except Unwritable (Option α)) (records : List Record) :
    Except Unwritable (List α) :=
  (records.mapM become).map fun results => results.filterMap id

def elements (kind : ElementKind) (objects : List Record) :
    Except Unwritable (List (Element kind)) :=
  each (element kind) objects

def business (objects : List Record) : Except Unwritable BusinessLayer := do
  let domains ← elements .businessDomain objects
  let capabilities ← elements .businessCapability objects
  let actors ← elements .businessActor objects
  let processes ← elements .businessProcess objects
  let services ← elements .businessService objects
  .ok ⟨domains, capabilities, actors, processes, services⟩

def application (objects : List Record) : Except Unwritable ApplicationLayer := do
  let applications ← elements .application objects
  let components ← elements .applicationComponent objects
  let services ← elements .applicationService objects
  let interfaces ← elements .applicationInterface objects
  .ok ⟨applications, components, services, interfaces⟩

def technology (objects : List Record) : Except Unwritable TechnologyLayer := do
  let nodes ← elements .technologyNode objects
  let services ← elements .technologyService objects
  let artifacts ← elements .artifact objects
  let interfaces ← elements .technologyInterface objects
  let systemSoftware ← elements .systemSoftware objects
  .ok ⟨nodes, services, artifacts, interfaces, systemSoftware⟩

def filled (a : Architecture) (objects relationships : List Record) :
    Except Unwritable Architecture := do
  let business ← business objects
  let application ← application objects
  let technology ← technology objects
  let relationships ← each relationship relationships
  .ok { a with
    business := business
    application := application
    technology := technology
    relationships := relationships }

def ofDocument (d : Document) : Except Unwritable Architecture :=
  filled (.ofDocument d) d.objects d.relationships

def merge (business application technology : List Document) : Except Unwritable Architecture :=
  let documents := business ++ application ++ technology
  filled (.merge business application technology) (documents.flatMap Document.objects)
    (documents.flatMap Document.relationships)

variable {r : Record} {rs : List Record} {a : Architecture}

theorem showing_eq_ok {α : Type} {numbers : List Int} (a : α)
    (h : ∀ n ∈ numbers, digitCount n ≤ digitLimit) : showing numbers a = .ok a := by
  have hnone : numbers.find? (fun n => digitLimit < digitCount n) = none := by
    apply List.find?_eq_none.mpr
    intro n hn
    simpa using h n hn
  unfold showing
  rw [hnone]

theorem mapM_eq_ok_map {α β : Type} {f : α → Except Unwritable β} {g : α → β} {xs : List α}
    (h : ∀ x ∈ xs, f x = .ok (g x)) : xs.mapM f = .ok (xs.map g) := by
  induction xs with
  | nil => rfl
  | cons x xs ih =>
    have hhead := h x List.mem_cons_self
    have htail := ih fun y hy => h y (List.mem_cons_of_mem x hy)
    rw [List.mapM_cons, hhead, htail]
    rfl

theorem writable_of_value? (hr : r.Writable) {key : Text} {value : Literal}
    (h : r.value? key = some value) : value.Writable := by
  obtain ⟨stored, hfound, hpresent⟩ := Option.bind_eq_some_iff.mp h
  have hstored : stored.Writable := hr _ (Dictionary.find?_eq_some_iff.mp hfound)
  cases stored <;> cases hpresent <;> exact hstored

theorem reference_eq_ok (hr : r.Writable) (key : Text) :
    reference r key = .ok (Relationship.referenceOf r key) := by
  unfold reference Relationship.referenceOf
  cases hvalue : r.value? key with
  | none => rfl
  | some value => exact showing_eq_ok _ (writable_of_value? hr hvalue)

theorem properties_eq_ok (hr : r.Writable) (key : Text) :
    properties r key = .ok (r.properties key) := by
  unfold properties Record.properties
  cases hvalue : r.value? key with
  | none => rfl
  | some value =>
    have hwritable := writable_of_value? hr hvalue
    cases value with
    | map entries =>
      -- The numbers of an entry are numbers of the map.
      have hproperty : ∀ entry ∈ entries.entries.filter (·.2 != .null),
          property entry = .ok (entry.1, entry.2.plain) := by
        intro entry hentry
        apply showing_eq_ok
        intro n hn
        apply hwritable
        have hmem : entry ∈ entries.entries := (List.mem_filter.mp hentry).1
        exact List.mem_flatMap.mpr ⟨entry.2, List.mem_map_of_mem hmem, hn⟩
      dsimp only
      rw [mapM_eq_ok_map hproperty]
      rfl
    | _ => rfl

theorem elementProperties_eq_ok (hr : r.Writable) :
    elementProperties r = .ok (Element.propertiesOf r) := by
  unfold elementProperties Element.propertiesOf
  rw [properties_eq_ok hr, properties_eq_ok hr]
  exact (apply_ite Except.ok _ _ _).symm

theorem element_eq_ok (hr : r.Writable) (kind : ElementKind) :
    element kind r = .ok (Element.ofRecord? kind r) := by
  unfold element
  split
  · rename_i e he
    rw [he, elementProperties_eq_ok hr]
    unfold Element.ofRecord? at he
    split at he
    · obtain ⟨uid, -, rfl⟩ := Option.map_eq_some_iff.mp he
      rfl
    · cases he
  · rename_i hnone
    rw [hnone]

theorem relationship_eq_ok (hr : r.Writable) :
    relationship r = .ok (Relationship.ofRecord? r) := by
  unfold relationship
  split
  · rename_i found hfound
    rw [hfound, reference_eq_ok hr, reference_eq_ok hr, properties_eq_ok hr]
    obtain ⟨uid, -, rfl⟩ := Option.map_eq_some_iff.mp hfound
    rfl
  · rename_i hnone
    rw [hnone]

theorem each_eq_ok {α : Type} {become : Record → Except Unwritable (Option α)}
    {plain : Record → Option α} (h : ∀ r ∈ rs, become r = .ok (plain r)) :
    each become rs = .ok (rs.filterMap plain) := by
  unfold each
  rw [mapM_eq_ok_map h]
  show Except.ok ((rs.map plain).filterMap id) = _
  rw [List.filterMap_map]
  rfl

theorem elements_eq_ok (h : ∀ r ∈ rs, r.Writable) (kind : ElementKind) :
    elements kind rs = .ok (elementsOf kind rs) :=
  each_eq_ok fun r hr => element_eq_ok (h r hr) kind

theorem filled_eq_ok {objects relationships : List Record} (hobjects : ∀ r ∈ objects, r.Writable)
    (hrelationships : ∀ r ∈ relationships, r.Writable) :
    filled a objects relationships = .ok { a with
      business := .ofRecords objects
      application := .ofRecords objects
      technology := .ofRecords objects
      relationships := relationshipsOf relationships } := by
  have helements := elements_eq_ok hobjects
  have hrelated : each relationship relationships = .ok (relationshipsOf relationships) :=
    each_eq_ok fun r hr => relationship_eq_ok (hrelationships r hr)
  unfold filled business application technology
  simp only [helements, hrelated]
  rfl

end Checked

/-- A document that some text is read as. -/
def Document.IsRead (d : Document) : Prop := ∃ text source, Document.parse text source = .ok d

theorem Document.IsRead.writable {d : Document} (h : d.IsRead) : ∀ r ∈ d.objects, r.Writable := by
  obtain ⟨text, source, hparse⟩ := h
  exact writable_of_parse hparse

theorem Document.IsRead.writable_relationships {d : Document} (h : d.IsRead) :
    ∀ r ∈ d.relationships, r.Writable :=
  fun r hr => h.writable r (List.mem_filter.mp hr).1

namespace Checked

theorem ofDocument_eq_ok {d : Document} (h : d.IsRead) :
    ofDocument d = .ok (.ofDocument d) :=
  filled_eq_ok h.writable h.writable_relationships

theorem merge_eq_ok {business application technology : List Document}
    (h : ∀ d ∈ business ++ application ++ technology, d.IsRead) :
    merge business application technology = .ok (.merge business application technology) := by
  apply filled_eq_ok
  · intro r hr
    obtain ⟨d, hd, hr⟩ := List.mem_flatMap.mp hr
    exact (h d hd).writable r hr
  · intro r hr
    obtain ⟨d, hd, hr⟩ := List.mem_flatMap.mp hr
    exact (h d hd).writable_relationships r hr

end Checked

end Archimate
