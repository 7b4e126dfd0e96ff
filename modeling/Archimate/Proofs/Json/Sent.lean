import Archimate.Json

namespace Archimate.Json

def member? (name : Text) : Json → Option Json
  | .object members => members.lookup name
  | _ => none

theorem member?_named_nil (name : String) : (named []).member? name = none := rfl

theorem member?_named_cons (name other : String) (value : Json) (rest : List (String × Json)) :
    (named ((other, value) :: rest)).member? name =
      if name = other then some value else (named rest).member? name := by
  show List.lookup (Text.ofString name) ((Text.ofString other, value) :: _) = _
  rw [List.lookup_cons, Text.ofString_beq]
  by_cases hname : name = other
  · simp [hname]
  · rw [beq_eq_false_iff_ne.mpr hname, if_neg hname]
    rfl

theorem shown_string (t : Text) : shown (.string t) = .string t := by simp [shown]

theorem shownItems_eq (items : List Json) : shownItems items = items.map shown := by
  induction items with
  | nil => rfl
  | cons item rest ih => rw [shownItems, ih, List.map_cons]

theorem shownMembers_eq (members : List (Text × Json)) :
    shownMembers members =
      (members.filter fun member => !isInternal member.1).map fun member =>
        (member.1, member.2.shown) := by
  induction members with
  | nil => rfl
  | cons member rest ih =>
    obtain ⟨name, value⟩ := member
    rw [shownMembers, ih]
    by_cases hname : isInternal name <;> simp [hname]

theorem lookup_shownMembers {name : Text} (h : isInternal name = false)
    (members : List (Text × Json)) :
    (shownMembers members).lookup name = (members.lookup name).map shown := by
  induction members with
  | nil => rfl
  | cons member rest ih =>
    obtain ⟨other, value⟩ := member
    rw [shownMembers]
    by_cases hname : name = other
    · rw [← hname, h]
      simp
    · have hkey : (name == other) = false := beq_eq_false_iff_ne.mpr hname
      split <;> simp [List.lookup_cons, hkey, ih]

/-- Members that are not internal are shown. -/
theorem member?_shown {name : Text} (h : isInternal name = false) (value : Json) :
    value.shown.member? name = (value.member? name).map shown := by
  cases value with
  | object members =>
    rw [shown]
    exact lookup_shownMembers h members
  | _ => simp [shown, member?]

/-- Nothing is left out of an object without internal names whose values are shown as they are. -/
theorem shown_named {members : List (String × Json)}
    (h : ∀ member ∈ members, isInternal member.1 = false ∧ member.2.shown = member.2) :
    (named members).shown = named members := by
  rw [named, shown, shownMembers_eq, List.filter_map, List.map_map]
  have hall : members.filter ((fun member => !isInternal member.1) ∘
      fun member => (Text.ofString member.1, member.2)) = members := by
    apply List.filter_eq_self.mpr
    intro member hmember
    simpa using (h member hmember).1
  rw [hall]
  apply congrArg Json.object
  apply List.map_congr_left
  intro member hmember
  exact congrArg (Prod.mk (Text.ofString member.1)) (h member hmember).2

theorem membersFit_iff {room : Nat} {members : List (Text × Json)} :
    membersFit room members = true ↔
      ∀ member ∈ members, member.1.isWritable = true ∧ member.2.fits room = true := by
  induction members with
  | nil => simp [membersFit]
  | cons member rest ih =>
    obtain ⟨name, value⟩ := member
    simp only [membersFit, Bool.and_eq_true, ih, List.forall_mem_cons]

theorem itemsFit_iff {room : Nat} {items : List Json} :
    itemsFit room items = true ↔ ∀ item ∈ items, item.fits room = true := by
  induction items with
  | nil => simp [itemsFit]
  | cons item rest ih => simp only [itemsFit, Bool.and_eq_true, ih, List.forall_mem_cons]

theorem fits_shown_named {room : Nat} {members : List (String × Json)}
    (h : ∀ member ∈ members, member.2.shown.fits room = true) :
    (named members).shown.fits (room + 1) = true := by
  rw [named, shown, fits, shownMembers_eq]
  refine Bool.and_eq_true_iff.mpr ⟨decide_eq_true (Nat.succ_pos room), membersFit_iff.mpr ?_⟩
  intro member hmember
  obtain ⟨inner, hinner, rfl⟩ := List.mem_map.mp hmember
  obtain ⟨outer, houter, rfl⟩ := List.mem_map.mp (List.mem_filter.mp hinner).1
  exact ⟨Text.isWritable_ofChars _, h outer houter⟩

theorem canBeSent_named {members : List (String × Json)}
    (h : ∀ member ∈ members, member.2.shown.fits (depthSent - 1) = true) :
    (named members).shown.canBeSent = true := fits_shown_named h

theorem fits_shown_string (room : Nat) (s : String) :
    (shown (.string s)).fits room = true := by
  rw [shown, fits]
  exact Text.isWritable_ofChars _
  all_goals exact nofun

theorem fits_shown_whole (room : Nat) (n : Int) : (shown (.whole n)).fits room = true := by
  simp [shown, fits]

end Archimate.Json
