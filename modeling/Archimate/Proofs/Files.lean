import Archimate.Files
import Archimate.Proofs.Dictionary

namespace Archimate

theorem FileName.text_injective : Function.Injective FileName.text := by
  intro a b h
  have hread := congrArg FileName.ofText? h
  rw [ofText?_text, ofText?_text] at hread
  exact Option.some.inj hread

theorem FileName.unwritten?_eq_none {t : Text} (h : (ofText? t).isSome) (position : Nat) :
    unwritten? position t = none := by
  induction t generalizing position with
  | nil => rfl
  | cons c cs ih =>
    rw [ofText?, Option.isSome_bind, Option.any_eq_true] at h
    obtain ⟨bytes, hbytes, hrest⟩ := h
    rw [Option.isSome_map] at hrest
    rw [unwritten?, if_pos (Option.isSome_iff_exists.mpr ⟨bytes, hbytes⟩), ih hrest]

theorem Place.eq_of_step {place next : Place} {part : Text} (hdown : part ≠ Path.above)
    (h : place.step part = .ok next) :
    ∃ name, FileName.ofText? part = some name ∧ next = place ++ [name] := by
  unfold step at h
  rw [if_neg hdown] at h
  split at h
  · rename_i name hname
    split at h
    · cases h
      exact ⟨name, hname, rfl⟩
    · cases h
  · cases h

namespace FileTree

variable {t u : FileTree} {place next gone target : Place} {p : Path} {part : Text}

section Names

def nameIn (place steps : Place) : Option FileName :=
  if steps.dropLast = place then steps.getLast? else none

theorem namesAt_eq (t : FileTree) (place : Place) :
    t.namesAt place = (t.entries.map Prod.fst).filterMap (nameIn place) := by
  rw [List.filterMap_map]
  rfl

theorem nameIn_eq_some_iff {steps : Place} {name : FileName} :
    nameIn place steps = some name ↔ steps = place ++ [name] := by
  unfold nameIn
  constructor
  · intro h
    split at h
    · rename_i hplace
      rw [← hplace, List.dropLast_append_getLast? name h]
    · cases h
  · rintro rfl
    rw [List.dropLast_concat, if_pos rfl, List.getLast?_concat]

theorem nodup_namesAt (h : (t.entries.map Prod.fst).Nodup) (place : Place) :
    (t.namesAt place).Nodup := by
  rw [namesAt_eq]
  apply h.filterMap
  intro steps steps' name hname hname'
  rw [Option.mem_def, nameIn_eq_some_iff] at hname hname'
  rw [hname, hname']

end Names

section Paths

theorem stepFrom_eq_ok_iff :
    t.stepFrom place part = .ok next ↔ t.enter place = .ok () ∧ place.step part = .ok next := by
  unfold stepFrom
  cases t.enter place with
  | error e => exact ⟨nofun, nofun⟩
  | ok entered => exact ⟨fun h => ⟨rfl, h⟩, And.right⟩

theorem follow_cons_eq_ok_iff {parts : List Text} : t.follow place (part :: parts) = .ok target ↔
    ∃ next, t.stepFrom place part = .ok next ∧ t.follow next parts = .ok target := by
  rw [follow]
  cases t.stepFrom place part with
  | error e => exact ⟨nofun, nofun⟩
  | ok next => exact ⟨fun h => ⟨next, rfl, h⟩, fun ⟨_, hnext, h⟩ => Except.ok.inj hnext ▸ h⟩

theorem follow_concat (parts : List Text) (part : Text) :
    t.follow place (parts ++ [part]) = t.follow place parts >>= fun next =>
      t.stepFrom next part := by
  induction parts generalizing place with
  | nil => exact bind_pure _
  | cons step parts ih => simp only [List.cons_append, follow, ih, bind_assoc]

theorem walk_child (t : FileTree) (p : Path) (name : Text) :
    t.walk (p.child name) = t.walk p >>= fun next => t.stepFrom next name :=
  follow_concat p.parts name

theorem walk_of_place (h : t.place p = .ok place) : t.walk p = .ok place := by
  unfold FileTree.place at h
  split at h
  · split at h
    · exact h
    · cases h
  · cases h

theorem isSome_bytes?_of_find {entry : FileEntry} (h : t.find p = .ok entry) :
    p.bytes?.isSome = true := by
  unfold find FileTree.place at h
  cases hbytes : p.bytes? with
  | none =>
    rw [hbytes] at h
    cases h
  | some bytes => rfl

theorem find_of_place (h : t.place p = .ok place) : t.find p = t.entryAt place := by
  rw [find, h]
  rfl

theorem isDirectory_of_place_error {e : FileError} (h : t.place p = .error e) :
    t.isDirectory p = if e.findsNothing then .ok false else .error e := by
  unfold isDirectory finds find
  rw [h]
  rfl

/-- The place of a path depends on the tree only through the walk. -/
theorem place_congr (h : t.walk p = u.walk p) : t.place p = u.place p := by
  unfold FileTree.place
  rw [h]

/-- Without upward steps a path leads ever deeper. -/
theorem prefix_of_follow {parts : List Text} (hdown : Path.above ∉ parts)
    (h : t.follow place parts = .ok target) : place <+: target := by
  induction parts generalizing place with
  | nil => exact Except.ok.inj h ▸ List.prefix_refl place
  | cons part parts ih =>
    obtain ⟨hpart, hdown⟩ := List.ne_and_not_mem_of_not_mem_cons hdown
    obtain ⟨next, hnext, h⟩ := follow_cons_eq_ok_iff.mp h
    obtain ⟨name, -, rfl⟩ := Place.eq_of_step hpart.symm (stepFrom_eq_ok_iff.mp hnext).2
    exact (List.prefix_append _ _).trans (ih hdown h)

end Paths

section Removal

theorem stored?_without (h : ¬ gone <+: place) :
    (t.without gone).stored? place = t.stored? place := by
  have hkeep : (!gone.isPrefixOf place) = true := by
    rw [Bool.not_eq_true', Bool.eq_false_iff]
    exact fun hunder => h (List.isPrefixOf_iff_prefix.mp hunder)
  unfold stored? without
  rw [Entries.lookup_filter (fun place => !gone.isPrefixOf place), if_pos hkeep]

theorem entryAt_without (h : ¬ gone <+: place) :
    (t.without gone).entryAt place = t.entryAt place := by
  unfold entryAt
  rw [stored?_without h]

theorem enter_without (h : ¬ gone <+: place) : (t.without gone).enter place = t.enter place := by
  unfold enter
  rw [stored?_without h]

theorem stepFrom_without (h : ¬ gone <+: place) (part : Text) :
    (t.without gone).stepFrom place part = t.stepFrom place part := by
  unfold stepFrom
  rw [enter_without h]

theorem stored?_of_without {entry : FileEntry} (h : (t.without gone).stored? place = some entry) :
    t.stored? place = some entry := by
  unfold stored? without at *
  split
  · rename_i hroot
    rwa [if_pos hroot] at h
  · rename_i hroot
    rw [if_neg hroot, Entries.lookup_filter fun place => !gone.isPrefixOf place] at h
    split at h
    · exact h
    · cases h

theorem enter_of_without (h : (t.without gone).enter place = .ok ()) : t.enter place = .ok () := by
  unfold enter at h
  split at h
  · rename_i hentry
    unfold enter
    rw [stored?_of_without hentry]
  all_goals cases h

theorem follow_of_without {parts : List Text}
    (h : (t.without gone).follow place parts = .ok target) : t.follow place parts = .ok target := by
  induction parts generalizing place with
  | nil => exact h
  | cons part parts ih =>
    obtain ⟨next, hnext, h⟩ := follow_cons_eq_ok_iff.mp h
    obtain ⟨henter, hstep⟩ := stepFrom_eq_ok_iff.mp hnext
    exact follow_cons_eq_ok_iff.mpr
      ⟨next, stepFrom_eq_ok_iff.mpr ⟨enter_of_without henter, hstep⟩, ih h⟩

/-- Without upward steps, no path but those under the removed place is lost. -/
theorem follow_without {parts : List Text} (hdown : Path.above ∉ parts)
    (hout : ¬ gone <+: target) (h : t.follow place parts = .ok target) :
    (t.without gone).follow place parts = .ok target := by
  induction parts generalizing place with
  | nil => exact h
  | cons part parts ih =>
    -- All places on the way are prefixes of the target.
    have hplace : ¬ gone <+: place := fun hgone => hout (hgone.trans (prefix_of_follow hdown h))
    obtain ⟨next, hnext, h⟩ := follow_cons_eq_ok_iff.mp h
    exact follow_cons_eq_ok_iff.mpr ⟨next, (stepFrom_without hplace part).trans hnext,
      ih (List.ne_and_not_mem_of_not_mem_cons hdown).2 h⟩

theorem namesAt_without (t : FileTree) (gone place : Place) :
    (t.without gone).namesAt place =
      (t.namesAt place).filter fun name => !gone.isPrefixOf (place ++ [name]) := by
  have hplaces : (t.without gone).entries.map Prod.fst =
      (t.entries.map Prod.fst).filter fun steps => !gone.isPrefixOf steps := by
    rw [List.filter_map]
    rfl
  rw [namesAt_eq, namesAt_eq, hplaces, List.filterMap_filter, List.filter_filterMap]
  apply List.filterMap_congr
  intro steps _
  cases hname : nameIn place steps with
  | none => simp
  | some name => rw [nameIn_eq_some_iff.mp hname, Option.filter_some]

end Removal

section Listing

/-- The same entries in another order; no place stands twice among them. -/
structure Relisted (t u : FileTree) : Prop where
  perm : t.entries.Perm u.entries
  distinct : (t.entries.map Prod.fst).Nodup
  workingDirectory : t.workingDirectory = u.workingDirectory

theorem Relisted.entry_eq (h : t.Relisted u) (place : Place) :
    t.stored? place = u.stored? place := by
  unfold stored?
  rw [Entries.lookup_perm h.perm h.distinct]

theorem Relisted.walk_eq (h : t.Relisted u) (p : Path) : t.walk p = u.walk p := by
  have hstep (place : Place) (part : Text) : t.stepFrom place part = u.stepFrom place part := by
    unfold stepFrom enter
    rw [h.entry_eq]
  have hfollow (place : Place) (parts : List Text) :
      t.follow place parts = u.follow place parts := by
    induction parts generalizing place with
    | nil => rfl
    | cons part parts ih => simp only [follow, hstep, ih]
  unfold walk start
  rw [h.workingDirectory, hfollow]

theorem Relisted.find_eq (h : t.Relisted u) (p : Path) : t.find p = u.find p := by
  unfold find entryAt
  rw [place_congr (h.walk_eq p), funext h.entry_eq]

theorem Relisted.namesAt_perm (h : t.Relisted u) (place : Place) :
    (t.namesAt place).Perm (u.namesAt place) :=
  h.perm.filterMap _

end Listing

end FileTree

end Archimate
