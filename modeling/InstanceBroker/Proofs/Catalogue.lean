import Mathlib.Data.String.Basic
import Mathlib.Data.List.Perm.Basic
import InstanceBroker.Service.Catalogue

namespace InstanceBroker.Catalogue

variable {catalogue : Catalogue} {name other : String} {entry old : Entry}

def Ascending (entries : List (String × Entry)) : Prop := entries.Pairwise (·.1 < ·.1)

theorem lookup_cons_eq (there other : String) (kept : Entry) (rest : List (String × Entry)) :
    ((there, kept) :: rest).lookup other =
      if other = there then some kept else rest.lookup other := by
  rw [List.lookup_cons]
  by_cases same : other = there
  · simp [same]
  · rw [beq_false_of_ne same, if_neg same]

theorem lookup_place (name other : String) (entry : Entry) (entries : List (String × Entry)) :
    (place name entry entries).lookup other =
      if other = name then some entry else entries.lookup other := by
  induction entries with
  | nil => rw [place, lookup_cons_eq]
  | cons first rest ih =>
    obtain ⟨there, kept⟩ := first
    simp only [place]
    split
    · rw [lookup_cons_eq]
    · split
      · rename_i equal
        subst equal
        rw [lookup_cons_eq, lookup_cons_eq]
        split <;> rfl
      · rename_i apart
        rw [lookup_cons_eq, ih, lookup_cons_eq]
        by_cases same : other = name
        · subst same
          rw [if_neg apart, if_pos rfl, if_pos rfl]
        · rw [if_neg same, if_neg same]

theorem lookup_without (name other : String) (entries : List (String × Entry)) :
    (entries.filter (·.1 ≠ name)).lookup other =
      if other = name then none else entries.lookup other := by
  induction entries with
  | nil => simp
  | cons first rest ih =>
    obtain ⟨there, kept⟩ := first
    by_cases gone : there = name
    · subst gone
      rw [List.filter_cons_of_neg (by simp), ih, lookup_cons_eq]
      split <;> rfl
    · rw [List.filter_cons_of_pos (by simpa using gone), lookup_cons_eq, ih, lookup_cons_eq]
      by_cases same : other = name
      · subst same
        rw [if_neg (Ne.symm gone), if_pos rfl, if_pos rfl]
      · rw [if_neg same, if_neg same]

@[simp] theorem find?_put (name other : String) (entry : Entry) :
    (catalogue.put name entry).find? other =
      if other = name then some entry else catalogue.find? other := lookup_place ..

@[simp] theorem find?_erase (name other : String) :
    (catalogue.erase name).find? other = if other = name then none else catalogue.find? other :=
  lookup_without ..

theorem contains_put (name other : String) (entry : Entry) :
    (catalogue.put name entry).contains other = (other == name || catalogue.contains other) := by
  rw [contains, find?_put, contains]
  by_cases same : other = name <;> simp [same]

theorem contains_erase (name other : String) :
    (catalogue.erase name).contains other = (other != name && catalogue.contains other) := by
  rw [contains, find?_erase, contains]
  by_cases same : other = name <;> simp [same]

theorem contains_of_find? (found : catalogue.find? name = some entry) :
    catalogue.contains name = true := by rw [contains, found]; rfl

theorem existing_eq_ok_iff :
    catalogue.existing name = .ok entry ↔ catalogue.find? name = some entry := by
  unfold existing
  split <;> rename_i found <;> simp [found]

theorem existing_eq_error {error : OperationError}
    (failed : catalogue.existing name = .error error) :
    error = .notFound name ∧ catalogue.contains name = false := by
  unfold existing at failed
  split at failed
  · cases failed
  · rename_i missing
    cases failed
    exact ⟨rfl, by rw [contains, missing]; rfl⟩

theorem mem_of_lookup {entries : List (String × Entry)}
    (found : entries.lookup name = some entry) :
    (name, entry) ∈ entries := by
  obtain ⟨before, after, rfl, _⟩ := List.lookup_eq_some_iff.mp found
  simp

theorem mem_of_find? (found : catalogue.find? name = some entry) :
    (name, entry) ∈ catalogue.entries := mem_of_lookup found

theorem filter_eq_self_of_lt {entries : List (String × Entry)}
    (below : ∀ item ∈ entries, name < item.1) : entries.filter (·.1 ≠ name) = entries :=
  List.filter_eq_self.mpr fun item among => by simpa using (below item among).ne'

theorem place_perm {entries : List (String × Entry)} (ascending : Ascending entries) :
    (place name entry entries).Perm ((name, entry) :: entries.filter (·.1 ≠ name)) := by
  induction entries with
  | nil => exact .refl _
  | cons first rest ih =>
    obtain ⟨there, kept⟩ := first
    obtain ⟨below, ordered⟩ := List.pairwise_cons.mp ascending
    simp only [place]
    split
    · rename_i before
      rw [filter_eq_self_of_lt]
      intro item among
      rcases List.mem_cons.mp among with rfl | among
      · exact before
      · exact before.trans (below item among)
    · split
      · rename_i equal
        subst equal
        rw [List.filter_cons_of_neg (by simp), filter_eq_self_of_lt below]
      · rename_i apart
        rw [List.filter_cons_of_pos (by simpa using Ne.symm apart)]
        exact ((ih ordered).cons _).trans (.swap ..)

theorem place_self {entries : List (String × Entry)} (ascending : Ascending entries)
    (found : entries.lookup name = some entry) : place name entry entries = entries := by
  induction entries with
  | nil => cases found
  | cons first rest ih =>
    obtain ⟨there, kept⟩ := first
    obtain ⟨below, ordered⟩ := List.pairwise_cons.mp ascending
    rw [lookup_cons_eq] at found
    by_cases same : name = there
    · subst same
      rw [if_pos rfl, Option.some.injEq] at found
      simp [place, found]
    · rw [if_neg same] at found
      have after : there < name := below _ (mem_of_lookup found)
      simp only [place, not_lt_of_gt after, if_false, same]
      rw [ih ordered found]

theorem perm_of_find? (ascending : Ascending catalogue.entries)
    (found : catalogue.find? name = some old) :
    catalogue.entries.Perm ((name, old) :: (catalogue.erase name).entries) := by
  have same := place_self ascending found
  have perm : (place name old catalogue.entries).Perm
      ((name, old) :: (catalogue.erase name).entries) := place_perm ascending
  rw [same] at perm
  exact perm

theorem Ascending.erase (ascending : Ascending catalogue.entries) (name : String) :
    Ascending (catalogue.erase name).entries := ascending.filter _

theorem Ascending.place {entries : List (String × Entry)} (ascending : Ascending entries)
    (name : String) (entry : Entry) : Ascending (place name entry entries) := by
  induction entries with
  | nil => exact List.pairwise_singleton ..
  | cons first rest ih =>
    obtain ⟨there, kept⟩ := first
    obtain ⟨below, ordered⟩ := List.pairwise_cons.mp ascending
    simp only [Catalogue.place]
    split
    · rename_i before
      refine List.pairwise_cons.mpr ⟨fun item among => ?_, ascending⟩
      rcases List.mem_cons.mp among with rfl | among
      · exact before
      · exact before.trans (below item among)
    · rename_i notBefore
      split
      · rename_i equal
        subst equal
        exact List.pairwise_cons.mpr ⟨below, ordered⟩
      · rename_i apart
        have after : there < name := lt_of_le_of_ne (not_lt.mp notBefore) (Ne.symm apart)
        refine List.pairwise_cons.mpr ⟨fun item among => ?_, ih ordered⟩
        rcases List.mem_cons.mp ((place_perm ordered).mem_iff.mp among) with rfl | among
        · exact after
        · exact below item (List.mem_of_mem_filter among)

theorem Ascending.put (ascending : Ascending catalogue.entries) (name : String) (entry : Entry) :
    Ascending (catalogue.put name entry).entries := Ascending.place ascending name entry

theorem put_perm (ascending : Ascending catalogue.entries) :
    (catalogue.put name entry).entries.Perm ((name, entry) :: (catalogue.erase name).entries) :=
  place_perm ascending

theorem erase_of_missing (missing : catalogue.contains name = false) :
    (catalogue.erase name).entries = catalogue.entries := by
  refine List.filter_eq_self.mpr fun item among => ?_
  have absent : catalogue.entries.lookup name = none := by
    simpa [contains, find?] using missing
  have apart := List.lookup_eq_none_iff.mp absent item among
  simpa using Ne.symm (by simpa using apart)

def ports (catalogue : Catalogue) : List UInt16 := catalogue.entries.map (·.2.details.ssh.port)

def withPortTaken (catalogue : Catalogue) : Catalogue :=
  { catalogue with nextPort := catalogue.nextPort + 1 }

theorem takePort_cases (catalogue : Catalogue) :
    (catalogue.nextPort < portLimit ∧
      catalogue.takePort = .ok (.ofNat catalogue.nextPort, catalogue.withPortTaken)) ∨
    (portLimit ≤ catalogue.nextPort ∧
      catalogue.takePort = .error (.backend "No SSH ports left to forward")) := by
  unfold takePort
  split
  · rename_i left
    exact .inl ⟨left, rfl⟩
  · rename_i none
    exact .inr ⟨Nat.le_of_not_lt none, rfl⟩

end InstanceBroker.Catalogue
