/-
# What a table of settings holds

A table is known by its pairs. Recording a new name adds one pair to them, up to
order (`perm_insert`); a name has a value exactly if the pair is there
(`get?_eq_some_iff`), since no name is there twice (`names_nodup`). Pairs with
different names make one table, in whatever order they come (`ofList_of_nodup`).

Key theorems: `perm_insert`, `insert_of_new`, `insert_of_mem`, `contains_iff`,
`get?_eq_some_iff`, `names_ext`, `ext_get?`, `ofList_of_nodup`, `ofList_toList`.
-/
import BuildSettings.Settings
import Mathlib.Data.List.Nodup

namespace BuildSettings.Settings

theorem perm_place (p : String × String) :
    ∀ l : List (String × String), (place p l).Perm (p :: l)
  | [] => .refl _
  | q :: rest => by
    unfold place
    split
    · exact .refl _
    · exact ((perm_place p rest).cons q).trans (.swap p q rest)

theorem perm_insert {s t : Settings} {name value : String} (h : s.insert name value = .ok t) :
    t.toList.Perm (s.toList ++ [(name, value)]) := by
  rw [toList_insert h]
  exact (perm_place _ _).trans (List.perm_append_singleton _ _).symm

theorem contains_iff {s : Settings} {name : String} : s.contains name = true ↔ name ∈ s.names := by
  simp [contains, names]

theorem insert_of_new {s : Settings} {name : String} (h : name ∉ s.names) (value : String) :
    ∃ t, s.insert name value = .ok t := by
  have hc : ¬ s.contains name = true := fun hc => h (contains_iff.mp hc)
  unfold insert
  rw [dif_neg hc]
  exact ⟨_, rfl⟩

theorem insert_of_mem {s : Settings} {name : String} (h : name ∈ s.names) (value : String) :
    s.insert name value = .error (.duplicateSetting name) := by
  unfold insert
  rw [dif_pos (contains_iff.mpr h)]

theorem ne_of_lt {a b : String} (h : a < b) : a ≠ b :=
  fun he => String.lt_irrefl b (he ▸ h)

theorem names_increasing (s : Settings) : s.names.Pairwise (· < ·) := by
  rw [names, List.pairwise_map]
  exact s.sorted

theorem names_nodup (s : Settings) : s.names.Nodup :=
  s.names_increasing.imp ne_of_lt

theorem get?_eq_some_iff {s : Settings} {name value : String} :
    s.get? name = some value ↔ (name, value) ∈ s.toList := by
  unfold get?
  rw [Option.map_eq_some_iff]
  constructor
  · rintro ⟨p, hp, rfl⟩
    have hname : p.1 = name := by simpa using List.find?_some hp
    exact hname ▸ List.mem_of_find?_eq_some hp
  · intro hmem
    have hsome : (s.toList.find? (·.1 = name)).isSome := by
      rw [List.find?_isSome]
      exact ⟨_, hmem, by simp⟩
    obtain ⟨p, hp⟩ := Option.isSome_iff_exists.mp hsome
    have hname : p.1 = name := by simpa using List.find?_some hp
    have hp' := List.mem_of_find?_eq_some hp
    have heq := List.inj_on_of_nodup_map s.names_nodup hp' hmem hname
    exact ⟨p, hp, by rw [heq]⟩

theorem get?_eq_none_iff {s : Settings} {name : String} : s.get? name = none ↔ name ∉ s.names := by
  rw [← contains_iff, contains_eq]
  cases s.get? name <;> simp

theorem get?_isSome {s : Settings} {name : String} :
    (s.get? name).isSome = true ↔ name ∈ s.names := by
  rw [← contains_eq, contains_iff]

/-- The names are known by which of them have a value. -/
theorem names_ext {s t : Settings}
    (h : ∀ name, (s.get? name).isSome = (t.get? name).isSome) : s.names = t.names := by
  have hperm : s.names.Perm t.names :=
    (List.perm_ext_iff_of_nodup s.names_nodup t.names_nodup).mpr fun name => by
      rw [← get?_isSome, ← get?_isSome, h name]
  exact hperm.eq_of_pairwise (fun a b _ _ hab hba => absurd hba (String.lt_asymm hab))
    s.names_increasing t.names_increasing

/-- A table is known by its pairs, whatever their order. -/
theorem eq_of_perm {s t : Settings} (h : s.toList.Perm t.toList) : s = t := by
  refine ext_toList (h.eq_of_pairwise ?_ s.sorted t.sorted)
  intro a b _ _ hab hba
  exact absurd hba (String.lt_asymm hab)

theorem ext_get? {s t : Settings} (h : ∀ name, s.get? name = t.get? name) : s = t := by
  refine eq_of_perm ((List.perm_ext_iff_of_nodup ?_ ?_).mpr fun p => ?_)
  · exact .of_map _ s.names_nodup
  · exact .of_map _ t.names_nodup
  · rw [← get?_eq_some_iff, ← get?_eq_some_iff, h]

/-- Pairs are recorded one after another if their names are new and different. -/
theorem foldlM_insert {pairs : List (String × String)} {s : Settings}
    (h : (s.names ++ pairs.map (·.1)).Nodup) :
    ∃ t, pairs.foldlM (fun s p => s.insert p.1 p.2) s = .ok t ∧
      t.toList.Perm (s.toList ++ pairs) := by
  induction pairs generalizing s with
  | nil => exact ⟨s, rfl, by rw [List.append_nil]⟩
  | cons p rest ih =>
    have hnew : p.1 ∉ s.names := fun hmem =>
      (List.nodup_append.mp h).2.2 p.1 hmem p.1 List.mem_cons_self rfl
    obtain ⟨next, hnext⟩ := insert_of_new hnew p.2
    have hadd : next.toList.Perm (s.toList ++ [p]) := perm_insert hnext
    have hnames : (next.names ++ rest.map (·.1)).Nodup := by
      have hmap := (hadd.map (·.1)).append_right (rest.map (·.1))
      rw [List.map_append, List.append_assoc] at hmap
      exact hmap.nodup_iff.mpr h
    obtain ⟨t, ht, hperm⟩ := ih hnames
    refine ⟨t, ?_, ?_⟩
    · rw [List.foldlM_cons, hnext]
      exact ht
    · have hall := hperm.trans (hadd.append_right rest)
      rwa [List.append_assoc] at hall

theorem ofList_of_nodup {pairs : List (String × String)} (h : (pairs.map (·.1)).Nodup) :
    ∃ t, ofList pairs = .ok t ∧ t.toList.Perm pairs :=
  foldlM_insert (s := empty) h

theorem ofList_toList (s : Settings) : ofList s.toList = .ok s := by
  obtain ⟨t, ht, hperm⟩ := ofList_of_nodup s.names_nodup
  rw [ht, eq_of_perm hperm]

end BuildSettings.Settings
