/-
# Recording a list of pairs

Pairs are recorded one after another, up to the first whose name came before. It is
refused, and so is the list, whatever follows (`ofList_eq_error_iff`). If there is no
such pair, all of them are in the table, and it does not tell in which order they
came, since a table is known by its pairs (`ofList_of_perm`). So the file does not
either: it has each pair's assignment and each name's export once, by name.

Key definition: `Repeats`.
Key theorems: `ofList_of_repeats`, `exists_repeats`, `ofList_eq_error_iff`,
`ofList_of_perm`, `recorded_in_any_order`.
-/
import BuildSettings.Proofs.History
import BuildSettings.Proofs.Layout
import Mathlib.Data.List.Induction

namespace BuildSettings.Settings

/-- A name is the first to come a second time: before it all names are different,
and it is one of them. -/
def Repeats (pairs : List (String × String)) (name : String) : Prop :=
  ∃ pre value post, pairs = pre ++ (name, value) :: post ∧ (pre.map (·.1)).Nodup ∧
    name ∈ pre.map (·.1)

variable {pairs : List (String × String)} {name : String}

/-! ### Names that come twice -/

theorem not_nodup_of_repeats (h : Repeats pairs name) : ¬ (pairs.map (·.1)).Nodup := by
  obtain ⟨pre, value, post, rfl, -, hmem⟩ := h
  rw [List.map_append, List.map_cons, List.nodup_append]
  rintro ⟨-, -, hdisjoint⟩
  exact hdisjoint name hmem name List.mem_cons_self rfl

/-- If a name comes twice, some name is the first to. The induction adds pairs at the
end, where they change nothing about what came before. -/
theorem exists_repeats (h : ¬ (pairs.map (·.1)).Nodup) : ∃ name, Repeats pairs name := by
  induction pairs using List.reverseRecOn with
  | nil => exact absurd List.nodup_nil h
  | append_singleton front last ih =>
    by_cases hfront : (front.map (·.1)).Nodup
    · refine ⟨last.1, front, last.2, [], rfl, hfront, ?_⟩
      by_contra hnew
      refine h ?_
      rw [List.map_append, List.map_singleton]
      exact List.nodup_append.mpr ⟨hfront, List.nodup_singleton _, by
        rintro a ha b hb rfl
        exact hnew (List.mem_singleton.mp hb ▸ ha)⟩
    · obtain ⟨name, pre, value, post, rfl, hpre, hmem⟩ := ih hfront
      exact ⟨name, pre, value, post ++ [last], by rw [List.append_assoc, List.cons_append], hpre, hmem⟩

theorem ofList_of_repeats (h : Repeats pairs name) :
    ofList pairs = .error (.duplicateSetting name) := by
  obtain ⟨pre, value, post, rfl, hpre, hmem⟩ := h
  obtain ⟨t, ht, hperm⟩ := ofList_of_nodup hpre
  have hthere : name ∈ t.names := (hperm.map (·.1)).mem_iff.mpr hmem
  have hfirst : pre.foldlM (fun s p => s.insert p.1 p.2) empty = .ok t := ht
  rw [ofList, List.foldlM_append, hfirst]
  show ((name, value) :: post).foldlM (fun s p => s.insert p.1 p.2) t = _
  rw [List.foldlM_cons, insert_of_mem hthere]
  rfl

/-- **A list is refused with the first name that comes a second time,** and for no
other reason. -/
theorem ofList_eq_error_iff {e : Error} :
    ofList pairs = .error e ↔ ∃ name, Repeats pairs name ∧ e = .duplicateSetting name := by
  constructor
  · intro h
    have hnodup : ¬ (pairs.map (·.1)).Nodup := fun hnodup => by
      obtain ⟨t, ht, -⟩ := ofList_of_nodup hnodup
      rw [ht] at h
      cases h
    obtain ⟨name, hname⟩ := exists_repeats hnodup
    rw [ofList_of_repeats hname] at h
    cases h
    exact ⟨name, hname, rfl⟩
  · rintro ⟨name, hname, rfl⟩
    exact ofList_of_repeats hname

/-! ### Names that are different -/

/-- **The order of the pairs does not matter.** -/
theorem ofList_of_perm {s : Settings} {l : List (String × String)} (h : l.Perm s.toList) :
    ofList l = .ok s := by
  have hnames : (s.toList.map (·.1)).Nodup := s.names_nodup
  have hnodup : (l.map (·.1)).Nodup := (h.map (·.1)).nodup_iff.mpr hnames
  obtain ⟨t, ht, hperm⟩ := ofList_of_nodup hnodup
  rw [ht, eq_of_perm (hperm.trans h)]

/-! ### The table and its file -/

/-- **What becomes of a list of pairs.** It is refused exactly if a name comes twice,
with the first name that does. Otherwise it makes a table of its pairs, which every
other order of them makes too. The names of the table increase in the order of their
bytes, and its file has the assignments and the exports in that order, one of each
for a pair. -/
theorem recorded_in_any_order (pairs : List (String × String)) :
    ((∃ e, ofList pairs = .error e) ↔ ¬ (pairs.map (·.1)).Nodup) ∧
    (∀ e, ofList pairs = .error e ↔
      ∃ name, Repeats pairs name ∧ e = .duplicateSetting name) ∧
    ((pairs.map (·.1)).Nodup → ∃ s : Settings,
      s.toList.Perm pairs ∧
      (∀ l : List (String × String), l.Perm pairs → ofList l = .ok s) ∧
      s.names.Pairwise (fun a b => Utf8.encode a < Utf8.encode b) ∧
      Makefile.render s = Command.lines (Makefile.sheet s.names s.values)) := by
  refine ⟨⟨?_, fun h => ?_⟩, fun e => ofList_eq_error_iff, fun hnodup => ?_⟩
  · rintro ⟨e, he⟩
    obtain ⟨name, hname, -⟩ := ofList_eq_error_iff.mp he
    exact not_nodup_of_repeats hname
  · obtain ⟨name, hname⟩ := exists_repeats h
    exact ⟨_, ofList_of_repeats hname⟩
  · obtain ⟨s, -, hperm⟩ := ofList_of_nodup hnodup
    exact ⟨s, hperm, fun l hl => ofList_of_perm (hl.trans hperm.symm), s.names_sorted,
      Makefile.render_eq s⟩

/-- Of two names that come twice the first is told that does so. -/
example : ofList [("CC", "a"), ("AR", "b"), ("AR", "c"), ("CC", "d")] =
    .error (.duplicateSetting "AR") := by
  rfl

end BuildSettings.Settings
