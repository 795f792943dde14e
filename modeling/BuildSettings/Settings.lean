/-
# The table of settings

A table holds each name once, in the order of the names. The order is that of
their characters' numbers, which is also that of their UTF-8 bytes. A name is
recorded once and for all: a second `insert` is refused.

Key definitions: `Settings`, `Settings.insert`, `Settings.get?`,
`Settings.ofList`. Key theorems: `Settings.ext_toList`,
`Settings.toList_insert`, `Settings.get?_insert`.
-/
import BuildSettings.Error

namespace BuildSettings

/-- Names with their values, in increasing order of the names. -/
structure Settings where
  toList : List (String × String)
  sorted : toList.Pairwise (fun a b => a.1 < b.1)

namespace Settings

@[ext]
theorem ext_toList {s t : Settings} (h : s.toList = t.toList) : s = t := by
  cases s; cases t; cases h; rfl

instance : DecidableEq Settings := fun s t =>
  decidable_of_iff (s.toList = t.toList) ⟨ext_toList, fun h => h ▸ rfl⟩

/-- No setting. -/
def empty : Settings := ⟨[], .nil⟩

/-- The value of a name. -/
def get? (s : Settings) (name : String) : Option String :=
  (s.toList.find? (·.1 = name)).map (·.2)

/-- Whether a name is recorded. -/
def contains (s : Settings) (name : String) : Bool :=
  s.toList.any (·.1 = name)

/-- How many settings there are. -/
def size (s : Settings) : Nat :=
  s.toList.length

/-- Whether there is no setting. -/
def isEmpty (s : Settings) : Bool :=
  s.toList.isEmpty

/-- The names in order. -/
def names (s : Settings) : List String :=
  s.toList.map (·.1)

/-- A pair put before the first one with a larger name. -/
def place (p : String × String) : List (String × String) → List (String × String)
  | [] => [p]
  | q :: rest => if p.1 < q.1 then p :: q :: rest else q :: place p rest

theorem mem_place {p q : String × String} {l : List (String × String)} :
    q ∈ place p l ↔ q = p ∨ q ∈ l := by
  induction l with
  | nil => simp [place]
  | cons r rest ih =>
    unfold place
    split
    · simp
    · simp only [List.mem_cons, ih]
      exact ⟨fun h => h.elim (fun h => .inr (.inl h)) (fun h => h.elim .inl (fun h => .inr (.inr h))),
        fun h => h.elim (fun h => .inr (.inl h)) (fun h => h.elim .inl (fun h => .inr (.inr h)))⟩

/-- A pair with a new name is placed in order. -/
theorem sorted_place {p : String × String} {l : List (String × String)}
    (hl : l.Pairwise (fun a b => a.1 < b.1)) (hp : ∀ q ∈ l, q.1 ≠ p.1) :
    (place p l).Pairwise (fun a b => a.1 < b.1) := by
  induction l with
  | nil => simp [place]
  | cons r rest ih =>
    obtain ⟨hr, hrest⟩ := List.pairwise_cons.mp hl
    unfold place
    split
    · rename_i hlt
      refine List.pairwise_cons.mpr ⟨fun q hq => ?_, hl⟩
      rcases List.mem_cons.mp hq with rfl | hq
      · exact hlt
      · exact String.lt_trans hlt (hr q hq)
    · rename_i hnlt
      refine List.pairwise_cons.mpr ⟨fun q hq => ?_, ih hrest fun q hq => hp q (.tail _ hq)⟩
      rcases mem_place.mp hq with rfl | hq
      · rcases Std.lt_trichotomy q.1 r.1 with h | h | h
        · exact absurd h hnlt
        · exact absurd h.symm (hp r (.head _))
        · exact h
      · exact hr q hq

theorem ne_of_not_contains {s : Settings} {name : String} (h : s.contains name = false) :
    ∀ q ∈ s.toList, q.1 ≠ name := by
  simpa [contains] using h

/-- A setting recorded under a new name. -/
def insert (s : Settings) (name value : String) : Except Error Settings :=
  if h : s.contains name = true then .error (.duplicateSetting name)
  else .ok ⟨place (name, value) s.toList,
    sorted_place s.sorted (ne_of_not_contains (Bool.eq_false_iff.mpr h))⟩

/-- Recording under a new name places the pair, and nothing else. -/
theorem toList_insert {s t : Settings} {name value : String}
    (h : s.insert name value = .ok t) : t.toList = place (name, value) s.toList := by
  unfold insert at h
  split at h
  · cases h
  · cases h; rfl

theorem contains_eq (s : Settings) (name : String) : s.contains name = (s.get? name).isSome := by
  rw [contains, get?, Option.isSome_map, List.isSome_find?]

theorem find?_place {p : String × String} {n : String} : ∀ {l : List (String × String)},
    (∀ q ∈ l, q.1 ≠ p.1) →
      (place p l).find? (·.1 = n) = if p.1 = n then some p else l.find? (·.1 = n)
  | [], _ => by by_cases hn : p.1 = n <;> simp [place, hn]
  | r :: rest, h => by
    have hr : r.1 ≠ p.1 := h r (.head _)
    have ih := find?_place (n := n) fun q hq => h q (.tail _ hq)
    unfold place
    split
    · by_cases hn : p.1 = n <;> simp [List.find?_cons, hn]
    · by_cases hn : p.1 = n
      · have hrn : r.1 ≠ n := hn ▸ hr
        simp [hrn, ih, hn]
      · simp only [List.find?_cons, ih, hn, if_false]

theorem not_contains_of_insert {s t : Settings} {name value : String}
    (h : s.insert name value = .ok t) : s.contains name = false := by
  unfold insert at h
  split at h
  · cases h
  · rename_i hc
    exact Bool.eq_false_iff.mpr hc

/-- Recording a name gives it its value, and changes no other. -/
theorem get?_insert {s t : Settings} {name value : String} (h : s.insert name value = .ok t)
    (n : String) : t.get? n = if name = n then some value else s.get? n := by
  unfold get?
  rw [toList_insert h, find?_place (ne_of_not_contains (not_contains_of_insert h))]
  by_cases hn : name = n <;> simp [hn]

/-- Settings recorded one after another. -/
def ofList (pairs : List (String × String)) : Except Error Settings :=
  pairs.foldlM (fun s p => s.insert p.1 p.2) empty

end Settings
end BuildSettings
