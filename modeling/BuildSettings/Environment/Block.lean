/-
# The variables of a process

A process is given its variables as byte strings `name=value`, here in the order
of the names. Pairs make a `Block` one after another, and the last value of a
name counts. A name is looked for at the start of each string, so a name that
holds an equals sign is found where a variable's value holds one; where no name
holds one, a look-up finds the variable of that name and nothing else.

Key definitions: `Block.ofPairs`, `Block.value?`. Key theorem:
`Block.value?_ofPairs_concat`.
-/
import BuildSettings.Text.Utf8

namespace BuildSettings.Environment

/-- What a process is given: a string for each variable, of its name, an equals
sign and its value. -/
structure Block where
  strings : List Bytes
  deriving DecidableEq, Repr

namespace Block

/-- A pair put among pairs in the order of their names, in place of one of its
name. -/
def put (name value : Bytes) : List (Bytes × Bytes) → List (Bytes × Bytes)
  | [] => [(name, value)]
  | p :: ps =>
    if name = p.1 then (name, value) :: ps
    else if name < p.1 then (name, value) :: p :: ps
    else p :: put name value ps

/-- The start of the string of a variable. -/
def key (name : Bytes) : Bytes := name ++ [0x3D]

/-- The block of these pairs, put one after another. -/
def ofPairs (pairs : List (Bytes × Bytes)) : Block :=
  ⟨(pairs.foldl (fun ps p => put p.1 p.2 ps) []).map fun p => key p.1 ++ p.2⟩

/-- What follows a name and an equals sign in the first string that starts so.
Where that equals sign stands in a variable's value or name, it is found too. -/
def value? (b : Block) (name : Bytes) : Option Bytes :=
  (b.strings.find? ((key name).isPrefixOf ·)).map (·.drop (key name).length)

/-- Whether a string starts with a name and an equals sign, where no name holds
one, is whether it is the string of that name. -/
theorem isPrefixOf_key {n m : Bytes} (hn : 0x3D ∉ n) (hm : 0x3D ∉ m) (v : Bytes) :
    (key n).isPrefixOf (key m ++ v) = decide (m = n) := by
  induction n generalizing m with
  | nil =>
    cases m with
    | nil => simp [key]
    | cons a m => simp_all [key, List.isPrefixOf]
  | cons b n ih =>
    have hb : b ≠ 0x3D := fun h => hn (h ▸ List.mem_cons_self)
    cases m with
    | nil => simp [key, List.isPrefixOf, hb]
    | cons a m =>
      have h := ih (fun h => hn (List.mem_cons_of_mem b h)) (fun h => hm (List.mem_cons_of_mem a h))
      by_cases hab : b = a
      · simpa [key, hab] using h
      · simp [key, List.isPrefixOf, hab, Ne.symm hab]

theorem find?_put (name value n : Bytes) (ps : List (Bytes × Bytes)) :
    (put name value ps).find? (·.1 = n) =
      if name = n then some (name, value) else ps.find? (·.1 = n) := by
  induction ps with
  | nil => by_cases h : name = n <;> simp [put, h]
  | cons p ps ih =>
    simp only [put]
    split
    · next h => by_cases hn : name = n <;> simp_all
    · split
      · by_cases hn : name = n <;> simp [hn]
      · next h _ =>
        rw [List.find?_cons, List.find?_cons, ih]
        by_cases hn : name = n
        · subst hn
          simp [Ne.symm h]
        · simp [hn]

theorem mem_of_mem_put {name value : Bytes} {ps : List (Bytes × Bytes)} {q : Bytes × Bytes}
    (h : q ∈ put name value ps) : q = (name, value) ∨ q ∈ ps := by
  induction ps with
  | nil => simpa [put] using h
  | cons p ps ih =>
    simp only [put] at h
    split at h
    · grind
    · split at h <;> grind

theorem mem_foldl_put {pairs ps : List (Bytes × Bytes)} {q : Bytes × Bytes}
    (h : q ∈ pairs.foldl (fun ps p => put p.1 p.2 ps) ps) : q ∈ pairs ∨ q ∈ ps := by
  induction pairs generalizing ps with
  | nil => exact .inr h
  | cons p pairs ih =>
    rcases ih h with h | h
    · exact .inl (List.mem_cons_of_mem p h)
    · rcases mem_of_mem_put h with rfl | h
      · exact .inl List.mem_cons_self
      · exact .inr h

/-- Where no name holds an equals sign, a name is found as that of a pair. -/
theorem value?_map {ps : List (Bytes × Bytes)} {n : Bytes} (hn : 0x3D ∉ n)
    (hps : ∀ p ∈ ps, 0x3D ∉ p.1) :
    value? ⟨ps.map fun p => key p.1 ++ p.2⟩ n = (ps.find? (·.1 = n)).map (·.2) := by
  induction ps with
  | nil => rfl
  | cons p ps ih =>
    have ih := ih fun q hq => hps q (List.mem_cons_of_mem p hq)
    have hp := isPrefixOf_key hn (hps p List.mem_cons_self) p.2
    by_cases h : p.1 = n
    · simp [value?, h, key]
    · simp only [value?, List.map_cons, List.find?_cons, hp, h, decide_false] at ih ⊢
      exact ih

/-- **The last value of a name counts, and no other name changes,** where no
name holds an equals sign. -/
theorem value?_ofPairs_concat {pairs : List (Bytes × Bytes)} {name n : Bytes} (value : Bytes)
    (hpairs : ∀ p ∈ pairs, 0x3D ∉ p.1) (hname : 0x3D ∉ name) (hn : 0x3D ∉ n) :
    (ofPairs (pairs ++ [(name, value)])).value? n =
      if name = n then some value else (ofPairs pairs).value? n := by
  have all : ∀ l : List (Bytes × Bytes), (∀ p ∈ l, 0x3D ∉ p.1) → (ofPairs l).value? n =
      ((l.foldl (fun ps p => put p.1 p.2 ps) []).find? (·.1 = n)).map (·.2) := fun l hl =>
    value?_map hn fun q hq => (mem_foldl_put hq).elim (hl q) (by simp)
  have hconcat : ∀ p ∈ pairs ++ [(name, value)], 0x3D ∉ p.1 := fun p hp =>
    (List.mem_append.1 hp).elim (hpairs p) fun h => List.mem_singleton.1 h ▸ hname
  rw [all pairs hpairs, all _ hconcat]
  simp only [List.foldl_append, List.foldl_cons, List.foldl_nil, find?_put]
  split <;> rfl

end Block

end BuildSettings.Environment
