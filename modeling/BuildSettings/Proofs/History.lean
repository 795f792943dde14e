/-
# What a table answers after a history

A table starts empty and lives through operations, one after another. What it
answers then depends on its history alone. An operation adds at most a first
value for a name (`get?_perform`), so that after any history a name has the
value it was first given (`get?_after`), and the rest follows: who is refused,
how many settings there are, and the list of all of them, in the order of the
names' bytes (`answers_after`).

Key definitions: `Operation`, `Answer`, `History.firstValue`,
`Settings.perform`, `Settings.after`.
Key theorems: `get?_perform`, `get?_after`, `answers_after`.
-/
import BuildSettings.Proofs.ByteOrder
import BuildSettings.Proofs.Table
import Mathlib.Data.List.Dedup

namespace BuildSettings

/-- Something done to a table or asked of it. -/
inductive Operation where
  | insert (name value : String)
  | get (name : String)
  | contains (name : String)
  | size
  | isEmpty
  | toList
  | names
  deriving DecidableEq, Repr

/-- What comes back. -/
inductive Answer where
  | recorded
  | refused (error : Error)
  | value (found : Option String)
  | truth (holds : Bool)
  | count (n : Nat)
  | pairs (listed : List (String × String))
  | names (listed : List String)
  deriving DecidableEq, Repr

/-- Operations in their order. -/
abbrev History := List Operation

namespace History

/-- What a history gives to names. -/
def given (h : History) : List (String × String) :=
  h.filterMap fun
    | .insert name value => some (name, value)
    | _ => none

/-- The names that it gives values to. -/
def names (h : History) : List String :=
  h.given.map (·.1)

/-- The first value that it gives to a name. -/
def firstValue (h : History) (name : String) : Option String :=
  (h.given.find? (·.1 = name)).map (·.2)

theorem firstValue_append (a b : History) (name : String) :
    firstValue (a ++ b) name = (a.firstValue name).or (b.firstValue name) := by
  unfold firstValue given
  rw [List.filterMap_append, List.find?_append, Option.map_or]

theorem firstValue_isSome {h : History} {name : String} :
    (h.firstValue name).isSome = true ↔ name ∈ h.names := by
  simp [firstValue, names]

end History

namespace Settings

/-- What an operation answers, and the table after it. A refused insertion leaves
the table as it was, and so does every question. -/
def perform (s : Settings) : Operation → Answer × Settings
  | .insert name value =>
    match s.insert name value with
    | .ok t => (.recorded, t)
    | .error e => (.refused e, s)
  | .get name => (.value (s.get? name), s)
  | .contains name => (.truth (s.contains name), s)
  | .size => (.count s.size, s)
  | .isEmpty => (.truth s.isEmpty, s)
  | .toList => (.pairs s.toList, s)
  | .names => (.names s.names, s)

/-- The table after more operations. -/
def performAll (s : Settings) : History → Settings
  | [] => s
  | op :: rest => (s.perform op).2.performAll rest

/-- The table after a history. -/
def after (h : History) : Settings := empty.performAll h

theorem perform_insert_of_mem {s : Settings} {name : String} (h : name ∈ s.names) (value : String) :
    s.perform (.insert name value) = (.refused (.duplicateSetting name), s) := by
  rw [perform, insert_of_mem h]

theorem perform_insert_of_new {s : Settings} {name : String} (h : name ∉ s.names) (value : String) :
    (s.perform (.insert name value)).1 = .recorded := by
  obtain ⟨t, ht⟩ := insert_of_new h value
  rw [perform, ht]

/-- What inserting a name leaves: the value it had, or the new one. -/
theorem get?_perform_insert (s : Settings) (n value name : String) :
    (s.perform (.insert n value)).2.get? name =
      (s.get? name).or (if n = name then some value else none) := by
  by_cases hmem : n ∈ s.names
  · obtain ⟨old, hold⟩ := Option.isSome_iff_exists.mp (get?_isSome.mpr hmem)
    rw [perform_insert_of_mem hmem]
    by_cases hn : n = name
    · subst hn
      simp [hold]
    · simp [hn]
  · obtain ⟨t, ht⟩ := insert_of_new hmem value
    have hget := get?_insert ht name
    rw [perform, ht]
    by_cases hn : n = name
    · subst hn
      simp [hget, get?_eq_none_iff.mpr hmem]
    · simp [hget, hn]

/-- An operation gives a name a value if it inserts the name, and the name had
none. -/
theorem get?_perform (s : Settings) (op : Operation) (name : String) :
    (s.perform op).2.get? name = (s.get? name).or (History.firstValue [op] name) := by
  cases op with
  | insert n value =>
    rw [get?_perform_insert]
    by_cases hn : n = name <;> simp [History.firstValue, History.given, hn]
  | get n => exact Option.or_none.symm
  | contains n => exact Option.or_none.symm
  | size => exact Option.or_none.symm
  | isEmpty => exact Option.or_none.symm
  | toList => exact Option.or_none.symm
  | names => exact Option.or_none.symm

theorem get?_performAll (h : History) : ∀ (s : Settings) (name : String),
    (s.performAll h).get? name = (s.get? name).or (h.firstValue name) := by
  induction h with
  | nil => exact fun s name => Option.or_none.symm
  | cons op rest ih =>
    intro s name
    rw [performAll, ih, get?_perform, Option.or_assoc, ← History.firstValue_append]
    rfl

/-- **A name has the value it was first given.** -/
theorem get?_after (h : History) (name : String) : (after h).get? name = h.firstValue name :=
  get?_performAll h empty name

theorem mem_names_after {h : History} {name : String} : name ∈ (after h).names ↔ name ∈ h.names := by
  rw [← get?_isSome, get?_after, History.firstValue_isSome]

theorem size_after (h : History) : (after h).size = h.names.dedup.length := by
  have hperm : (after h).names.Perm h.names.dedup :=
    (List.perm_ext_iff_of_nodup (names_nodup _) (List.nodup_dedup _)).mpr fun name => by
      rw [mem_names_after, List.mem_dedup]
  rw [← hperm.length_eq, names, List.length_map, size]

theorem toList_nodup (s : Settings) : s.toList.Nodup :=
  List.Nodup.of_map _ s.names_nodup

theorem names_sorted (s : Settings) :
    s.names.Pairwise fun a b => Utf8.encode a < Utf8.encode b :=
  s.names_increasing.imp Utf8.encode_lt_encode_iff.mpr

/-- **What a table answers after any history.** A name is refused if it was
given a value before, and then the table stays as it is; else it is recorded. A
name has the first value that it was given, whatever comes later. There are as
many settings as names were given. All of them are listed once, by name, in the
order of the names' bytes, which is that of their characters' numbers. -/
theorem answers_after (h : History) :
    (∀ name value, ((after h).perform (.insert name value)).1 = .refused (.duplicateSetting name) ↔
      name ∈ h.names) ∧
    (∀ name value, name ∉ h.names → ((after h).perform (.insert name value)).1 = .recorded) ∧
    (∀ name value, name ∈ h.names → ((after h).perform (.insert name value)).2 = after h) ∧
    (∀ name, (after h).get? name = h.firstValue name) ∧
    (∀ name value later, (after h).get? name = some value →
      (after (h ++ later)).get? name = some value) ∧
    (∀ name, (after h).contains name = true ↔ ((after h).get? name).isSome) ∧
    (after h).size = h.names.dedup.length ∧
    (after h).size = (after h).toList.length ∧
    ((after h).isEmpty = true ↔ (after h).size = 0) ∧
    (after h).toList.Nodup ∧
    (∀ name value, (name, value) ∈ (after h).toList ↔ h.firstValue name = some value) ∧
    (after h).names.Pairwise (fun a b => Utf8.encode a < Utf8.encode b) ∧
    (∀ a b, Utf8.encode a < Utf8.encode b ↔ Utf8.numbers a < Utf8.numbers b) ∧
    (after h).names = (after h).toList.map (·.1) := by
  refine ⟨fun name value => ?_,
    fun name value hname => perform_insert_of_new (mt mem_names_after.mp hname) value,
    fun name value hname => ?_, get?_after h, fun name value later hget => ?_, fun name => ?_,
    size_after h, rfl, ?_, toList_nodup _, fun name value => ?_, names_sorted _,
    fun a b => ?_, rfl⟩
  · constructor
    · intro hrefused
      by_contra hname
      rw [perform_insert_of_new (mt mem_names_after.mp hname)] at hrefused
      cases hrefused
    · intro hname
      rw [perform_insert_of_mem (mem_names_after.mpr hname)]
  · rw [perform_insert_of_mem (mem_names_after.mpr hname)]
  · rw [get?_after] at hget ⊢
    rw [History.firstValue_append, hget]
    rfl
  · rw [contains_eq]
  · simp [isEmpty, size]
  · rw [← get?_after, get?_eq_some_iff]
  · rw [Utf8.encode_lt_encode_iff, Utf8.numbers_lt_numbers_iff]

end Settings
end BuildSettings
