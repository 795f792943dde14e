/-
# How the words of a command line are read

The word for an option is read as that option, alone or with a value after an equals
sign, and a value that does not look like an option is a plain word.

A line that is read without complaint takes its words one after another (`Taken`).
A value in a word of its own stays pending until the next option, but settling it
at once comes to the same (`read_settled`, `read_of_pending`).

Key definitions: `Line.hold`, `Line.met`, `awaiting`, `Taken`.
Key theorems: `ofBytes_flag_value`, `find?_name`, `meet_of_settle`,
`taken_of_read`, `read_of_taken`, `read_settled`, `read_of_pending`.
-/
import BuildSettings.CommandLine.Parse

namespace BuildSettings.CommandLine

/-! ### Words -/

theorem Opt.mem_all (o : Opt) : o ∈ required ++ optional := by
  cases o with
  | parameter p => cases p <;> decide
  | switch s => cases s <;> decide
  | ecmdRepo | pdbgRepo | help | version => decide

theorem splitValue_append {name : Bytes} (h : 0x3D ∉ name) (v : Bytes) :
    splitValue (name ++ 0x3D :: v) = (name, some v) := by
  induction name with
  | nil => rfl
  | cons b bs ih =>
    have hb : b ≠ 0x3D := fun heq => h (heq ▸ List.mem_cons_self)
    have hbs := ih fun hmem => h (List.mem_cons_of_mem b hmem)
    rw [List.cons_append, splitValue, if_neg hb, hbs]

theorem ofBytes_long {rest : Bytes} (h : rest ≠ []) :
    Word.ofBytes (0x2D :: 0x2D :: rest) = .long (splitValue rest).1 (splitValue rest).2 := by
  cases rest with
  | nil => exact absurd rfl h
  | cons b bs => rfl

/-- What there is to know of an option's word: two dashes and the name, which has
no equals sign and is no other option's. -/
theorem opt_facts : ∀ o ∈ Opt.required ++ Opt.optional,
    Utf8.encode o.flag = 0x2D :: 0x2D :: Utf8.encode o.name ∧ 0x3D ∉ Utf8.encode o.name ∧
    Word.ofBytes (Utf8.encode o.flag) = .long (Utf8.encode o.name) none ∧
    Opt.find? (Utf8.encode o.name) = some o := by
  decide +kernel

theorem find?_name (o : Opt) : Opt.find? (Utf8.encode o.name) = some o :=
  (opt_facts o o.mem_all).2.2.2

theorem ofBytes_flag (o : Opt) :
    Word.ofBytes (Utf8.encode o.flag) = .long (Utf8.encode o.name) none :=
  (opt_facts o o.mem_all).2.2.1

theorem ofBytes_flag_value (o : Opt) (v : Bytes) :
    Word.ofBytes (Utf8.encode o.flag ++ 0x3D :: v) = .long (Utf8.encode o.name) (some v) := by
  obtain ⟨hflag, hequals, -, -⟩ := opt_facts o o.mem_all
  have hsplit := splitValue_append hequals v
  rw [hflag, List.cons_append, List.cons_append, ofBytes_long (by simp), hsplit]

theorem ofBytes_plain {v : Bytes} (h : v.head? ≠ some 0x2D ∨ v = [0x2D]) :
    Word.ofBytes v = .plain := by
  rcases h with h | rfl
  · cases v with
    | nil => rfl
    | cons b bs =>
      have hb : b ≠ 0x2D := fun heq => h (by rw [heq]; rfl)
      unfold Word.ofBytes
      split <;> simp_all
  · rfl

/-! ### What a reading without complaint comes to -/

/-- The line with an option's value, whether or not it may be given. -/
def Line.hold (l : Line) (o : Opt) (v : Bytes) : Line :=
  match o with
  | .ecmdRepo => { l with ecmdRepo := some v }
  | .pdbgRepo => { l with pdbgRepo := some v }
  | .parameter p => { l with value := fun q => if q = p then Utf8.decode? v else l.value q }
  | _ => l

/-- The line with a long option that may be met, and the option whose value is
then waited for. -/
def Line.met (l : Line) : Opt → Option Bytes → Line × Option Opt
  | o, some v => (l.hold o v, none)
  | .switch s, none => ({ l with switch := fun q => q = s || l.switch q }, none)
  | o, none => (l, some o)

/-- What is pending while an option's value is waited for. -/
def awaiting (o : Option Opt) : Option Pending := o.map (⟨·, none⟩)

section
variable {l m r : Line} {p : Option Pending} {o : Opt} {v : Option Bytes} {ws : List Bytes}

theorem mapError_eq_ok {ε ε' α : Type} {x : Except ε α} {f : ε → ε'} {a : α} :
    x.mapError f = .ok a ↔ x = .ok a := by
  cases x with
  | error e => exact ⟨fun h => (by cases h), fun h => (by cases h)⟩
  | ok b => exact ⟨fun h => (by cases h; rfl), fun h => (by cases h; rfl)⟩

theorem map_eq_ok {ε α β : Type} {x : Except ε α} {f : α → β} {b : β} :
    x.map f = .ok b ↔ ∃ a, x = .ok a ∧ f a = b := by
  cases x <;> simp [Except.map]

theorem Line.eq_hold_of_put {w : Bytes} (h : l.put o w = .ok m) : m = l.hold o w := by
  cases o with
  | ecmdRepo | pdbgRepo =>
    simp only [put] at h
    split at h
    · cases h
    · split at h
      · cases h
      · cases h; rfl
  | parameter q =>
    simp only [put] at h
    split at h
    · cases h
    · split at h
      · rename_i text htext
        cases h
        simp only [hold, htext]
      · cases h
  | switch | help | version => cases h; rfl

theorem Line.eq_of_turnOn {s : Switch} (h : l.turnOn s = .ok m) :
    m = { l with switch := fun q => q = s || l.switch q } := by
  unfold turnOn at h
  split at h
  · cases h
  · cases h; rfl

/-- Of what is pending, an option that is met sees only what it comes to. -/
theorem meet_of_settle (h : settle l p = .ok m) (o : Opt) (v : Option Bytes) :
    meet l p o v = meet m none o v := by
  have hnone : settle m none = .ok m := rfl
  cases v with
  | some v => simp only [meet, h, hnone]
  | none => cases o <;> simp only [meet, endWith, h, hnone]

/-- An option that is met without complaint settles what is pending. -/
theorem settle_of_meet {x : Line × Option Pending} (h : meet l p o v = .ok x) :
    ∃ m, settle l p = .ok m := by
  cases hs : settle l p with
  | ok m => exact ⟨m, rfl⟩
  | error e =>
    cases v with
    | some v =>
      simp only [meet, hs] at h
      split at h <;> cases h
    | none => cases o <;> simp only [meet, hs] at h <;> cases h

/-- What a word does that is read without complaint, with words to come. -/
inductive Taken (l : Line) (p : Option Pending) (w : Bytes) (ws : List Bytes) (r : Line) : Prop
  /-- It divides the options from nothing. -/
  | divider : Word.ofBytes w = .divider → ws = [] → settle l p = .ok r → Taken l p w ws r
  /-- It is an option. -/
  | long {name : Bytes} {v : Option Bytes} {o : Opt} {x : Line × Option Pending} :
      Word.ofBytes w = .long name v → Opt.find? name = some o → meet l p o v = .ok x →
      read x.1 x.2 ws = .ok r → Taken l p w ws r
  /-- It is the value that is waited for. -/
  | value {o : Opt} : Word.ofBytes w = .plain → p = some ⟨o, none⟩ →
      read l (some ⟨o, some w⟩) ws = .ok r → Taken l p w ws r

theorem taken_of_read {w : Bytes} (h : read l p (w :: ws) = .ok r) : Taken l p w ws r := by
  cases hw : Word.ofBytes w with
  | divider =>
    cases ws with
    | nil =>
      simp only [read, hw] at h
      exact .divider hw rfl (mapError_eq_ok.mp h)
    | cons => simp only [read, hw, reduceCtorEq] at h
  | long name v =>
    simp only [read, hw] at h
    cases hfind : Opt.find? name with
    | none => simp only [hfind, reduceCtorEq] at h
    | some o =>
      simp only [hfind] at h
      cases hmeet : meet l p o v with
      | error stop => simp only [hmeet, reduceCtorEq] at h
      | ok x => exact .long hw hfind hmeet (by simpa only [hmeet] using h)
  | letters bs => simp only [read, hw, reduceCtorEq] at h
  | plain =>
    simp only [read, hw] at h
    split at h
    · exact .value hw rfl h
    · cases h

theorem read_of_taken {w : Bytes} (h : Taken l p w ws r) : read l p (w :: ws) = .ok r := by
  cases h with
  | divider hw hws hsettle =>
    subst hws
    simp only [read, hw, hsettle]
    rfl
  | long hw hfind hmeet hrest => simp only [read, hw, hfind, hmeet, hrest]
  | value hw hp hrest =>
    subst hp
    simp only [read, hw, hrest]

/-- A value that is pending is settled sooner or later, and might as well be at
once. -/
theorem read_settled {w : Bytes} (h : read l (some ⟨o, some w⟩) ws = .ok r) :
    ∃ m, l.put o w = .ok m ∧ read m none ws = .ok r := by
  cases ws with
  | nil => exact ⟨r, mapError_eq_ok.mp h, rfl⟩
  | cons next ws =>
    cases taken_of_read h with
    | divider hw hws hsettle => exact ⟨r, hsettle, read_of_taken (.divider hw hws rfl)⟩
    | long hw hfind hmeet hrest =>
      obtain ⟨m, hm⟩ := settle_of_meet hmeet
      rw [meet_of_settle hm] at hmeet
      exact ⟨m, hm, read_of_taken (.long hw hfind hmeet hrest)⟩
    | value hw hp hrest => cases hp

/-- A value that is pending might as well have been settled. -/
theorem read_of_pending {v : Bytes} (hput : l.put o v = .ok m) (h : read m none ws = .ok r) :
    read l (some ⟨o, some v⟩) ws = .ok r := by
  have hsettle : settle l (some ⟨o, some v⟩) = .ok m := hput
  cases ws with
  | nil =>
    cases h
    rw [read, hsettle]
    rfl
  | cons next ws =>
    cases taken_of_read h with
    | divider hw hws hdone =>
      cases hdone
      exact read_of_taken (.divider hw hws hsettle)
    | long hw hfind hmeet hrest =>
      rw [← meet_of_settle hsettle] at hmeet
      exact read_of_taken (.long hw hfind hmeet hrest)
    | value _ hp => cases hp

/-- Where a value is waited for, only a plain word is read without complaint, as
that value. -/
theorem read_awaiting {w : Bytes} (h : read l (awaiting (some o)) (w :: ws) = .ok r) :
    Word.ofBytes w = .plain ∧ read (l.hold o w) none ws = .ok r := by
  cases taken_of_read h with
  | divider hw hws hsettle => cases hsettle
  | long hw hfind hmeet hrest =>
    obtain ⟨m, hm⟩ := settle_of_meet hmeet
    cases hm
  | value hw hp hrest =>
    cases hp
    obtain ⟨m, hm, hrest⟩ := read_settled hrest
    rw [Line.eq_hold_of_put hm] at hrest
    exact ⟨hw, hrest⟩

theorem eq_of_meet {x : Line × Option Pending} (h : meet l none o v = .ok x) :
    x = ((l.met o v).1, awaiting (l.met o v).2) := by
  cases v with
  | some w =>
    simp only [meet] at h
    split at h
    · obtain ⟨m, hm, rfl⟩ := map_eq_ok.mp (mapError_eq_ok.mp h)
      rw [Line.eq_hold_of_put hm]
      rfl
    · cases h
  | none =>
    cases o with
    | switch s =>
      obtain ⟨m, hm, rfl⟩ := map_eq_ok.mp (mapError_eq_ok.mp h)
      rw [Line.eq_of_turnOn hm]
      rfl
    | help | version => cases h
    | ecmdRepo | pdbgRepo | parameter => cases h; rfl

theorem read_long {w name : Bytes} (hw : Word.ofBytes w = .long name v)
    (h : read l none (w :: ws) = .ok r) :
    ∃ o, Opt.find? name = some o ∧ read (l.met o v).1 (awaiting (l.met o v).2) ws = .ok r := by
  cases taken_of_read h with
  | divider hw' => cases hw.symm.trans hw'
  | long hw' hfind hmeet hrest =>
    cases hw.symm.trans hw'
    rw [eq_of_meet hmeet] at hrest
    exact ⟨_, hfind, hrest⟩
  | value hw' => cases hw.symm.trans hw'

theorem settle_of_divider {w : Bytes} (hw : Word.ofBytes w = .divider)
    (h : read l p (w :: ws) = .ok r) : settle l p = .ok r := by
  cases taken_of_read h with
  | divider _ _ hsettle => exact hsettle
  | long hw' => cases hw.symm.trans hw'
  | value hw' => cases hw.symm.trans hw'

end

end BuildSettings.CommandLine
