/-
# Following a path, step by step

Someone who follows a path is at a spot: in a directory, with steps to go. From
there one advances without a link, turns at a link into its target, has found
where a file is or can be made, or is blocked; there is no fifth case
(`situation`). `Ends` says how opening a path for writing ends in these terms,
and is what `destination` computes (`destination_eq_iff`).

The relations only speak of directories and links that are there. So a path
leads to the same location in every tree that has those of another
(`Extends`), as a tree has after a file is written.

Key definitions: `Spot`, `Advances`, `Turns`, `Visits`, `Opens`, `Blocked`,
`Ends`, `Situation`, `Extends`.
Key theorems: `follow_of_visits`, `destination_eq_iff`, `Ends.extend`,
`locate_of_ends`.
-/
import BuildSettings.FileTree.Read

namespace BuildSettings.FileTree

open Pathname (Location Name Route Step)

/-- Where someone is on the way: in a directory, with steps to go and perhaps a
slash after them. -/
structure Spot where
  slashed : Bool
  loc : Location
  steps : List Step

/-- Where a path starts, for someone at `cwd`. -/
def Spot.ofPath (cwd : Location) (path : Bytes) : Spot :=
  let route := Route.ofBytes path
  ⟨route.slashed, route.base cwd, route.steps⟩

/-- Where a link in a directory takes one who has more steps to go after it. -/
def Spot.ofLink (slashed : Bool) (dir : Location) (target : Bytes) (rest : List Step) : Spot :=
  let route := Route.ofBytes target
  ⟨slashed || (rest.isEmpty && route.slashed), route.base dir, route.steps ++ rest⟩

variable {t : FileTree}

/-- A step that is not the last one and meets no link. -/
inductive Advances (t : FileTree) : Spot → Spot → Prop
  | here {slashed : Bool} {loc : Location} {rest : List Step} :
      t.isDirectory loc = true → rest ≠ [] →
      Advances t ⟨slashed, loc, .here :: rest⟩ ⟨slashed, loc, rest⟩
  | up {slashed : Bool} {loc : Location} {rest : List Step} :
      t.isDirectory loc = true → rest ≠ [] →
      Advances t ⟨slashed, loc, .up :: rest⟩ ⟨slashed, loc.dropLast, rest⟩
  | into {slashed : Bool} {loc : Location} {name : Name} {rest : List Step} :
      t.isDirectory loc = true → name.length ≤ maxName →
      t.get? (loc ++ [name]) = some .directory → rest ≠ [] →
      Advances t ⟨slashed, loc, .into name :: rest⟩ ⟨slashed, loc ++ [name], rest⟩

/-- A link is met. With a slash after it, a last name is not looked up at all. -/
inductive Turns (t : FileTree) : Spot → Spot → Prop
  | link {slashed : Bool} {loc : Location} {name : Name} {rest : List Step} {target : Bytes} :
      t.isDirectory loc = true → name.length ≤ maxName → (rest = [] → slashed = false) →
      t.get? (loc ++ [name]) = some (.link target) →
      Turns t ⟨slashed, loc, .into name :: rest⟩ (.ofLink slashed loc target rest)

/-- The spots on the way, with how many links were met before. -/
inductive Visits (t : FileTree) : Spot → Nat → Spot → Prop
  | start (s : Spot) : Visits t s 0 s
  | advance {s next e : Spot} {n : Nat} :
      Advances t s next → Visits t next n e → Visits t s n e
  | turn {s next e : Spot} {n : Nat} :
      Turns t s next → Visits t next n e → Visits t s (n + 1) e

/-- One name is left, and a file stands there or nothing yet. -/
inductive Opens (t : FileTree) : Spot → Location → Prop
  | last {loc : Location} {name : Name} :
      t.isDirectory loc = true → name.length ≤ maxName →
      (t.get? (loc ++ [name]) = none ∨ ∃ content, t.get? (loc ++ [name]) = some (.file content)) →
      Opens t ⟨false, loc, [.into name]⟩ (loc ++ [name])

/-- A spot that no file can be opened from, and why. -/
inductive Blocked (t : FileTree) : Spot → Fault → Prop
  /-- The path names no entry. -/
  | nameless {slashed : Bool} {loc : Location} : Blocked t ⟨slashed, loc, []⟩ .isADirectory
  /-- Steps are to go, but not from here. -/
  | outside {slashed : Bool} {loc : Location} {step : Step} {rest : List Step} :
      t.isDirectory loc = false → Blocked t ⟨slashed, loc, step :: rest⟩ .notADirectory
  /-- The path ends in dots. -/
  | dots {slashed : Bool} {loc : Location} {step : Step} :
      t.isDirectory loc = true → (step = .here ∨ step = .up) →
      Blocked t ⟨slashed, loc, [step]⟩ .isADirectory
  /-- The path ends in a slash. -/
  | slash {loc : Location} {name : Name} :
      t.isDirectory loc = true → Blocked t ⟨true, loc, [.into name]⟩ .isADirectory
  | tooLong {slashed : Bool} {loc : Location} {name : Name} {rest : List Step} :
      t.isDirectory loc = true → (rest = [] → slashed = false) → maxName < name.length →
      Blocked t ⟨slashed, loc, .into name :: rest⟩ .nameTooLong
  /-- Nothing stands where a directory should. -/
  | missing {slashed : Bool} {loc : Location} {name : Name} {rest : List Step} :
      t.isDirectory loc = true → name.length ≤ maxName → rest ≠ [] →
      t.get? (loc ++ [name]) = none → Blocked t ⟨slashed, loc, .into name :: rest⟩ .notFound
  /-- A file stands where a directory should. -/
  | file {slashed : Bool} {loc : Location} {name : Name} {rest : List Step} {content : Bytes} :
      t.isDirectory loc = true → name.length ≤ maxName → rest ≠ [] →
      t.get? (loc ++ [name]) = some (.file content) →
      Blocked t ⟨slashed, loc, .into name :: rest⟩ .notADirectory
  /-- A directory stands where a file should. -/
  | directory {loc : Location} {name : Name} :
      t.isDirectory loc = true → name.length ≤ maxName →
      t.get? (loc ++ [name]) = some .directory → Blocked t ⟨false, loc, [.into name]⟩ .isADirectory

/-- How opening a path for writing ends, for someone at `cwd`. -/
inductive Ends (t : FileTree) (cwd : Location) (path : Bytes) : Except Fault Location → Prop
  | nul : 0 ∈ path → Ends t cwd path (.error .nulInPath)
  | empty : path = [] → Ends t cwd path (.error .notFound)
  | tooLong : 0 ∉ path → maxPath ≤ path.length → Ends t cwd path (.error .nameTooLong)
  | opens {n : Nat} {e : Spot} {loc : Location} : 0 ∉ path → path ≠ [] → path.length < maxPath →
      n ≤ maxLinks → Visits t (.ofPath cwd path) n e → Opens t e loc → Ends t cwd path (.ok loc)
  | blocked {n : Nat} {e : Spot} {f : Fault} : 0 ∉ path → path ≠ [] → path.length < maxPath →
      n ≤ maxLinks → Visits t (.ofPath cwd path) n e → Blocked t e f → Ends t cwd path (.error f)
  /-- One link too many. -/
  | loop {e next : Spot} : 0 ∉ path → path ≠ [] → path.length < maxPath →
      Visits t (.ofPath cwd path) maxLinks e → Turns t e next → Ends t cwd path (.error .linkLoop)

/-! ### No fifth case -/

/-- What one can do at a spot. -/
inductive Situation (t : FileTree) (s : Spot) : Prop
  | advances {next : Spot} : Advances t s next → Situation t s
  | turns {next : Spot} : Turns t s next → Situation t s
  | opens {loc : Location} : Opens t s loc → Situation t s
  | blocked {f : Fault} : Blocked t s f → Situation t s

/-- At a last name with no slash after it, what stands there decides. -/
theorem situation_last {loc : Location} {name : Name} (hdir : t.isDirectory loc = true)
    (hname : name.length ≤ maxName) : Situation t ⟨false, loc, [.into name]⟩ := by
  cases hget : t.get? (loc ++ [name]) with
  | none => exact .opens (.last hdir hname (.inl hget))
  | some entry =>
    cases entry with
    | directory => exact .blocked (.directory hdir hname hget)
    | file content => exact .opens (.last hdir hname (.inr ⟨content, hget⟩))
    | link target => exact .turns (.link hdir hname (fun _ => rfl) hget)

/-- At a name with more steps after it, only a directory or a link leads on. -/
theorem situation_inner {slashed : Bool} {loc : Location} {name : Name} {rest : List Step}
    (hdir : t.isDirectory loc = true) (hname : name.length ≤ maxName) (hrest : rest ≠ []) :
    Situation t ⟨slashed, loc, .into name :: rest⟩ := by
  cases hget : t.get? (loc ++ [name]) with
  | none => exact .blocked (.missing hdir hname hrest hget)
  | some entry =>
    cases entry with
    | directory => exact .advances (.into hdir hname hget hrest)
    | file content => exact .blocked (.file hdir hname hrest hget)
    | link target => exact .turns (.link hdir hname (fun h => absurd h hrest) hget)

theorem situation_name {slashed : Bool} {loc : Location} {name : Name} {rest : List Step}
    (hdir : t.isDirectory loc = true) : Situation t ⟨slashed, loc, .into name :: rest⟩ := by
  by_cases hslash : rest = [] ∧ slashed = true
  · obtain ⟨rfl, rfl⟩ := hslash
    exact .blocked (.slash hdir)
  · have hplain : rest = [] → slashed = false := fun h =>
      Bool.eq_false_iff.mpr fun hs => hslash ⟨h, hs⟩
    rcases Nat.lt_or_ge maxName name.length with hlong | hname
    · exact .blocked (.tooLong hdir hplain hlong)
    · by_cases hrest : rest = []
      · obtain rfl := hplain hrest
        subst hrest
        exact situation_last hdir hname
      · exact situation_inner hdir hname hrest

/-- From every spot one advances, turns, opens or is blocked. -/
theorem situation (t : FileTree) (s : Spot) : Situation t s := by
  obtain ⟨slashed, loc, steps⟩ := s
  cases steps with
  | nil => exact .blocked .nameless
  | cons step rest =>
    cases hdir : t.isDirectory loc with
    | false => exact .blocked (.outside hdir)
    | true =>
      cases step with
      | here =>
        by_cases hrest : rest = []
        · subst hrest
          exact .blocked (.dots hdir (.inl rfl))
        · exact .advances (.here hdir hrest)
      | up =>
        by_cases hrest : rest = []
        · subst hrest
          exact .blocked (.dots hdir (.inr rfl))
        · exact .advances (.up hdir hrest)
      | into name => exact situation_name hdir

theorem Advances.length_lt {s next : Spot} (h : Advances t s next) :
    next.steps.length < s.steps.length := by
  cases h <;> exact Nat.lt_succ_self _

theorem Advances.slashed_eq {s next : Spot} (h : Advances t s next) : next.slashed = s.slashed := by
  cases h <;> rfl

/-- Where the way from a spot comes to, with some links at most. -/
inductive Finish (t : FileTree) (links : Nat) (s : Spot) : Prop
  | opens {n : Nat} {e : Spot} {loc : Location} :
      n ≤ links → Visits t s n e → Opens t e loc → Finish t links s
  | blocked {n : Nat} {e : Spot} {f : Fault} :
      n ≤ links → Visits t s n e → Blocked t e f → Finish t links s
  /-- One link too many. -/
  | loop {e next : Spot} : Visits t s links e → Turns t e next → Finish t links s

theorem Finish.advance {links : Nat} {s next : Spot} (h : Advances t s next) :
    Finish t links next → Finish t links s
  | .opens hn hv ho => .opens hn (.advance h hv) ho
  | .blocked hn hv hb => .blocked hn (.advance h hv) hb
  | .loop hv ht => .loop (.advance h hv) ht

theorem Finish.turn {links : Nat} {s next : Spot} (h : Turns t s next) :
    Finish t links next → Finish t (links + 1) s
  | .opens hn hv ho => .opens (Nat.succ_le_succ hn) (.turn h hv) ho
  | .blocked hn hv hb => .blocked (Nat.succ_le_succ hn) (.turn h hv) hb
  | .loop hv ht => .loop (.turn h hv) ht

/-- Every way comes to an end, or to one link too many. An advance leaves fewer
steps, and a turn fewer links. -/
theorem finish (t : FileTree) (links : Nat) (s : Spot) : Finish t links s := by
  cases situation t s with
  | @advances next h =>
    have hlt := h.length_lt
    exact (finish t links next).advance h
  | @turns next h =>
    cases links with
    | zero => exact .loop (.start s) h
    | succ links => exact (finish t links next).turn h
  | opens h => exact .opens (Nat.zero_le _) (.start s) h
  | blocked h => exact .blocked (Nat.zero_le _) (.start s) h
termination_by (links, s.steps.length)

/-! ### Ways of following a path -/

/-- A way goes on as `Advances` and `Turns` say. -/
structure Follows (t : FileTree) (way : Bool → Location → List Step → Stop) : Prop where
  advance {s next : Spot} : Advances t s next →
    way s.slashed s.loc s.steps = way next.slashed next.loc next.steps
  turn {s next : Spot} : Turns t s next → ∃ dir target rest,
    way s.slashed s.loc s.steps = .link dir target rest ∧ next = .ofLink s.slashed dir target rest

theorem follows_lookToWrite (t : FileTree) : Follows t t.lookToWrite where
  advance h := by
    cases h with
    | here hdir hrest =>
      obtain ⟨step, rest, rfl⟩ := List.exists_cons_of_ne_nil hrest
      simp [lookToWrite, hdir]
    | up hdir hrest =>
      obtain ⟨step, rest, rfl⟩ := List.exists_cons_of_ne_nil hrest
      simp [lookToWrite, hdir]
    | into hdir hname hget hrest =>
      obtain ⟨step, rest, rfl⟩ := List.exists_cons_of_ne_nil hrest
      simp [lookToWrite, hdir, hget, Nat.not_lt.mpr hname]
  turn h := by
    obtain ⟨hdir, hname, hplain, hget⟩ := h
    refine ⟨_, _, _, ?_, rfl⟩
    rename_i rest _
    cases rest with
    | nil => simp [lookToWrite, hdir, hplain rfl, hget, Nat.not_lt.mpr hname]
    | cons step rest => simp [lookToWrite, hdir, hget, Nat.not_lt.mpr hname]

theorem follows_look (t : FileTree) : Follows t t.look where
  advance h := by
    cases h with
    | here hdir hrest => simp [look, hdir]
    | up hdir hrest => simp [look, hdir]
    | into hdir hname hget hrest => simp [look, hdir, hget, Nat.not_lt.mpr hname]
  turn h := by
    obtain ⟨hdir, hname, hplain, hget⟩ := h
    exact ⟨_, _, _, by simp [look, hdir, hget, Nat.not_lt.mpr hname], rfl⟩

theorem follow_of_advances {way : Bool → Location → List Step → Stop} (hway : Follows t way)
    {s next : Spot} (h : Advances t s next) (links : Nat) :
    follow way links s.slashed s.loc s.steps =
      follow way links next.slashed next.loc next.steps := by
  unfold follow
  rw [hway.advance h, h.slashed_eq]

/-- Following a path from its start is following it from any spot on the way,
with the links that are left. -/
theorem follow_of_visits {way : Bool → Location → List Step → Stop} (hway : Follows t way)
    {s e : Spot} {n : Nat} (h : Visits t s n e) (links : Nat) :
    follow way (n + links) s.slashed s.loc s.steps = follow way links e.slashed e.loc e.steps := by
  induction h with
  | start s => rw [Nat.zero_add]
  | advance ha _ ih =>
    rw [follow_of_advances hway ha, ih]
  | turn ht _ ih =>
    obtain ⟨dir, target, rest, hlink, rfl⟩ := hway.turn ht
    rw [Nat.add_right_comm, follow, hlink]
    exact ih

/-! ### How opening a file for writing ends -/

theorem lookToWrite_of_opens {s : Spot} {loc : Location} (h : Opens t s loc) :
    t.lookToWrite s.slashed s.loc s.steps = .at loc := by
  obtain ⟨hdir, hname, hnone | ⟨content, hget⟩⟩ := h
  · simp [lookToWrite, hdir, hnone, Nat.not_lt.mpr hname]
  · simp [lookToWrite, hdir, hget, Nat.not_lt.mpr hname]

theorem lookToWrite_of_blocked {s : Spot} {f : Fault} (h : Blocked t s f) :
    t.lookToWrite s.slashed s.loc s.steps = .fault f := by
  cases h with
  | nameless => rfl
  | @outside slashed loc step rest hdir =>
    cases rest with
    | nil => simp [lookToWrite, hdir]
    | cons next rest => simp [lookToWrite, hdir]
  | dots hdir hstep => rcases hstep with rfl | rfl <;> simp [lookToWrite, hdir]
  | slash hdir => simp [lookToWrite, hdir]
  | @tooLong slashed loc name rest hdir hplain hname =>
    cases rest with
    | nil => simp [lookToWrite, hdir, hplain rfl, hname]
    | cons next rest => simp [lookToWrite, hdir, hname]
  | missing hdir hname hrest hget =>
    obtain ⟨step, rest, rfl⟩ := List.exists_cons_of_ne_nil hrest
    simp [lookToWrite, hdir, hget, Nat.not_lt.mpr hname]
  | @file slashed loc name rest content hdir hname hrest hget =>
    -- the file is entered, and the next step finds no directory there
    obtain ⟨step, rest, rfl⟩ := List.exists_cons_of_ne_nil hrest
    have hfile : t.isDirectory (loc ++ [name]) = false := by
      rw [isDirectory, hget]
      rfl
    cases rest with
    | nil => simp [lookToWrite, hdir, hget, hfile, Nat.not_lt.mpr hname]
    | cons next rest => simp [lookToWrite, hdir, hget, hfile, Nat.not_lt.mpr hname]
  | directory hdir hname hget => simp [lookToWrite, hdir, hget, Nat.not_lt.mpr hname]

theorem follow_of_at {s e : Spot} {n links : Nat} {way : Bool → Location → List Step → Stop}
    (hway : Follows t way) (hn : n ≤ links) (hv : Visits t s n e) {loc : Location}
    (hstop : way e.slashed e.loc e.steps = .at loc) :
    follow way links s.slashed s.loc s.steps = .ok loc := by
  obtain ⟨left, rfl⟩ := Nat.exists_eq_add_of_le hn
  rw [follow_of_visits hway hv, follow, hstop]

theorem follow_of_fault {s e : Spot} {n links : Nat} {way : Bool → Location → List Step → Stop}
    (hway : Follows t way) (hn : n ≤ links) (hv : Visits t s n e) {f : Fault}
    (hstop : way e.slashed e.loc e.steps = .fault f) :
    follow way links s.slashed s.loc s.steps = .error f := by
  obtain ⟨left, rfl⟩ := Nat.exists_eq_add_of_le hn
  rw [follow_of_visits hway hv, follow, hstop]

theorem destination_of_askable {cwd : Location} {path : Bytes} (h0 : 0 ∉ path) (h1 : path ≠ [])
    (h2 : path.length < maxPath) : t.destination cwd path =
      follow t.lookToWrite maxLinks (Spot.ofPath cwd path).slashed (Spot.ofPath cwd path).loc
        (Spot.ofPath cwd path).steps := by
  rw [destination, if_neg h0, if_neg h1, if_neg (Nat.not_le.mpr h2)]
  rfl

theorem destination_of_ends {cwd : Location} {path : Bytes} {result : Except Fault Location}
    (h : Ends t cwd path result) : t.destination cwd path = result := by
  cases h with
  | nul h => rw [destination, if_pos h]
  | empty h =>
    subst h
    rfl
  | tooLong h0 hlong =>
    have h1 : path ≠ [] := fun h => by
      subst h
      exact absurd hlong (by decide)
    rw [destination, if_neg h0, if_neg h1, if_pos hlong]
  | opens h0 h1 h2 hn hv ho =>
    rw [destination_of_askable h0 h1 h2]
    exact follow_of_at (follows_lookToWrite t) hn hv (lookToWrite_of_opens ho)
  | blocked h0 h1 h2 hn hv hb =>
    rw [destination_of_askable h0 h1 h2]
    exact follow_of_fault (follows_lookToWrite t) hn hv (lookToWrite_of_blocked hb)
  | loop h0 h1 h2 hv ht =>
    obtain ⟨dir, target, rest, hlink, -⟩ := (follows_lookToWrite t).turn ht
    rw [destination_of_askable h0 h1 h2, ← Nat.add_zero maxLinks,
      follow_of_visits (follows_lookToWrite t) hv, follow, hlink]

theorem exists_ends (t : FileTree) (cwd : Location) (path : Bytes) :
    ∃ result, Ends t cwd path result := by
  by_cases h0 : 0 ∈ path
  · exact ⟨_, .nul h0⟩
  by_cases h1 : path = []
  · exact ⟨_, .empty h1⟩
  rcases Nat.lt_or_ge path.length maxPath with h2 | h2
  · cases finish t maxLinks (.ofPath cwd path) with
    | opens hn hv ho => exact ⟨_, .opens h0 h1 h2 hn hv ho⟩
    | blocked hn hv hb => exact ⟨_, .blocked h0 h1 h2 hn hv hb⟩
    | loop hv ht => exact ⟨_, .loop h0 h1 h2 hv ht⟩
  · exact ⟨_, .tooLong h0 h2⟩

/-- **`destination` is how opening a path for writing ends.** -/
theorem destination_eq_iff {cwd : Location} {path : Bytes} {result : Except Fault Location} :
    t.destination cwd path = result ↔ Ends t cwd path result := by
  refine ⟨fun h => ?_, destination_of_ends⟩
  obtain ⟨found, hfound⟩ := exists_ends t cwd path
  rw [← h, destination_of_ends hfound]
  exact hfound

/-! ### Trees with the same directories and links -/

/-- A tree that has every directory and every link of another. -/
def Extends (t t' : FileTree) : Prop :=
  ∀ l e, t.get? l = some e → (∀ content, e ≠ .file content) → t'.get? l = some e

variable {t' : FileTree}

theorem Extends.isDirectory (h : Extends t t') {loc : Location} (hdir : t.isDirectory loc = true) :
    t'.isDirectory loc = true := by
  unfold FileTree.isDirectory at hdir ⊢
  exact decide_eq_true (h _ _ (of_decide_eq_true hdir) fun _ he => by cases he)

theorem Advances.extend (h : Extends t t') {s next : Spot} (ha : Advances t s next) :
    Advances t' s next := by
  cases ha with
  | here hdir hrest => exact .here (h.isDirectory hdir) hrest
  | up hdir hrest => exact .up (h.isDirectory hdir) hrest
  | into hdir hname hget hrest =>
    exact .into (h.isDirectory hdir) hname (h _ _ hget fun _ he => by cases he) hrest

theorem Turns.extend (h : Extends t t') {s next : Spot} (ht : Turns t s next) : Turns t' s next := by
  obtain ⟨hdir, hname, hplain, hget⟩ := ht
  exact .link (h.isDirectory hdir) hname hplain (h _ _ hget fun _ he => by cases he)

theorem Visits.extend (h : Extends t t') {s e : Spot} {n : Nat} (hv : Visits t s n e) :
    Visits t' s n e := by
  induction hv with
  | start s => exact .start s
  | advance ha _ ih => exact .advance (ha.extend h) ih
  | turn ht _ ih => exact .turn (ht.extend h) ih

theorem Opens.extend (h : Extends t t') {s : Spot} {loc : Location} {content : Bytes}
    (ho : Opens t s loc) (hfile : t'.get? loc = some (.file content)) : Opens t' s loc := by
  obtain ⟨hdir, hname, -⟩ := ho
  exact .last (h.isDirectory hdir) hname (.inr ⟨content, hfile⟩)

/-- A path leads to the same file in a tree with the same directories and links. -/
theorem Ends.extend (h : Extends t t') {cwd loc : Location} {path content : Bytes}
    (he : Ends t cwd path (.ok loc)) (hfile : t'.get? loc = some (.file content)) :
    Ends t' cwd path (.ok loc) := by
  cases he with
  | opens h0 h1 h2 hn hv ho => exact .opens h0 h1 h2 hn (hv.extend h) (ho.extend h hfile)

theorem extends_set {loc : Location} (hroot : loc ≠ [])
    (hfree : t.get? loc = none ∨ ∃ old, t.get? loc = some (.file old)) (content : Bytes) :
    Extends t (t.set loc (.file content)) := by
  intro l e hget hnot
  have hne : l ≠ loc := by
    rintro rfl
    rcases hfree with hnone | ⟨old, hold⟩
    · rw [hnone] at hget
      cases hget
    · rw [hold] at hget
      cases hget
      exact hnot old rfl
  rw [get?_set t hroot, if_neg hne]
  exact hget

/-! ### Reading a file that opens -/

theorem look_of_opens {s : Spot} {loc : Location} {content : Bytes} (ho : Opens t s loc)
    (hfile : t.get? loc = some (.file content)) : t.look s.slashed s.loc s.steps = .at loc := by
  obtain ⟨hdir, hname, -⟩ := ho
  simp [look, hdir, hfile, Nat.not_lt.mpr hname]

/-- Where a path leads for writing, it leads for reading if a file is there. -/
theorem locate_of_ends {cwd loc : Location} {path content : Bytes}
    (h : Ends t cwd path (.ok loc)) (hfile : t.get? loc = some (.file content)) :
    t.locate cwd path = .ok loc := by
  cases h with
  | opens h0 h1 h2 hn hv ho =>
    rw [locate, if_neg h0, if_neg h1, if_neg (Nat.not_le.mpr h2)]
    exact follow_of_at (follows_look t) hn hv (look_of_opens ho hfile)

theorem read_of_ends {cwd loc : Location} {path content : Bytes}
    (h : Ends t cwd path (.ok loc)) (hfile : t.get? loc = some (.file content)) :
    t.read cwd path = .ok content := by
  rw [read, locate_of_ends h hfile]
  show t.contentAt loc = .ok content
  rw [contentAt, hfile]

end BuildSettings.FileTree
