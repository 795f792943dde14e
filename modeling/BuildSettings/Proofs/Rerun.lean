/-
# A second run repeats the first

A run that writes its file leaves a tree in which something of the same kind
stands wherever anything stood: the same directory, the same link, or a file
(`Retains`). The path to the repository leads to the same location there
(`canonical_of_retains`), and so does the path of the file, wherever it is: in
the repository, outside it, or at the end of a link that led nowhere before. So
the second run resolves the same configuration and writes it to the same place,
where it stands already (`run_again`).

Key definitions: `Entry.Alike`, `FileTree.Retains`.
Key theorems: `ask_eq_ok_iff`, `canonical_of_retains`, `set_set`, `run_again`.
-/
import BuildSettings.Proofs.Run

namespace BuildSettings

open Pathname (Location Name Route Step)

/-- Entries of one kind: the same one, or two files. -/
inductive Entry.Alike : Entry → Entry → Prop
  | same (e : Entry) : Alike e e
  | files (old new : Bytes) : Alike (.file old) (.file new)

namespace FileTree

variable {t t' : FileTree}

/-- Wherever a tree has an entry, another has one of the same kind. -/
def Retains (t t' : FileTree) : Prop :=
  ∀ l e, t.get? l = some e → ∃ e', t'.get? l = some e' ∧ e.Alike e'

theorem Retains.extends (h : Retains t t') : Extends t t' := by
  intro l e hget hnot
  obtain ⟨e', hget', halike⟩ := h l e hget
  cases halike with
  | same => exact hget'
  | files old new => exact absurd rfl (hnot old)

theorem retains_set {loc : Location} (hroot : loc ≠ [])
    (hfree : t.get? loc = none ∨ ∃ old, t.get? loc = some (.file old)) (content : Bytes) :
    Retains t (t.set loc (.file content)) := by
  have hextends := extends_set hroot hfree content
  intro l e hget
  cases e with
  | directory => exact ⟨_, hextends l _ hget fun _ h => (by cases h), .same _⟩
  | link target => exact ⟨_, hextends l _ hget fun _ h => (by cases h), .same _⟩
  | file old =>
    rw [get?_set t hroot]
    by_cases hl : l = loc
    · exact ⟨_, if_pos hl, .files old content⟩
    · exact ⟨_, by rw [if_neg hl, hget], .same _⟩

/-! ### The canonical path -/

/-- What a name leads to, if its path can be asked for at all. -/
theorem ask_eq_ok_iff {slashes : Nat} {loc : Location} {name : Name} {e : Entry} :
    t.ask slashes loc name = .ok e ↔
      (Location.path (loc ++ [name])).length + slashes < maxPath ∧ t.isDirectory loc = true ∧
        name.length ≤ maxName ∧ t.get? (loc ++ [name]) = some e := by
  unfold ask
  constructor
  · intro h
    split at h
    · cases h
    · split at h
      · cases h
      · split at h
        · cases h
        · rename_i hpath hdir hname
          refine ⟨Nat.not_le.mp hpath, by simpa using hdir, Nat.not_lt.mp hname, ?_⟩
          cases hget : t.get? (loc ++ [name]) with
          | none => rw [hget] at h; cases h
          | some found => rw [hget] at h; cases h; rfl
  · rintro ⟨hpath, hdir, hname, hget⟩
    rw [if_neg (Nat.not_le.mpr hpath), hdir, if_neg (by decide), if_neg (Nat.not_lt.mpr hname), hget]

theorem Retains.ask (h : Retains t t') {slashes : Nat} {loc : Location} {name : Name} {e : Entry}
    (hask : t.ask slashes loc name = .ok e) :
    ∃ e', t'.ask slashes loc name = .ok e' ∧ e.Alike e' := by
  obtain ⟨hpath, hdir, hname, hget⟩ := ask_eq_ok_iff.mp hask
  obtain ⟨e', hget', halike⟩ := h _ _ hget
  exact ⟨e', ask_eq_ok_iff.mpr ⟨hpath, h.extends.isDirectory hdir, hname, hget'⟩, halike⟩

/-- What a name with steps after it leads to on a canonical path: to a link, to
an entry that one can go on from, or nowhere. -/
inductive Reads (t : FileTree) (slashed : Bool) (loc : Location) (name : Name) (rest : List Step) :
    Prop
  | link {target : Bytes} : t.ask 0 loc name = .ok (.link target) → Reads t slashed loc name rest
  | entry {e : Entry} : (∀ target, e ≠ .link target) →
      t.ask (needsDirectory slashed rest).toNat loc name = .ok e →
      (needsDirectory slashed rest = true → e = .directory) → Reads t slashed loc name rest
  | fault {f : Fault} : t.lookSpelled slashed loc (.into name :: rest) = .fault f →
      Reads t slashed loc name rest

theorem lookSpelled_of_link {slashed : Bool} {loc : Location} {name : Name} {rest : List Step}
    {target : Bytes} (hask : t.ask 0 loc name = .ok (.link target)) :
    t.lookSpelled slashed loc (.into name :: rest) = .link loc target rest := by
  rw [lookSpelled, hask]

theorem ask_zero_of_ask {slashes : Nat} {loc : Location} {name : Name} {e : Entry}
    (h : t.ask slashes loc name = .ok e) : t.ask 0 loc name = .ok e := by
  obtain ⟨hpath, hrest⟩ := ask_eq_ok_iff.mp h
  exact ask_eq_ok_iff.mpr ⟨Nat.lt_of_le_of_lt (Nat.le_add_right _ _) hpath, hrest⟩

theorem lookSpelled_of_entry {slashed : Bool} {loc : Location} {name : Name} {rest : List Step}
    {e : Entry} (hlink : ∀ target, e ≠ .link target)
    (hask : t.ask (needsDirectory slashed rest).toNat loc name = .ok e)
    (hneeded : needsDirectory slashed rest = true → e = .directory) :
    t.lookSpelled slashed loc (.into name :: rest) =
      t.lookSpelled slashed (loc ++ [name]) rest := by
  rw [lookSpelled, ask_zero_of_ask hask, hask]
  cases e with
  | link target => exact absurd rfl (hlink target)
  | directory => simp
  | file content =>
    have hfree : needsDirectory slashed rest = false :=
      Bool.eq_false_iff.mpr fun h => by cases hneeded h
    simp [hfree]

/-- From every name one turns at a link, goes on, or stops. -/
theorem reads (t : FileTree) (slashed : Bool) (loc : Location) (name : Name) (rest : List Step) :
    Reads t slashed loc name rest := by
  cases hask : t.ask (needsDirectory slashed rest).toNat loc name with
  | error f =>
    -- without the slash the path is shorter, and a link may stand there
    cases hzero : t.ask 0 loc name with
    | error g => exact .fault (f := f) (by rw [lookSpelled, hzero, hask])
    | ok e =>
      cases e with
      | link target => exact .link hzero
      | directory => exact .fault (f := f) (by rw [lookSpelled, hzero, hask])
      | file content => exact .fault (f := f) (by rw [lookSpelled, hzero, hask])
  | ok e =>
    cases e with
    | link target => exact .link (ask_zero_of_ask hask)
    | directory => exact .entry (fun _ h => by cases h) hask fun _ => rfl
    | file content =>
      by_cases hneeded : needsDirectory slashed rest = true
      · refine .fault (f := .notADirectory) ?_
        rw [lookSpelled, ask_zero_of_ask hask, hask]
        simp [hneeded]
      · exact .entry (fun _ h => by cases h) hask fun h => absurd h hneeded

/-- Steps that end without a fault end the same way where everything stands. -/
theorem Retains.lookSpelled (h : Retains t t') {slashed : Bool} : ∀ (steps : List Step)
    {loc : Location}, (∀ f, t.lookSpelled slashed loc steps ≠ .fault f) →
      t'.lookSpelled slashed loc steps = t.lookSpelled slashed loc steps
  | [], _, _ => rfl
  | .here :: rest, _, hok => Retains.lookSpelled h rest hok
  | .up :: rest, _, hok => Retains.lookSpelled h rest hok
  | .into name :: rest, loc, hok => by
    cases reads t slashed loc name rest with
    | @link target hask =>
      obtain ⟨e', hask', halike⟩ := h.ask hask
      cases halike
      rw [lookSpelled_of_link hask, lookSpelled_of_link hask']
    | @entry e hlink hask hneeded =>
      have hgo := lookSpelled_of_entry hlink hask hneeded
      obtain ⟨e', hask', halike⟩ := h.ask hask
      have hgo' : t'.lookSpelled slashed loc (.into name :: rest) =
          t'.lookSpelled slashed (loc ++ [name]) rest := by
        cases halike with
        | same => exact lookSpelled_of_entry hlink hask' hneeded
        | files old new =>
          exact lookSpelled_of_entry (fun _ h => by cases h) hask' fun h => by cases hneeded h
      rw [hgo] at hok ⊢
      rw [hgo', Retains.lookSpelled h rest hok]
    | fault hfault => exact absurd hfault (hok _)

theorem ne_fault_of_follow {way : Bool → Location → List Step → Stop} {links : Nat}
    {slashed : Bool} {loc found : Location} {steps : List Step}
    (h : follow way links slashed loc steps = .ok found) (f : Fault) :
    way slashed loc steps ≠ .fault f := by
  intro hf
  rw [follow, hf] at h
  cases h

/-- Two ways that agree wherever the first meets no fault lead to the same
location. -/
theorem follow_of_agree {way way' : Bool → Location → List Step → Stop}
    (hway : ∀ {slashed loc steps}, (∀ f, way slashed loc steps ≠ .fault f) →
      way' slashed loc steps = way slashed loc steps) {links : Nat} {slashed : Bool}
    {loc found : Location} {steps : List Step}
    (h : follow way links slashed loc steps = .ok found) :
    follow way' links slashed loc steps = .ok found := by
  induction links generalizing slashed loc steps with
  | zero =>
    rw [follow, hway (ne_fault_of_follow h)]
    rwa [follow] at h
  | succ links ih =>
    rw [follow, hway (ne_fault_of_follow h)]
    rw [follow] at h
    rcases hstop : way slashed loc steps with l | ⟨dir, target, rest⟩ | f
    · rwa [hstop] at h
    · rw [hstop] at h
      exact ih h
    · rw [hstop] at h
      cases h

/-- **A path to a location leads there in every tree that retains the first.** -/
theorem canonical_of_retains (h : Retains t t') {cwd loc : Location} {path : Bytes}
    (hpath : t.canonical cwd path = .ok loc) : t'.canonical cwd path = .ok loc := by
  unfold canonical at hpath ⊢
  split at hpath
  · cases hpath
  · split at hpath
    · cases hpath
    · rename_i h0 h1
      rw [if_neg h0, if_neg h1]
      exact follow_of_agree (h.lookSpelled _) hpath

/-! ### Setting a location twice -/

theorem put_put (loc : Location) (e f : Entry) : ∀ es : List (Location × Entry),
    put loc e (put loc f es) = put loc e es
  | [] => by simp [put]
  | (l, g) :: rest => by
    by_cases h : l = loc
    · simp [put, h]
    · simp [put, h, put_put loc e f rest]

theorem set_set (t : FileTree) (loc : Location) (e f : Entry) :
    (t.set loc f).set loc e = t.set loc e := by
  unfold set
  rw [put_put]

end FileTree

namespace Command

variable {s : Session} {words : List Bytes} {given : Given}

/-- Once its file is written, a run finds the repository, the configuration and
the file's place as it found them before. -/
theorem run_of_written_again (h : CommandLine.parse words = .ok given) {root : Location}
    (hroot : s.tree.canonical s.cwd given.root = .ok root) {c : Configuration}
    (hresolve : (requestAt s given root).resolve = .ok c) {loc : Location}
    (hends : FileTree.Ends s.tree s.cwd c.outputPath (.ok loc)) :
    run { s with tree := s.tree.set loc (.file c.content) } words =
      (succeeded s.vars (writingLines c) ((requestAt s given root).events ++ [c.wroteEvent]),
        s.tree.set loc (.file c.content)) := by
  obtain ⟨hbelow, hfree⟩ := FileTree.free_of_ends hends
  have hroot' := FileTree.canonical_of_retains (FileTree.retains_set hbelow hfree c.content) hroot
  have hends' := FileTree.ends_set hends c.content
  have hrun := run_of_written (s := { s with tree := s.tree.set loc (.file c.content) })
    h hroot' hresolve hends'
  rw [hrun, FileTree.set_set]
  rfl

/-- **A second run ends as the first did and changes nothing more.** Whatever the
tree, the variables, the place and the words are, running the same words again
gives the same code, says the same, records the same, and leaves the tree that
the first run left. -/
theorem run_again (s : Session) (words : List Bytes) :
    run { s with tree := (run s words).2 } words = run s words := by
  cases hparse : CommandLine.parse words with
  | error stop => rw [run_of_stop hparse, run_of_stop hparse]
  | ok given =>
    have hend := ending_of_run (s := s) hparse
    generalize run s words = result at hend ⊢
    cases hend with
    | lost hroot => exact run_of_lost hparse hroot
    | refused hroot hunknown =>
      exact run_of_refused hparse hroot (Request.resolve_of_unknown _ hunknown)
    | unwritten hroot hc hends => exact run_of_unwritten hparse hroot hc hends
    | written hroot hc hends => exact run_of_written_again hparse hroot hc hends

end Command
end BuildSettings
