/-
# However the repository is spelled

The repository can be named by many paths, from many places: absolute or not,
through links, with dots. A run asks where the path leads and goes by that
location alone. The request is made of the location's own path, and the path of
the file is absolute with it, or absolute on its own where the file's name is, so
that the place of the run does not count for it either. Two runs that find the
repository at the same location therefore end alike (`run_of_sameButRoot`).

On the command line only the repository's words differ. `Respelled` says which
words may be replaced by which. Reading goes through alike lines then
(`alike_of_respelled`), once a value in a word of its own is taken to be settled
where it stands and not at the next option.

Key definitions: `CommandLine.Spelling`, `CommandLine.Respelled`,
`CommandLine.Line.Alike`, `Given.SameButRoot`.
Key theorems: `alike_of_respelled`, `sameButRoot_of_respelled`,
`emit_of_absolute`, `run_of_sameButRoot`, `run_of_same_repository`.
-/
import BuildSettings.Proofs.Run
import BuildSettings.Proofs.Setting
import BuildSettings.Proofs.Words

namespace BuildSettings

open Pathname (Location slash)

/-- Given values that differ in nothing but the repository to build. -/
def Given.SameButRoot (given given' : Given) : Prop := given' = { given with root := given'.root }

/-! ### The command line -/

namespace CommandLine

/-- The word for the repository to build. -/
def repositoryWord : Bytes := Utf8.encode (Opt.flag .pdbgRepo)

/-- Words that give the repository to build, in one or in two. -/
inductive Spelling : List Bytes → Prop
  | joined (path : Bytes) : Spelling [repositoryWord ++ 0x3D :: path]
  | apart (path : Bytes) : Spelling [repositoryWord, path]

/-- Command lines that differ in the spelling of the repository to build, and in
nothing else. -/
inductive Respelled : List Bytes → List Bytes → Prop
  | nil : Respelled [] []
  | word (w : Bytes) {ws ws' : List Bytes} : Respelled ws ws' → Respelled (w :: ws) (w :: ws')
  | repository {g g' ws ws' : List Bytes} : Spelling g → Spelling g' → Respelled ws ws' →
      Respelled (g ++ ws) (g' ++ ws')

/-- Lines that have been given the same but for the repository to build. -/
structure Line.Alike (l l' : Line) : Prop where
  ecmdRepo : l'.ecmdRepo = l.ecmdRepo
  value : l'.value = l.value
  switch : l'.switch = l.switch

/-! ### Spellings are read -/

section
variable {l r : Line} {o : Opt} {ws : List Bytes}

theorem read_of_spelling {g : List Bytes} (hg : Spelling g) (h : read l none (g ++ ws) = .ok r) :
    ∃ path, read (l.hold .pdbgRepo path) none ws = .ok r := by
  cases hg with
  | joined path =>
    obtain ⟨o, hfind, hread⟩ := read_long (ofBytes_flag_value .pdbgRepo path) h
    cases (find?_name .pdbgRepo).symm.trans hfind
    exact ⟨path, hread⟩
  | apart path =>
    obtain ⟨o, hfind, hread⟩ := read_long (ofBytes_flag .pdbgRepo) h
    cases (find?_name .pdbgRepo).symm.trans hfind
    exact ⟨path, (read_awaiting hread).2⟩

/-- Where a value is waited for, no spelling is read. -/
theorem not_awaiting_of_spelling {g : List Bytes} (hg : Spelling g) :
    read l (awaiting (some o)) (g ++ ws) ≠ .ok r := by
  intro h
  cases hg with
  | joined path => cases (ofBytes_flag_value .pdbgRepo path).symm.trans (read_awaiting h).1
  | apart path => cases (ofBytes_flag .pdbgRepo).symm.trans (read_awaiting h).1

end

/-! ### Lines alike -/

section
variable {l l' : Line}

theorem Line.Alike.hold (h : l.Alike l') (o : Opt) (v : Bytes) :
    (l.hold o v).Alike (l'.hold o v) := by
  cases o with
  | ecmdRepo => exact ⟨rfl, h.value, h.switch⟩
  | parameter q => exact ⟨h.ecmdRepo, by simp only [Line.hold, h.value], h.switch⟩
  | pdbgRepo | switch | help | version => exact ⟨h.ecmdRepo, h.value, h.switch⟩

theorem Line.Alike.met (h : l.Alike l') (o : Opt) (v : Option Bytes) :
    (l.met o v).1.Alike (l'.met o v).1 ∧ (l.met o v).2 = (l'.met o v).2 := by
  cases v with
  | some w => exact ⟨h.hold o w, rfl⟩
  | none =>
    cases o with
    | switch s =>
      exact ⟨⟨h.ecmdRepo, h.value, by simp only [Line.met, h.switch]⟩, rfl⟩
    | ecmdRepo | pdbgRepo | parameter | help | version => exact ⟨h, rfl⟩

theorem Line.Alike.repository (h : l.Alike l') (path path' : Bytes) :
    (l.hold .pdbgRepo path).Alike (l'.hold .pdbgRepo path') :=
  ⟨h.ecmdRepo, h.value, h.switch⟩

/-- **Reading goes through alike lines.** -/
theorem alike_of_respelled {ws ws' : List Bytes} (hws : Respelled ws ws') :
    ∀ {l l' r r' : Line} {o : Option Opt}, l.Alike l' →
      read l (awaiting o) ws = .ok r → read l' (awaiting o) ws' = .ok r' → r.Alike r' := by
  -- by induction on where the words differ: both lines wait for the same value, or for none
  induction hws with
  | nil =>
    intro l l' r r' o hl h h'
    cases o with
    | some o => cases h
    | none => cases h; cases h'; exact hl
  | @word w ws ws' hws ih =>
    intro l l' r r' o hl h h'
    cases o with
    | some o => exact ih (hl.hold o w) (o := none) (read_awaiting h).2 (read_awaiting h').2
    | none =>
      cases taken_of_read h with
      | divider hw _ hsettle =>
        cases hsettle
        cases settle_of_divider hw h'
        exact hl
      | @long name v _ _ hw =>
        obtain ⟨o, hfind, hread⟩ := read_long hw h
        obtain ⟨o', hfind', hread'⟩ := read_long hw h'
        cases hfind.symm.trans hfind'
        obtain ⟨halike, hwait⟩ := hl.met o v
        exact ih halike hread (hwait ▸ hread')
      | value _ hp => cases hp
  | @repository g g' ws ws' hg hg' hws ih =>
    intro l l' r r' o hl h h'
    cases o with
    | some o => exact absurd h (not_awaiting_of_spelling hg)
    | none =>
      obtain ⟨path, hread⟩ := read_of_spelling hg h
      obtain ⟨path', hread'⟩ := read_of_spelling hg' h'
      exact ih (hl.repository path path') (o := none) hread hread'

theorem line_of_parse {words : List Bytes} {given : Given} (h : parse words = .ok given) :
    ∃ r, read {} none words = .ok r ∧ r.ecmdRepo = some given.ecmdRoot ∧
      r.value = given.value ∧ r.switch = given.switch := by
  unfold parse at h
  cases hread : read {} none words with
  | error stop => rw [hread] at h; cases h
  | ok r =>
    rw [hread] at h
    refine ⟨r, rfl, ?_⟩
    cases hroot : r.pdbgRepo <;> cases hecmd : r.ecmdRepo <;>
      simp only [hroot, hecmd, bind, Except.bind] at h <;> cases h
    exact ⟨rfl, rfl, rfl⟩

/-- Command lines that differ in the spelling of the repository give the same,
but for the repository. -/
theorem sameButRoot_of_respelled {words words' : List Bytes} {given given' : Given}
    (hwords : Respelled words words') (h : parse words = .ok given)
    (h' : parse words' = .ok given') : given.SameButRoot given' := by
  obtain ⟨r, hread, hecmd, hvalue, hswitch⟩ := line_of_parse h
  obtain ⟨r', hread', hecmd', hvalue', hswitch'⟩ := line_of_parse h'
  have hstart : Line.Alike {} {} := ⟨rfl, rfl, rfl⟩
  have hr := alike_of_respelled hwords hstart (o := none) hread hread'
  have hroot : given'.ecmdRoot = given.ecmdRoot :=
    Option.some_inj.mp (by rw [← hecmd', ← hecmd, hr.ecmdRepo])
  rw [Given.SameButRoot, ← hvalue, ← hr.value, hvalue', ← hswitch, ← hr.switch, hswitch', ← hroot]

end

end CommandLine

/-! ### Absolute paths -/

theorem Pathname.head?_joinBytes {base : Bytes} (h : base.head? = some slash) (segment : Bytes) :
    (joinBytes base segment).head? = some slash := by
  unfold joinBytes join
  split
  · assumption
  · split <;> rw [List.head?_append_of_ne_nil _ (by rintro rfl; cases h), h]

/-- An absolute path leads to the same place from everywhere. -/
theorem FileTree.write_of_absolute {path : Bytes} (h : path.head? = some slash) (t : FileTree)
    (cwd cwd' : Location) (content : Bytes) :
    t.write cwd' path content = t.write cwd path content := by
  have hbase : ∀ cwd, (Pathname.Route.ofBytes path).base cwd = [] := fun cwd => by
    rw [Pathname.Route.base, Pathname.Route.ofBytes, if_pos (decide_eq_true h)]
  simp only [write, destination, hbase]

/-- A configuration for an absolute directory is written the same way from
everywhere. -/
theorem Configuration.emit_of_absolute {c : Configuration} (h : c.root.head? = some slash)
    (t : FileTree) (cwd cwd' : Location) : c.emit t cwd' = c.emit t cwd := by
  have habsolute : c.outputPath.head? = some slash := Pathname.head?_joinBytes h _
  rw [emit, write, FileTree.write_of_absolute habsolute t cwd cwd']
  rfl

/-! ### Runs -/

namespace Command

variable {words words' : List Bytes} {given given' : Given}

theorem request_of_sameButRoot (h : given.SameButRoot given') (root : Bytes) (vars : Variables) :
    request given' root vars = request given root vars := by
  rw [request, h]
  rfl

theorem root_of_plan {vars : Variables} {root : Bytes} {r : Request} {c : Configuration}
    (h : plan given vars (.ok root) = .ok (r, c)) : c.root = root := by
  simp only [plan] at h
  cases hresolve : (request given root vars).resolve with
  | error e => simp only [hresolve, reduceCtorEq] at h
  | ok d =>
    simp only [hresolve] at h
    cases h
    obtain ⟨-, -, hroot, -⟩ := Request.of_resolve hresolve
    exact hroot

/-- Runs that are given the same, and find the repository at the same location,
end alike. -/
theorem run_of_sameButRoot (h : CommandLine.parse words = .ok given)
    (h' : CommandLine.parse words' = .ok given') (hsame : given.SameButRoot given')
    {t : FileTree} {vars : Variables} {cwd cwd' root : Location}
    (hroot : t.canonical cwd given.root = .ok root)
    (hroot' : t.canonical cwd' given'.root = .ok root) :
    run ⟨t, cwd', vars⟩ words' = run ⟨t, cwd, vars⟩ words := by
  have hplan : plan given' vars (.ok root.path) = plan given vars (.ok root.path) := by
    simp only [plan, request_of_sameButRoot hsame]
  rw [run_of_parse h', run_of_parse h]
  simp only [hroot, hroot', Except.map, hplan]
  cases hend : plan given vars (.ok root.path) with
  | error outcome => rfl
  | ok x =>
    have habsolute : x.2.root.head? = some slash := by
      rw [root_of_plan hend]
      exact Pathname.head?_path root
    simp only [Configuration.emit_of_absolute habsolute t cwd cwd']

/-- **A run depends on the repository's location, not on how it is named.** Command
lines that differ in the spelling of the repository give the same, but for the
repository. Runs of command lines that give the same but for the repository, from
wherever they start, end alike if the two paths lead to one location: with the
same code, saying and recording the same, and leaving the same tree. They make
the same request, of the location's own path, so that the settings and the path of
the file follow from that path; the eCMD repository's setting is the text of the
path that is given for it. -/
theorem run_of_same_repository (h : CommandLine.parse words = .ok given)
    (h' : CommandLine.parse words' = .ok given') :
    (CommandLine.Respelled words words' → given.SameButRoot given') ∧
    (given.SameButRoot given' → ∀ (t : FileTree) (vars : Variables) (cwd cwd' root : Location),
      t.canonical cwd given.root = .ok root → t.canonical cwd' given'.root = .ok root →
      run ⟨t, cwd', vars⟩ words' = run ⟨t, cwd, vars⟩ words ∧
      requestAt ⟨t, cwd', vars⟩ given' root = requestAt ⟨t, cwd, vars⟩ given root ∧
      ∀ c, (requestAt ⟨t, cwd, vars⟩ given root).resolve = .ok c →
        c.settings.get? "PDBG_ROOT" = some (Utf8.lossy root.path) ∧
        c.settings.get? "ECMD_ROOT" = some (Utf8.lossy given.ecmdRoot) ∧
        given'.ecmdRoot = given.ecmdRoot ∧
        c.outputPath = Pathname.joinBytes root.path (Utf8.encode c.fileName)) := by
  refine ⟨fun hwords => CommandLine.sameButRoot_of_respelled hwords h h', ?_⟩
  intro hsame t vars cwd cwd' root hroot hroot'
  refine ⟨run_of_sameButRoot h h' hsame hroot hroot', request_of_sameButRoot hsame .., ?_⟩
  intro c hc
  obtain ⟨-, -, hdirectory, -⟩ := Request.of_resolve hc
  refine ⟨Request.get?_derived hc .root, Request.get?_derived hc .ecmdRoot, ?_, ?_⟩
  · rw [hsame]
  · rw [Configuration.outputPath, hdirectory]
    rfl

/-- A repository, and a link that leads to it from beside. -/
def linkedTree : FileTree :=
  ⟨[([Utf8.encode "r"], .directory), ([Utf8.encode "l"], .link (Utf8.encode "r"))]⟩

/-- The repository by the link, for someone at the root. -/
def linkWords : List Bytes :=
  ["--pdbg-repo", "./l/", "--ecmd-repo=../e"].map Utf8.encode

/-- The repository by where one stands in it. -/
def dotWords : List Bytes :=
  ["--pdbg-repo=../r/.", "--ecmd-repo=../e"].map Utf8.encode

theorem exists_of_parse {words : List Bytes} {root : Bytes}
    (h : (CommandLine.parse words).toOption.map Given.root = some root) :
    ∃ given, CommandLine.parse words = .ok given ∧ given.root = root := by
  cases hparse : CommandLine.parse words with
  | error stop => rw [hparse] at h; cases h
  | ok given =>
    rw [hparse] at h
    exact ⟨given, rfl, Option.some_inj.mp h⟩

theorem run_of_dotWords : CommandLine.Respelled linkWords dotWords ∧ ∃ given given',
    CommandLine.parse linkWords = .ok given ∧ CommandLine.parse dotWords = .ok given' ∧
    linkedTree.canonical [] given.root = .ok [Utf8.encode "r"] ∧
    linkedTree.canonical [Utf8.encode "r"] given'.root = .ok [Utf8.encode "r"] ∧
    run ⟨linkedTree, [Utf8.encode "r"], []⟩ dotWords = run ⟨linkedTree, [], []⟩ linkWords := by
  have hwords : CommandLine.Respelled linkWords dotWords :=
    .repository (.apart (Utf8.encode "./l/")) (.joined (Utf8.encode "../r/.")) (.word _ .nil)
  obtain ⟨given, h, hroot⟩ : ∃ given, CommandLine.parse linkWords = .ok given ∧
      given.root = Utf8.encode "./l/" := exists_of_parse (by decide +kernel)
  obtain ⟨given', h', hroot'⟩ : ∃ given, CommandLine.parse dotWords = .ok given ∧
      given.root = Utf8.encode "../r/." := exists_of_parse (by decide +kernel)
  have hfound : linkedTree.canonical [] given.root = .ok [Utf8.encode "r"] := by
    rw [hroot]
    decide +kernel
  have hfound' : linkedTree.canonical [Utf8.encode "r"] given'.root = .ok [Utf8.encode "r"] := by
    rw [hroot']
    decide +kernel
  obtain ⟨hsame, hrun⟩ := run_of_same_repository h h'
  exact ⟨hwords, given, given', h, h', hfound, hfound',
    (hrun (hsame hwords) linkedTree [] [] _ _ hfound hfound').1⟩

end Command
end BuildSettings
