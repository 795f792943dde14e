/-
# Every way to write a command line is read back

What is given for a build can be written as a command line in many ways: one item
for each thing that is given, in any order, a value after an equals sign or, where
it does not look like an option, in a word of its own. `Item` is one thing that is
given, `Written` says which words give it, and `WrittenAll` goes through a list of
items.

Reading takes the items one after another. What carries it is that the line holds
the items so far and no others (`Line.Holds`), so that an item of an option that
was not there yet is taken (`exists_take`). In the end the line holds the items of
what is given, and there is only one line that does (`Line.eq_of_has`).

Key definitions: `Item`, `Item.Written`, `WrittenAll`, `Line.has`, `Line.Holds`,
`itemsOf`.
Key theorems: `read_of_written`, `exists_take`, `read_of_writtenAll`,
`parse_of_writtenAll`.
-/
import BuildSettings.Proofs.Decoding
import BuildSettings.Proofs.Words

namespace BuildSettings

namespace CommandLine

/-! ### Items and their words -/

/-- One thing that a command line gives. -/
inductive Item where
  | ecmdRepo (path : Bytes)
  | pdbgRepo (path : Bytes)
  | parameter (p : Parameter) (text : String)
  | switch (s : Switch)
  deriving DecidableEq, Repr

namespace Item

/-- The option of an item. -/
def opt : Item → Opt
  | ecmdRepo _ => .ecmdRepo
  | pdbgRepo _ => .pdbgRepo
  | parameter p _ => .parameter p
  | switch s => .switch s

/-- The bytes that an item gives its option, if the option takes any. -/
def bytes? : Item → Option Bytes
  | ecmdRepo path => some path
  | pdbgRepo path => some path
  | parameter _ text => some (Utf8.encode text)
  | switch _ => none

/-- The word for an item's option. -/
def word (i : Item) : Bytes := Utf8.encode i.opt.flag

/-- Words that give an item. -/
inductive Written (i : Item) : List Bytes → Prop
  /-- The value after an equals sign. -/
  | joined {v : Bytes} : i.bytes? = some v → Written i [i.word ++ 0x3D :: v]
  /-- The value in a word of its own, which must not look like an option. -/
  | apart {v : Bytes} : i.bytes? = some v → v.head? ≠ some 0x2D ∨ v = [0x2D] →
      Written i [i.word, v]
  /-- No value. -/
  | alone : i.bytes? = none → Written i [i.word]

end Item

/-- Words that give some items, one after another. -/
inductive WrittenAll : List Item → List Bytes → Prop
  | nil : WrittenAll [] []
  | cons {i : Item} {is : List Item} {g ws : List Bytes} : i.Written g → WrittenAll is ws →
      WrittenAll (i :: is) (g ++ ws)

/-! ### One item -/

/-- The line with one more item. -/
def Line.take (l : Line) : Item → Except UsageError Line
  | .ecmdRepo path => l.put .ecmdRepo path
  | .pdbgRepo path => l.put .pdbgRepo path
  | .parameter p text => l.put (.parameter p) (Utf8.encode text)
  | .switch s => l.turnOn s

section
variable {l m r : Line} {i : Item} {ws : List Bytes}

theorem Line.take_of_bytes {v : Bytes} (h : i.bytes? = some v) : l.take i = l.put i.opt v := by
  cases i with
  | switch s => cases h
  | ecmdRepo | pdbgRepo | parameter => cases h; rfl

theorem meet_value {v : Bytes} (hv : i.bytes? = some v) (htake : l.take i = .ok m) :
    meet l none i.opt (some v) = .ok (m, none) := by
  have hput : l.put i.opt v = .ok m := by rw [← Line.take_of_bytes hv, htake]
  have hname : i.opt.valueName.isSome = true := by
    cases i with
    | switch s => cases hv
    | parameter p => cases p <;> rfl
    | ecmdRepo | pdbgRepo => rfl
  simp only [meet, hname, if_true]
  show Except.mapError _ (Except.map _ (l.put i.opt v)) = _
  rw [hput]
  rfl

theorem meet_awaiting {v : Bytes} (hv : i.bytes? = some v) :
    meet l none i.opt none = .ok (l, awaiting (some i.opt)) := by
  cases i with
  | switch s => cases hv
  | ecmdRepo | pdbgRepo | parameter => rfl

theorem meet_alone (hv : i.bytes? = none) (htake : l.take i = .ok m) :
    meet l none i.opt none = .ok (m, none) := by
  cases i with
  | switch s =>
    have hturn : l.turnOn s = .ok m := htake
    show Except.mapError _ (Except.map _ (l.turnOn s)) = _
    rw [hturn]
    rfl
  | ecmdRepo | pdbgRepo | parameter => cases hv

/-- **Words that give an item are read as that item.** -/
theorem read_of_written {g : List Bytes} (hg : i.Written g) (htake : l.take i = .ok m)
    (h : read m none ws = .ok r) : read l none (g ++ ws) = .ok r := by
  have hfind := find?_name i.opt
  cases hg with
  | @joined v hv =>
    exact read_of_taken (.long (ofBytes_flag_value i.opt v) hfind (meet_value hv htake) h)
  | @apart v hv hplain =>
    have hput : l.put i.opt v = .ok m := by rw [← Line.take_of_bytes hv, htake]
    have hvalue : read l (awaiting (some i.opt)) (v :: ws) = .ok r :=
      read_of_taken (.value (ofBytes_plain hplain) rfl (read_of_pending hput h))
    exact read_of_taken (.long (ofBytes_flag i.opt) hfind (meet_awaiting hv) hvalue)
  | alone hv =>
    exact read_of_taken (.long (ofBytes_flag i.opt) hfind (meet_alone hv htake) h)

end

/-! ### Items that a line holds -/

/-- Whether a line has been given an item. -/
def Line.has (l : Line) : Item → Prop
  | .ecmdRepo path => l.ecmdRepo = some path
  | .pdbgRepo path => l.pdbgRepo = some path
  | .parameter p text => l.value p = some text
  | .switch s => l.switch s = true

/-- A line that has been given these items, and nothing else. -/
def Line.Holds (l : Line) (is : List Item) : Prop := ∀ i, l.has i ↔ i ∈ is

/-- An item that can be given: no repository is at the empty path. -/
def Item.Fit : Item → Prop
  | ecmdRepo path => path ≠ []
  | pdbgRepo path => path ≠ []
  | _ => True

section
variable {l m r : Line} {i : Item} {is : List Item}

theorem Line.holds_nil : Line.Holds {} [] := by
  intro i
  cases i <;> simp [has]

/-- A line is all that it has been given. -/
theorem Line.eq_of_has (h : ∀ i, l.has i ↔ m.has i) : l = m := by
  have hecmd : l.ecmdRepo = m.ecmdRepo := Option.ext fun path => h (.ecmdRepo path)
  have hpdbg : l.pdbgRepo = m.pdbgRepo := Option.ext fun path => h (.pdbgRepo path)
  have hvalue : l.value = m.value := funext fun p => Option.ext fun text => h (.parameter p text)
  have hswitch : l.switch = m.switch := funext fun s => Bool.eq_iff_iff.mpr (h (.switch s))
  cases l
  cases m
  simp_all

/-- An item is taken whose option has nothing yet, and it is all that is new. -/
theorem take_of_free (hfree : ∀ j, j.opt = i.opt → ¬ l.has j) (hfit : i.Fit) :
    ∃ m, l.take i = .ok m ∧ ∀ j, m.has j ↔ j = i ∨ l.has j := by
  cases i with
  | ecmdRepo path =>
    have hnone : l.ecmdRepo = none :=
      Option.eq_none_iff_forall_ne_some.mpr fun old => hfree (.ecmdRepo old) rfl
    have hpath : path ≠ [] := hfit
    refine ⟨{ l with ecmdRepo := some path }, by simp [Line.take, Line.put, hnone, hpath], ?_⟩
    intro j
    cases j with
    | ecmdRepo other => simp [Line.has, hnone, eq_comm]
    | pdbgRepo | parameter | switch => simp [Line.has]
  | pdbgRepo path =>
    have hnone : l.pdbgRepo = none :=
      Option.eq_none_iff_forall_ne_some.mpr fun old => hfree (.pdbgRepo old) rfl
    have hpath : path ≠ [] := hfit
    refine ⟨{ l with pdbgRepo := some path }, by simp [Line.take, Line.put, hnone, hpath], ?_⟩
    intro j
    cases j with
    | pdbgRepo other => simp [Line.has, hnone, eq_comm]
    | ecmdRepo | parameter | switch => simp [Line.has]
  | parameter p text =>
    have hnone : l.value p = none :=
      Option.eq_none_iff_forall_ne_some.mpr fun old => hfree (.parameter p old) rfl
    refine ⟨{ l with value := fun q => if q = p then some text else l.value q },
      by simp [Line.take, Line.put, hnone, Utf8.decode?_encode], ?_⟩
    intro j
    cases j with
    | parameter q other =>
      by_cases hq : q = p
      · simp [Line.has, hq, hnone, eq_comm]
      · simp [Line.has, hq]
    | ecmdRepo | pdbgRepo | switch => simp [Line.has]
  | switch s =>
    have hoff : l.switch s = false := Bool.eq_false_iff.mpr (hfree (.switch s) rfl)
    refine ⟨{ l with switch := fun q => q = s || l.switch q },
      by simp [Line.take, Line.turnOn, hoff], ?_⟩
    intro j
    cases j <;> simp [Line.has]

/-- **One more item.** A line takes an item whose option is not among those that it
holds, and holds it then. -/
theorem exists_take (hl : l.Holds is) (hnew : i.opt ∉ is.map Item.opt) (hfit : i.Fit) :
    ∃ m, l.take i = .ok m ∧ m.Holds (i :: is) := by
  have hfree : ∀ j, j.opt = i.opt → ¬ l.has j := fun j hj hhas =>
    hnew (List.mem_map.mpr ⟨j, (hl j).mp hhas, hj⟩)
  obtain ⟨m, htake, hhas⟩ := take_of_free hfree hfit
  refine ⟨m, htake, fun j => ?_⟩
  rw [hhas, hl j, List.mem_cons]

/-- **All items.** Words that give items of different options are read, and the
line holds these items in the end. -/
theorem read_of_writtenAll {ws : List Bytes} (h : WrittenAll is ws) :
    ∀ {l : Line} {held : List Item}, l.Holds held →
      ((is ++ held).map Item.opt).Nodup → (∀ i ∈ is, i.Fit) →
      ∃ r, read l none ws = .ok r ∧ ∀ i, r.has i ↔ i ∈ is ++ held := by
  -- by induction on the items to come; the line holds those that were taken before
  induction h with
  | nil =>
    intro l held hl _ _
    exact ⟨l, rfl, hl⟩
  | @cons i is g ws hg _ ih =>
    intro l held hl hnodup hfit
    rw [List.cons_append, List.map_cons, List.nodup_cons, List.map_append, List.mem_append,
      not_or] at hnodup
    obtain ⟨⟨hrest, hheld⟩, hnodup⟩ := hnodup
    obtain ⟨m, htake, hm⟩ := exists_take hl hheld (hfit i List.mem_cons_self)
    have hperm : (is ++ i :: held).Perm (i :: (is ++ held)) := List.perm_middle
    have hnext : ((is ++ i :: held).map Item.opt).Nodup := by
      rw [(hperm.map Item.opt).nodup_iff, List.map_cons, List.nodup_cons, List.map_append,
        List.mem_append, not_or]
      exact ⟨⟨hrest, hheld⟩, hnodup⟩
    obtain ⟨r, hread, hr⟩ := ih hm hnext fun j hj => hfit j (List.mem_cons_of_mem i hj)
    refine ⟨r, read_of_written hg htake hread, fun j => ?_⟩
    rw [hr, hperm.mem_iff, List.cons_append]

end

/-! ### What is given for a build -/

/-- The items of what is given for a build. -/
def itemsOf (given : Given) : List Item :=
  [.ecmdRepo given.ecmdRoot, .pdbgRepo given.root]
  ++ Opt.parameters.filterMap (fun p => (given.value p).map (.parameter p))
  ++ (Opt.switches.filter given.switch).map .switch

/-- The line that gives just that. -/
def lineOf (given : Given) : Line :=
  ⟨some given.ecmdRoot, some given.root, given.value, given.switch⟩

theorem mem_parameters (p : Parameter) : p ∈ Opt.parameters := by
  cases p <;> decide

theorem mem_switches (s : Switch) : s ∈ Opt.switches := by
  cases s <;> decide

theorem holds_lineOf (given : Given) : (lineOf given).Holds (itemsOf given) := by
  intro i
  cases i with
  | ecmdRepo path =>
    show some given.ecmdRoot = some path ↔ _
    rw [Option.some_inj, eq_comm]
    simp [itemsOf]
  | pdbgRepo path =>
    show some given.root = some path ↔ _
    rw [Option.some_inj, eq_comm]
    simp [itemsOf]
  | parameter p text => simp [lineOf, itemsOf, Line.has, mem_parameters]
  | switch s => simp [lineOf, itemsOf, Line.has, mem_switches]

theorem opts_sublist (value : Parameter → Option String) (l : List Parameter) :
    ((l.filterMap fun p => (value p).map (Item.parameter p)).map Item.opt).Sublist
      (l.map Opt.parameter) := by
  induction l with
  | nil => exact List.Sublist.refl _
  | cons p rest ih =>
    rw [List.filterMap_cons, List.map_cons]
    cases value p with
    | none => exact ih.cons _
    | some text => exact ih.cons_cons _

theorem nodup_opts (given : Given) : ((itemsOf given).map Item.opt).Nodup := by
  have hall : (Opt.required ++ Opt.parameters.map Opt.parameter ++ Opt.switches.map Opt.switch).Nodup := by
    decide +kernel
  have hswitches : (((Opt.switches.filter given.switch).map Item.switch).map Item.opt).Sublist
      (Opt.switches.map Opt.switch) := by
    rw [List.map_map]
    exact List.filter_sublist.map _
  refine hall.sublist ?_
  rw [itemsOf, List.map_append, List.map_append]
  exact ((List.Sublist.refl _).append (opts_sublist given.value _)).append hswitches

theorem fit_of_mem {given : Given} (hroot : given.root ≠ []) (hecmd : given.ecmdRoot ≠ []) {i : Item}
    (hi : i ∈ itemsOf given) : i.Fit := by
  have hhas := (holds_lineOf given i).mpr hi
  cases i with
  | ecmdRepo path =>
    cases hhas
    exact hecmd
  | pdbgRepo path =>
    cases hhas
    exact hroot
  | parameter | switch => trivial

/-- **Whatever is given for a build can be given on a command line, in many ways.**
Let neither repository be at the empty path. Write each thing that is given as its
option, in any order: a value after an equals sign, whatever it holds, or in a word
of its own if it does not start with a dash or is a dash; a switch by its name.
These words are read as what is given, each value in its own place, and nothing is
read that is not given. -/
theorem parse_of_writtenAll {given : Given} {items : List Item} {words : List Bytes}
    (hroot : given.root ≠ []) (hecmd : given.ecmdRoot ≠ []) (hitems : items.Perm (itemsOf given))
    (hwords : WrittenAll items words) : parse words = .ok given := by
  have hnodup : ((items ++ []).map Item.opt).Nodup := by
    rw [List.append_nil, (hitems.map Item.opt).nodup_iff]
    exact nodup_opts given
  obtain ⟨l, hread, hl⟩ := read_of_writtenAll hwords Line.holds_nil hnodup fun i hi =>
    fit_of_mem hroot hecmd (hitems.mem_iff.mp hi)
  have hline : l = lineOf given := Line.eq_of_has fun i => by
    rw [hl, List.append_nil, hitems.mem_iff, holds_lineOf]
  rw [parse, hread, hline]
  rfl

/-- A build with everything given, no value twice. Some values look like options, hold
equals signs or are empty. -/
def oddBuild : Given where
  root := Utf8.encode "-r"
  ecmdRoot := Utf8.encode "-"
  value := fun
    | .installPath => some "/opt"
    | .host => some "--target"
    | .target => some "ppc64"
    | .cc => some "-O=2"
    | .ld => some "ld.gold"
    | .ar => some "=ar"
    | .sysroot => some "/"
    | .swig => some "swig4"
    | .perl => some "-"
    | .perlInc => some "-I/perl"
    | .python => some ""
    | .pythonInc => some "/python"
    | .python3 => some "a=b"
    | .python3Inc => some "--"
    | .doxygen => some "--help"
    | .outputRoot => some "out"
    | .extensions => some "one two"
    | .ecmdRepos => some "../more"
  switch := fun _ => true

/-- Its items, in an order of their own. -/
def oddItems : List Item :=
  [.parameter .python3 "a=b", .switch .withoutPython3, .pdbgRepo (Utf8.encode "-r"),
    .parameter .python "", .ecmdRepo (Utf8.encode "-"), .parameter .cc "-O=2",
    .parameter .host "--target", .switch .removeSim, .parameter .target "ppc64",
    .parameter .ld "ld.gold", .parameter .ar "=ar", .switch .buildVerbose,
    .parameter .sysroot "/", .parameter .swig "swig4", .parameter .perl "-",
    .parameter .perlInc "-I/perl", .switch .withoutPerl, .parameter .pythonInc "/python",
    .switch .withoutPython, .parameter .python3Inc "--", .switch .withoutSwig,
    .parameter .doxygen "--help", .parameter .outputRoot "out", .parameter .extensions "one two",
    .parameter .ecmdRepos "../more", .parameter .installPath "/opt"]

def oddWords : List Bytes :=
  ["--python3", "a=b", "--without-python3", "--pdbg-repo=-r", "--python", "", "--ecmd-repo", "-",
    "--cc=-O=2", "--host=--target", "--remove-sim", "--target", "ppc64", "--ld=ld.gold",
    "--ar==ar", "--build-verbose", "--sysroot", "/", "--swig=swig4", "--perl", "-",
    "--perlinc=-I/perl", "--without-perl", "--pythoninc", "/python", "--without-python",
    "--python3inc=--", "--without-swig", "--doxygen=--help", "--output-root", "out",
    "--extensions", "one two", "--ecmd-repos=../more", "--install-path=/opt"].map Utf8.encode

/-- Each option by its word. -/
theorem parse_of_oddWords : WrittenAll oddItems oddWords ∧ parse oddWords = .ok oddBuild := by
  have hwords : WrittenAll oddItems oddWords := by
    refine .cons (.apart rfl (by decide)) (.cons (.alone rfl) (.cons (.joined rfl) ?_))
    refine .cons (.apart rfl (by decide)) (.cons (.apart rfl (by decide)) (.cons (.joined rfl) ?_))
    refine .cons (.joined rfl) (.cons (.alone rfl) (.cons (.apart rfl (by decide)) ?_))
    refine .cons (.joined rfl) (.cons (.joined rfl) (.cons (.alone rfl) ?_))
    refine .cons (.apart rfl (by decide)) (.cons (.joined rfl) (.cons (.apart rfl (by decide)) ?_))
    refine .cons (.joined rfl) (.cons (.alone rfl) (.cons (.apart rfl (by decide)) ?_))
    refine .cons (.alone rfl) (.cons (.joined rfl) (.cons (.alone rfl) ?_))
    refine .cons (.joined rfl) (.cons (.apart rfl (by decide)) (.cons (.apart rfl (by decide)) ?_))
    exact .cons (.joined rfl) (.cons (.joined rfl) .nil)
  exact ⟨hwords, parse_of_writtenAll (by decide) (by decide) (by decide +kernel) hwords⟩

end CommandLine
end BuildSettings
