/-
# Where the output of a build goes

The places for output are joined to the output's root as text. None of the names
that are joined starts with a slash, so that joining puts at most one slash between
(`joinText_of_relative`) and the root stays as it is, in front of every place: also
where it is empty or ends in a slash, and whatever the architecture's name holds.
A place is therefore absolute exactly if the root is (`goesOn_joined`). A run takes
the repository's own path, which is absolute, and where nobody names another place
all of them begin with it.

Key definitions: `Pathname.gap`, `Pathname.IsAbsolute`, `Pathname.GoesOn`.
Key theorems: `joinText_of_relative`, `goesOn_joined`, `goesOn_outputRoot`,
`places_of_resolve`.
-/
import BuildSettings.Proofs.Joining
import BuildSettings.Proofs.Run

namespace BuildSettings

namespace Pathname

/-- What is put between a path and a name that is joined to it. -/
def gap (base : String) : String :=
  if base = "" ∨ base.toList.getLast? = some '/' then "" else "/"

/-- Whether a path starts at the root. -/
def IsAbsolute (path : String) : Prop := path.toList.head? = some '/'

instance (path : String) : Decidable (IsAbsolute path) := inferInstanceAs (Decidable (_ = _))

/-- A path that goes on from another: the other is its beginning, and it is
absolute exactly if the other is. -/
structure GoesOn (base path : String) : Prop where
  begins : base.toList <+: path.toList
  absolute_iff : IsAbsolute path ↔ IsAbsolute base

variable {base segment : String}

theorem joinText_of_relative (h : ¬ IsAbsolute segment) (base : String) :
    joinText base segment = base ++ gap base ++ segment := by
  have hempty : base.toList = [] ↔ base = "" := String.toList_eq_nil_iff
  rw [← String.toList_inj, joinText, String.toList_ofList, join_of_relative h, gap]
  simp only [String.toList_append, hempty, List.append_assoc]
  split <;> rfl

/-- A path that is put after another goes on from it. -/
theorem goesOn_joined (h : ¬ IsAbsolute segment) (base : String) :
    GoesOn base (base ++ gap base ++ segment) := by
  constructor
  · rw [String.append_assoc, String.toList_append]
    exact List.prefix_append _ _
  · by_cases hbase : base = ""
    · have hgap : gap base = "" := if_pos (.inl hbase)
      rw [hgap, hbase, String.empty_append, String.empty_append]
      exact iff_of_false h (by decide)
    · have hne : base.toList ≠ [] := mt String.toList_eq_nil_iff.mp hbase
      rw [String.append_assoc, IsAbsolute, String.toList_append, List.head?_append_of_ne_nil _ hne]
      rfl

theorem GoesOn.trans {a b c : String} (h : GoesOn a b) (h' : GoesOn b c) : GoesOn a c :=
  ⟨h.begins.trans h'.begins, h'.absolute_iff.trans h.absolute_iff⟩

theorem not_isAbsolute_append {name : String} (h : name ≠ "") (hname : ¬ IsAbsolute name)
    (rest : String) : ¬ IsAbsolute (name ++ rest) := by
  have hne : name.toList ≠ [] := mt String.toList_eq_nil_iff.mp h
  rw [IsAbsolute, String.toList_append, List.head?_append_of_ne_nil _ hne]
  exact hname

theorem isAbsolute_lossy {path : Bytes} (h : path.head? = some slash) :
    IsAbsolute (Utf8.lossy path) :=
  Utf8.head?_lossy_iff.mpr h

end Pathname

open Pathname (Location gap IsAbsolute GoesOn joinText)

namespace Derived

variable {of : Parameter → String}

theorem products_eq :
    products of = of .outputRoot ++ gap (of .outputRoot) ++ ("out_" ++ of .target) := by
  have hname : ¬ IsAbsolute ("out_" ++ of .target) :=
    Pathname.not_isAbsolute_append (by decide) (by decide) _
  rw [products, Pathname.joinText_of_relative hname]

theorem objects_eq :
    objects of = of .outputRoot ++ gap (of .outputRoot) ++ ("obj_" ++ of .target ++ "/") := by
  have hname : ¬ IsAbsolute ("obj_" ++ of .target) :=
    Pathname.not_isAbsolute_append (by decide) (by decide) _
  rw [objects, Pathname.joinText_of_relative hname, String.append_assoc]

/-- The products go on from the output's root, whatever the target is called. -/
theorem goesOn_products : GoesOn (of .outputRoot) (products of) := by
  rw [products_eq]
  refine Pathname.goesOn_joined ?_ _
  exact Pathname.not_isAbsolute_append (by decide) (by decide) _

theorem goesOn_objects : GoesOn (of .outputRoot) (objects of) := by
  rw [objects_eq]
  refine Pathname.goesOn_joined ?_ _
  rw [String.append_assoc]
  exact Pathname.not_isAbsolute_append (by decide) (by decide) _

/-- The slash that make's rules need. -/
theorem getLast?_objects : (objects of).toList.getLast? = some '/' := by
  rw [objects, String.toList_append]
  exact List.getLast?_concat

theorem goesOn_joinText {segment : String} (h : ¬ IsAbsolute segment) :
    GoesOn (of .outputRoot) (joinText (products of) segment) := by
  rw [Pathname.joinText_of_relative h]
  exact goesOn_products.trans (Pathname.goesOn_joined h _)

/-- The places for output. -/
def places : List Derived := [objectPath, outputPath, programPath, libraryPath]

/-- **Every place for output goes on from the output's root.** -/
theorem goesOn_outputRoot (rootText ecmdText : String) {d : Derived} (hd : d ∈ places) :
    ∃ path, d.value? rootText ecmdText of = some path ∧ GoesOn (of .outputRoot) path := by
  have hbin : ¬ IsAbsolute "bin" := by decide
  have hlib : ¬ IsAbsolute "lib" := by decide
  simp only [places, List.mem_cons, List.not_mem_nil, or_false] at hd
  rcases hd with rfl | rfl | rfl | rfl
  · exact ⟨_, rfl, goesOn_objects⟩
  · exact ⟨_, rfl, goesOn_products⟩
  · exact ⟨_, rfl, goesOn_joinText hbin⟩
  · exact ⟨_, rfl, goesOn_joinText hlib⟩

end Derived

namespace Request

variable {r : Request} {c : Configuration}

theorem get?_place (h : r.resolve = .ok c) {name : String}
    (hname : name ∈ Derived.places.map Derived.name) :
    ∃ path, c.settings.get? name = some path ∧ GoesOn (r.valueOf .outputRoot) path := by
  obtain ⟨d, hd, rfl⟩ := List.mem_map.mp hname
  rw [get?_derived h]
  exact Derived.goesOn_outputRoot r.root r.ecmdRoot hd

/-- What stands for a place in the repository is joined to the repository's text. -/
theorem valueOf_of_unnamed {p : Parameter} {segment : String} (hsegment : ¬ IsAbsolute segment)
    (hstand : r.standIn p = some (joinText r.root segment)) (hgiven : r.given.value p = none)
    (hunset : r.env.get? p.setting = none) : r.valueOf p = r.root ++ gap r.root ++ segment := by
  rw [valueOf, named, hgiven, hunset, hstand, Pathname.joinText_of_relative hsegment]
  rfl

/-- Where nobody names the output's root, the places for output go on from the
repository. -/
theorem get?_place_of_unnamed (h : r.resolve = .ok c)
    (hroot : GoesOn r.root (r.valueOf .outputRoot)) {name : String}
    (hname : name ∈ "OUTPUT_ROOT" :: Derived.places.map Derived.name) :
    ∃ path, c.settings.get? name = some path ∧ GoesOn r.root path := by
  rcases List.mem_cons.mp hname with rfl | hname
  · exact ⟨_, get?_valueOf h (p := .outputRoot) rfl, hroot⟩
  · obtain ⟨path, hpath, hgoes⟩ := get?_place h hname
    exact ⟨path, hpath, hroot.trans hgoes⟩

/-- **The places of a build follow from three texts:** the repository's, the
output's root, and the target. Each place is the root, at most one slash, and names
after it; so it has the root in front, whatever the target is called, and is
absolute exactly if the root is. In a run the repository's text is that of its
canonical path. Where nobody says where output goes, every place for it is
absolute and begins with this text, and so does the place for installation where
nobody names that. -/
theorem places_of_resolve (h : r.resolve = .ok c) :
    ∃ root outputRoot target products objects : String,
      c.settings.get? "PDBG_ROOT" = some root ∧
      c.settings.get? "OUTPUT_ROOT" = some outputRoot ∧
      c.settings.get? "TARGET_ARCH" = some target ∧
      (c.settings.get? "OUTPATH" = some products ∧
        products = outputRoot ++ gap outputRoot ++ ("out_" ++ target)) ∧
      (c.settings.get? "OBJPATH" = some objects ∧
        objects = outputRoot ++ gap outputRoot ++ ("obj_" ++ target ++ "/")) ∧
      c.settings.get? "GPATH" = some (" " ++ objects) ∧
      c.settings.get? "OUTBIN" = some (products ++ gap products ++ "bin") ∧
      c.settings.get? "OUTLIB" = some (products ++ gap products ++ "lib") ∧
      (r.given.value .outputRoot = none → r.env.get? "OUTPUT_ROOT" = none →
        outputRoot = root ++ gap root ++ "build") ∧
      (r.given.value .installPath = none → r.env.get? "INSTALL_PATH" = none →
        c.settings.get? "INSTALL_PATH" = some (root ++ gap root ++ "install")) ∧
      objects.toList.getLast? = some '/' ∧
      (∀ name ∈ ["OBJPATH", "OUTPATH", "OUTBIN", "OUTLIB"],
        ∃ path, c.settings.get? name = some path ∧ GoesOn outputRoot path) ∧
      ∀ (s : Command.Session) (words : List Bytes) (given : Given) (place : Location),
        CommandLine.parse words = .ok given → s.tree.canonical s.cwd given.root = .ok place →
        r = Command.requestAt s given place →
        root = Utf8.lossy place.path ∧
        (given.value .outputRoot = none →
          (Environment.ofBytes s.vars).get? "OUTPUT_ROOT" = none →
          ∀ name ∈ ["OUTPUT_ROOT", "OBJPATH", "OUTPATH", "OUTBIN", "OUTLIB"],
            ∃ path, c.settings.get? name = some path ∧ IsAbsolute path ∧
              root.toList <+: path.toList) ∧
        (given.value .installPath = none →
          (Environment.ofBytes s.vars).get? "INSTALL_PATH" = none →
          ∃ path, c.settings.get? "INSTALL_PATH" = some path ∧ IsAbsolute path ∧
            root.toList <+: path.toList) := by
  have hbuild : ¬ IsAbsolute "build" := by decide
  have hinstall : ¬ IsAbsolute "install" := by decide
  have hbin : ¬ IsAbsolute "bin" := by decide
  have hlib : ¬ IsAbsolute "lib" := by decide
  refine ⟨r.root, r.valueOf .outputRoot, r.valueOf .target, Derived.products r.valueOf,
    Derived.objects r.valueOf, get?_derived h .root, get?_valueOf h (p := .outputRoot) rfl,
    get?_valueOf h (p := .target) rfl, ⟨get?_derived h .outputPath, Derived.products_eq⟩,
    ⟨get?_derived h .objectPath, Derived.objects_eq⟩, get?_derived h .searchPath, ?_, ?_, ?_, ?_,
    Derived.getLast?_objects, fun name hname => get?_place h hname, ?_⟩
  · rw [← Pathname.joinText_of_relative hbin]
    exact get?_derived h .programPath
  · rw [← Pathname.joinText_of_relative hlib]
    exact get?_derived h .libraryPath
  · exact valueOf_of_unnamed hbuild rfl
  · intro hgiven hunset
    rw [← valueOf_of_unnamed (p := .installPath) hinstall rfl hgiven hunset]
    exact get?_valueOf h (p := .installPath) rfl
  · rintro s words given place - - rfl
    have habsolute : IsAbsolute (Utf8.lossy place.path) :=
      Pathname.isAbsolute_lossy (Pathname.head?_path place)
    refine ⟨rfl, fun hgiven hunset name hname => ?_, fun hgiven hunset => ?_⟩
    · have hroot : GoesOn (Command.requestAt s given place).root
          ((Command.requestAt s given place).valueOf .outputRoot) := by
        rw [valueOf_of_unnamed hbuild rfl hgiven hunset]
        exact Pathname.goesOn_joined hbuild _
      obtain ⟨path, hpath, hgoes⟩ := get?_place_of_unnamed h hroot hname
      exact ⟨path, hpath, hgoes.absolute_iff.mpr habsolute, hgoes.begins⟩
    · have hgoes := Pathname.goesOn_joined hinstall (Command.requestAt s given place).root
      rw [← valueOf_of_unnamed (p := .installPath) hinstall rfl hgiven hunset] at hgoes
      exact ⟨_, get?_valueOf h (p := .installPath) rfl, hgoes.absolute_iff.mpr habsolute,
        hgoes.begins⟩

/-- A build of the whole disk, for a target whose name ends in a slash. -/
def slashedWords : List Bytes :=
  ["--pdbg-repo=/", "--ecmd-repo=/e", "--target=ppc/64/"].map Utf8.encode

theorem parse_slashedWords : ∃ given, CommandLine.parse slashedWords = .ok given ∧
    given.root = [0x2F] ∧ given.value .target = some "ppc/64/" ∧
    given.value .outputRoot = none ∧ given.value .installPath = none := by
  have hwords : (CommandLine.parse slashedWords).toOption.map (fun given =>
      (given.root, given.value .target, given.value .outputRoot, given.value .installPath)) =
      some ([0x2F], some "ppc/64/", none, none) := by
    decide +kernel
  cases hparse : CommandLine.parse slashedWords with
  | error stop => rw [hparse] at hwords; cases hwords
  | ok given =>
    rw [hparse] at hwords
    exact ⟨given, rfl, by simpa [Except.toOption] using hwords⟩

/-- The slash at the end of the target's name is not doubled before what follows
it. -/
theorem places_of_slashedWords : ∃ given c,
    CommandLine.parse slashedWords = .ok given ∧
    FileTree.empty.canonical [] given.root = .ok [] ∧
    (Command.requestAt ⟨.empty, [], []⟩ given []).resolve = .ok c ∧
    c.settings.get? "OUTPUT_ROOT" = some "/build" ∧
    c.settings.get? "OBJPATH" = some "/build/obj_ppc/64//" ∧
    c.settings.get? "OUTBIN" = some "/build/out_ppc/64/bin" ∧
    ∃ path, c.settings.get? "INSTALL_PATH" = some path ∧ IsAbsolute path := by
  obtain ⟨given, hparse, hroot, htarget, houtput, hinstall⟩ := parse_slashedWords
  have hplace : FileTree.empty.canonical [] given.root = .ok [] := by
    rw [hroot]
    decide +kernel
  have hnamed : (Command.requestAt ⟨.empty, [], []⟩ given []).named .target = some "ppc/64/" := by
    show (given.value .target).or _ = _
    rw [htarget]
    rfl
  have hknown : familyName (Command.requestAt ⟨.empty, [], []⟩ given []).askedTarget ∈
      knownFamilies := by
    rw [askedTarget, hnamed]
    show familyName "ppc/64/" ∈ knownFamilies
    decide +kernel
  obtain ⟨c, hc⟩ := resolve_of_known _ hknown
  obtain ⟨root, outputRoot, target, products, objects, -, hgetRoot, hgetTarget, ⟨-, hproducts⟩,
    ⟨hobjects, hobjects_eq⟩, -, hbin, -, hunnamed, -, -, -, hrun⟩ := places_of_resolve hc
  obtain ⟨hshown, -, hinstalled⟩ := hrun _ slashedWords given [] hparse hplace rfl
  obtain ⟨path, hpath, habsolute, -⟩ := hinstalled hinstall rfl
  have heq : target = "ppc/64/" := by
    have hget := get?_parameter hc .target
    rw [hnamed] at hget
    exact Option.some_inj.mp (hgetTarget.symm.trans hget)
  have houtputRoot : outputRoot = "/build" := by
    rw [hunnamed houtput rfl, hshown]
    decide +kernel
  rw [houtputRoot] at hgetRoot
  rw [hobjects_eq, houtputRoot, heq] at hobjects
  rw [hproducts, houtputRoot, heq] at hbin
  exact ⟨given, c, hparse, hplace, hc, hgetRoot, hobjects.trans (by decide +kernel),
    hbin.trans (by decide +kernel), path, hpath, habsolute⟩

end Request
end BuildSettings
