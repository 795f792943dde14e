/-
# What a target's name decides

A target's name is the name of a family and whatever follows it, or the target is
refused with its first three characters (`exists_flags_iff`). The family is read
off the first three characters, and the word size off the whole name, so that the
two readings overlap. After `ppc` no word size can begin inside the family's name.
After `x86` one can: the 6 that ends it and a 4 that follows make 64
(`occurs_x86`). The options of all three tools are made of the one word flag, so
that in a resolved table those for the compiler and for shared libraries end in
those for the linker.

Key definition: `Flags.ofWord`.
Key theorems: `familyName_eq_iff`, `exists_flags_iff`, `occurs_x86`, `occurs_ppc`,
`options_of_target`.
-/
import BuildSettings.Proofs.Setting
import Mathlib.Data.List.Infix

namespace BuildSettings

/-! ### Families -/

/-- A name starts with these three characters if they are its first three. -/
theorem familyName_eq_iff {family arch : String} (h : family.toList.length = 3) :
    familyName arch = family ↔ ∃ rest, arch = family ++ rest := by
  constructor
  · rintro rfl
    refine ⟨String.ofList (arch.toList.drop 3), ?_⟩
    rw [familyName, ← String.toList_inj, String.toList_append, String.toList_ofList,
      String.toList_ofList, List.take_append_drop]
  · rintro ⟨rest, rfl⟩
    rw [familyName, String.toList_append, List.take_left' h, String.ofList_toList]

theorem length_of_known : ∀ family ∈ knownFamilies, family.toList.length = 3 := by
  decide

theorem familyName_mem_iff {arch : String} :
    familyName arch ∈ knownFamilies ↔ ∃ family ∈ knownFamilies, ∃ rest, arch = family ++ rest := by
  constructor
  · intro h
    exact ⟨_, h, (familyName_eq_iff (length_of_known _ h)).mp rfl⟩
  · rintro ⟨family, hfamily, hrest⟩
    rw [(familyName_eq_iff (length_of_known _ hfamily)).mpr hrest]
    exact hfamily

/-- There are options for the names that a known family begins, and for no
others. -/
theorem exists_flags_iff {arch : String} : (∃ flags, Flags.ofArch arch = .ok flags) ↔
    ∃ family ∈ knownFamilies, ∃ rest, arch = family ++ rest := by
  rw [← familyName_mem_iff]
  refine ⟨fun ⟨flags, hflags⟩ => ?_, ofArch_of_known⟩
  by_contra hunknown
  rw [ofArch_of_unknown hunknown] at hflags
  cases hflags

theorem Family.ofArch_append (family : Family) (rest : String) :
    Family.ofArch (family.name ++ rest) = .ok family := by
  have hname : familyName (family.name ++ rest) = family.name :=
    (familyName_eq_iff (by cases family <;> decide)).mpr ⟨rest, rfl⟩
  unfold Family.ofArch
  rw [hname]
  cases family <;> rfl

theorem Family.name_of_ofArch {arch : String} {family : Family}
    (h : Family.ofArch arch = .ok family) : familyName arch = family.name := by
  unfold Family.ofArch at h
  split at h
  · rename_i found hfound
    cases h
    have hname := List.find?_some hfound
    exact (of_decide_eq_true hname).symm
  · cases h

/-! ### Options -/

/-- The options with a word flag. -/
def Flags.ofWord (word : String) : Flags :=
  let linker := word ++ " -fPIC"
  ⟨" -Wall" ++ linker, linker, " -shared" ++ linker⟩

theorem Flags.ofArch_eq_ok_iff {arch : String} {flags : Flags} : Flags.ofArch arch = .ok flags ↔
    ∃ family, Family.ofArch arch = .ok family ∧ flags = Flags.ofWord (family.wordFlag arch) := by
  have hword : ∀ word, Flags.ofWord word =
      ⟨" -Wall" ++ word ++ " -fPIC", word ++ " -fPIC", " -shared" ++ word ++ " -fPIC"⟩ := by
    intro word
    rw [Flags.ofWord, String.append_assoc, String.append_assoc]
  unfold Flags.ofArch
  cases Family.ofArch arch with
  | error e =>
    constructor
    · intro h
      cases h
    · rintro ⟨family, h, -⟩
      cases h
  | ok family =>
    constructor
    · intro h
      cases h
      exact ⟨family, rfl, (hword _).symm⟩
    · rintro ⟨_, h, rfl⟩
      cases h
      rw [hword]
      rfl

theorem Flags.ofArch_append (family : Family) (rest : String) :
    Flags.ofArch (family.name ++ rest) =
      .ok (Flags.ofWord (family.wordFlag (family.name ++ rest))) :=
  Flags.ofArch_eq_ok_iff.mpr ⟨family, family.ofArch_append rest, rfl⟩

/-- The end of `x86` is the beginning of a word size. -/
theorem occurs_x86 (rest : String) : occurs ['6', '4'] ("x86" ++ rest).toList = true ↔
    ['6', '4'] <:+: rest.toList ∨ rest.toList.head? = some '4' := by
  have hname : ("x86" ++ rest).toList = 'x' :: '8' :: '6' :: rest.toList := String.toList_append
  have hfour : ['4'] <+: rest.toList ↔ rest.toList.head? = some '4' := by
    cases rest.toList <;> simp [eq_comm]
  rw [occurs_iff, hname]
  simp only [List.infix_cons_iff, List.cons_prefix_cons, hfour]
  simp [or_comm]

/-- The end of `ppc` is not. -/
theorem occurs_ppc (rest : String) :
    occurs ['6', '4'] ("ppc" ++ rest).toList = true ↔ ['6', '4'] <:+: rest.toList := by
  have hname : ("ppc" ++ rest).toList = 'p' :: 'p' :: 'c' :: rest.toList := String.toList_append
  rw [occurs_iff, hname]
  simp [List.infix_cons_iff, List.cons_prefix_cons]

theorem Family.wordFlag_x86 (rest : String) : Family.x86.wordFlag ("x86" ++ rest) =
    if ['6', '4'] <:+: rest.toList ∨ rest.toList.head? = some '4' then " -m64" else " -m32" :=
  if_congr (occurs_x86 rest) rfl rfl

theorem Family.wordFlag_ppc (rest : String) : Family.ppc.wordFlag ("ppc" ++ rest) =
    if ['6', '4'] <:+: rest.toList then " -m64" else " -m32" :=
  if_congr (occurs_ppc rest) rfl rfl

namespace Request

variable {r : Request} {c : Configuration}

theorem get?_target (h : r.resolve = .ok c) :
    c.settings.get? "TARGET_ARCH" = some r.targetArch.value := by
  have hget : c.settings.get? "TARGET_ARCH" = some (r.valueOf .target) :=
    get?_valueOf h (p := .target) rfl
  rwa [valueOf_target] at hget

theorem get?_options (h : r.resolve = .ok c) : ∃ family word,
    Family.ofArch r.targetArch.value = .ok family ∧
    Flags.ofArch r.targetArch.value = .ok (Flags.ofWord word) ∧
    c.settings.get? "TARGET_BARCH" = some family.name ∧
    c.settings.get? "LDFLAGS" = some (word ++ " -fPIC") ∧
    c.settings.get? "CFLAGS" = some ("-g -I." ++ (" -Wall" ++ (word ++ " -fPIC"))) ∧
    c.settings.get? "SLDFLAGS" = some (" -shared" ++ (word ++ " -fPIC")) := by
  obtain ⟨flags, hflags, -⟩ := of_resolve h
  obtain ⟨family, hfamily, rfl⟩ := Flags.ofArch_eq_ok_iff.mp hflags
  have hfound : Derived.flags? r.valueOf =
      some (Flags.ofWord (family.wordFlag r.targetArch.value)) := by
    rw [Derived.flags?, valueOf_target, hflags]
    rfl
  have option : ∀ {d : Derived} {value : String},
      d.value? r.root r.ecmdRoot r.valueOf = some value → c.settings.get? d.name = some value :=
    fun hvalue => (get?_derived h _).trans hvalue
  refine ⟨family, _, hfamily, hflags, option (d := .targetFamily) ?_,
    option (d := .linkerFlags) ?_, option (d := .compilerFlags) ?_,
    option (d := .sharedLinkerFlags) ?_⟩
  · rw [Derived.value?, valueOf_target, Family.name_of_ofArch hfamily]
  · rw [Derived.value?, hfound]
    rfl
  · rw [Derived.value?, hfound]
    rfl
  · rw [Derived.value?, hfound]
    rfl

/-- **A target's options follow from its name.** There are options for a name that
one of three families begins, whatever follows, and any other is refused with its
first three characters. All options are made of one word flag. After `ppc` the word
has 64 bits exactly if 64 stands in what follows; after `x86` also if a 4 comes
first; `arm` has no flag. In a resolved table the target's family is that of its
name, and the options of the compiler and of shared libraries are those of the
linker with a few words in front. -/
theorem options_of_target :
    (∀ arch, (∃ flags, Flags.ofArch arch = .ok flags) ↔
      ∃ family ∈ ["x86", "ppc", "arm"], ∃ rest, arch = family ++ rest) ∧
    (∀ arch, (¬ ∃ family ∈ ["x86", "ppc", "arm"], ∃ rest, arch = family ++ rest) →
      Flags.ofArch arch = .error (.unknownArch (String.ofList (arch.toList.take 3)))) ∧
    (∀ rest, Flags.ofArch ("x86" ++ rest) = .ok (Flags.ofWord
      (if ['6', '4'] <:+: rest.toList ∨ rest.toList.head? = some '4' then " -m64" else " -m32"))) ∧
    (∀ rest, Flags.ofArch ("ppc" ++ rest) = .ok (Flags.ofWord
      (if ['6', '4'] <:+: rest.toList then " -m64" else " -m32"))) ∧
    (∀ rest, Flags.ofArch ("arm" ++ rest) = .ok (Flags.ofWord "")) ∧
    ∀ (r : Request) (c : Configuration), r.resolve = .ok c → ∃ target family flags,
      c.settings.get? "TARGET_ARCH" = some target ∧ Family.ofArch target = .ok family ∧
      c.settings.get? "TARGET_BARCH" = some family.name ∧ Flags.ofArch target = .ok flags ∧
      c.settings.get? "LDFLAGS" = some flags.linker ∧
      c.settings.get? "CFLAGS" = some ("-g -I. -Wall" ++ flags.linker) ∧
      c.settings.get? "SLDFLAGS" = some (" -shared" ++ flags.linker) := by
  refine ⟨fun arch => exists_flags_iff, fun arch hunknown => ?_, fun rest => ?_, fun rest => ?_,
    fun rest => Flags.ofArch_append .arm rest, fun r c h => ?_⟩
  · exact ofArch_of_unknown (mt familyName_mem_iff.mp hunknown)
  · rw [← Family.wordFlag_x86]
    exact Flags.ofArch_append .x86 rest
  · rw [← Family.wordFlag_ppc]
    exact Flags.ofArch_append .ppc rest
  · obtain ⟨family, word, hfamily, hflags, hbarch, hlinker, hcompiler, hshared⟩ := get?_options h
    rw [← String.append_assoc] at hcompiler
    exact ⟨_, family, _, get?_target h, hfamily, hbarch, hflags, hlinker, hcompiler, hshared⟩

/-- A build for a name whose word size straddles the end of the family. -/
def straddlingBuild : Request :=
  { crossBuild with given := { crossBuild.given with
      value := fun
        | .target => some "x864"
        | _ => none } }

theorem options_of_straddlingBuild : ∃ c, straddlingBuild.resolve = .ok c ∧
    c.settings.get? "TARGET_BARCH" = some "x86" ∧
    c.settings.get? "LDFLAGS" = some " -m64 -fPIC" ∧
    c.settings.get? "CFLAGS" = some "-g -I. -Wall -m64 -fPIC" ∧
    Flags.ofArch "arm64" = .ok (Flags.ofWord "") ∧
    Flags.ofArch "i686" = .error (.unknownArch "i68") := by
  obtain ⟨c, hc⟩ := straddlingBuild.resolve_of_known (by decide +kernel)
  obtain ⟨-, hunknown, hx86, -, harm, htable⟩ := options_of_target
  obtain ⟨target, family, flags, htarget, hfamily, hbarch, hflags, hlinker, hcompiler, -⟩ :=
    htable _ c hc
  have heq : target = "x864" := Option.some_inj.mp (htarget.symm.trans (get?_parameter hc .target))
  rw [heq] at hfamily hflags
  have hx864 : Flags.ofArch "x864" = .ok (Flags.ofWord " -m64") := hx86 "4"
  obtain rfl : flags = Flags.ofWord " -m64" := Except.ok.inj (hflags.symm.trans hx864)
  obtain rfl : family = .x86 := Except.ok.inj (hfamily.symm.trans (Family.ofArch_append .x86 "4"))
  have hother : familyName "i686" ∉ knownFamilies := by decide
  exact ⟨c, hc, hbarch, hlinker, hcompiler, harm "64",
    hunknown "i686" (mt familyName_mem_iff.mpr hother)⟩

end Request
end BuildSettings
