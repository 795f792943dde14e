/-
# Where the file's name takes it

The file is to be an entry of the repository. Its path is the repository's with
the name joined to it, and the name is any text that a variable holds. So the path
leads to the entry of that name in the repository exactly if the name is one that
an entry can have (`isEntry_iff`): not empty, without a slash, and not one of the
two dots. Any other name leads elsewhere. One that starts with a slash is a path of
its own, whatever the repository is.

Key definitions: `Pathname.IsEntryName`, `Pathname.IsEntry`.
Key theorems: `partsFrom_append`, `of_mem_partsFrom`, `isEntryName_of_mem_steps`,
`isEntry_iff`, `path_of_fileName`.
-/
import BuildSettings.Pathname.Route
import BuildSettings.Proofs.Decoding
import BuildSettings.Proofs.Values

namespace BuildSettings

namespace Pathname

/-! ### Parts -/

theorem partsFrom_append (a b : Bytes) (held : Bytes) :
    partsFrom held (a ++ slash :: b) = partsFrom held a ++ partsFrom [] b := by
  induction a generalizing held with
  | nil => rw [List.nil_append, partsFrom, partsFrom, if_pos rfl]
  | cons x a ih =>
    rw [List.cons_append, partsFrom, partsFrom]
    split
    · rw [ih, List.append_assoc]
    · exact ih _

theorem partsFrom_of_not_mem {bs : Bytes} (h : slash ∉ bs) (held : Bytes) :
    partsFrom held bs = part (held ++ bs) := by
  induction bs generalizing held with
  | nil => rw [partsFrom, List.append_nil]
  | cons b bs ih =>
    obtain ⟨hb, hbs⟩ := not_or.mp (mt List.mem_cons.mpr h)
    rw [partsFrom, if_neg (Ne.symm hb), ih hbs, List.append_assoc, List.singleton_append]

theorem mem_part {p held : Bytes} (h : p ∈ part held) : p = held ∧ p ≠ [] := by
  unfold part at h
  split at h
  · cases h
  · rename_i hne
    cases List.mem_singleton.mp h
    exact ⟨rfl, hne⟩

theorem of_mem_partsFrom {p bs held : Bytes} (hheld : slash ∉ held) (h : p ∈ partsFrom held bs) :
    p ≠ [] ∧ slash ∉ p := by
  induction bs generalizing held with
  | nil =>
    obtain ⟨rfl, hne⟩ := mem_part h
    exact ⟨hne, hheld⟩
  | cons b bs ih =>
    rw [partsFrom] at h
    split at h
    · rcases List.mem_append.mp h with h | h
      · obtain ⟨rfl, hne⟩ := mem_part h
        exact ⟨hne, hheld⟩
      · exact ih List.not_mem_nil h
    · rename_i hb
      refine ih (fun hmem => ?_) h
      rcases List.mem_append.mp hmem with hmem | hmem
      · exact hheld hmem
      · exact hb (List.mem_singleton.mp hmem).symm

/-! ### Entries -/

/-- What stands between a directory's path and the name of an entry. -/
def separator (root : Bytes) : Bytes :=
  if root.getLast? = some slash then [] else [slash]

theorem joinBytes_of_relative {root name : Bytes} (hroot : root ≠ [])
    (h : name.head? ≠ some slash) : joinBytes root name = root ++ separator root ++ name := by
  rw [joinBytes, join_of_relative h, separator]
  simp only [hroot, false_or]
  split
  · rw [List.append_nil]
  · rw [List.append_assoc, List.singleton_append]

/-- A name that an entry of a directory can have. -/
def IsEntryName (name : Name) : Prop :=
  name ≠ [] ∧ slash ∉ name ∧ name ≠ [0x2E] ∧ name ≠ [0x2E, 0x2E]

instance (name : Name) : Decidable (IsEntryName name) :=
  inferInstanceAs (Decidable (_ ∧ _ ∧ _ ∧ _))

/-- The path of the entry of a name, directly in a directory. -/
structure IsEntry (root : Bytes) (name : Name) (path : Bytes) : Prop where
  path_eq : path = root ++ separator root ++ name
  steps_eq : (Route.ofBytes path).steps = (Route.ofBytes root).steps ++ [.into name]
  slashed_eq : (Route.ofBytes path).slashed = false

/-- A name that a path goes into can be an entry's. -/
theorem isEntryName_of_mem_steps {name : Name} {path : Bytes}
    (h : .into name ∈ (Route.ofBytes path).steps) : IsEntryName name := by
  obtain ⟨p, hp, hstep⟩ := List.mem_map.mp h
  obtain ⟨hne, hslash⟩ := of_mem_partsFrom List.not_mem_nil hp
  unfold Step.ofPart at hstep
  split at hstep
  · cases hstep
  · split at hstep
    · cases hstep
    · rename_i hhere hup
      cases hstep
      exact ⟨hne, hslash, hhere, hup⟩

theorem parts_separated (root b : Bytes) :
    partsFrom [] (root ++ separator root ++ b) = partsFrom [] root ++ partsFrom [] b := by
  unfold separator
  split
  · rename_i hlast
    obtain ⟨front, rfl⟩ := List.getLast?_eq_some_iff.mp hlast
    have hend : partsFrom [] (front ++ [slash]) = partsFrom [] front := by
      rw [partsFrom_append]
      exact List.append_nil _
    rw [hend, List.append_nil, List.append_assoc, List.singleton_append, partsFrom_append]
  · rw [List.append_assoc, List.singleton_append, partsFrom_append]

theorem isEntry_of_isEntryName {name : Name} (h : IsEntryName name) (root : Bytes) :
    IsEntry root name (root ++ separator root ++ name) := by
  obtain ⟨hne, hslash, hhere, hup⟩ := h
  refine ⟨rfl, ?_, ?_⟩
  · have hparts : partsFrom [] name = [name] := by
      rw [partsFrom_of_not_mem hslash, List.nil_append, part, if_neg hne]
    have hstep : Step.ofPart name = .into name := by
      rw [Step.ofPart, if_neg hhere, if_neg hup]
    simp only [Route.ofBytes, parts_separated, hparts, List.map_append, List.map_cons, hstep,
      List.map_nil]
  · refine decide_eq_false fun hlast => hslash (List.mem_of_getLast? ?_)
    rwa [List.getLast?_append_of_ne_nil _ hne] at hlast

/-- **A joined path leads to an entry exactly if the name can be an entry's.** -/
theorem isEntry_iff {root : Bytes} (hroot : root ≠ []) (name : Name) :
    IsEntry root name (joinBytes root name) ↔ IsEntryName name := by
  constructor
  · intro h
    have hmem : .into name ∈ (Route.ofBytes (joinBytes root name)).steps := by
      rw [h.steps_eq]
      exact List.mem_append_right _ (List.mem_singleton_self _)
    exact isEntryName_of_mem_steps hmem
  · intro h
    have hrelative : name.head? ≠ some slash := fun hhead => h.2.1 (List.mem_of_head? hhead)
    rw [joinBytes_of_relative hroot hrelative]
    exact isEntry_of_isEntryName h root

theorem isEntryName_encode {name : String} : IsEntryName (Utf8.encode name) ↔
    name ≠ "" ∧ '/' ∉ name.toList ∧ name ≠ "." ∧ name ≠ ".." := by
  have hempty : Utf8.encode name = [] ↔ name = "" := Utf8.encode_inj (b := "")
  have hdot : Utf8.encode name = [0x2E] ↔ name = "." := Utf8.encode_inj (b := ".")
  have hdots : Utf8.encode name = [0x2E, 0x2E] ↔ name = ".." := Utf8.encode_inj (b := "..")
  have hslash : slash ∈ Utf8.encode name ↔ '/' ∈ name.toList := Utf8.mem_encode_iff (by decide)
  rw [IsEntryName, Ne, hempty, hslash, Ne, hdot, Ne, hdots]

end Pathname

namespace Request

open Pathname (slash separator IsEntry)

variable {r : Request} {c : Configuration}

/-- **Where a resolved file goes is up to the name.** The name is what its variable
holds, if that is set. The path is the entry of that name in the repository if and
only if the name is not empty, has no slash, and is not one of the dots. A name
that starts with a slash is the path itself, and the repository has no part in it;
any other follows the repository's path after one slash. -/
theorem path_of_fileName (h : r.resolve = .ok c) (hroot : r.given.root ≠ []) :
    c.root = r.given.root ∧
    c.fileName = (r.env.get? "MAKEFILE_CONFIG_NAME").getD r.fallbacks.fileName ∧
    (IsEntry c.root (Utf8.encode c.fileName) c.outputPath ↔
      c.fileName ≠ "" ∧ '/' ∉ c.fileName.toList ∧ c.fileName ≠ "." ∧ c.fileName ≠ "..") ∧
    ((Utf8.encode c.fileName).head? = some slash → c.outputPath = Utf8.encode c.fileName) ∧
    ((Utf8.encode c.fileName).head? ≠ some slash →
      c.outputPath = c.root ++ separator c.root ++ Utf8.encode c.fileName) := by
  obtain ⟨-, -, hc, -⟩ := of_resolve h
  have hne : c.root ≠ [] := hc ▸ hroot
  refine ⟨hc, fileName_of_resolve h, ?_, ?_, ?_⟩
  · rw [← Pathname.isEntryName_encode]
    exact Pathname.isEntry_iff hne _
  · intro habsolute
    exact Pathname.join_of_absolute habsolute c.root
  · intro hrelative
    exact Pathname.joinBytes_of_relative hne hrelative

theorem path_of_crossBuild : ∃ c, crossBuild.resolve = .ok c ∧
    IsEntry (Utf8.encode "/r") (Utf8.encode "makefile.config") c.outputPath := by
  obtain ⟨c, hc⟩ := crossBuild.resolve_of_known (by decide +kernel)
  obtain ⟨hroot, hname, hentry, -⟩ := path_of_fileName hc (by decide)
  have hdefault : (crossBuild.env.get? "MAKEFILE_CONFIG_NAME").getD crossBuild.fallbacks.fileName =
      "makefile.config" := by decide +kernel
  rw [hname, hdefault, hroot] at hentry
  exact ⟨c, hc, hentry.mpr (by decide)⟩

/-- A build whose file is renamed to a path of its own. -/
def renamedBuild : Request :=
  { crossBuild with env := .ofPairs [("MAKEFILE_CONFIG_NAME", "/e/settings")] }

/-- The file is sent to another directory. -/
theorem not_isEntry_of_renamedBuild : ∃ c, renamedBuild.resolve = .ok c ∧
    c.root = Utf8.encode "/r" ∧ c.outputPath = Utf8.encode "/e/settings" ∧
    ¬ IsEntry c.root (Utf8.encode c.fileName) c.outputPath := by
  obtain ⟨c, hc⟩ := renamedBuild.resolve_of_known (by decide +kernel)
  obtain ⟨-, -, hroot, -⟩ := of_resolve hc
  have hname : c.fileName = "/e/settings" := (fileName_of_resolve hc).trans (by decide +kernel)
  have hpath : c.outputPath = Utf8.encode "/e/settings" := by
    rw [Configuration.outputPath, hname]
    exact Pathname.join_of_absolute (by decide) c.root
  refine ⟨c, hc, hroot, hpath, ?_⟩
  rw [Configuration.outputPath, Pathname.isEntry_iff (hroot ▸ (by decide)), hname]
  decide

end Request
end BuildSettings
