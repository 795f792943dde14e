/-
# A path's text is joined as its bytes are

Settings are text, and the path of the file is bytes. The repository's path is
decoded before a directory is joined to it, while the file's name is joined before
the path is shown. Both ways lead to the same text, whatever the bytes are
(`lossy_joinBytes`). For joining looks at slashes only, and decoding moves none: a
text begins with a slash, ends in one and is empty exactly if its bytes are so
(`head?_lossy_iff`, `getLast?_lossy_iff`, `lossy_eq_nil_iff`), and no sequence that
is broken off reaches across a slash (`toList_lossy_append`).

Key theorems: `toList_lossy_append`, `lossy_joinBytes`, `text_of_paths`.
-/
import BuildSettings.Proofs.Decoding
import BuildSettings.Proofs.Setting

namespace BuildSettings

open Pathname (slash)

namespace Utf8

variable {bs : Bytes}

theorem toList_lossy (bs : Bytes) : (lossy bs).toList = (decode bs).map Piece.shown :=
  String.toList_ofList

/-- Nothing broken is shown as a slash. -/
theorem eq_of_shown_eq_slash {p : Piece} (h : p.shown = '/') : p = .char '/' := by
  cases p with
  | char c => exact congrArg Piece.char h
  | broken bytes =>
    have hmark : replacement ≠ '/' := by decide
    exact absurd h hmark

/-- At a slash a text is taken apart as its bytes are. -/
theorem toList_lossy_append (as bs : Bytes) :
    (lossy (as ++ slash :: bs)).toList = (lossy as).toList ++ '/' :: (lossy bs).toList := by
  have hdecode : decode (as ++ slash :: bs) = decode as ++ .char '/' :: decode bs :=
    decode_append_of_ascii as (by decide) bs
  simp only [toList_lossy, hdecode, List.map_append, List.map_cons]
  rfl

theorem lossy_eq_nil_iff : (lossy bs).toList = [] ↔ bs = [] := by
  rw [toList_lossy, List.map_eq_nil_iff]
  constructor
  · intro h
    rw [← spelled_decode bs, h]
    rfl
  · rintro rfl
    rfl

theorem head?_lossy_iff : (lossy bs).toList.head? = some '/' ↔ bs.head? = some slash := by
  constructor
  · intro h
    rw [toList_lossy, List.head?_map, Option.map_eq_some_iff] at h
    obtain ⟨p, hp, hshown⟩ := h
    obtain ⟨rest, hrest⟩ := List.head?_eq_some_iff.mp hp
    rw [← spelled_decode bs, hrest, eq_of_shown_eq_slash hshown]
    rfl
  · intro h
    obtain ⟨rest, rfl⟩ := List.head?_eq_some_iff.mp h
    have hfirst := toList_lossy_append [] rest
    rw [List.nil_append] at hfirst
    rw [hfirst]
    rfl

theorem getLast?_lossy_iff : (lossy bs).toList.getLast? = some '/' ↔ bs.getLast? = some slash := by
  constructor
  · intro h
    rw [toList_lossy, List.getLast?_map, Option.map_eq_some_iff] at h
    obtain ⟨p, hp, hshown⟩ := h
    obtain ⟨front, hfront⟩ := List.getLast?_eq_some_iff.mp hp
    have hslash : spelled [p] = [slash] := by
      rw [eq_of_shown_eq_slash hshown]
      rfl
    rw [← spelled_decode bs, hfront, spelled_append, hslash]
    exact List.getLast?_concat
  · intro h
    obtain ⟨front, rfl⟩ := List.getLast?_eq_some_iff.mp h
    rw [toList_lossy_append]
    exact List.getLast?_concat

theorem encode_lossy_iff : encode (lossy bs) = bs ↔ (decode? bs).isSome := by
  rw [Option.isSome_iff_exists]
  constructor
  · intro h
    exact ⟨lossy bs, decode?_eq_some_iff.mpr h.symm⟩
  · rintro ⟨text, htext⟩
    rw [decode?_eq_some_iff.mp htext, lossy_encode]

end Utf8

namespace Pathname

/-- Where nothing need be put between two paths, nothing need be between their
texts. -/
theorem ends_lossy_iff {base : Bytes} :
    ((Utf8.lossy base).toList = [] ∨ (Utf8.lossy base).toList.getLast? = some '/') ↔
      (base = [] ∨ base.getLast? = some slash) :=
  or_congr Utf8.lossy_eq_nil_iff Utf8.getLast?_lossy_iff

/-- **The text of a joined path is the joined text.** -/
theorem lossy_joinBytes (base segment : Bytes) :
    Utf8.lossy (joinBytes base segment) = joinText (Utf8.lossy base) (Utf8.lossy segment) := by
  rw [← String.toList_inj, joinText, String.toList_ofList, joinBytes]
  by_cases habsolute : segment.head? = some slash
  · rw [join_of_absolute habsolute, join_of_absolute (Utf8.head?_lossy_iff.mpr habsolute)]
  · rw [join_of_relative habsolute, join_of_relative (mt Utf8.head?_lossy_iff.mp habsolute)]
    by_cases hends : base = [] ∨ base.getLast? = some slash
    · rw [if_pos hends, if_pos (ends_lossy_iff.mpr hends)]
      rcases hends with rfl | hlast
      · rfl
      · obtain ⟨front, rfl⟩ := List.getLast?_eq_some_iff.mp hlast
        rw [List.append_assoc, List.singleton_append, Utf8.toList_lossy_append,
          Utf8.toList_lossy_append, List.append_assoc]
        rfl
    · rw [if_neg hends, if_neg (mt ends_lossy_iff.mp hends), Utf8.toList_lossy_append]

theorem lossy_joinBytes_encode (base : Bytes) (name : String) :
    Utf8.lossy (joinBytes base (Utf8.encode name)) = joinText (Utf8.lossy base) name := by
  rw [lossy_joinBytes, Utf8.lossy_encode]

end Pathname

namespace Request

open Pathname (joinBytes joinText)

variable {r : Request} {c : Configuration}

theorem get?_of_unnamed (h : r.resolve = .ok c) {p : Parameter} (hgiven : r.given.value p = none)
    (hunset : r.env.get? p.setting = none) : c.settings.get? p.setting = r.standIn p := by
  rw [get?_parameter h, named, hgiven, hunset]
  rfl

/-- **Text and bytes of paths agree.** The repository's setting is the text of its
path, with a mark for each broken run. The bytes can be told from it exactly if
they are UTF-8 throughout; the configuration keeps them as they are. The path of
the file is shown as the file's name joined to that text. The places for output
and installation, where nobody names them, are the texts of directories in the
repository. -/
theorem text_of_paths (h : r.resolve = .ok c) :
    c.root = r.given.root ∧
    (∃ root, c.settings.get? "PDBG_ROOT" = some root ∧ root = Utf8.lossy r.given.root ∧
      (Utf8.encode root = r.given.root ↔ (Utf8.decode? r.given.root).isSome) ∧
      Utf8.lossy c.outputPath = joinText root c.fileName) ∧
    (r.given.value .outputRoot = none → r.env.get? "OUTPUT_ROOT" = none →
      c.settings.get? "OUTPUT_ROOT" =
        some (Utf8.lossy (joinBytes r.given.root (Utf8.encode "build")))) ∧
    (r.given.value .installPath = none → r.env.get? "INSTALL_PATH" = none →
      c.settings.get? "INSTALL_PATH" =
        some (Utf8.lossy (joinBytes r.given.root (Utf8.encode "install")))) := by
  obtain ⟨-, -, hroot, -⟩ := of_resolve h
  refine ⟨hroot, ⟨_, get?_derived h .root, rfl, Utf8.encode_lossy_iff, ?_⟩, ?_, ?_⟩
  · rw [Configuration.outputPath, hroot]
    exact Pathname.lossy_joinBytes_encode r.given.root c.fileName
  · intro hgiven hunset
    rw [Pathname.lossy_joinBytes_encode]
    exact get?_of_unnamed h (p := .outputRoot) hgiven hunset
  · intro hgiven hunset
    rw [Pathname.lossy_joinBytes_encode]
    exact get?_of_unnamed h (p := .installPath) hgiven hunset

/-- A build whose repository's path breaks off inside a character. -/
def brokenRootBuild : Request :=
  { crossBuild with given := { crossBuild.given with root := [0x2F, 0xE2, 0x82] } }

/-- What is broken off does not reach across the slash that is put after it. -/
theorem text_of_brokenRootBuild : ∃ c, brokenRootBuild.resolve = .ok c ∧
    c.root = [0x2F, 0xE2, 0x82] ∧ c.settings.get? "PDBG_ROOT" = some "/\ufffd" ∧
    Utf8.lossy c.outputPath = "/\ufffd/makefile.config" ∧
    Utf8.encode "/\ufffd" ≠ brokenRootBuild.given.root ∧
    c.settings.get? "OUTPUT_ROOT" = some "/\ufffd/build" := by
  obtain ⟨c, hc⟩ := brokenRootBuild.resolve_of_known (by decide +kernel)
  obtain ⟨hroot, ⟨root, hget, rfl, htext, hpath⟩, houtput, -⟩ := text_of_paths hc
  have hname : c.fileName = "makefile.config" := (fileName_of_resolve hc).trans (by decide +kernel)
  have hshown : Utf8.lossy brokenRootBuild.given.root = "/\ufffd" := by decide +kernel
  rw [hname, hshown] at hpath
  rw [hshown] at hget htext
  have hbroken : ¬ (Utf8.decode? brokenRootBuild.given.root).isSome := by decide +kernel
  exact ⟨c, hc, hroot, hget, hpath.trans (by decide +kernel), mt htext.mp hbroken,
    (houtput rfl (by decide +kernel)).trans (by decide +kernel)⟩

end Request
end BuildSettings
