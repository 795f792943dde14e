/-
# A process's variables as bytes and as text

A process is given its variables as bytes. A name is asked for by its UTF-8 form,
and a value is shown with each broken run replaced. It comes to the same to keep
only the variables whose names are text, to replace the broken runs of their
values, and to look names up among texts (`get?_ofBytes`). A variable is set
whatever bytes its value holds, also none (`contains_ofBytes_iff`), and one whose
name is no text is never asked for. So a request resolves alike over both
(`bytes_read_as_text`).

Key definitions: `Environment.IsName`, `Environment.readable`.
Key theorems: `value?_readable`, `get?_ofBytes`, `contains_ofBytes_iff`,
`bytes_read_as_text`.
-/
import BuildSettings.Proofs.Decoding
import BuildSettings.Proofs.Influence
import Mathlib.Data.List.Induction

namespace BuildSettings

namespace Environment

/-- A name that a process can have a variable by: not empty, and without an
equals sign or a NUL. -/
def IsName (name : Bytes) : Prop := name ≠ [] ∧ 0x3D ∉ name ∧ 0 ∉ name

/-- The variables whose names are text, with the texts of their values. -/
def readable (pairs : List (Bytes × Bytes)) : List (String × String) :=
  pairs.filterMap fun p => (Utf8.decode? p.1).map fun name => (name, Utf8.lossy p.2)

theorem readable_append (a b : List (Bytes × Bytes)) :
    readable (a ++ b) = readable a ++ readable b :=
  List.filterMap_append

theorem readable_filter (pairs : List (Bytes × Bytes)) :
    readable (pairs.filter fun p => (Utf8.decode? p.1).isSome) = readable pairs := by
  unfold readable
  rw [List.filterMap_filter]
  refine List.filterMap_congr fun p _ => ?_
  cases Utf8.decode? p.1 <;> rfl

theorem setAll_append (env : Environment) (a b : List (String × String)) :
    env.setAll (a ++ b) = (env.setAll a).setAll b :=
  List.foldl_append

theorem get?_ofPairs_concat (pairs : List (String × String)) (p : String × String) (name : String) :
    (ofPairs (pairs ++ [p])).get? name = if name = p.1 then some p.2 else (ofPairs pairs).get? name := by
  rw [ofPairs, setAll_append]
  exact get?_set ..

theorem get?_readable_concat (pairs : List (Bytes × Bytes)) (p : Bytes × Bytes) (name : String) :
    (ofPairs (readable (pairs ++ [p]))).get? name =
      if p.1 = Utf8.encode name then some (Utf8.lossy p.2)
      else (ofPairs (readable pairs)).get? name := by
  rw [readable_append]
  cases htext : Utf8.decode? p.1 with
  | none =>
    have hname : p.1 ≠ Utf8.encode name := fun h => by
      rw [h, Utf8.decode?_encode] at htext
      cases htext
    rw [if_neg hname]
    simp [readable, htext]
  | some text =>
    have hsingle : readable [p] = [(text, Utf8.lossy p.2)] := by simp [readable, htext]
    rw [hsingle, get?_ofPairs_concat, Utf8.decode?_eq_some_iff.mp htext]
    simp only [Utf8.encode_inj, eq_comm]

/-- An equals sign is one byte, and no other character has it. -/
theorem equals_mem_encode {name : String} : 0x3D ∈ Utf8.encode name ↔ '=' ∈ name.toList :=
  Utf8.mem_encode_iff (by decide)

/-- What a block of variables holds for a name, shown as text, is what the texts
hold. -/
theorem value?_readable {pairs : List (Bytes × Bytes)} (h : ∀ p ∈ pairs, 0x3D ∉ p.1)
    {name : String} (hname : '=' ∉ name.toList) :
    ((Block.ofPairs pairs).value? (Utf8.encode name)).map Utf8.lossy =
      (ofPairs (readable pairs)).get? name := by
  induction pairs using List.reverseRecOn with
  | nil => rfl
  | append_singleton pairs p ih =>
    have hpairs : ∀ q ∈ pairs, 0x3D ∉ q.1 := fun q hq => h q (List.mem_append_left _ hq)
    have hp : 0x3D ∉ p.1 := h p (List.mem_append_right _ (List.mem_singleton_self p))
    rw [get?_readable_concat, Block.value?_ofPairs_concat p.2 hpairs hp (mt equals_mem_encode.mp hname),
      ← ih hpairs]
    split <;> rfl

theorem contains_ofPairs_iff {pairs : List (String × String)} {name : String} :
    (ofPairs pairs).contains name = true ↔ ∃ value, (name, value) ∈ pairs := by
  induction pairs using List.reverseRecOn with
  | nil => simp [contains, ofPairs, setAll, empty]
  | append_singleton pairs p ih =>
    rw [contains, get?_ofPairs_concat]
    by_cases hp : name = p.1
    · rw [if_pos hp]
      exact ⟨fun _ => ⟨p.2, by simp [hp]⟩, fun _ => rfl⟩
    · rw [if_neg hp, ← contains, ih]
      simp [Prod.ext_iff, hp]

theorem mem_readable_iff {pairs : List (Bytes × Bytes)} {name value : String} :
    (name, value) ∈ readable pairs ↔
      ∃ bytes, (Utf8.encode name, bytes) ∈ pairs ∧ Utf8.lossy bytes = value := by
  simp only [readable, List.mem_filterMap, Option.map_eq_some_iff, Utf8.decode?_eq_some_iff,
    Prod.mk.injEq, Prod.exists]
  constructor
  · rintro ⟨key, bytes, hmem, text, rfl, rfl, rfl⟩
    exact ⟨bytes, hmem, rfl⟩
  · rintro ⟨bytes, hmem, rfl⟩
    exact ⟨_, bytes, hmem, name, rfl, rfl, rfl⟩

theorem contains_readable_iff {pairs : List (Bytes × Bytes)} {name : String} :
    (ofPairs (readable pairs)).contains name = true ↔
      ∃ bytes, (Utf8.encode name, bytes) ∈ pairs := by
  rw [contains_ofPairs_iff]
  simp only [mem_readable_iff]
  exact ⟨fun ⟨_, bytes, hmem, _⟩ => ⟨bytes, hmem⟩, fun ⟨bytes, hmem⟩ => ⟨_, bytes, hmem, rfl⟩⟩

/-- A process has no variable without a name, or with a NUL in its name. -/
theorem isName_encode {name : String} (h : IsName (Utf8.encode name)) :
    name ≠ "" ∧ '\x00' ∉ name.toList := by
  obtain ⟨hempty, -, hnul⟩ := h
  have hbyte : (0 : UInt8) ∈ Utf8.encode name ↔ '\x00' ∈ name.toList :=
    Utf8.mem_encode_iff (by decide)
  refine ⟨?_, mt hbyte.mpr hnul⟩
  rintro rfl
  exact hempty rfl

/-- **A name is looked up among a process's variables as among their texts.** -/
theorem get?_ofBytes {pairs : List (Bytes × Bytes)} (h : ∀ p ∈ pairs, IsName p.1) {name : String}
    (hname : '=' ∉ name.toList) :
    (ofBytes pairs).get? name = (ofPairs (readable pairs)).get? name := by
  show (if name = "" ∨ '\x00' ∈ name.toList then none
    else ((Block.ofPairs pairs).value? (Utf8.encode name)).map Utf8.lossy) = _
  by_cases hodd : name = "" ∨ '\x00' ∈ name.toList
  · have hunset : (ofPairs (readable pairs)).get? name = none := by
      rw [← Option.not_isSome_iff_eq_none]
      intro hset
      obtain ⟨bytes, hmem⟩ := contains_readable_iff.mp hset
      obtain ⟨hempty, hnul⟩ := isName_encode (h _ hmem)
      exact hodd.elim hempty hnul
    rw [if_pos hodd, hunset]
  · rw [if_neg hodd, value?_readable (fun p hp => (h p hp).2.1) hname]

theorem contains_ofBytes_iff {pairs : List (Bytes × Bytes)} (h : ∀ p ∈ pairs, IsName p.1)
    {name : String} (hname : '=' ∉ name.toList) :
    (ofBytes pairs).contains name = true ↔ ∃ bytes, (Utf8.encode name, bytes) ∈ pairs := by
  rw [contains, get?_ofBytes h hname]
  exact contains_readable_iff

end Environment

namespace Request

open Environment (IsName readable)

theorem equals_not_mem_of_consulted : ∀ name ∈ consulted, '=' ∉ name.toList := by
  decide +kernel

theorem agreeOn_readable {pairs : List (Bytes × Bytes)} (h : ∀ p ∈ pairs, IsName p.1) :
    Environment.AgreeOn consulted (.ofPairs (readable pairs)) (.ofBytes pairs) := fun name hname =>
  Environment.get?_ofBytes h (equals_not_mem_of_consulted name hname)

/-- **A process's variables are read as their texts.** Let a process have
variables by any names that it can have, with any bytes as their values, later
ones in place of earlier ones of the same name. A request over them cannot be
told from one over those of them whose names are text, each value with a mark for
each of its broken runs. A flag is on as soon as a variable of its name is there,
be its value empty or no text. Variables whose names are no text can be left
out. -/
theorem bytes_read_as_text (given : Given) (fallbacks : Fallbacks) {pairs : List (Bytes × Bytes)}
    (h : ∀ p ∈ pairs, IsName p.1) :
    Indistinct ⟨given, fallbacks, .ofPairs (readable pairs)⟩ ⟨given, fallbacks, .ofBytes pairs⟩ ∧
    (∀ name, '=' ∉ name.toList →
      (Environment.ofBytes pairs).get? name = (Environment.ofPairs (readable pairs)).get? name) ∧
    (∀ name ∈ consulted, ∀ switch, flag name switch (.ofBytes pairs) = true ↔
      switch = true ∨ ∃ value, (Utf8.encode name, value) ∈ pairs) ∧
    Indistinct ⟨given, fallbacks, .ofBytes pairs⟩
      ⟨given, fallbacks, .ofBytes (pairs.filter fun p => (Utf8.decode? p.1).isSome)⟩ := by
  refine ⟨indistinct_under (agreeOn_readable h), fun name hname => Environment.get?_ofBytes h hname,
    fun name hname switch => ?_, indistinct_under fun name hname => ?_⟩
  · rw [flag_eq, Bool.or_eq_true,
      Environment.contains_ofBytes_iff h (equals_not_mem_of_consulted name hname)]
  · have hkept : ∀ p ∈ pairs.filter fun p => (Utf8.decode? p.1).isSome, IsName p.1 := fun p hp =>
      h p (List.mem_of_mem_filter hp)
    have hall := agreeOn_readable h name hname
    have hfew := agreeOn_readable hkept name hname
    rw [Environment.readable_filter] at hfew
    exact hfew.trans hall.symm

/-- Variables of which a name and two values are no text, and one value is
empty. -/
def brokenVariables : List (Bytes × Bytes) :=
  [(Utf8.encode "CC", Utf8.encode "cc"), (Utf8.encode "CC", [0x67, 0xFF, 0x2B]),
    (Utf8.encode "REMOVE_SIM", [0xC0, 0x80]), (Utf8.encode "WITHOUT_PERL", []),
    ([0xFF], Utf8.encode "cc")]

/-- Broken values are shown with marks, and set flags as others do. -/
theorem resolve_brokenVariables :
    ∃ c, Request.resolve ⟨crossBuild.given, {}, .ofBytes brokenVariables⟩ = .ok c ∧
      c.settings.get? "CC" = some "g\ufffd+" ∧
      c.settings.get? "DEFINES" = some " -DLINUX -DREMOVE_SIM" ∧
      c.settings.get? "CREATE_PERLAPI" = some "no" := by
  have hnames : ∀ p ∈ brokenVariables, IsName p.1 := by unfold IsName; decide
  obtain ⟨⟨hresult, -, -⟩, -⟩ := bytes_read_as_text crossBuild.given {} hnames
  obtain ⟨c, hc⟩ := resolve_of_known
    ⟨crossBuild.given, {}, .ofPairs (readable brokenVariables)⟩ (by decide +kernel)
  exact ⟨c, hresult.trans hc, get?_parameter hc .cc, get?_defines hc, get?_create hc .perl⟩

end Request
end BuildSettings
