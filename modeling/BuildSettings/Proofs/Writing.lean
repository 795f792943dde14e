/-
# What writing a file changes

A path that opens is written at the location it leads to, and a path that does
not leaves the tree alone. The file can be read back through the same path, also
where links lead to it or it was made just now, since the directories and links
on the way are still there.

Key theorems: `write_of_ends`, `read_write`, `emit_of_opens`, `emit_of_fails`,
`emit_or_unchanged`.
-/
import BuildSettings.Output
import BuildSettings.Proofs.Walk

namespace BuildSettings

open Pathname (Location)

namespace FileTree

variable {t : FileTree} {cwd : Location} {path : Bytes}

/-- A path opens at a location below the root, where a file stands or nothing. -/
theorem free_of_ends {loc : Location} (h : Ends t cwd path (.ok loc)) :
    loc ≠ [] ∧ (t.get? loc = none ∨ ∃ old, t.get? loc = some (.file old)) := by
  cases h with
  | opens _ _ _ _ _ ho =>
    obtain ⟨-, -, hfree⟩ := ho
    exact ⟨List.concat_ne_nil _ _, hfree⟩

theorem write_of_ends {loc : Location} (h : Ends t cwd path (.ok loc)) (content : Bytes) :
    t.write cwd path content = .ok (t.set loc (.file content)) := by
  rw [write, destination_of_ends h]
  rfl

theorem write_of_fails {f : Fault} (h : Ends t cwd path (.error f)) (content : Bytes) :
    t.write cwd path content = .error f := by
  rw [write, destination_of_ends h]
  rfl

theorem ends_set {loc : Location} (h : Ends t cwd path (.ok loc)) (content : Bytes) :
    Ends (t.set loc (.file content)) cwd path (.ok loc) := by
  obtain ⟨hroot, hfree⟩ := free_of_ends h
  exact h.extend (extends_set hroot hfree content) (by rw [get?_set t hroot, if_pos rfl])

/-- **What is written can be read back through the same path.** -/
theorem read_write {loc : Location} (h : Ends t cwd path (.ok loc)) (content : Bytes) :
    (t.set loc (.file content)).read cwd path = .ok content := by
  have hroot := (free_of_ends h).1
  exact read_of_ends (ends_set h content) (by rw [get?_set t hroot, if_pos rfl])

/-- The faults that opening a path can end in. -/
def openFaults : List Fault :=
  [.notFound, .notADirectory, .isADirectory, .nameTooLong, .linkLoop, .nulInPath]

theorem mem_openFaults {f : Fault} (h : Ends t cwd path (.error f)) : f ∈ openFaults := by
  cases h with
  | nul => decide
  | empty => decide
  | tooLong => decide
  | blocked _ _ _ _ _ hb => cases hb <;> decide
  | loop => decide

end FileTree

namespace Configuration

open FileTree (Ends)

variable {c : Configuration} {t : FileTree} {cwd : Location}

theorem emit_of_opens {loc : Location} (h : Ends t cwd c.outputPath (.ok loc)) :
    c.emit t cwd = ⟨.ok c.outputPath, t.set loc (.file c.content), [c.wroteEvent]⟩ := by
  rw [emit, write, FileTree.write_of_ends h]
  rfl

theorem emit_of_fails {f : Fault} (h : Ends t cwd c.outputPath (.error f)) :
    c.emit t cwd = ⟨.error (.unwritten c.outputPath f), t, []⟩ := by
  rw [emit, write, FileTree.write_of_fails h]
  rfl

/-- **A configuration is written, or nothing changes.** Its path either leads,
through whatever links, to a place where a file stands or nothing; then the file
there holds the rendered settings and nothing else, can be read back through the
path, all else in the tree is as before, and there is one event. Or the path does
not open; then the tree is as before, there is no event, and the error names the
path and the fault. -/
theorem emit_or_unchanged (c : Configuration) (t : FileTree) (cwd : Location) :
    ((∃ loc, Ends t cwd c.outputPath (.ok loc)) ∨
      ∃ fault ∈ FileTree.openFaults, Ends t cwd c.outputPath (.error fault)) ∧
    (∀ loc, Ends t cwd c.outputPath (.ok loc) →
      (t.get? loc = none ∨ ∃ old, t.get? loc = some (.file old)) ∧
      (c.emit t cwd).answer = .ok c.outputPath ∧
      (c.emit t cwd).tree.get? loc = some (.file (Utf8.encode (Makefile.render c.settings))) ∧
      (c.emit t cwd).tree.read cwd c.outputPath =
        .ok (Utf8.encode (Makefile.render c.settings)) ∧
      (∀ other, other ≠ loc → (c.emit t cwd).tree.get? other = t.get? other) ∧
      (c.emit t cwd).events = [.wrote (Utf8.lossy c.outputPath) c.settings.size] ∧
      (c.emit t cwd).events.map Event.level = [.info]) ∧
    ∀ fault, Ends t cwd c.outputPath (.error fault) →
      (c.emit t cwd).answer = .error (.unwritten c.outputPath fault) ∧
      (c.emit t cwd).tree = t ∧ (c.emit t cwd).events = [] := by
  refine ⟨?_, fun loc hends => ?_, fun fault hends => ?_⟩
  · obtain ⟨result, hends⟩ := FileTree.exists_ends t cwd c.outputPath
    cases result with
    | ok loc => exact .inl ⟨loc, hends⟩
    | error fault => exact .inr ⟨fault, FileTree.mem_openFaults hends, hends⟩
  · obtain ⟨hroot, hfree⟩ := FileTree.free_of_ends hends
    have hget := FileTree.get?_set t hroot (.file c.content)
    rw [emit_of_opens hends]
    refine ⟨hfree, rfl, ?_, FileTree.read_write hends c.content, ?_, rfl, rfl⟩
    · rw [hget, if_pos rfl]
      rfl
    · intro other hother
      rw [hget, if_neg hother]
  · rw [emit_of_fails hends]
    exact ⟨rfl, rfl, rfl⟩

end Configuration
end BuildSettings
