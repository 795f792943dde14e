/-
# Where a course of steps leads

Steps that all succeed add up: the lines are said, the variables asked for and the
events recorded in the order of the steps, and the table gains the pairs that are
put, up to their order (`adds_of_follow`). They all succeed if none refuses and no
name is put twice or into a table that has it (`follow_of_fresh`).

Key definitions: `lines`, `looks`, `recorded`, `askedFor`, `entries`, `Adds`.
Key theorems: `follow_append`, `adds_of_follow`, `follow_of_fresh`.
-/
import BuildSettings.Resolution
import BuildSettings.Proofs.Table

namespace BuildSettings.Resolution

/-- The lines that steps say. -/
def lines (steps : List Step) : List String :=
  steps.filterMap fun
    | .say line => some line
    | _ => none

/-- The look-ups among steps: what each asks for, and its event. -/
def looks (steps : List Step) : List (List String × Option Event) :=
  steps.filterMap fun
    | .look asked event => some (asked, event)
    | _ => none

/-- The events that steps record. -/
def recorded (steps : List Step) : List Event :=
  (looks steps).filterMap (·.2)

/-- The variables that steps ask for. -/
def askedFor (steps : List Step) : List String :=
  (looks steps).flatMap (·.1)

/-- The settings that steps put, with their values. -/
def entries (steps : List Step) : List (String × String) :=
  steps.filterMap fun
    | .put name value => some (name, value)
    | _ => none

/-- The names that steps put. -/
def putNames (steps : List Step) : List String :=
  (entries steps).map (·.1)

theorem lines_append (a b : List Step) : lines (a ++ b) = lines a ++ lines b :=
  List.filterMap_append

theorem looks_append (a b : List Step) : looks (a ++ b) = looks a ++ looks b :=
  List.filterMap_append

theorem looks_flatMap {α : Type} (steps : α → List Step) (l : List α) :
    looks (l.flatMap steps) = l.flatMap fun a => looks (steps a) :=
  List.filterMap_flatMap

theorem recorded_append (a b : List Step) : recorded (a ++ b) = recorded a ++ recorded b := by
  rw [recorded, looks_append, List.filterMap_append]
  rfl

theorem askedFor_append (a b : List Step) :
    askedFor (a ++ b) = askedFor a ++ askedFor b := by
  rw [askedFor, looks_append, List.flatMap_append]
  rfl

theorem entries_append (a b : List Step) : entries (a ++ b) = entries a ++ entries b :=
  List.filterMap_append

theorem putNames_append (a b : List Step) : putNames (a ++ b) = putNames a ++ putNames b := by
  rw [putNames, entries_append, List.map_append]
  rfl

/-- A look-up or a setting: nothing is said, and nothing refused. -/
def Step.isQuiet : Step → Bool
  | .look _ _ => true
  | .put _ _ => true
  | _ => false

theorem lines_of_quiet {steps : List Step} (h : ∀ step ∈ steps, step.isQuiet) : lines steps = [] := by
  refine List.filterMap_eq_nil_iff.mpr fun step hstep => ?_
  have hquiet := h step hstep
  cases step with
  | say line => cases hquiet
  | look asked event => rfl
  | put name value => rfl
  | refuse e => rfl

/-- A course to which steps have added all that is in them. -/
structure Adds (c : Course) (steps : List Step) (d : Course) : Prop where
  said : d.said = c.said ++ lines steps
  asked : d.asked = c.asked ++ askedFor steps
  events : d.events = c.events ++ recorded steps
  settings : d.settings.toList.Perm (c.settings.toList ++ entries steps)

namespace Adds

theorem nil (c : Course) : Adds c [] c where
  said := (List.append_nil _).symm
  asked := (List.append_nil _).symm
  events := (List.append_nil _).symm
  settings := by
    rw [show entries [] = [] from rfl, List.append_nil]

theorem of_take {c d : Course} {step : Step} (h : c.take step = .ok d) : Adds c [step] d := by
  cases step with
  | say line =>
    cases h
    exact ⟨rfl, (List.append_nil _).symm, (List.append_nil _).symm, by simp [entries]⟩
  | look asked event =>
    cases h
    have hasked : askedFor [.look asked event] = asked := List.append_nil asked
    have hrecorded : recorded [.look asked event] = event.toList := by cases event <;> rfl
    exact ⟨(List.append_nil _).symm, by rw [hasked], by rw [hrecorded], by simp [entries]⟩
  | put name value =>
    rw [Course.take] at h
    cases hi : c.settings.insert name value with
    | error e => rw [hi] at h; cases h
    | ok settings =>
      rw [hi] at h
      cases h
      exact ⟨(List.append_nil _).symm, (List.append_nil _).symm, (List.append_nil _).symm,
        Settings.perm_insert hi⟩
  | refuse e => cases h

theorem append {c d e : Course} {a b : List Step} (h : Adds c a d) (h' : Adds d b e) :
    Adds c (a ++ b) e where
  said := by rw [h'.said, h.said, lines_append, List.append_assoc]
  asked := by rw [h'.asked, h.asked, askedFor_append, List.append_assoc]
  events := by rw [h'.events, h.events, recorded_append, List.append_assoc]
  settings := by
    rw [entries_append, ← List.append_assoc]
    exact h'.settings.trans (h.settings.append_right _)

theorem names {c d : Course} {steps : List Step} (h : Adds c steps d) :
    d.settings.names.Perm (c.settings.names ++ putNames steps) := by
  have hmap := h.settings.map (·.1)
  rwa [List.map_append] at hmap

end Adds

namespace Course

theorem follow_append {c d : Course} : ∀ {a : List Step} (b : List Step),
    c.follow a = (d, none) → c.follow (a ++ b) = d.follow b
  | [], b, h => by
    cases h
    rfl
  | step :: rest, b, h => by
    unfold follow at h
    rw [List.cons_append, follow]
    cases ht : c.take step with
    | error e => rw [ht] at h; cases h
    | ok next =>
      rw [ht] at h
      exact follow_append b h

/-- Steps that all succeed add all that is in them. -/
theorem adds_of_follow {c d : Course} : ∀ {steps : List Step},
    c.follow steps = (d, none) → Adds c steps d
  | [], h => by
    cases h
    exact .nil c
  | step :: rest, h => by
    unfold follow at h
    cases ht : c.take step with
    | error e => rw [ht] at h; cases h
    | ok next =>
      rw [ht] at h
      exact (Adds.of_take ht).append (adds_of_follow h)

theorem take_of_fresh {c : Course} {step : Step} (hr : ∀ e, step ≠ .refuse e)
    (hn : ∀ name ∈ putNames [step], name ∉ c.settings.names) : ∃ d, c.take step = .ok d := by
  cases step with
  | say line => exact ⟨_, rfl⟩
  | look asked event => exact ⟨_, rfl⟩
  | put name value =>
    obtain ⟨t, ht⟩ := Settings.insert_of_new (hn name (List.mem_singleton.mpr rfl)) value
    exact ⟨_, by rw [take, ht]; rfl⟩
  | refuse e => exact absurd rfl (hr e)

/-- **Steps succeed that put new names.** None of them refuses, and no name is
put that is in the table or was put before. -/
theorem follow_of_fresh {c : Course} {steps : List Step} (hr : ∀ e, .refuse e ∉ steps)
    (hn : (c.settings.names ++ putNames steps).Nodup) : ∃ d, c.follow steps = (d, none) := by
  induction steps generalizing c with
  | nil => exact ⟨c, rfl⟩
  | cons step rest ih =>
    have hnames : putNames (step :: rest) = putNames [step] ++ putNames rest :=
      putNames_append [step] rest
    rw [hnames, ← List.append_assoc] at hn
    have hfirst := (List.nodup_append.mp (List.nodup_append.mp hn).1).2.2
    obtain ⟨next, ht⟩ := take_of_fresh (c := c) (fun e he => hr e (he ▸ List.mem_cons_self))
      fun name hp hc => hfirst name hc name hp rfl
    have hrest : (next.settings.names ++ putNames rest).Nodup :=
      (((Adds.of_take ht).names.append_right _).nodup_iff).mpr hn
    obtain ⟨d, hd⟩ := ih (fun e he => hr e (List.mem_cons_of_mem _ he)) hrest
    refine ⟨d, ?_⟩
    rw [follow, ht]
    exact hd

/-- A refusal ends the course where it stands. -/
theorem follow_refuse {c d : Course} {steps : List Step} (h : c.follow steps = (d, none))
    (e : Error) : c.follow (steps ++ [.refuse e]) = (d, some e) := by
  rw [follow_append _ h]
  rfl

end Course
end BuildSettings.Resolution
