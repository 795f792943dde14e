/-
# What plain filters let through

The plain filters are none, the empty text, a level, and a name with or without a
level after it: the name of this program or one that events from elsewhere have. Each
lets through the events of a level and of those above it. At `debug` these are all
events, at `info` only that of the written file, and above nothing.

The text of such a filter has no comma, so that it is one directive
(`ofVariable_of_single`). A word for a level has no equals sign. So the sign ends the
name where there is one (`ofText?_append`), and a name alone is not taken for a level
as long as it stands for none. Of several directives, which a comma would separate, one
decides about an event (`deciding?_spec`).

Key definitions: `LevelWord`, `ForeignTarget`, `PlainFilter`,
`PlainFilter.verbosity`, `PlainFilter.admitted`.
Key theorems: `ofText?_level`, `ofText?_aimed`, `deciding?_spec`,
`admits_ofVariable`.
-/
import BuildSettings.Threshold

namespace BuildSettings

/-! ### Words in filters -/

/-- A word for a level: its name in any case, or its number. -/
structure LevelWord where
  text : String
  verbosity : Verbosity
  stands : Verbosity.ofLevelWord? text.toList = some verbosity

/-- The sources of this program's events. -/
def Event.sources : List String := [Threshold.target ++ "::resolve", Threshold.target ++ "::emit"]

/-- A name for events from elsewhere: none of this program's sources begins so. -/
structure ForeignTarget where
  name : String
  word : Directive.isSourceWord name.toList = true
  level : Verbosity.ofWord? name.toList = none
  foreign : ∀ source ∈ Event.sources, ¬ name.toList <+: source.toList

instance : Inhabited LevelWord := ⟨⟨"debug", .debug, by decide⟩⟩

instance : Inhabited ForeignTarget := ⟨⟨"other", by decide, by decide, by decide⟩⟩

/-- A plain filter. Where no level stands after a name all events are let through. -/
inductive PlainFilter where
  | unset
  | empty
  | level (w : LevelWord)
  /-- This program's events. -/
  | own (w : Option LevelWord)
  /-- Events from elsewhere. -/
  | foreign (t : ForeignTarget) (w : Option LevelWord)

namespace PlainFilter

/-- A name, and a level after it if there is one. -/
def aimed (name : String) : Option LevelWord → String
  | none => name
  | some w => name ++ "=" ++ w.text

/-- The text of a filter, if there is one. -/
def text : PlainFilter → Option String
  | unset => none
  | empty => some ""
  | level w => some w.text
  | own w => some (aimed Threshold.target w)
  | foreign t w => some (aimed t.name w)

/-- How much a filter lets through of this program's events. Where it is unset
warnings are, and of the empty one errors. -/
def verbosity : PlainFilter → Verbosity
  | unset => .warn
  | empty => .error
  | level w => w.verbosity
  | own w => w.elim .trace LevelWord.verbosity
  | foreign _ _ => .off

/-- The events that a filter lets through. -/
def admitted (f : PlainFilter) (events : List Event) : List Event :=
  events.filter fun e => f.verbosity.admits e.level

theorem admitted_append (f : PlainFilter) (a b : List Event) :
    f.admitted (a ++ b) = f.admitted a ++ f.admitted b :=
  List.filter_append _ _

variable {f : PlainFilter} {events : List Event}

/-- Down to `debug` all events are let through. -/
theorem admitted_of_debug (h : f.verbosity = .debug ∨ f.verbosity = .trace) :
    f.admitted events = events := by
  refine List.filter_eq_self.mpr fun e _ => ?_
  rcases h with h | h <;> rw [h] <;> cases e.level <;> rfl

/-- Above `info` no event is. -/
theorem admitted_of_warn (h : f.verbosity = .off ∨ f.verbosity = .error ∨ f.verbosity = .warn) :
    f.admitted events = [] := by
  refine List.filter_eq_nil_iff.mpr fun e _ => ?_
  rcases h with h | h | h <;> rw [h] <;> cases e.level <;> decide

theorem admitted_of_lookups (h : f.verbosity = .info) (hevents : ∀ e ∈ events, e.level = .debug) :
    f.admitted events = [] := by
  refine List.filter_eq_nil_iff.mpr fun e he => ?_
  rw [h, hevents e he]
  decide

end PlainFilter

/-! ### Thresholds are filters -/

namespace Verbosity

variable {word : List Char} {v : Verbosity}

theorem ofWord?_of_level (h : ofLevelWord? word = some v) : ofWord? word = some v := by
  unfold ofLevelWord? at h
  split at h
  · cases h
  · exact h

/-- A sign that stands in no number and no name stands in no word for a verbosity. -/
theorem not_mem_of_ofWord? (h : ofWord? word = some v) {sign : Char}
    (hdigit : sign.isDigit = false) (hletter : ∀ v : Verbosity, sign.toLower ∉ v.name.toList) :
    sign ∉ word := fun hmem => by
  unfold ofWord? at h
  split at h
  next hnumber =>
    have hall := List.all_eq_true.mp hnumber.2 sign hmem
    rw [hdigit] at hall
    cases hall
  next =>
    have hname : v.name.toList = word.map Char.toLower := by simpa using List.find?_some h
    exact hletter v (hname ▸ List.mem_map_of_mem hmem)

theorem ne_nil_of_ofWord? (h : ofWord? word = some v) : word ≠ [] := by
  rintro rfl
  revert h
  cases v <;> decide

end Verbosity

namespace LevelWord

variable (w : LevelWord)

theorem comma_not_mem : ',' ∉ w.text.toList :=
  Verbosity.not_mem_of_ofWord? (Verbosity.ofWord?_of_level w.stands) rfl fun v => by
    cases v <;> decide

theorem text_ne_nil : w.text.toList ≠ [] :=
  Verbosity.ne_nil_of_ofWord? (Verbosity.ofWord?_of_level w.stands)

theorem ofLevelWord?_of_equals {word : List Char} (h : '=' ∈ word) :
    Verbosity.ofLevelWord? word = none := by
  cases hv : Verbosity.ofLevelWord? word with
  | none => rfl
  | some v =>
    refine absurd h (Verbosity.not_mem_of_ofWord? (Verbosity.ofWord?_of_level hv) rfl fun v => ?_)
    cases v <;> decide

end LevelWord

namespace Directive

theorem ofText?_level (w : LevelWord) : ofText? w.text.toList = some ⟨none, w.verbosity⟩ := by
  rw [ofText?, w.stands]

theorem not_mem_of_isSourceWord {word : List Char} (h : isSourceWord word = true) {sign : Char}
    (hsign : (sign.isAlphanum || sign = '_' || sign = ':' || sign = '-') = false) :
    sign ∉ word := fun hmem => by
  rw [isSourceWord, Bool.and_eq_true] at h
  have hall := List.all_eq_true.mp h.2 sign hmem
  rw [hsign] at hall
  cases hall

variable {name : String} (hword : isSourceWord name.toList = true)
  (hlevel : Verbosity.ofWord? name.toList = none)
include hword

theorem comma_not_mem_aimed (w : Option LevelWord) :
    ',' ∉ (PlainFilter.aimed name w).toList := by
  have hname : ',' ∉ name.toList := not_mem_of_isSourceWord hword rfl
  cases w with
  | none => exact hname
  | some w => simpa [PlainFilter.aimed, hname] using w.comma_not_mem

theorem aimed_ne_empty (w : Option LevelWord) : PlainFilter.aimed name w ≠ "" := fun h => by
  cases w with
  | none =>
    obtain rfl : name = "" := h
    cases hword
  | some w =>
    have hequals : '=' ∈ (name ++ "=" ++ w.text).toList := by simp
    rw [show name ++ "=" ++ w.text = "" from h] at hequals
    cases hequals

include hlevel

/-- A name that stands for no level begins a source. -/
theorem ofText?_append {rest : List Char} (hrest : rest.head?.all (· = '=') = true)
    (hno : Verbosity.ofLevelWord? (name.toList ++ rest) = none) :
    ofText? (name.toList ++ rest) = ofRest? (some name) rest := by
  have hequals : '=' ∉ name.toList := not_mem_of_isSourceWord hword rfl
  have hsigns : ∀ c ∈ name.toList, decide (c ≠ '=') = true := fun c hc =>
    decide_eq_true fun heq => hequals (heq ▸ hc)
  have hsource : sourceOf name.toList = some name := by
    rw [sourceOf, hlevel, String.ofList_toList]
    rfl
  have hends : rest.takeWhile (· ≠ '=') = [] ∧ rest.dropWhile (· ≠ '=') = rest := by
    cases rest with
    | nil => exact ⟨rfl, rfl⟩
    | cons c level =>
      obtain rfl : c = '=' := of_decide_eq_true hrest
      exact ⟨rfl, rfl⟩
  rw [ofText?, hno]
  show (if isSourceWord ((name.toList ++ rest).takeWhile (· ≠ '=')) then _ else _) = _
  rw [List.takeWhile_append_of_pos hsigns, List.dropWhile_append_of_pos hsigns, hends.1, hends.2,
    List.append_nil, hword, if_pos rfl, hsource]

/-- Such a name is a directive, for all events without a level. -/
theorem ofText?_aimed (w : Option LevelWord) : ofText? (PlainFilter.aimed name w).toList =
    some ⟨some name, w.elim .trace LevelWord.verbosity⟩ := by
  cases w with
  | none =>
    have hno : Verbosity.ofLevelWord? (name.toList ++ []) = none := by
      rw [List.append_nil]
      cases hv : Verbosity.ofLevelWord? name.toList with
      | none => rfl
      | some v => rw [Verbosity.ofWord?_of_level hv] at hlevel; cases hlevel
    have htext := ofText?_append hword hlevel rfl hno
    rwa [List.append_nil] at htext
  | some w =>
    have hno : Verbosity.ofLevelWord? (name.toList ++ '=' :: w.text.toList) = none :=
      LevelWord.ofLevelWord?_of_equals (by simp)
    have htext : (PlainFilter.aimed name (some w)).toList = name.toList ++ '=' :: w.text.toList := by
      simp [PlainFilter.aimed]
    have hrest : ofRest? (some name) ('=' :: w.text.toList) =
        (Verbosity.ofLevelWord? w.text.toList).map (⟨some name, ·⟩) := by
      cases hw : w.text.toList with
      | nil => exact absurd hw w.text_ne_nil
      | cons => rfl
    rw [htext, ofText?_append hword hlevel rfl hno, hrest, w.stands]
    rfl

end Directive

/-! ### What decides about an event -/

namespace Directive

variable {source : String} {ds : List Directive}

theorem deciding?_eq_none_iff :
    deciding? source ds = none ↔ ∀ d ∈ ds, d.concerns source = false := by
  induction ds with
  | nil => simp [deciding?]
  | cons d ds ih =>
    rw [List.forall_mem_cons, ← ih, deciding?]
    cases deciding? source ds with
    | some later =>
      simp only [reduceCtorEq, and_false, iff_false]
      split <;> simp
    | none => cases d.concerns source <;> simp

/-- **The longest source decides, and of equal ones the last.** What concerns an
event before the directive that decides weighs no more, and what does after it weighs
less. -/
theorem deciding?_spec {d : Directive} (h : deciding? source ds = some d) :
    ∃ pre post, ds = pre ++ d :: post ∧ d.concerns source = true ∧
      (∀ e ∈ pre, e.concerns source = true → e.weight ≤ d.weight) ∧
      ∀ e ∈ post, e.concerns source = true → e.weight < d.weight := by
  -- from the end: a directive counts if it outweighs the one that decides after it
  induction ds generalizing d with
  | nil => cases h
  | cons a ds ih =>
    rw [deciding?] at h
    cases hlater : deciding? source ds with
    | none =>
      have hnone := deciding?_eq_none_iff.mp hlater
      rw [hlater] at h
      obtain ⟨hconcerns, heq⟩ := Option.ite_none_right_eq_some.mp h
      obtain rfl := Option.some.inj heq
      refine ⟨[], ds, rfl, hconcerns, by simp, fun e he hc => ?_⟩
      rw [hnone e he] at hc
      cases hc
    | some later =>
      obtain ⟨pre, post, rfl, hconcerns, hpre, hpost⟩ := ih hlater
      simp only [hlater] at h
      split at h
      next hwins =>
        obtain rfl := Option.some.inj h
        rw [Bool.and_eq_true, decide_eq_true_eq] at hwins
        refine ⟨[], pre ++ later :: post, rfl, hwins.1, by simp, fun e he hc => ?_⟩
        rcases List.mem_append.mp he with he | he
        · exact Nat.lt_of_le_of_lt (hpre e he hc) hwins.2
        · rcases List.mem_cons.mp he with rfl | he
          · exact hwins.2
          · exact Nat.lt_trans (hpost e he hc) hwins.2
      next hloses =>
        obtain rfl := Option.some.inj h
        rw [Bool.and_eq_true, decide_eq_true_eq, not_and, Nat.not_lt] at hloses
        refine ⟨a :: pre, post, rfl, hconcerns, fun e he hc => ?_, hpost⟩
        rcases List.mem_cons.mp he with rfl | he
        · exact hloses hc
        · exact hpre e he hc

/-- Two directives, of which the narrower one decides about look-ups. -/
example : deciding? "pdbg_config::resolve"
    (Threshold.ofVariable (some "warn,pdbg_config::resolve=DEBUG")).directives =
      some ⟨some "pdbg_config::resolve", .debug⟩ := by
  decide +kernel

end Directive

namespace Threshold

theorem sourceOf_mem (e : Event) : sourceOf e ∈ Event.sources := by
  cases e with
  | wrote => exact .tail _ (.head _)
  | resolved | flag => exact .head _

theorem admits_single (d : Directive) (e : Event) :
    (⟨[d]⟩ : Threshold).admits e = (d.concerns (sourceOf e) && d.verbosity.admits e.level) := by
  unfold admits Directive.deciding?
  cases d.concerns (sourceOf e) <;> simp [Directive.deciding?]

theorem ofVariable_of_single {filter : String} {d : Directive} (hne : filter ≠ "")
    (hcomma : ',' ∉ filter.toList) (hd : Directive.ofText? filter.toList = some d) :
    ofVariable (some filter) = ⟨[d]⟩ := by
  have hlist : filter.toList ≠ [] := mt String.toList_eq_nil_iff.mp hne
  rw [ofVariable, List.splitOn_eq_singleton hcomma]
  simp [hlist, hd]

end Threshold

namespace PlainFilter

/-- **A threshold lets through what its filter does.** -/
theorem admits_ofVariable (f : PlainFilter) (e : Event) :
    (Threshold.ofVariable f.text).admits e = f.verbosity.admits e.level := by
  cases f with
  | unset => cases e <;> rfl
  | empty => cases e <;> rfl
  | level w =>
    have hne : w.text ≠ "" := fun h => w.text_ne_nil (h ▸ rfl)
    rw [text, Threshold.ofVariable_of_single hne w.comma_not_mem (Directive.ofText?_level w),
      Threshold.admits_single]
    rfl
  | own w =>
    have hword : Directive.isSourceWord Threshold.target.toList = true := by decide
    have hd := Directive.ofText?_aimed hword (by decide) w
    have hown : ∀ source ∈ Event.sources,
        Threshold.target.toList.isPrefixOf source.toList = true := by decide
    rw [text, Threshold.ofVariable_of_single (Directive.aimed_ne_empty hword w)
      (Directive.comma_not_mem_aimed hword w) hd, Threshold.admits_single, Directive.concerns,
      Option.all_some, hown _ (Threshold.sourceOf_mem e), Bool.true_and]
    rfl
  | foreign t w =>
    have hd := Directive.ofText?_aimed t.word t.level w
    have hno : t.name.toList.isPrefixOf (Threshold.sourceOf e).toList = false := by
      rw [Bool.eq_false_iff, Ne, List.isPrefixOf_iff_prefix]
      exact t.foreign _ (Threshold.sourceOf_mem e)
    rw [text, Threshold.ofVariable_of_single (Directive.aimed_ne_empty t.word w)
      (Directive.comma_not_mem_aimed t.word w) hd, Threshold.admits_single, Directive.concerns,
      Option.all_some, hno, Bool.false_and]
    cases e <;> rfl

end PlainFilter

end BuildSettings
