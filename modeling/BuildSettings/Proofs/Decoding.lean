/-
# A text's bytes are read back as the text

The reader of UTF-8 finds in a text's bytes the text's characters and nothing
broken, and it finds that in no other bytes. Both rest on one fact about whole
sequences, a lead byte and bytes in the spans that are due after it: these are
the forms of the characters (`whole_encode`, `Whole.encode_assemble`). What the
reader makes of a whole sequence is its character (`decode_whole`). And whatever
the bytes are, it loses none of them: a byte is spelled by a piece that it
completes, or held as the beginning of a whole sequence (`Reader.Fit.step`,
`spelled_decode`). So a byte string is UTF-8 throughout exactly if it is the form
of a text (`decode?_eq_some_iff`).

Below 128 a byte stands for its own character and no other (`mem_encode_iff`), and
no sequence reaches across it, whole or broken (`decode_append_of_ascii`).

Key definitions: `Lead`, `Whole`, `Piece.bytes`, `Reader.Fit`.
Key theorems: `whole_encode`, `decode_whole`, `spelled_decode`,
`decode_append_of_ascii`, `decode?_eq_some_iff`, `lossy_encode`,
`mem_encode_iff`.
-/
import BuildSettings.Proofs.ByteOrder
import Mathlib.Data.List.Forall2

namespace BuildSettings.Utf8

/-! ### Lead bytes -/

theorem holds_iff {s : Span} {b : UInt8} :
    s.holds b = true ↔ s.low.toNat ≤ b.toNat ∧ b.toNat ≤ s.high.toNat := by
  simp [Span.holds, UInt8.le_iff_toNat_le]

theorem tail_holds_iff {b : UInt8} : tail.holds b = true ↔ 0x80 ≤ b.toNat ∧ b.toNat ≤ 0xBF :=
  holds_iff

theorem spansAfter_eq (b : UInt8) : spansAfter b =
    if b.toNat < 0x80 then some []
    else if b.toNat < 0xC2 then none
    else if b.toNat < 0xE0 then some [tail]
    else if b.toNat = 0xE0 then some [⟨0xA0, 0xBF⟩, tail]
    else if b.toNat = 0xED then some [⟨0x80, 0x9F⟩, tail]
    else if b.toNat < 0xF0 then some [tail, tail]
    else if b.toNat = 0xF0 then some [⟨0x90, 0xBF⟩, tail, tail]
    else if b.toNat < 0xF4 then some [tail, tail, tail]
    else if b.toNat = 0xF4 then some [⟨0x80, 0x8F⟩, tail, tail]
    else none := by
  simp [spansAfter, UInt8.lt_iff_toNat_lt, ← UInt8.toNat_inj]

theorem spansAfter_one {a : UInt8} (h : a.toNat < 0x80) : spansAfter a = some [] := by
  rw [spansAfter_eq, if_pos h]

theorem spansAfter_two {a : UInt8} (h : 0xC2 ≤ a.toNat) (h' : a.toNat < 0xE0) :
    spansAfter a = some [tail] := by
  rw [spansAfter_eq, if_neg (by omega), if_neg (by omega), if_pos h']

/-- After these leads the second byte is any that continues, but for overlong
forms and surrogates. -/
theorem spansAfter_three {a : UInt8} (h : 0xE0 ≤ a.toNat) (h' : a.toNat < 0xF0) :
    ∃ s, spansAfter a = some [s, tail] ∧ ∀ b : UInt8, s.holds b = true ↔
      (0x80 ≤ b.toNat ∧ b.toNat ≤ 0xBF) ∧ (a.toNat = 0xE0 → 0xA0 ≤ b.toNat) ∧
        (a.toNat = 0xED → b.toNat ≤ 0x9F) := by
  rw [spansAfter_eq, if_neg (by omega), if_neg (by omega), if_neg (by omega)]
  by_cases hlong : a.toNat = 0xE0
  · rw [if_pos hlong]
    refine ⟨_, rfl, fun b => ?_⟩
    rw [holds_iff]
    simp only [UInt8.reduceToNat]
    omega
  · rw [if_neg hlong]
    by_cases hchar : a.toNat = 0xED
    · rw [if_pos hchar]
      refine ⟨_, rfl, fun b => ?_⟩
      rw [holds_iff]
      simp only [UInt8.reduceToNat]
      omega
    · rw [if_neg hchar, if_pos h']
      refine ⟨_, rfl, fun b => ?_⟩
      rw [tail_holds_iff]
      omega

/-- After these leads too, but for overlong forms and what lies above the last
character. -/
theorem spansAfter_four {a : UInt8} (h : 0xF0 ≤ a.toNat) (h' : a.toNat ≤ 0xF4) :
    ∃ s, spansAfter a = some [s, tail, tail] ∧ ∀ b : UInt8, s.holds b = true ↔
      (0x80 ≤ b.toNat ∧ b.toNat ≤ 0xBF) ∧ (a.toNat = 0xF0 → 0x90 ≤ b.toNat) ∧
        (a.toNat = 0xF4 → b.toNat ≤ 0x8F) := by
  rw [spansAfter_eq, if_neg (by omega), if_neg (by omega), if_neg (by omega), if_neg (by omega),
    if_neg (by omega), if_neg (by omega)]
  by_cases hlong : a.toNat = 0xF0
  · rw [if_pos hlong]
    refine ⟨_, rfl, fun b => ?_⟩
    rw [holds_iff]
    simp only [UInt8.reduceToNat]
    omega
  · rw [if_neg hlong]
    by_cases hchar : a.toNat = 0xF4
    · rw [if_neg (by omega), if_pos hchar]
      refine ⟨_, rfl, fun b => ?_⟩
      rw [holds_iff]
      simp only [UInt8.reduceToNat]
      omega
    · rw [if_pos (by omega)]
      refine ⟨_, rfl, fun b => ?_⟩
      rw [tail_holds_iff]
      omega

/-- A byte as the first of a character's form, by the length of the form. -/
inductive Lead (a : UInt8) : Prop
  | one : a.toNat < 0x80 → Lead a
  | two : 0xC2 ≤ a.toNat → a.toNat < 0xE0 → Lead a
  | three : 0xE0 ≤ a.toNat → a.toNat < 0xF0 → Lead a
  | four : 0xF0 ≤ a.toNat → a.toNat ≤ 0xF4 → Lead a

theorem lead_of_spansAfter {a : UInt8} {spans : List Span} (h : spansAfter a = some spans) :
    Lead a := by
  rcases Nat.lt_or_ge a.toNat 0x80 with hone | hone
  · exact .one hone
  rcases Nat.lt_or_ge a.toNat 0xC2 with hnone | htwo
  · rw [spansAfter_eq, if_neg (by omega), if_pos hnone] at h
    cases h
  rcases Nat.lt_or_ge a.toNat 0xE0 with htwo' | hthree
  · exact .two htwo htwo'
  rcases Nat.lt_or_ge a.toNat 0xF0 with hthree' | hfour
  · exact .three hthree hthree'
  rcases Nat.lt_or_ge 0xF4 a.toNat with hnone | hfour'
  · rw [spansAfter_eq, if_neg (by omega), if_neg (by omega), if_neg (by omega), if_neg (by omega),
      if_neg (by omega), if_neg (by omega), if_neg (by omega), if_neg (by omega),
      if_neg (by omega)] at h
    cases h
  · exact .four hfour hfour'

theorem le_of_holds {a b : UInt8} {spans : List Span} {s : Span} (h : spansAfter a = some spans)
    (hs : s ∈ spans) (hb : s.holds b = true) : 0x80 ≤ b.toNat := by
  have tail_le : ∀ {s : Span}, s = tail → s.holds b = true → 0x80 ≤ b.toNat := by
    rintro s rfl hb
    exact (tail_holds_iff.mp hb).1
  cases lead_of_spansAfter h with
  | one hlead =>
    rw [spansAfter_one hlead] at h
    cases h
    cases hs
  | two hlead hlead' =>
    rw [spansAfter_two hlead hlead'] at h
    cases h
    exact tail_le (List.mem_singleton.mp hs) hb
  | three hlead hlead' =>
    obtain ⟨second, hsecond, hholds⟩ := spansAfter_three hlead hlead'
    rw [hsecond] at h
    cases h
    rcases List.mem_cons.mp hs with rfl | hs
    · exact ((hholds b).mp hb).1.1
    · exact tail_le (List.mem_singleton.mp hs) hb
  | four hlead hlead' =>
    obtain ⟨second, hsecond, hholds⟩ := spansAfter_four hlead hlead'
    rw [hsecond] at h
    cases h
    rcases List.mem_cons.mp hs with rfl | hs
    · exact ((hholds b).mp hb).1.1
    · rcases List.mem_cons.mp hs with hs | hs
      · exact tail_le hs hb
      · exact tail_le (List.mem_singleton.mp hs) hb

/-! ### Whole sequences -/

theorem ofNat_eq {n : Nat} {b : UInt8} (h : n = b.toNat) : UInt8.ofNat n = b := by
  rw [h, UInt8.ofNat_toNat]

/-- A number has one form. -/
theorem Shape.unique {n : Nat} {x y : Bytes} (hx : Shape n x) (hy : Shape n y) : x = y := by
  cases hx with
  | one hn =>
    cases hy with
    | one => rfl
    | two | three | four => omega
  | two hn hn' =>
    cases hy with
    | two => rfl
    | one | three | four => omega
  | three hn hn' =>
    cases hy with
    | three => rfl
    | one | two | four => omega
  | four hn hn' =>
    cases hy with
    | four => rfl
    | one | two | three => omega

theorem utf8EncodeChar_ofNat {n : Nat} {x : Bytes} (hn : n.isValidChar) (h : Shape n x) :
    String.utf8EncodeChar (Char.ofNat n) = x := by
  have hs := shape (Char.ofNat n)
  have hval : (Char.ofNat n).val.toNat = n := by
    rw [Char.ofNat, dif_pos hn]
    rfl
  rw [hval] at hs
  exact hs.unique h

theorem spelled_one {a : UInt8} (ha : a.toNat < 0x80) :
    String.utf8EncodeChar (assemble [a]) = [a] := by
  have hone : Shape a.toNat (form 0 0 a.toNat) := .one ha
  have hform : form 0 0 a.toNat = [a] := by simp [form, trail]
  rw [hform] at hone
  exact utf8EncodeChar_ofNat (.inl (by omega)) hone

theorem spelled_two {a b : UInt8} (ha : 0xC2 ≤ a.toNat) (ha' : a.toNat < 0xE0)
    (hb : 0x80 ≤ b.toNat) (hb' : b.toNat ≤ 0xBF) :
    String.utf8EncodeChar (assemble [a, b]) = [a, b] := by
  obtain ⟨n, hn⟩ : ∃ n, n = a.toNat % 32 * 64 + b.toNat % 64 := ⟨_, rfl⟩
  have htwo : Shape n (form 0xC0 1 n) := .two (by omega) (by omega)
  have hform : form 0xC0 1 n = [a, b] := by
    rw [form, trail, trail, ofNat_eq (b := a) (by omega), ofNat_eq (b := b) (by omega)]
  rw [hform] at htwo
  rw [assemble, ← hn]
  exact utf8EncodeChar_ofNat (.inl (by omega)) htwo

theorem spelled_three {a b c : UInt8} (ha : 0xE0 ≤ a.toNat) (ha' : a.toNat < 0xF0)
    (hb : 0x80 ≤ b.toNat) (hb' : b.toNat ≤ 0xBF) (hc : 0x80 ≤ c.toNat) (hc' : c.toNat ≤ 0xBF)
    (hlong : a.toNat = 0xE0 → 0xA0 ≤ b.toNat) (hchar : a.toNat = 0xED → b.toNat ≤ 0x9F) :
    String.utf8EncodeChar (assemble [a, b, c]) = [a, b, c] := by
  obtain ⟨n, hn⟩ : ∃ n, n = a.toNat % 16 * 4096 + b.toNat % 64 * 64 + c.toNat % 64 := ⟨_, rfl⟩
  have hthree : Shape n (form 0xE0 2 n) := .three (by omega) (by omega)
  have hform : form 0xE0 2 n = [a, b, c] := by
    rw [form, trail, trail, trail, ofNat_eq (b := a) (by omega), ofNat_eq (b := b) (by omega),
      ofNat_eq (b := c) (by omega)]
  rw [hform] at hthree
  rw [assemble, ← hn]
  exact utf8EncodeChar_ofNat (by unfold Nat.isValidChar; omega) hthree

theorem spelled_four {a b c d : UInt8} (ha : 0xF0 ≤ a.toNat) (ha' : a.toNat ≤ 0xF4)
    (hb : 0x80 ≤ b.toNat) (hb' : b.toNat ≤ 0xBF) (hc : 0x80 ≤ c.toNat) (hc' : c.toNat ≤ 0xBF)
    (hd : 0x80 ≤ d.toNat) (hd' : d.toNat ≤ 0xBF)
    (hlong : a.toNat = 0xF0 → 0x90 ≤ b.toNat) (hchar : a.toNat = 0xF4 → b.toNat ≤ 0x8F) :
    String.utf8EncodeChar (assemble [a, b, c, d]) = [a, b, c, d] := by
  obtain ⟨n, hn⟩ : ∃ n, n = a.toNat % 8 * 262144 + b.toNat % 64 * 4096 + c.toNat % 64 * 64 +
    d.toNat % 64 := ⟨_, rfl⟩
  have hfour : Shape n (form 0xF0 3 n) := .four (by omega) (by omega)
  have hform : form 0xF0 3 n = [a, b, c, d] := by
    rw [form, trail, trail, trail, trail, ofNat_eq (b := a) (by omega), ofNat_eq (b := b) (by omega),
      ofNat_eq (b := c) (by omega), ofNat_eq (b := d) (by omega)]
  rw [hform] at hfour
  rw [assemble, ← hn]
  exact utf8EncodeChar_ofNat (by unfold Nat.isValidChar; omega) hfour

/-- A whole sequence: a lead byte, and bytes in the spans that are due after it. -/
inductive Whole : Bytes → Prop
  | intro {lead : UInt8} {spans : List Span} {trail : Bytes} : spansAfter lead = some spans →
      List.Forall₂ (fun s b => s.holds b = true) spans trail → Whole (lead :: trail)

/-- A whole sequence is the form of the character that it is assembled to. -/
theorem Whole.encode_assemble {bs : Bytes} (h : Whole bs) :
    String.utf8EncodeChar (assemble bs) = bs := by
  obtain ⟨hspans, htrail⟩ := h
  cases lead_of_spansAfter hspans with
  | one h =>
    rw [spansAfter_one h] at hspans
    cases hspans
    cases htrail
    exact spelled_one h
  | two h h' =>
    rw [spansAfter_two h h'] at hspans
    cases hspans
    obtain ⟨b, _, hb, hnil, rfl⟩ := List.forall₂_cons_left_iff.mp htrail
    cases hnil
    rw [tail_holds_iff] at hb
    exact spelled_two h h' hb.1 hb.2
  | three h h' =>
    obtain ⟨s, hs, hholds⟩ := spansAfter_three h h'
    rw [hs] at hspans
    cases hspans
    obtain ⟨b, _, hb, hrest, rfl⟩ := List.forall₂_cons_left_iff.mp htrail
    obtain ⟨c, _, hc, hnil, rfl⟩ := List.forall₂_cons_left_iff.mp hrest
    cases hnil
    rw [tail_holds_iff] at hc
    obtain ⟨⟨hb, hb'⟩, hlong, hchar⟩ := (hholds b).mp hb
    exact spelled_three h h' hb hb' hc.1 hc.2 hlong hchar
  | four h h' =>
    obtain ⟨s, hs, hholds⟩ := spansAfter_four h h'
    rw [hs] at hspans
    cases hspans
    obtain ⟨b, _, hb, hrest, rfl⟩ := List.forall₂_cons_left_iff.mp htrail
    obtain ⟨c, _, hc, hlast, rfl⟩ := List.forall₂_cons_left_iff.mp hrest
    obtain ⟨d, _, hd, hnil, rfl⟩ := List.forall₂_cons_left_iff.mp hlast
    cases hnil
    rw [tail_holds_iff] at hc hd
    obtain ⟨⟨hb, hb'⟩, hlong, hchar⟩ := (hholds b).mp hb
    exact spelled_four h h' hb hb' hc.1 hc.2 hd.1 hd.2 hlong hchar

theorem toNat_ofNat {n : Nat} (h : n < 256) : (UInt8.ofNat n).toNat = n :=
  UInt8.toNat_ofNat_of_lt h

theorem tail_holds_digit (n : Nat) : tail.holds (UInt8.ofNat (n % 64 + 0x80)) = true := by
  rw [tail_holds_iff, toNat_ofNat (by omega)]
  omega

theorem whole_encode (c : Char) : Whole (String.utf8EncodeChar c) := by
  have hchar : c.val.toNat.isValidChar := c.valid
  have hs := shape c
  generalize c.val.toNat = n at hchar hs
  generalize String.utf8EncodeChar c = x at hs
  unfold Nat.isValidChar at hchar
  cases hs with
  | one h =>
    have hlead := toNat_ofNat (n := n / 64 ^ 0 + 0) (by omega)
    exact .intro (spansAfter_one (by omega)) .nil
  | two h h' =>
    have hlead := toNat_ofNat (n := n / 64 ^ 1 + 0xC0) (by omega)
    exact .intro (spansAfter_two (by omega) (by omega)) (.cons (tail_holds_digit _) .nil)
  | three h h' =>
    have hlead := toNat_ofNat (n := n / 64 ^ 2 + 0xE0) (by omega)
    have hsecond := toNat_ofNat (n := n / 64 ^ 1 % 64 + 0x80) (by omega)
    obtain ⟨s, hs, hholds⟩ := spansAfter_three (a := UInt8.ofNat (n / 64 ^ 2 + 0xE0)) (by omega)
      (by omega)
    refine .intro hs (.cons ((hholds _).mpr ?_) (.cons (tail_holds_digit _) .nil))
    rw [hsecond, hlead]
    omega
  | four h h' =>
    have hlead := toNat_ofNat (n := n / 64 ^ 3 + 0xF0) (by omega)
    have hsecond := toNat_ofNat (n := n / 64 ^ 2 % 64 + 0x80) (by omega)
    obtain ⟨s, hs, hholds⟩ := spansAfter_four (a := UInt8.ofNat (n / 64 ^ 3 + 0xF0)) (by omega)
      (by omega)
    refine .intro hs (.cons ((hholds _).mpr ?_)
      (.cons (tail_holds_digit _) (.cons (tail_holds_digit _) .nil)))
    rw [hsecond, hlead]
    omega

theorem utf8EncodeChar_inj {c d : Char} (h : String.utf8EncodeChar c = String.utf8EncodeChar d) :
    c = d := by
  have hne : ∀ {c d : Char}, c < d → String.utf8EncodeChar c ≠ String.utf8EncodeChar d := by
    intro c d hlt heq
    have := (before_of_lt hlt).append_lt [] []
    rw [heq] at this
    exact List.lt_irrefl _ this
  rcases Std.lt_trichotomy c d with hlt | heq | hgt
  · exact absurd h (hne hlt)
  · exact heq
  · exact absurd h.symm (hne hgt)

theorem assemble_encode (c : Char) : assemble (String.utf8EncodeChar c) = c :=
  utf8EncodeChar_inj (whole_encode c).encode_assemble

/-! ### The reader -/

theorem run_due {held : Bytes} {span : Span} {due : List Span} {trail : Bytes}
    (h : List.Forall₂ (fun s b => s.holds b = true) (span :: due) trail) (rest : Bytes) :
    (Reader.mk held (span :: due)).run (trail ++ rest) =
      .char (assemble (held ++ trail)) :: decode rest := by
  induction due generalizing held span trail with
  | nil =>
    obtain ⟨b, _, hb, hnil, rfl⟩ := List.forall₂_cons_left_iff.mp h
    cases hnil
    rw [List.cons_append, Reader.run, Reader.step]
    simp only [hb, if_true]
    rfl
  | cons next due ih =>
    obtain ⟨b, trail, hb, htrail, rfl⟩ := List.forall₂_cons_left_iff.mp h
    rw [List.cons_append, Reader.run, Reader.step]
    simp only [hb, if_true]
    rw [List.nil_append, ih htrail, List.append_assoc, List.singleton_append]

theorem decode_whole {bs : Bytes} (h : Whole bs) (rest : Bytes) :
    decode (bs ++ rest) = .char (assemble bs) :: decode rest := by
  obtain ⟨hspans, htrail⟩ := h
  rename_i lead spans trail
  rw [decode, List.cons_append, Reader.run, Reader.step, Reader.start]
  cases spans with
  | nil =>
    cases htrail
    simp only [Reader.lead, hspans]
    rfl
  | cons span due =>
    simp only [Reader.lead, hspans]
    exact run_due htrail rest

/-- The bytes that a piece is read from. -/
def Piece.bytes : Piece → Bytes
  | .char c => String.utf8EncodeChar c
  | .broken bytes => bytes

/-- The bytes that pieces are read from, one after another. -/
def spelled (ps : List Piece) : Bytes := ps.flatMap Piece.bytes

theorem spelled_append (ps qs : List Piece) : spelled (ps ++ qs) = spelled ps ++ spelled qs :=
  List.flatMap_append

/-- A reader that bytes can lead to. It is between characters, or it holds the
first bytes of a whole sequence and waits for the others. -/
inductive Reader.Fit : Reader → Prop
  | start : Fit .start
  | inside {lead : UInt8} {past due : List Span} {read : Bytes} :
      spansAfter lead = some (past ++ due) →
      List.Forall₂ (fun s b => s.holds b = true) past read → due ≠ [] → Fit ⟨lead :: read, due⟩

theorem lead_fit (b : UInt8) : (Reader.lead b).2.Fit ∧
    spelled (Reader.lead b).1 ++ (Reader.lead b).2.held = [b] := by
  unfold Reader.lead
  cases hspans : spansAfter b with
  | none => exact ⟨.start, rfl⟩
  | some spans =>
    cases spans with
    | nil =>
      have hwhole : Whole [b] := .intro hspans .nil
      refine ⟨.start, ?_⟩
      simp only [spelled, List.flatMap_singleton, Piece.bytes, hwhole.encode_assemble, Reader.start,
        List.append_nil]
    | cons span due =>
      have hopen : spansAfter b = some ([] ++ span :: due) := hspans
      exact ⟨.inside hopen .nil (List.cons_ne_nil _ _), rfl⟩

/-- Every byte is spelled by the pieces that it completes, or held. -/
theorem Reader.Fit.step {r : Reader} (h : r.Fit) (b : UInt8) :
    (r.step b).2.Fit ∧ spelled (r.step b).1 ++ (r.step b).2.held = r.held ++ [b] := by
  cases h with
  | start => exact lead_fit b
  | @inside lead past due read hspans hread hdue =>
    obtain ⟨span, rest, rfl⟩ := List.exists_cons_of_ne_nil hdue
    unfold Reader.step
    by_cases hb : span.holds b = true
    · have hread' : List.Forall₂ (fun s b => s.holds b = true) (past ++ [span]) (read ++ [b]) :=
        List.rel_append hread (.cons hb .nil)
      simp only [hb, if_true]
      cases rest with
      | nil =>
        have hwhole : Whole (lead :: read ++ [b]) := .intro hspans hread'
        refine ⟨.start, ?_⟩
        simp only [spelled, List.flatMap_singleton, Piece.bytes, hwhole.encode_assemble, Reader.start,
          List.append_nil]
      | cons next due =>
        have hspans' : spansAfter lead = some ((past ++ [span]) ++ next :: due) := by
          rw [hspans, List.append_assoc, List.singleton_append]
        exact ⟨.inside hspans' hread' (List.cons_ne_nil _ _), rfl⟩
    · obtain ⟨hfit, hspelled⟩ := lead_fit b
      simp only [hb]
      refine ⟨hfit, ?_⟩
      show (lead :: read) ++ spelled (Reader.lead b).1 ++ (Reader.lead b).2.held = _
      rw [List.append_assoc, hspelled]

/-- From any reader the pieces spell what it holds and then the bytes. -/
theorem spelled_run {r : Reader} (h : r.Fit) (bs : Bytes) : spelled (r.run bs) = r.held ++ bs := by
  induction bs generalizing r with
  | nil =>
    rw [Reader.run, Reader.finish, List.append_nil]
    split
    · rename_i hheld
      exact hheld.symm
    · exact List.append_nil _
  | cons b bs ih =>
    obtain ⟨hfit, hstep⟩ := h.step b
    calc spelled (r.run (b :: bs))
        = spelled (r.step b).1 ++ spelled ((r.step b).2.run bs) := spelled_append _ _
      _ = spelled (r.step b).1 ++ (r.step b).2.held ++ bs := by rw [ih hfit, List.append_assoc]
      _ = r.held ++ b :: bs := by rw [hstep, List.append_assoc, List.singleton_append]

/-- **Decoding loses no byte.** The pieces spell the bytes that they are read
from. -/
theorem spelled_decode (bs : Bytes) : spelled (decode bs) = bs :=
  spelled_run .start bs

theorem lead_of_ascii {b : UInt8} (hb : b.toNat < 0x80) :
    Reader.lead b = ([.char (Char.ofNat b.toNat)], .start) := by
  unfold Reader.lead
  rw [spansAfter_one hb]
  rfl

/-- A byte below 128 breaks off what is held, since no character goes on with it. -/
theorem run_of_ascii {r : Reader} (h : r.Fit) {b : UInt8} (hb : b.toNat < 0x80) (bs : Bytes) :
    r.run (b :: bs) = r.finish ++ .char (Char.ofNat b.toNat) :: decode bs := by
  cases h with
  | start =>
    show (Reader.lead b).1 ++ (Reader.lead b).2.run bs = _
    rw [lead_of_ascii hb]
    rfl
  | @inside lead past due read hspans hread hdue =>
    obtain ⟨span, rest, rfl⟩ := List.exists_cons_of_ne_nil hdue
    have hmem : span ∈ past ++ span :: rest := List.mem_append_right _ List.mem_cons_self
    have hout : ¬ span.holds b = true := fun hholds => by
      have := le_of_holds hspans hmem hholds
      omega
    rw [Reader.run, Reader.step]
    simp only [hout, lead_of_ascii hb]
    rfl

/-- **Below 128 a byte is a boundary.** What comes before it is read as if nothing
followed, and what follows as if nothing came before. -/
theorem run_append_of_ascii {r : Reader} (h : r.Fit) (as : Bytes) {b : UInt8} (hb : b.toNat < 0x80)
    (bs : Bytes) : r.run (as ++ b :: bs) = r.run as ++ .char (Char.ofNat b.toNat) :: decode bs := by
  induction as generalizing r with
  | nil => exact run_of_ascii h hb bs
  | cons a as ih => rw [List.cons_append, Reader.run, ih (h.step a).1, Reader.run, List.append_assoc]

theorem decode_append_of_ascii (as : Bytes) {b : UInt8} (hb : b.toNat < 0x80) (bs : Bytes) :
    decode (as ++ b :: bs) = decode as ++ .char (Char.ofNat b.toNat) :: decode bs :=
  run_append_of_ascii .start as hb bs

/-! ### Texts -/

theorem decode_encode (s : String) : decode (encode s) = s.toList.map .char := by
  unfold encode
  induction s.toList with
  | nil => rfl
  | cons c cs ih =>
    rw [List.flatMap_cons, decode_whole (whole_encode c), assemble_encode, ih, List.map_cons]

theorem eq_of_decode {cs : List Char} {bs : Bytes} (h : decode bs = cs.map .char) :
    bs = cs.flatMap String.utf8EncodeChar := by
  have hspelled : spelled (decode bs) = bs := spelled_decode bs
  rw [h, spelled, List.flatMap_map] at hspelled
  exact hspelled.symm

theorem mapM_char?_eq_some_iff : ∀ {ps : List Piece} {cs : List Char},
    ps.mapM Piece.char? = some cs ↔ ps = cs.map .char
  | [], cs => by cases cs <;> simp
  | .char c :: ps, cs => by
    simp only [List.mapM_cons, Piece.char?, Option.pure_def, Option.bind_eq_bind, Option.bind_some,
      Option.bind_eq_some_iff, mapM_char?_eq_some_iff, Option.some.injEq]
    constructor
    · rintro ⟨cs', rfl, rfl⟩
      rfl
    · intro h
      cases cs with
      | nil => cases h
      | cons d cs =>
        cases h
        exact ⟨cs, rfl, rfl⟩
  | .broken bytes :: ps, cs => by cases cs <;> simp [Piece.char?]

/-- **Bytes are those of a text exactly if they are its UTF-8 form.** -/
theorem decode?_eq_some_iff {bs : Bytes} {s : String} : decode? bs = some s ↔ bs = encode s := by
  rw [decode?, Option.map_eq_some_iff]
  constructor
  · rintro ⟨cs, hcs, rfl⟩
    rw [eq_of_decode (mapM_char?_eq_some_iff.mp hcs), encode, String.toList_ofList]
  · rintro rfl
    exact ⟨s.toList, mapM_char?_eq_some_iff.mpr (decode_encode s), String.ofList_toList⟩

theorem decode?_encode (s : String) : decode? (encode s) = some s :=
  decode?_eq_some_iff.mpr rfl

/-- Overlong forms and surrogates are no text's bytes. -/
example : decode? [0xC0, 0x80] = none ∧ decode? [0xED, 0xA0, 0x80] = none := by decide

theorem encode_inj {a b : String} : encode a = encode b ↔ a = b := by
  rw [← decode?_eq_some_iff, decode?_encode, Option.some.injEq]

theorem lossy_encode (s : String) : lossy (encode s) = s := by
  rw [lossy, decode_encode, List.map_map]
  show String.ofList (s.toList.map id) = s
  rw [List.map_id, String.ofList_toList]

/-! ### Bytes below 128 -/

theorem le_of_mem_trail {b : UInt8} {n : Nat} : ∀ {k : Nat}, b ∈ trail k n → 0x80 ≤ b.toNat
  | 0, h => by cases h
  | k + 1, h => by
    rcases List.mem_cons.mp h with rfl | h
    · rw [toNat_ofNat (by omega)]
      omega
    · exact le_of_mem_trail h

theorem le_of_mem_form {b : UInt8} {mark k n : Nat} (hmark : 0x80 ≤ mark)
    (hn : n / 64 ^ k + mark < 256) (h : b ∈ form mark k n) : 0x80 ≤ b.toNat := by
  rcases List.mem_cons.mp h with rfl | h
  · rw [toNat_ofNat hn]
    exact Nat.le_trans hmark (Nat.le_add_left _ _)
  · exact le_of_mem_trail h

/-- Below 128 a byte is in a form only if it is the whole form. -/
theorem Shape.eq_of_mem {b : UInt8} (hb : b.toNat < 0x80) {n : Nat} {x : Bytes} (hx : Shape n x)
    (h : b ∈ x) : x = [b] := by
  cases hx with
  | one hn =>
    rw [form, trail, List.mem_singleton] at h
    rw [form, trail, h]
  | two hn hn' => exact absurd (le_of_mem_form (by omega) (by omega) h) (by omega)
  | three hn hn' => exact absurd (le_of_mem_form (by omega) (by omega) h) (by omega)
  | four hn hn' => exact absurd (le_of_mem_form (by omega) (by omega) h) (by omega)

theorem mem_encodeChar_iff {b : UInt8} (hb : b.toNat < 0x80) {c : Char} :
    b ∈ String.utf8EncodeChar c ↔ c = Char.ofNat b.toNat := by
  constructor
  · intro h
    rw [← assemble_encode c, (shape c).eq_of_mem hb h]
    rfl
  · rintro rfl
    have hspelled : String.utf8EncodeChar (Char.ofNat b.toNat) = [b] := spelled_one hb
    rw [hspelled]
    exact List.mem_singleton_self b

/-- Below 128 a byte stands for its character wherever it is. -/
theorem mem_encode_iff {b : UInt8} (hb : b.toNat < 0x80) {s : String} :
    b ∈ encode s ↔ Char.ofNat b.toNat ∈ s.toList := by
  simp only [encode, List.mem_flatMap, mem_encodeChar_iff hb, exists_eq_right]

end BuildSettings.Utf8
