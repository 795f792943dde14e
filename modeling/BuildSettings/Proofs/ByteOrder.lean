/-
# The order of texts is the order of their bytes

Texts are ordered by the numbers of their characters. UTF-8 keeps this order. A
character's form is a lead byte and the last digits of its number to the base 64.
A longer form has a larger lead byte; forms of one length differ first where the
numbers' digits do. So of two characters the smaller has the smaller byte where
their forms first differ, whatever follows (`before_of_lt`), and texts compare as
their bytes do.

Key definitions: `Before`, `form`, `Shape`, `numbers`.
Key theorems: `shape`, `before_of_lt`, `encode_lt_encode_iff`,
`numbers_lt_numbers_iff`.
-/
import BuildSettings.Text.Utf8
import Mathlib.Algebra.Group.Nat.Defs

namespace BuildSettings.Utf8

/-- The first list has the smaller byte where the two first differ, and they do
before either ends. -/
def Before : Bytes → Bytes → Prop
  | a :: x, b :: y => a < b ∨ a = b ∧ Before x y
  | _, _ => False

/-- Whatever follows, the list with the smaller byte is the smaller one. -/
theorem Before.append_lt : ∀ {x y : Bytes}, Before x y → ∀ u v : Bytes, x ++ u < y ++ v
  | _ :: _, _ :: _, .inl h, _, _ => .rel h
  | _ :: _, _ :: _, .inr ⟨rfl, h⟩, u, v => .cons (h.append_lt u v)

/-! ### Digits -/

/-- The last `k` digits of a number to the base 64, as bytes that continue a
character. -/
def trail : Nat → Nat → Bytes
  | 0, _ => []
  | k + 1, n => UInt8.ofNat (n / 64 ^ k % 64 + 0x80) :: trail k n

/-- The form of a number with `k` bytes after a lead byte, which holds the digits
before them above a mark. -/
def form (mark k n : Nat) : Bytes := UInt8.ofNat (n / 64 ^ k + mark) :: trail k n

theorem ofNat_lt {m n : Nat} (h : m < n) (hn : n < 256) : UInt8.ofNat m < UInt8.ofNat n :=
  (UInt8.ofNat_lt_iff_lt (Nat.lt_trans h hn) hn).mpr h

theorem before_trail : ∀ {k m n : Nat}, m % 64 ^ k < n % 64 ^ k → Before (trail k m) (trail k n)
  | 0, m, n, h => by
    rw [Nat.pow_zero, Nat.mod_one, Nat.mod_one] at h
    exact absurd h (Nat.lt_irrefl 0)
  | k + 1, m, n, h => by
    rw [Nat.mod_pow_succ, Nat.mod_pow_succ] at h
    have hn : n % 64 ^ k < 64 ^ k := Nat.mod_lt _ (Nat.pow_pos (by decide))
    rcases Nat.lt_trichotomy (m / 64 ^ k % 64) (n / 64 ^ k % 64) with hd | hd | hd
    · exact .inl (ofNat_lt (by omega) (by omega))
    · rw [hd] at h
      exact .inr ⟨by rw [hd], before_trail (Nat.lt_of_add_lt_add_right h)⟩
    · have hmul := Nat.mul_le_mul_left (64 ^ k) (Nat.succ_le_of_lt hd)
      rw [Nat.mul_succ] at hmul
      omega

/-- Forms with one mark keep the order of their numbers. -/
theorem before_form {mark k m n : Nat} (h : m < n) (hn : n / 64 ^ k + mark < 256) :
    Before (form mark k m) (form mark k n) := by
  rcases Nat.lt_or_eq_of_le (Nat.div_le_div_right (c := 64 ^ k) (Nat.le_of_lt h)) with hd | hd
  · exact .inl (ofNat_lt (by omega) hn)
  · have hm := Nat.div_add_mod m (64 ^ k)
    have hn' := Nat.div_add_mod n (64 ^ k)
    rw [hd] at hm
    exact .inr ⟨by rw [hd], before_trail (by omega)⟩

/-! ### Characters -/

/-- The form of a character's number, by the length of the form. -/
inductive Shape (n : Nat) : Bytes → Prop
  | one : n < 0x80 → Shape n (form 0 0 n)
  | two : 0x80 ≤ n → n < 0x800 → Shape n (form 0xC0 1 n)
  | three : 0x800 ≤ n → n < 0x10000 → Shape n (form 0xE0 2 n)
  | four : 0x10000 ≤ n → n < 0x110000 → Shape n (form 0xF0 3 n)

/-- Shorter forms have smaller lead bytes, so the numbers' order is kept. -/
theorem Shape.before {m n : Nat} {x y : Bytes} (hx : Shape m x) (hy : Shape n y) (h : m < n) :
    Before x y := by
  cases hx with
  | one hm =>
    cases hy with
    | one hn => exact before_form h (by omega)
    | two hlow hn => exact .inl (ofNat_lt (by omega) (by omega))
    | three hlow hn => exact .inl (ofNat_lt (by omega) (by omega))
    | four hlow hn => exact .inl (ofNat_lt (by omega) (by omega))
  | two hm hm' =>
    cases hy with
    | one hn => omega
    | two hlow hn => exact before_form h (by omega)
    | three hlow hn => exact .inl (ofNat_lt (by omega) (by omega))
    | four hlow hn => exact .inl (ofNat_lt (by omega) (by omega))
  | three hm hm' =>
    cases hy with
    | one hn => omega
    | two hlow hn => omega
    | three hlow hn => exact before_form h (by omega)
    | four hlow hn => exact .inl (ofNat_lt (by omega) (by omega))
  | four hm hm' =>
    cases hy with
    | one hn => omega
    | two hlow hn => omega
    | three hlow hn => omega
    | four hlow hn => exact before_form h (by omega)

theorem shape (c : Char) : Shape c.val.toNat (String.utf8EncodeChar c) := by
  have hval : c.val.toNat.isValidChar := c.valid
  unfold String.utf8EncodeChar
  generalize c.val.toNat = n at hval
  have hn : n < 0x110000 := by
    unfold Nat.isValidChar at hval
    omega
  dsimp only
  split
  · have hone : Shape n (form 0 0 n) := .one (by omega)
    simpa [form, trail] using hone
  · split
    · have htwo : Shape n (form 0xC0 1 n) := .two (by omega) (by omega)
      have hlead : n / 64 % 32 = n / 64 := Nat.mod_eq_of_lt (by omega)
      simpa [form, trail, hlead] using htwo
    · split
      · have hthree : Shape n (form 0xE0 2 n) := .three (by omega) (by omega)
        have hlead : n / 4096 % 16 = n / 4096 := Nat.mod_eq_of_lt (by omega)
        simpa [form, trail, hlead] using hthree
      · have hfour : Shape n (form 0xF0 3 n) := .four (by omega) hn
        have hlead : n / 262144 % 8 = n / 262144 := Nat.mod_eq_of_lt (by omega)
        simpa [form, trail, hlead] using hfour

/-- Of two characters the smaller has the smaller byte where their forms first
differ. -/
theorem before_of_lt {c d : Char} (h : c < d) :
    Before (String.utf8EncodeChar c) (String.utf8EncodeChar d) :=
  (shape c).before (shape d) h

/-! ### Texts -/

theorem flatMap_lt_of_lt : ∀ {a b : List Char}, a < b →
    a.flatMap String.utf8EncodeChar < b.flatMap String.utf8EncodeChar
  | [], d :: ds, _ => by
    rw [List.flatMap_cons]
    cases h : String.utf8EncodeChar d with
    | nil => exact absurd h String.utf8EncodeChar_ne_nil
    | cons b rest => exact .nil
  | _ :: _, _ :: _, .rel h => by
    rw [List.flatMap_cons, List.flatMap_cons]
    exact (before_of_lt h).append_lt _ _
  | _ :: _, _ :: _, .cons h => by
    rw [List.flatMap_cons, List.flatMap_cons]
    exact List.append_left_lt (flatMap_lt_of_lt h)

/-- The numbers of a text's characters. -/
def numbers (s : String) : List Nat := s.toList.map Char.toNat

theorem map_toNat_lt_of_lt : ∀ {a b : List Char}, a < b → a.map Char.toNat < b.map Char.toNat
  | [], _ :: _, _ => .nil
  | _ :: _, _ :: _, .rel h => .rel h
  | _ :: _, _ :: _, .cons h => .cons (map_toNat_lt_of_lt h)

theorem lt_iff_of_mono {α : Type} [LT α] [Std.Irrefl (α := α) (· < ·)]
    [Std.Asymm (α := α) (· < ·)] {f : String → List α}
    (hf : ∀ {a b : String}, a < b → f a < f b) {a b : String} : f a < f b ↔ a < b := by
  refine ⟨fun h => ?_, hf⟩
  rcases Std.lt_trichotomy a b with hlt | rfl | hgt
  · exact hlt
  · exact absurd h (List.lt_irrefl _)
  · exact absurd h (List.lt_asymm (hf hgt))

/-- **The order of texts is the order of their bytes.** -/
theorem encode_lt_encode_iff {a b : String} : encode a < encode b ↔ a < b :=
  lt_iff_of_mono fun h => flatMap_lt_of_lt h

/-- The highest character of three bytes comes before the lowest of four. -/
example : encode "\uffff" < encode "𐀀" := by decide

theorem numbers_lt_numbers_iff {a b : String} : numbers a < numbers b ↔ a < b :=
  lt_iff_of_mono fun h => map_toNat_lt_of_lt h

end BuildSettings.Utf8
