/-
# A message tells its error

The quoted form of a path can be read back, by a machine that takes one character at
a time. Inside the quotes it is at a character, or in an escape: after its backslash,
in the number of a character, in the two digits of a byte. What it gives for the form
of a piece are the bytes that the piece was read from (`run_quotePiece`), and since
decoding loses no byte, it gives the path for the whole (`unquote_quote`). So no two
paths have one form: a character that is escaped and the text of its escape differ,
for the backslash of a text is escaped itself, and a broken byte is no character's.

The three messages differ in their first character. Each has one gap, between words
that are always the same, and what stands in the gap is the family, the setting or
the form of the path. So the message tells the error (`message_eq_iff`), up to the
fault behind a failed write.

Key definitions: `Text.Reader`, `Text.unquote`, `Error.SameCause`.
Key theorems: `run_quoteChar`, `run_quoteByte`, `unquote_quote`, `quote_inj`,
`message_eq_iff`.
-/
import BuildSettings.Error
import BuildSettings.Proofs.Decoding

namespace BuildSettings

namespace Text

/-! ### The reader -/

/-- The value of a hexadecimal digit, in upper or lower case. -/
def digitValue (c : Char) : Nat :=
  if c ≤ '9' then c.toNat - '0'.toNat
  else if c ≤ 'F' then c.toNat - 'A'.toNat + 10
  else c.toNat - 'a'.toNat + 10

/-- The character that a letter stands for after a backslash. -/
def unescaped (c : Char) : Char :=
  if c = '0' then '\x00'
  else if c = 't' then '\t'
  else if c = 'r' then '\r'
  else if c = 'n' then '\n'
  else c

/-- A reader of the quoted form, between two characters. -/
inductive Reader where
  | outside
  | inside
  /-- After a backslash. -/
  | escape
  /-- Before the brace of a number. -/
  | brace
  /-- In a number, with the value of the digits so far. -/
  | number (value : Nat)
  /-- Before the two digits of a byte. -/
  | high
  /-- Between them, with the value of the first. -/
  | low (value : Nat)
  deriving DecidableEq, Repr

/-- One character: the bytes that it completes and the reader after it. -/
def Reader.step : Reader → Char → Bytes × Reader
  | .outside, c => ([], if c = '"' then .inside else .outside)
  | .inside, c =>
    if c = '"' then ([], .outside)
    else if c = '\\' then ([], .escape)
    else (String.utf8EncodeChar c, .inside)
  | .escape, c =>
    if c = 'u' then ([], .brace)
    else if c = 'x' then ([], .high)
    else (String.utf8EncodeChar (unescaped c), .inside)
  | .brace, _ => ([], .number 0)
  | .number value, c =>
    if c = '\x7d' then (String.utf8EncodeChar (Char.ofNat value), .inside)
    else ([], .number (16 * value + digitValue c))
  | .high, c => ([], .low (digitValue c))
  | .low value, c => ([UInt8.ofNat (16 * value + digitValue c)], .inside)

/-- The bytes of the characters read from a given point on. -/
def Reader.run (r : Reader) : List Char → Bytes
  | [] => []
  | c :: cs => (r.step c).1 ++ (r.step c).2.run cs

/-- The bytes that a quoted form is the form of. -/
def unquote (s : String) : Bytes := Reader.outside.run s.toList

/-! ### Digits are read back -/

theorem digitValue_digitChar : ∀ n < 16, digitValue n.digitChar = n := by decide

theorem digitChar_ne_brace : ∀ n < 16, n.digitChar ≠ '\x7d' := by decide

theorem digitValue_upperDigit : ∀ n < 16, digitValue (upperDigit n) = n := by decide

theorem run_digit {d : Nat} (hd : d < 16) (value : Nat) (cs : List Char) :
    (Reader.number value).run (d.digitChar :: cs) = (Reader.number (16 * value + d)).run cs := by
  rw [Reader.run, Reader.step, if_neg (digitChar_ne_brace d hd), digitValue_digitChar d hd]
  rfl

/-- **A number is read back.** The induction takes off the last digit. -/
theorem run_toDigits (n : Nat) : ∀ cs : List Char,
    (Reader.number 0).run (Nat.toDigits 16 n ++ cs) = (Reader.number n).run cs := by
  induction n using Nat.strongRecOn with
  | ind n ih =>
    intro cs
    rcases Nat.lt_or_ge n 16 with hn | hn
    · rw [Nat.toDigits_of_lt_base hn, List.singleton_append, run_digit hn, Nat.mul_zero, Nat.zero_add]
    · have hless : n / 16 < n := Nat.div_lt_self (by omega) (by decide)
      have hlast : n % 16 < 16 := Nat.mod_lt n (by decide)
      rw [Nat.toDigits_of_base_le (by decide) hn, List.append_assoc, ih _ hless,
        List.singleton_append, run_digit hlast, Nat.div_add_mod]

/-! ### Pieces are read back -/

theorem run_numbered (c : Char) (cs : List Char) :
    Reader.inside.run (numbered c ++ cs) = String.utf8EncodeChar c ++ Reader.inside.run cs := by
  have hnumber := run_toDigits c.toNat ('\x7d' :: cs)
  calc Reader.inside.run (numbered c ++ cs)
      = Reader.inside.run
          ('\\' :: 'u' :: '\x7b' :: (Nat.toDigits 16 c.toNat ++ '\x7d' :: cs)) := by
        simp only [numbered, List.append_assoc, List.cons_append, List.nil_append]
    _ = (Reader.number 0).run (Nat.toDigits 16 c.toNat ++ '\x7d' :: cs) := rfl
    _ = (Reader.number c.toNat).run ('\x7d' :: cs) := hnumber
    _ = String.utf8EncodeChar (Char.ofNat c.toNat) ++ Reader.inside.run cs := rfl
    _ = String.utf8EncodeChar c ++ Reader.inside.run cs := by rw [Char.ofNat_toNat]

/-- **A character is read back,** in whichever way it is written. -/
theorem run_quoteChar (c : Char) (cs : List Char) :
    Reader.inside.run (quoteChar c ++ cs) = String.utf8EncodeChar c ++ Reader.inside.run cs := by
  unfold quoteChar
  split_ifs with hnul htab hreturn hfeed hquote hbackslash hnumbered
  · rw [hnul]
    rfl
  · rw [htab]
    rfl
  · rw [hreturn]
    rfl
  · rw [hfeed]
    rfl
  · rw [hquote]
    rfl
  · rw [hbackslash]
    rfl
  · exact run_numbered c cs
  · rw [List.singleton_append, Reader.run, Reader.step, if_neg hquote, if_neg hbackslash]

theorem run_quoteByte (b : UInt8) (cs : List Char) :
    Reader.inside.run (quoteByte b ++ cs) = b :: Reader.inside.run cs := by
  have hhigh : digitValue (upperDigit (b.toNat / 16)) = b.toNat / 16 :=
    digitValue_upperDigit _ (by have := b.toNat_lt; omega)
  have hlow : digitValue (upperDigit (b.toNat % 16)) = b.toNat % 16 :=
    digitValue_upperDigit _ (Nat.mod_lt _ (by decide))
  show UInt8.ofNat (16 * digitValue (upperDigit (b.toNat / 16)) +
    digitValue (upperDigit (b.toNat % 16))) :: Reader.inside.run cs = _
  rw [hhigh, hlow, Nat.div_add_mod, UInt8.ofNat_toNat]

/-- What is read for a piece are its bytes. -/
theorem run_quotePiece (p : Utf8.Piece) (cs : List Char) :
    Reader.inside.run (quotePiece p ++ cs) = p.bytes ++ Reader.inside.run cs := by
  cases p with
  | char c => exact run_quoteChar c cs
  | broken bytes =>
    show Reader.inside.run (bytes.flatMap quoteByte ++ cs) = bytes ++ Reader.inside.run cs
    induction bytes with
    | nil => rfl
    | cons b bytes ih => rw [List.flatMap_cons, List.append_assoc, run_quoteByte, ih, List.cons_append]

theorem run_quotePieces (ps : List Utf8.Piece) (cs : List Char) :
    Reader.inside.run (ps.flatMap quotePiece ++ cs) = Utf8.spelled ps ++ Reader.inside.run cs := by
  induction ps with
  | nil => rfl
  | cons p ps ih =>
    rw [List.flatMap_cons, List.append_assoc, run_quotePiece, ih, ← List.append_assoc]
    rfl

/-- **The quoted form is read back,** whatever the bytes are. -/
theorem unquote_quote (bs : Bytes) : unquote (quote bs) = bs := by
  calc unquote (quote bs)
      = Reader.outside.run (['"'] ++ (Utf8.decode bs).flatMap quotePiece ++ ['"']) := by
        rw [unquote, quote, String.toList_ofList]
    _ = Reader.inside.run ((Utf8.decode bs).flatMap quotePiece ++ ['"']) := rfl
    _ = Utf8.spelled (Utf8.decode bs) ++ Reader.inside.run ['"'] := run_quotePieces _ _
    _ = Utf8.spelled (Utf8.decode bs) := List.append_nil _
    _ = bs := Utf8.spelled_decode bs

theorem quote_inj {a b : Bytes} : quote a = quote b ↔ a = b :=
  (Function.LeftInverse.injective unquote_quote).eq_iff

/-- An escape as a path and the character that it is the escape of. -/
example : quote (Utf8.encode "\\u\x7b1b\x7d") = "\"\\\\u\x7b1b\x7d\"" ∧
    quote (Utf8.encode "\x1b") = "\"\\u\x7b1b\x7d\"" := by
  decide +kernel

/-! ### Words that are quoted as they stand -/

/-- Whether a character is ASCII, has a shape and needs no escape inside quotes. -/
def standsInQuotes (c : Char) : Bool :=
  0x20 ≤ c.toNat && c.toNat < 0x7F && c ≠ '"' && c ≠ '\\'

theorem inRanges_of_ascii {ranges : List (Nat × Nat)} (h : ∀ r ∈ ranges, r.2 < 0x20 ∨ 0x7F ≤ r.1)
    {n : Nat} (hlow : 0x20 ≤ n) (hhigh : n < 0x7F) : inRanges ranges n = false := by
  refine List.any_eq_false.mpr fun r hr => ?_
  simp only [Bool.and_eq_true, decide_eq_true_eq]
  rcases h r hr with h | h <;> omega

theorem quoteChar_of_stands {c : Char} (h : standsInQuotes c = true) : quoteChar c = [c] := by
  simp only [standsInQuotes, Bool.and_eq_true, decide_eq_true_eq] at h
  obtain ⟨⟨⟨hlow, hhigh⟩, hquote⟩, hbackslash⟩ := h
  have hextender : isExtender c = false := inRanges_of_ascii (by decide +kernel) hlow hhigh
  have hignorable : isIgnorable c = false := inRanges_of_ascii (by decide +kernel) hlow hhigh
  have hprintable : isPrintable c = true := by
    rw [isPrintable, inRanges_of_ascii (by decide +kernel) hlow hhigh, Bool.not_false]
  have hcontrol : ∀ control : Char, control.toNat < 0x20 → c ≠ control := by
    rintro _ hcontrol rfl
    omega
  rw [quoteChar, if_neg (hcontrol _ (by decide)), if_neg (hcontrol _ (by decide)),
    if_neg (hcontrol _ (by decide)), if_neg (hcontrol _ (by decide)), if_neg hquote,
    if_neg hbackslash, hextender, hignorable, hprintable]
  rfl

theorem quote_of_stands {s : String} (h : ∀ c ∈ s.toList, standsInQuotes c = true) :
    quote (Utf8.encode s) = "\"" ++ s ++ "\"" := by
  have hquoted : (s.toList.map Utf8.Piece.char).flatMap quotePiece = s.toList := by
    rw [List.flatMap_map]
    calc s.toList.flatMap (fun c => quoteChar c)
      _ = s.toList.flatMap (fun c => [c]) :=
        List.flatMap_congr fun c hc => quoteChar_of_stands (h c hc)
      _ = s.toList := List.flatMap_singleton' _
  refine String.toList_inj.mp ?_
  rw [quote, Utf8.decode_encode, hquoted]
  simp

end Text

namespace Error

/-- Errors of one kind that tell of one thing: the same family, the same setting or
the same path. -/
inductive SameCause : Error → Error → Prop
  | unknownArch (family : String) : SameCause (.unknownArch family) (.unknownArch family)
  | duplicateSetting (name : String) : SameCause (.duplicateSetting name) (.duplicateSetting name)
  | unwritten (path : Bytes) (fault fault' : Fault) :
      SameCause (.unwritten path fault) (.unwritten path fault')

/-- The character that an error's message begins with. -/
def initial : Error → Char
  | .unknownArch _ => 'U'
  | .duplicateSetting _ => 'S'
  | .unwritten _ _ => 'F'

theorem head?_message (e : Error) : e.message.toList.head? = some e.initial := by
  unfold message
  cases e with
  | unknownArch family =>
    simp only [String.toList_append]
    rfl
  | duplicateSetting name =>
    simp only [String.toList_append]
    rfl
  | unwritten path fault =>
    simp only [String.toList_append]
    rfl

theorem initial_eq_of_message {e f : Error} (h : e.message = f.message) : e.initial = f.initial := by
  have hhead := head?_message e
  rw [h, head?_message] at hhead
  exact (Option.some.inj hhead).symm

/-- **A message tells its error.** Two messages are equal exactly if the errors are of
one kind and tell of the same family, the same setting, or a path of the same bytes,
be they text or not. -/
theorem message_eq_iff (e f : Error) : e.message = f.message ↔ e.SameCause f := by
  constructor
  · intro h
    have hinitial := initial_eq_of_message h
    cases e with
    | unknownArch family =>
      cases f with
      | unknownArch family' =>
        unfold message at h
        simp only [String.append_left_inj, String.append_right_inj] at h
        rw [h]
        exact .unknownArch family'
      | duplicateSetting | unwritten => simp [initial] at hinitial
    | duplicateSetting name =>
      cases f with
      | duplicateSetting name' =>
        unfold message at h
        simp only [String.append_left_inj, String.append_right_inj] at h
        rw [h]
        exact .duplicateSetting name'
      | unknownArch | unwritten => simp [initial] at hinitial
    | unwritten path fault =>
      cases f with
      | unwritten path' fault' =>
        unfold message at h
        simp only [String.append_right_inj, Text.quote_inj] at h
        rw [h]
        exact .unwritten path' fault fault'
      | unknownArch | duplicateSetting => simp [initial] at hinitial
  · intro h
    cases h <;> rfl

end Error
end BuildSettings
