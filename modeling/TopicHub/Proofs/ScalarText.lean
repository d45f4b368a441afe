/-
  Proofs/ScalarText.lean --- the written text of a scalar reads back.

  The reader walks a `Cursor` over the text; each lemma here starts it on the
  text a scalar is written as, followed by any `rest`, and says what it reads
  and that it stops exactly before `rest` (`Cursor.At`: the cursor stands on
  `rest` and keeps the bound of the text it was started on).

  STRINGS.  Every character's escaped form (`escapeChar`) reads back as the
  character: the short escapes through `shortEscape?`, the other control
  characters through a `\u00xx` escape whose four hex digits give back the
  code, everything else as itself.  So the body of a quoted string, with its
  closing quote, reads back as the string (`readString_quoted`).

  NUMBERS.  The decimal digits of a natural number that fits in 64 bits read
  back as that number, the first digit being non-zero unless the number is
  zero (`readNumber_numeral`).  Only an end of the text, a comma or a closing
  bracket may follow (`Closes`), so the reader sees neither a fraction nor an
  exponent after the digits.  Digits, a point and more digits that together
  fit in 64 bits are read as the double the reader's scaling makes of them
  (`readNumber_positional`).
-/
import Mathlib.Data.List.Basic
import TopicHub.Json.Read

set_option autoImplicit false

namespace TopicHub.Json

open Scalar

/-! ## Where the cursor stops -/

namespace Cursor

/-- Moving on keeps the bound of the text. -/
@[simp] theorem next_fuel (c : Cursor) : c.next.fuel = c.fuel := by
  unfold next
  split
  · rfl
  · split <;> rfl

/-- `c'` stands on the same text as `c`, before `rest`. -/
structure At (c' c : Cursor) (rest : List Char) : Prop where
  rest_eq : c'.rest = rest
  fuel_eq : c'.fuel = c.fuel

/-- One character further on, the cursor stands before the rest after it. -/
theorem next_at {c : Cursor} {ch : Char} {r : List Char} (h : c.rest = ch :: r) : c.next.At c r :=
  ⟨next_rest h, next_fuel c⟩

theorem At.trans {c₂ c₁ c₀ : Cursor} {r₂ r₁ : List Char} (h₂ : c₂.At c₁ r₂) (h₁ : c₁.At c₀ r₁) :
    c₂.At c₀ r₂ :=
  ⟨h₂.rest_eq, h₂.fuel_eq.trans h₁.fuel_eq⟩

/-- A cursor that stopped inside a text whose bound covered the whole text
still has a bound covering what is left. -/
theorem At.fueled {c' c : Cursor} {rest : List Char} (h : c'.At c rest)
    (hle : rest.length ≤ c.rest.length) (hfuel : c.rest.length < c.fuel) :
    c'.rest.length < c'.fuel := by
  rw [h.rest_eq, h.fuel_eq]
  omega

/-- Before a character that is not blank there is nothing to skip. -/
theorem skipBlanks_of_head {c : Cursor} {ch : Char} {more : List Char} (hrest : c.rest = ch :: more)
    (hb : isBlank ch = false) : c.skipBlanks = c := by
  rw [skipBlanks]
  split
  · rfl
  · rename_i ch' r h
    rw [hrest] at h
    cases h
    simp [hb]

end Cursor

/-- What may follow the text of a value: the end of the text, a comma, or a
closing bracket or brace. -/
def Closes (rest : List Char) : Prop := ∀ ch r, rest = ch :: r → ch = ',' ∨ ch = ']' ∨ ch = '}'

theorem closes_nil : Closes [] := fun _ _ h => nomatch h

theorem closes_cons {ch : Char} {r : List Char} (h : ch = ',' ∨ ch = ']' ∨ ch = '}') :
    Closes (ch :: r) := by
  intro ch' r' heq
  cases heq
  exact h

/-! ## Literals -/

/-- The letters of a literal are read over exactly. -/
theorem readIdent_prefix (es : List Char) {c : Cursor} {rest : List Char}
    (hrest : c.rest = es ++ rest) : ∃ c', readIdent es c = .ok c' ∧ c'.At c rest := by
  induction es generalizing c with
  | nil => exact ⟨c, rfl, hrest, rfl⟩
  | cons e es ih =>
    rw [List.cons_append] at hrest
    obtain ⟨c', hread, hc'⟩ := ih (Cursor.next_rest hrest)
    refine ⟨c', ?_, hc'.trans (Cursor.next_at hrest)⟩
    simp [readIdent, hrest, hread]

/-! ## Strings -/

/-- Each hex digit written reads as its value. -/
theorem hexDigit_reads : ∀ k : Fin 16, hexDigit? (hexDigit k.val) = some k.val := by decide

theorem readHex4_digits {c : Cursor} {a b d e : Nat} {more : List Char} (ha : a < 16) (hb : b < 16)
    (hd : d < 16) (he : e < 16)
    (hrest : c.rest = hexDigit a :: hexDigit b :: hexDigit d :: hexDigit e :: more) :
    readHex4 c = .ok (((a * 16 + b) * 16 + d) * 16 + e, c.next.next.next.next) := by
  simp [readHex4, hrest, hexDigit_reads ⟨a, ha⟩, hexDigit_reads ⟨b, hb⟩, hexDigit_reads ⟨d, hd⟩,
    hexDigit_reads ⟨e, he⟩]

/-- The four hex digits written for a control character read back as it. -/
theorem readUnicodeEscape_control {c : Cursor} {ch : Char} {more : List Char} (hch : ch.toNat < 0x20)
    (hrest : c.rest = '0' :: '0' :: hexDigit (ch.toNat / 16) :: hexDigit (ch.toNat % 16) :: more) :
    readUnicodeEscape c = .ok (ch, c.next.next.next.next) := by
  have hhex := readHex4_digits (show 0 < 16 by decide) (show 0 < 16 by decide)
    (show ch.toNat / 16 < 16 by omega) (show ch.toNat % 16 < 16 by omega) hrest
  have hvalue : ((0 * 16 + 0) * 16 + ch.toNat / 16) * 16 + ch.toNat % 16 = ch.toNat := by omega
  rw [hvalue] at hhex
  simp only [readUnicodeEscape, hhex, bind, Except.bind]
  -- a control character is no surrogate
  rw [if_neg (by omega), if_pos (by omega), Char.ofNat_toNat]

theorem readStringBody_short {c : Cursor} {e ch : Char} {more acc : List Char} {fuel : Nat}
    (hrest : c.rest = '\\' :: e :: more) (hu : e ≠ 'u') (he : shortEscape? e = some ch) :
    readStringBody (fuel + 1) c acc = readStringBody fuel c.next.next (ch :: acc) := by
  have h1 : c.next.rest = e :: more := Cursor.next_rest hrest
  simp only [readStringBody, hrest, h1]
  rw [he]

theorem readStringBody_plain {c : Cursor} {ch : Char} {more acc : List Char} {fuel : Nat}
    (hrest : c.rest = ch :: more) (hq : ch ≠ '"') (hb : ch ≠ '\\') (hc : ¬ ch.toNat < 0x20) :
    readStringBody (fuel + 1) c acc = readStringBody fuel c.next (ch :: acc) := by
  simp [readStringBody, hrest, hc]

/-- One written character of a string reads back as itself, in one step. -/
theorem readStringBody_escapeChar (ch : Char) {more acc : List Char} {fuel : Nat} {c : Cursor}
    (hrest : c.rest = escapeChar ch ++ more) :
    ∃ c', readStringBody (fuel + 1) c acc = readStringBody fuel c' (ch :: acc) ∧ c'.At c more := by
  have hof : Char.ofNat ch.toNat = ch := Char.ofNat_toNat ch
  -- a two-character escape: the backslash and the escape's letter
  have short : ∀ e, escapeChar ch = ['\\', e] → e ≠ 'u' → shortEscape? e = some ch →
      ∃ c', readStringBody (fuel + 1) c acc = readStringBody fuel c' (ch :: acc) ∧ c'.At c more := by
    intro e hesc hu he
    rw [hesc] at hrest
    exact ⟨c.next.next, readStringBody_short hrest hu he,
      (Cursor.next_at (Cursor.next_rest hrest)).trans (Cursor.next_at hrest)⟩
  unfold escapeChar at hrest short
  split_ifs at hrest short with h1 h2 h3 h4 h5 h6 h7 h8
  · exact short '"' rfl (by decide) (by subst h1; rfl)
  · exact short '\\' rfl (by decide) (by subst h2; rfl)
  · exact short 'n' rfl (by decide) (by subst h3; rfl)
  · exact short 'r' rfl (by decide) (by subst h4; rfl)
  · exact short 't' rfl (by decide) (by subst h5; rfl)
  · exact short 'b' rfl (by decide) (by rw [← hof, h6]; rfl)
  · exact short 'f' rfl (by decide) (by rw [← hof, h7]; rfl)
  · -- any other control character is written as a `\u` escape of six characters
    have hu : c.next.rest =
        'u' :: '0' :: '0' :: hexDigit (ch.toNat / 16) :: hexDigit (ch.toNat % 16) :: more :=
      Cursor.next_rest hrest
    have hesc := readUnicodeEscape_control h8 (Cursor.next_rest hu)
    have h3 := Cursor.next_rest (Cursor.next_rest hu)
    have h5 := Cursor.next_rest (Cursor.next_rest h3)
    refine ⟨c.next.next.next.next.next.next, ?_, Cursor.next_rest h5, by simp⟩
    simp only [readStringBody, hrest, List.cons_append, hu, hesc, bind, Except.bind]
  · exact ⟨c.next, readStringBody_plain hrest h1 h2 h8, Cursor.next_at hrest⟩

/-- The escaped characters of a string and the closing quote read back as the
characters, after those read before. -/
theorem readStringBody_escaped (s : List Char) {acc rest : List Char} {fuel : Nat} {c : Cursor}
    (hrest : c.rest = s.flatMap escapeChar ++ '"' :: rest) (hfuel : s.length < fuel) :
    ∃ c', readStringBody fuel c acc = .ok (String.ofList (acc.reverse ++ s), c') ∧ c'.At c rest := by
  induction s generalizing acc fuel c with
  | nil =>
    obtain ⟨fuel, rfl⟩ : ∃ f, fuel = f + 1 := ⟨fuel - 1, by simp at hfuel; omega⟩
    refine ⟨c.next, ?_, Cursor.next_at hrest⟩
    simp [readStringBody, hrest]
  | cons ch s ih =>
    obtain ⟨fuel, rfl⟩ : ∃ f, fuel = f + 1 := ⟨fuel - 1, by simp at hfuel; omega⟩
    rw [List.flatMap_cons, List.append_assoc] at hrest
    obtain ⟨c₁, hstep, hc₁⟩ := readStringBody_escapeChar ch hrest
    obtain ⟨c', hread, hc'⟩ := ih hc₁.rest_eq (by simp at hfuel; omega)
    refine ⟨c', ?_, hc'.trans hc₁⟩
    rw [hstep, hread, List.reverse_cons, List.append_assoc, List.singleton_append]

/-- No character is written shorter than itself. -/
theorem length_le_flatMap_escapeChar (s : List Char) :
    s.length ≤ (s.flatMap escapeChar).length := by
  induction s with
  | nil => simp
  | cons ch s ih =>
    have : 1 ≤ (escapeChar ch).length := by
      unfold escapeChar
      split_ifs <;> simp
    simp only [List.flatMap_cons, List.length_append, List.length_cons]
    omega

/-- The text of a quoted string: the quote, each character escaped, the quote. -/
theorem quote_toList (s : String) :
    (quote s).toList = '"' :: (s.toList.flatMap escapeChar ++ ['"']) := by
  simp [quote]

/-- After its opening quote, a quoted string reads back as the string. -/
theorem readString_quoted {s : String} {rest : List Char} {c : Cursor}
    (hrest : c.rest = s.toList.flatMap escapeChar ++ '"' :: rest) (hfuel : c.rest.length < c.fuel) :
    ∃ c', readString c = .ok (s, c') ∧ c'.At c rest := by
  have hlen : s.toList.length < c.fuel := by
    have := length_le_flatMap_escapeChar s.toList
    rw [hrest] at hfuel
    simp only [List.length_append, List.length_cons] at hfuel
    omega
  obtain ⟨c', hread, hc'⟩ := readStringBody_escaped s.toList hrest hlen
  rw [List.reverse_nil, List.nil_append, String.ofList_toList] at hread
  exact ⟨c', hread, hc'⟩

/-! ## Numbers -/

theorem toNat_of_isDigit {ch : Char} (h : ch.isDigit = true) : 48 ≤ ch.toNat ∧ ch.toNat ≤ 57 := by
  simp only [Char.isDigit, Bool.and_eq_true, decide_eq_true_eq] at h
  exact ⟨h.1, h.2⟩

theorem digit?_of_isDigit {ch : Char} (h : ch.isDigit = true) :
    digit? ch = some (ch.toNat - '0'.toNat) := by
  have hle : '0' ≤ ch ∧ ch ≤ '9' := by
    simp only [Char.isDigit, Bool.and_eq_true, decide_eq_true_eq] at h
    exact ⟨h.1, h.2⟩
  simp [digit?, hle]

theorem isBlank_of_isDigit {ch : Char} (h : ch.isDigit = true) : Cursor.isBlank ch = false := by
  simp only [Cursor.isBlank, Bool.or_eq_false_iff, decide_eq_false_iff_not]
  refine ⟨⟨⟨?_, ?_⟩, ?_⟩, ?_⟩ <;> rintro rfl <;> simp at h

theorem Closes.no_digit {rest : List Char} (h : Closes rest) : rest.head?.bind digit? = none := by
  cases rest with
  | nil => rfl
  | cons ch r =>
    rcases h ch r rfl with rfl | rfl | rfl <;> rfl

/-- Before what may follow a value, an integer part is the whole number. -/
theorem readNumberTail_closed {positive : Bool} {sig : Nat} {c : Cursor} (h : Closes c.rest) :
    readNumberTail positive sig c = .ok (readNumberTail.integer positive sig, c) := by
  unfold readNumberTail
  split
  · rename_i r hr
    rcases h _ _ hr with h | h | h <;> cases h
  · rename_i e r _ hr
    rcases h _ _ hr with rfl | rfl | rfl <;> simp
  · rfl

theorem overflows_false {acc d bound : Nat} (h : acc * 10 + d ≤ bound) :
    overflows acc d bound = false := by
  simp only [overflows, Bool.and_eq_false_iff, decide_eq_false_iff_not, Bool.or_eq_false_iff]
  omega

/-- Further digits never make a number smaller. -/
theorem le_ofDigitChars (ds : List Char) (init : Nat) : init ≤ Nat.ofDigitChars 10 ds init := by
  rw [Nat.ofDigitChars_eq_ofDigitChars_zero]
  exact Nat.le_add_right_of_le (Nat.le_mul_of_pos_left init (Nat.pow_pos (by decide)))

/-- One more digit of a significand that, continued by the digits after it,
stays within 64 bits: the digit is read as its value, the significand takes it
without overflow, and the digits after it continue the new significand to the
same whole. -/
theorem digit_step {ch : Char} {ds : List Char} {sig : Nat} (hch : ch.isDigit = true)
    (hfit : Nat.ofDigitChars 10 (ch :: ds) sig ≤ maxUnsigned) :
    ∃ d, digit? ch = some d ∧ overflows sig d maxUnsigned = false ∧
      Nat.ofDigitChars 10 (ch :: ds) sig = Nat.ofDigitChars 10 ds (sig * 10 + d) := by
  have hsig : Nat.ofDigitChars 10 (ch :: ds) sig =
      Nat.ofDigitChars 10 ds (sig * 10 + (ch.toNat - '0'.toNat)) := by
    rw [Nat.ofDigitChars_cons, Nat.mul_comm]
  refine ⟨_, digit?_of_isDigit hch, ?_, hsig⟩
  rw [hsig] at hfit
  exact overflows_false (Nat.le_trans (le_ofDigitChars ds _) hfit)

/-- Digits whose value fits in 64 bits are read as that value, up to what
follows them.  The loop's invariant is that the value read so far, continued
by the digits left, is the whole value; so no step overflows. -/
theorem readDigits_digits (positive : Bool) {rest : List Char} (hstop : rest.head?.bind digit? = none)
    (ds : List Char) (hds : ∀ ch ∈ ds, ch.isDigit = true) {sig fuel : Nat} {c : Cursor}
    (hrest : c.rest = ds ++ rest) (hlen : ds.length ≤ fuel)
    (hfit : Nat.ofDigitChars 10 ds sig ≤ maxUnsigned) :
    ∃ c', readDigits positive sig c fuel = readNumberTail positive (Nat.ofDigitChars 10 ds sig) c' ∧
      c'.At c rest := by
  induction ds generalizing sig fuel c with
  | nil =>
    refine ⟨c, ?_, hrest, rfl⟩
    cases fuel with
    | zero => rfl
    | succ f => simp [readDigits, hrest, hstop]
  | cons ch ds ih =>
    obtain ⟨f, rfl⟩ : ∃ f, fuel = f + 1 := ⟨fuel - 1, by simp at hlen; omega⟩
    rw [List.cons_append] at hrest
    obtain ⟨d, hd, hno, hsig⟩ := digit_step (hds ch (by simp)) hfit
    rw [hsig] at hfit ⊢
    obtain ⟨c', hread, hc'⟩ := ih (fun x hx => hds x (by simp [hx])) (Cursor.next_rest hrest)
      (by simp at hlen; omega) hfit
    refine ⟨c', ?_, hc'.trans (Cursor.next_at hrest)⟩
    simp only [readDigits, hrest, List.head?_cons, Option.bind_some, hd, hno, Bool.false_eq_true,
      if_false]
    exact hread

/-- A positive number's decimal digits do not start with a zero. -/
theorem toDigits_head_ne_zero {n : Nat} (hn : 0 < n) : (Nat.toDigits 10 n).head? ≠ some '0' := by
  induction n using Nat.strongRecOn with
  | ind n ih =>
    rw [Nat.toDigits_eq_if (by decide)]
    split
    · simp only [List.head?_cons, ne_eq, Option.some.injEq, Nat.digitChar_eq_zero]
      omega
    · rw [List.head?_append_of_ne_nil _ Nat.toDigits_ne_nil]
      exact ih (n / 10) (by omega) (by omega)

/-- The decimal digits of a number that fits in 64 bits, before anything but a
digit, are read as it. -/
theorem readNumber_numeral (positive : Bool) {n : Nat} (hn : n ≤ maxUnsigned) {c : Cursor}
    {rest : List Char} (hrest : c.rest = Nat.toDigits 10 n ++ rest) (hfuel : c.rest.length < c.fuel)
    (hstop : rest.head?.bind digit? = none) :
    ∃ c', readNumber positive c = readNumberTail positive n c' ∧ c'.At c rest := by
  have hall : ∀ ch ∈ Nat.toDigits 10 n, ch.isDigit = true :=
    fun ch h => Nat.isDigit_of_mem_toDigits (by decide) (by decide) h
  rcases Nat.eq_zero_or_pos n with rfl | hpos
  · -- a zero stands alone
    have h0 : c.rest = '0' :: rest := by simpa [Nat.toDigits_zero] using hrest
    refine ⟨c.next, ?_, Cursor.next_at h0⟩
    simp [readNumber, h0, Cursor.next_rest h0, hstop, digit?]
  · obtain ⟨d0, ds, hds⟩ : ∃ d0 ds, Nat.toDigits 10 n = d0 :: ds :=
      List.exists_cons_of_ne_nil Nat.toDigits_ne_nil
    have hd0 : d0.isDigit = true := hall d0 (by simp [hds])
    have hne : d0 ≠ '0' := fun h => toDigits_head_ne_zero hpos (by simp [hds, h])
    have hrange := toNat_of_isDigit hd0
    have h48 : d0.toNat ≠ 48 := fun h => hne (Char.toNat_inj.1 (by simpa using h))
    -- the first digit is not a zero, so the digits after it are read on
    obtain ⟨k, hk⟩ : ∃ k, d0.toNat - '0'.toNat = k + 1 := ⟨d0.toNat - 49, by simp; omega⟩
    have hdigit : digit? d0 = some (k + 1) := by rw [digit?_of_isDigit hd0, hk]
    have hval : Nat.ofDigitChars 10 ds (k + 1) = n := by
      have := @Nat.ofDigitChars_ten_toDigits n
      rw [hds, Nat.ofDigitChars_cons, hk] at this
      simpa using this
    rw [hds, List.cons_append] at hrest
    have hlen : ds.length ≤ c.fuel := by simp [hrest] at hfuel; omega
    obtain ⟨c', hread, hc'⟩ := readDigits_digits positive hstop ds
      (fun x hx => hall x (by simp [hds, hx])) (Cursor.next_rest hrest) hlen
      (show Nat.ofDigitChars 10 ds (k + 1) ≤ maxUnsigned by rw [hval]; exact hn)
    refine ⟨c', ?_, hc'.trans (Cursor.next_at hrest)⟩
    rw [hval] at hread
    simp only [readNumber, hrest, hdigit]
    exact hread

/-- Digits and a power of ten that scale to a double are read as it, with
the sign read before them; where a failure would be reported plays no part. -/
theorem fromParts_of_scaleByTen {positive : Bool} {sig : Nat} {e : Int} {g : Float} (at_ : Pos)
    (h : scaleByTen sig e = some g) :
    fromParts positive sig e at_ = .ok (if positive then g else -g) := by
  simp only [fromParts, h]

/-- The digits of a fraction are read on while the significand fits in 64
bits, each lowering the exponent by one; before what may follow a value, the
double is made from the significand and that exponent.  As for the integral
part, the invariant is that the significand so far, continued by the digits
left, is the whole significand. -/
theorem readDecimalLoop_digits (positive : Bool) (before : Int) {rest : List Char}
    (hstop : Closes rest) (fs : List Char) (hfs : ∀ ch ∈ fs, ch.isDigit = true)
    {sig fuel : Nat} {after : Int} {c : Cursor} (hrest : c.rest = fs ++ rest)
    (hlen : fs.length < fuel) (hfit : Nat.ofDigitChars 10 fs sig ≤ maxUnsigned)
    (hafter : after - fs.length ≠ 0) :
    ∃ c', c'.At c rest ∧ readDecimal.loop positive before sig after c fuel =
      (do
        let f ← fromParts positive (Nat.ofDigitChars 10 fs sig) (before + (after - fs.length)) c'.pos
        .ok (f, c')) := by
  induction fs generalizing sig fuel after c with
  | nil =>
    obtain ⟨f, rfl⟩ : ∃ f, fuel = f + 1 := ⟨fuel - 1, by simp at hlen; omega⟩
    have hafter' : after ≠ 0 := by simpa using hafter
    refine ⟨c, ⟨hrest, rfl⟩, ?_⟩
    simp only [readDecimal.loop, hrest, List.nil_append, hstop.no_digit, hafter', if_false,
      List.length_nil, Int.natCast_zero, Int.sub_zero, Nat.ofDigitChars_nil]
    -- what follows the last digit is no exponent mark
    cases rest with
    | nil => rfl
    | cons ch r => rcases hstop ch r rfl with rfl | rfl | rfl <;> rfl
  | cons ch fs ih =>
    obtain ⟨f, rfl⟩ : ∃ f, fuel = f + 1 := ⟨fuel - 1, by simp at hlen; omega⟩
    rw [List.cons_append] at hrest
    obtain ⟨d, hd, hno, hsig⟩ := digit_step (hfs ch (by simp)) hfit
    have hexp : after - 1 - (fs.length : Int) = after - ((ch :: fs).length : Int) := by
      simp only [List.length_cons]
      omega
    rw [hsig] at hfit ⊢
    rw [← hexp] at hafter ⊢
    obtain ⟨c', hc', hread⟩ := ih (fun x hx => hfs x (by simp [hx])) (Cursor.next_rest hrest)
      (by simp at hlen; omega) hfit hafter
    refine ⟨c', hc'.trans (Cursor.next_at hrest), ?_⟩
    simp only [readDecimal.loop, hrest, List.head?_cons, Option.bind_some, hd, hno,
      Bool.false_eq_true, if_false]
    exact hread

/-- A number written positionally, the digits of its integral part, a point
and the digits of its fraction, all within 64 bits, is read as the double its
digits scale to, scaled down by the length of the fraction. -/
theorem readNumber_positional (positive : Bool) {whole : Nat} {fs rest : List Char} {c : Cursor}
    (hrest : c.rest = Nat.toDigits 10 whole ++ '.' :: (fs ++ rest)) (hfuel : c.rest.length < c.fuel)
    (hstop : Closes rest) (hfs : fs ≠ []) (hdigits : ∀ ch ∈ fs, ch.isDigit = true)
    (hfit : Nat.ofDigitChars 10 fs whole ≤ maxUnsigned) {g : Float}
    (hvalue : scaleByTen (Nat.ofDigitChars 10 fs whole) (-(fs.length : Int)) = some g) :
    ∃ c', readNumber positive c = .ok (.float (if positive then g else -g), c') ∧ c'.At c rest := by
  -- the integral part is read as an integer, up to the point
  obtain ⟨c₁, hint, hc₁⟩ := readNumber_numeral positive
    (Nat.le_trans (le_ofDigitChars fs whole) hfit) hrest hfuel rfl
  have hpoint : c₁.rest = '.' :: (fs ++ rest) := hc₁.rest_eq
  have hc₂ := Cursor.next_at hpoint
  have hlen : fs.length < c₁.next.fuel := by
    rw [hc₂.fuel_eq, hc₁.fuel_eq]
    rw [hrest] at hfuel
    simp only [List.length_append, List.length_cons] at hfuel
    omega
  have hafter : (0 : Int) - fs.length ≠ 0 := by
    have : fs.length ≠ 0 := by simpa using hfs
    omega
  -- then the fraction, up to what follows the number
  obtain ⟨c', hc', hloop⟩ :=
    readDecimalLoop_digits positive 0 hstop fs hdigits hc₂.rest_eq hlen hfit hafter
  have hexp : (0 : Int) + (0 - fs.length) = -(fs.length : Int) := by omega
  rw [hexp, fromParts_of_scaleByTen _ hvalue] at hloop
  refine ⟨c', ?_, hc'.trans (hc₂.trans hc₁)⟩
  rw [hint]
  simp only [readNumberTail, hpoint, readDecimal, hloop]
  rfl

end TopicHub.Json
