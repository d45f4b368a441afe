/-
  Proofs/DocumentText.lean --- the written text of a document reads back.

  WHAT IS READ BACK.  Every document is written (`Json.render`), but not every
  written text reads back as the document: a double is written in digits the
  reader must turn back into the same double, and the reader refuses to nest
  arrays and objects as deep as the depth limit.  `ReadsBack budget j`
  says both things of `j`: each of its doubles reads back (`FloatReadsBack`,
  a property of the double that this library does not decide in general), its
  integers are of their kind's range, and it nests less deep than `budget`.
  A double written positionally reads back when its digits, scaled as the
  reader scales them, give it back (`FloatReadsBack.of_positional`): a
  computation on that one double.

  THE MAIN STATEMENTS.  Such a document's text, followed by anything that may
  follow a value, reads back as the document and leaves the reader right
  after it (`ReadsBack.readsAt`); so reading a whole written document gives
  it back (`read_render`).  A written object whose tag member names a
  variant reads back through `readTagged` as whatever the variant's body
  builds from the other members, in their order, wherever the tag stands
  among them (`readTagged_render`).

  HOW.  The writer puts no blank anywhere and starts every value with a
  character that is neither blank nor a closing bracket (`render_opens`), so
  each of the reader's skips and branch tests is decided by the text.  Each
  reading function gets one lemma per step it takes on written text (a member,
  an item, the closing bracket), and the lists of members and items are read
  by induction over them.
-/
import TopicHub.Decimal.Notation
import TopicHub.Proofs.ScalarText

set_option autoImplicit false

namespace TopicHub.Decimal

/-- Laid out by any notation, a decimal starts with its sign and then a digit. -/
theorem Notation.render_head (fmt : Notation) (neg : Bool) (d : Dec) :
    ∃ ch more, (fmt.render neg d).toList = (if neg then "-" else "").toList ++ ch :: more ∧
      ch.isDigit = true := by
  obtain ⟨d0, ds, hds⟩ : ∃ d0 ds, Nat.toDigits 10 d.digits = d0 :: ds :=
    List.exists_cons_of_ne_nil Nat.toDigits_ne_nil
  have hmem : d0 ∈ Nat.toDigits 10 d.digits := by simp [hds]
  have hd0 : d0.isDigit = true := Nat.isDigit_of_mem_toDigits (by decide) (by decide) hmem
  unfold Notation.render
  generalize (if neg then "-" else "") = sign
  generalize (if fmt.pointZero then ".0" else "") = point
  simp only [Nat.toList_repr, hds]
  by_cases h0 : d.digits = 0
  · exact ⟨'0', point.toList, by simp [h0], rfl⟩
  rw [if_neg h0]
  split
  · -- positional: the digits, the leading digits before the point, or a zero
    split_ifs
    · exact ⟨d0, _, by simp; rfl, hd0⟩
    · exact ⟨d0, _, by simp [List.take_succ_cons]; rfl, hd0⟩
    · exact ⟨'0', _, by simp; rfl, rfl⟩
  · -- scientific: the mantissa starts with the leading digit
    split
    · rename_i h
      cases h
    · rename_i c h
      obtain ⟨rfl, -⟩ := List.cons.inj h
      exact ⟨d0, _, by simp; rfl, hd0⟩
    · rename_i c more _ h
      obtain ⟨rfl, -⟩ := List.cons.inj h
      exact ⟨d0, _, by simp; rfl, hd0⟩

end TopicHub.Decimal

namespace TopicHub.Json

open Scalar

/-! ## The shape of written text -/

/-- A character that starts the text of a document. -/
def Opens (ch : Char) : Prop :=
  ch = 'n' ∨ ch = 't' ∨ ch = 'f' ∨ ch = '-' ∨ ch = '"' ∨ ch = '[' ∨ ch = '{' ∨ ch.isDigit = true

theorem Opens.not_blank {ch : Char} (h : Opens ch) : Cursor.isBlank ch = false := by
  rcases h with rfl | rfl | rfl | rfl | rfl | rfl | rfl | h
  any_goals rfl
  exact isBlank_of_isDigit h

theorem Opens.ne_close {ch : Char} (h : Opens ch) : ch ≠ ']' := by
  rcases h with rfl | rfl | rfl | rfl | rfl | rfl | rfl | h
  any_goals decide
  rintro rfl
  revert h
  decide

/-- The text of a double starts with `null`, a minus sign or a digit. -/
theorem Number.render_float_opens (x : Float) :
    ∃ ch more, (Number.render (.float x)).toList = ch :: more ∧ Opens ch := by
  simp only [Number.render, floatText?, Decimal.Notation.ofFloat]
  split
  · exact ⟨'n', _, rfl, .inl rfl⟩
  · obtain ⟨ch, more, htext, hd⟩ := Decimal.Notation.render_head numberNotation
      (Decimal.signBit x) ((Decimal.Binary.ofBits x.toBits).shortest numberNotation.tie)
    simp only [Option.getD_some, htext]
    cases Decimal.signBit x
    · exact ⟨ch, more, rfl, .inr (.inr (.inr (.inr (.inr (.inr (.inr hd))))))⟩
    · exact ⟨'-', _, rfl, .inr (.inr (.inr (.inl rfl)))⟩

/-- The text of an integer: its decimal digits, after a minus sign if it is negative. -/
theorem Number.render_signed_toList {i : Int} (h : i < 0) :
    (Number.render (.signed i)).toList = '-' :: Nat.toDigits 10 i.natAbs := by
  obtain ⟨m, rfl⟩ : ∃ m, i = Int.negSucc m := Int.eq_negSucc_of_lt_zero h
  simp [Number.render, toString, Int.repr]

@[simp] theorem render_arr_toList (items : List Json) :
    (Json.render (.arr items)).toList = '[' :: ((Json.writeItems "" items).toList ++ [']']) := by
  simp [Json.render, Json.writeOnto, Json.writeItems_eq "[" items]

@[simp] theorem render_obj_toList (fields : List (String × Json)) :
    (Json.render (.obj fields)).toList = '{' :: ((Json.writeFields "" fields).toList ++ ['}']) := by
  simp [Json.render, Json.writeOnto, Json.writeFields_eq "\x7b" fields]

/-- The text of the items after the first: each after a comma. -/
def laterItems (items : List Json) : List Char := items.flatMap fun j => ',' :: (Json.render j).toList

/-- Items are written one after the other, with a comma before all but the first. -/
theorem writeItems_cons_toList (j : Json) (items : List Json) :
    (Json.writeItems "" (j :: items)).toList = (Json.render j).toList ++ laterItems items := by
  induction items generalizing j with
  | nil => simp [Json.writeItems, Json.render, laterItems]
  | cons k items ih =>
    rw [Json.writeItems, Json.writeItems_eq, String.toList_append, ih k]
    · simp [Json.render, laterItems]
    · exact List.cons_ne_nil k items

/-- The text of a member: its key quoted, a colon, its value. -/
def memberText (p : String × Json) : List Char := (quote p.1).toList ++ ':' :: (Json.render p.2).toList

/-- The text of the members after the first: each after a comma. -/
def laterMembers (fields : List (String × Json)) : List Char := fields.flatMap fun p => ',' :: memberText p

/-- Members are written one after the other, with a comma before all but the first. -/
theorem writeFields_cons_toList (p : String × Json) (fields : List (String × Json)) :
    (Json.writeFields "" (p :: fields)).toList = memberText p ++ laterMembers fields := by
  induction fields generalizing p with
  | nil =>
    obtain ⟨k, v⟩ := p
    simp [Json.writeFields, memberText, Json.render, laterMembers, Json.writeOnto_eq (quote k ++ ":") v]
  | cons q fields ih =>
    obtain ⟨k, v⟩ := p
    rw [Json.writeFields, Json.writeFields_eq, String.toList_append, ih q]
    · simp [memberText, Json.render, laterMembers, Json.writeOnto_eq (quote k ++ ":") v]
    · exact List.cons_ne_nil q fields

/-- The decimal digits of a number start with a digit. -/
theorem toDigits_head (n : Nat) : ∃ ch more, Nat.toDigits 10 n = ch :: more ∧ ch.isDigit = true := by
  obtain ⟨d0, ds, hds⟩ : ∃ d0 ds, Nat.toDigits 10 n = d0 :: ds :=
    List.exists_cons_of_ne_nil Nat.toDigits_ne_nil
  have hmem : d0 ∈ Nat.toDigits 10 n := by simp [hds]
  exact ⟨d0, ds, hds, Nat.isDigit_of_mem_toDigits (by decide) (by decide) hmem⟩

theorem toDigits_opens (n : Nat) : ∃ ch more, Nat.toDigits 10 n = ch :: more ∧ Opens ch := by
  obtain ⟨ch, more, hds, hd⟩ := toDigits_head n
  exact ⟨ch, more, hds, .inr (.inr (.inr (.inr (.inr (.inr (.inr hd))))))⟩

/-- Every document's text starts with a character that opens a value. -/
theorem render_opens (j : Json) : ∃ ch more, (Json.render j).toList = ch :: more ∧ Opens ch := by
  cases j with
  | null => exact ⟨'n', _, rfl, .inl rfl⟩
  | bool b =>
    cases b
    · exact ⟨'f', _, rfl, .inr (.inr (.inl rfl))⟩
    · exact ⟨'t', _, rfl, .inr (.inl rfl)⟩
  | num n =>
    cases n with
    | unsigned n => simpa [Json.render, Json.writeOnto, Number.render] using toDigits_opens n
    | signed i =>
      rcases Int.lt_or_le i 0 with h | h
      · exact ⟨'-', _, by simpa [Json.render, Json.writeOnto] using Number.render_signed_toList h,
          .inr (.inr (.inr (.inl rfl)))⟩
      · obtain ⟨m, rfl⟩ := Int.eq_ofNat_of_zero_le h
        simpa [Json.render, Json.writeOnto, Number.render, toString, Int.repr] using toDigits_opens m
    | float x => simpa [Json.render, Json.writeOnto] using Number.render_float_opens x
  | str s =>
    refine ⟨'"', s.toList.flatMap escapeChar ++ ['"'], ?_, .inr (.inr (.inr (.inr (.inl rfl))))⟩
    simp [Json.render, Json.writeOnto, quote_toList]
  | arr items => exact ⟨'[', _, render_arr_toList items, .inr (.inr (.inr (.inr (.inr (.inl rfl)))))⟩
  | obj fields =>
    exact ⟨'{', _, render_obj_toList fields, .inr (.inr (.inr (.inr (.inr (.inr (.inl rfl))))))⟩

/-! ## What reads back -/

/-- The double `x` reads back from its text: wherever the text stands before
what may follow a value, the reader gives `x` and stops right after it. -/
def FloatReadsBack (x : Float) : Prop :=
  ∀ (budget fuel : Nat) (c : Cursor) (rest : List Char),
    c.rest = (Number.render (.float x)).toList ++ rest → c.rest.length < c.fuel → Closes rest →
      ∃ c', readValue budget (fuel + 1) c = .ok (.num (.float x), c') ∧ c'.At c rest

/-- A number whose text reads back: an integer in the range of its kind, or a
double that reads back. -/
def Number.ReadsBack : Number → Prop
  | .unsigned n => n ≤ maxUnsigned
  | .signed i => -Int.pow 2 63 ≤ i ∧ i < 0
  | .float x => FloatReadsBack x

/-- A document whose text reads back with `budget` left of the depth limit:
its numbers read back, and its arrays and objects nest less than `budget` deep. -/
inductive ReadsBack : Nat → Json → Prop
  | null {budget : Nat} : ReadsBack budget .null
  | bool {budget : Nat} (b : Bool) : ReadsBack budget (.bool b)
  | num {budget : Nat} {n : Number} (h : n.ReadsBack) : ReadsBack budget (.num n)
  | str {budget : Nat} (s : String) : ReadsBack budget (.str s)
  | arr {budget : Nat} {items : List Json} (hdeep : 1 < budget)
      (h : ∀ j ∈ items, ReadsBack (budget - 1) j) : ReadsBack budget (.arr items)
  | obj {budget : Nat} {fields : List (String × Json)} (hdeep : 1 < budget)
      (h : ∀ p ∈ fields, ReadsBack (budget - 1) p.2) : ReadsBack budget (.obj fields)

/-- Read with `budget` left of the depth limit, the text of `j` followed by
what may follow a value gives `j` back and leaves the reader right after it. -/
def ReadsAt (budget : Nat) (j : Json) : Prop :=
  ∀ {fuel : Nat} {c : Cursor} {rest : List Char}, c.rest = (Json.render j).toList ++ rest →
    c.rest.length < c.fuel → (Json.render j).toList.length < fuel → Closes rest →
      ∃ c', readValue budget fuel c = .ok (j, c') ∧ c'.At c rest

/-! ## Scalars as values -/

section Scalars

variable {budget fuel : Nat} {c : Cursor} {rest : List Char}

set_option linter.unusedSimpArgs false in
/-- A digit starts a number. -/
theorem readValue_digit {c' : Cursor} {ch : Char} {more : List Char} {n : Number}
    (hrest : c.rest = ch :: more) (hd : ch.isDigit = true) (hnum : readNumber true c = .ok (n, c')) :
    readValue budget (fuel + 1) c = .ok (.num n, c') := by
  have hskip := Cursor.skipBlanks_of_head hrest (isBlank_of_isDigit hd)
  -- the head is none of the characters that open another kind of value
  have h : ch ≠ 'n' ∧ ch ≠ 't' ∧ ch ≠ 'f' ∧ ch ≠ '-' ∧ ch ≠ '"' ∧ ch ≠ '[' ∧ ch ≠ '{' := by
    refine ⟨?_, ?_, ?_, ?_, ?_, ?_, ?_⟩ <;> (rintro rfl; revert hd; decide)
  obtain ⟨h1, h2, h3, h4, h5, h6, h7⟩ := h
  simp only [readValue, hskip, hrest, h1, h2, h3, h4, h5, h6, h7, digit?_of_isDigit hd, hnum]
  rfl

/-- A minus sign starts a negative number. -/
theorem readValue_minus {c' : Cursor} {more : List Char} {n : Number} (hrest : c.rest = '-' :: more)
    (hnum : readNumber false c.next = .ok (n, c')) :
    readValue budget (fuel + 1) c = .ok (.num n, c') := by
  simp [readValue, Cursor.skipBlanks_of_head hrest rfl, hrest, hnum, bind, Except.bind]

theorem readValue_null (hrest : c.rest = (Json.render .null).toList ++ rest) :
    ∃ c', readValue budget (fuel + 1) c = .ok (.null, c') ∧ c'.At c rest := by
  have hrest' : c.rest = 'n' :: (['u', 'l', 'l'] ++ rest) := hrest
  obtain ⟨c', hread, hc'⟩ := readIdent_prefix ['u', 'l', 'l'] (Cursor.next_rest hrest')
  refine ⟨c', ?_, hc'.trans (Cursor.next_at hrest')⟩
  simp [readValue, Cursor.skipBlanks_of_head hrest' rfl, hrest', hread, bind, Except.bind]

theorem readValue_bool (b : Bool) (hrest : c.rest = (Json.render (.bool b)).toList ++ rest) :
    ∃ c', readValue budget (fuel + 1) c = .ok (.bool b, c') ∧ c'.At c rest := by
  cases b with
  | false =>
    have hrest' : c.rest = 'f' :: (['a', 'l', 's', 'e'] ++ rest) := hrest
    obtain ⟨c', hread, hc'⟩ := readIdent_prefix ['a', 'l', 's', 'e'] (Cursor.next_rest hrest')
    refine ⟨c', ?_, hc'.trans (Cursor.next_at hrest')⟩
    simp [readValue, Cursor.skipBlanks_of_head hrest' rfl, hrest', hread, bind, Except.bind]
  | true =>
    have hrest' : c.rest = 't' :: (['r', 'u', 'e'] ++ rest) := hrest
    obtain ⟨c', hread, hc'⟩ := readIdent_prefix ['r', 'u', 'e'] (Cursor.next_rest hrest')
    refine ⟨c', ?_, hc'.trans (Cursor.next_at hrest')⟩
    simp [readValue, Cursor.skipBlanks_of_head hrest' rfl, hrest', hread, bind, Except.bind]

theorem readValue_str (s : String) (hrest : c.rest = (Json.render (.str s)).toList ++ rest)
    (hfueled : c.rest.length < c.fuel) :
    ∃ c', readValue budget (fuel + 1) c = .ok (.str s, c') ∧ c'.At c rest := by
  have hrest' : c.rest = '"' :: (s.toList.flatMap escapeChar ++ '"' :: rest) := by
    simpa [Json.render, Json.writeOnto, quote_toList] using hrest
  have hnext := Cursor.next_at hrest'
  obtain ⟨c', hread, hc'⟩ := readString_quoted hnext.rest_eq (hnext.fueled (by simp [hrest']) hfueled)
  refine ⟨c', ?_, hc'.trans hnext⟩
  simp [readValue, Cursor.skipBlanks_of_head hrest' rfl, hrest', hread, bind, Except.bind]

theorem readValue_unsigned {n : Nat} (hn : n ≤ maxUnsigned)
    (hrest : c.rest = (Json.render (.num (.unsigned n))).toList ++ rest)
    (hfueled : c.rest.length < c.fuel) (hstop : Closes rest) :
    ∃ c', readValue budget (fuel + 1) c = .ok (.num (.unsigned n), c') ∧ c'.At c rest := by
  have hrest' : c.rest = Nat.toDigits 10 n ++ rest := by
    simpa [Json.render, Json.writeOnto, Number.render] using hrest
  obtain ⟨c', hnum, hc'⟩ := readNumber_numeral true hn hrest' hfueled hstop.no_digit
  rw [readNumberTail_closed (hc'.rest_eq ▸ hstop)] at hnum
  obtain ⟨ch, more, hds, hd⟩ := toDigits_head n
  exact ⟨c', readValue_digit (by rw [hrest', hds, List.cons_append]) hd hnum, hc'⟩

theorem readValue_signed {i : Int} (hi : -Int.pow 2 63 ≤ i ∧ i < 0)
    (hrest : c.rest = (Json.render (.num (.signed i))).toList ++ rest)
    (hfueled : c.rest.length < c.fuel) (hstop : Closes rest) :
    ∃ c', readValue budget (fuel + 1) c = .ok (.num (.signed i), c') ∧ c'.At c rest := by
  have hrest' : c.rest = '-' :: (Nat.toDigits 10 i.natAbs ++ rest) := by
    simpa [Json.render, Json.writeOnto, Number.render_signed_toList hi.2] using hrest
  have hnext := Cursor.next_at hrest'
  have h63 : Int.pow 2 63 = 9223372036854775808 := by decide
  have hfit : i.natAbs ≤ maxUnsigned := by
    have h64 : maxUnsigned = 18446744073709551615 := by decide
    omega
  obtain ⟨c', hnum, hc'⟩ := readNumber_numeral false hfit hnext.rest_eq
    (hnext.fueled (by simp [hrest']) hfueled) hstop.no_digit
  rw [readNumberTail_closed (hc'.rest_eq ▸ hstop)] at hnum
  -- a negative integer down to `-2^63` is read as a signed one
  have hint : readNumberTail.integer false i.natAbs = .signed i := by
    have h63' : Nat.pow 2 63 = 9223372036854775808 := by decide
    simp only [readNumberTail.integer, Bool.false_eq_true, if_false, h63']
    rw [if_neg (by omega), if_pos (by omega)]
    congr 1
    omega
  rw [hint] at hnum
  exact ⟨c', readValue_minus hrest' hnum, hc'.trans hnext⟩

/-- A double written positionally reads back when the reader's arithmetic
gives it back: its text is its sign, the digits of its integral part, a point
and the digits of its fraction, together within 64 bits, and those digits
scaled down by the length of the fraction make the double.  Every condition is
a computation on the one double, so a given double is shown to read back by
evaluating them. -/
theorem FloatReadsBack.of_positional {x : Float} (neg : Bool) (whole : Nat) (fs : List Char)
    (htext : (Number.render (.float x)).toList =
      (if neg then ['-'] else []) ++ Nat.toDigits 10 whole ++ '.' :: fs)
    (hfs : fs ≠ []) (hdigits : fs.all Char.isDigit = true)
    (hfit : Nat.ofDigitChars 10 fs whole ≤ maxUnsigned)
    (hvalue : (scaleByTen (Nat.ofDigitChars 10 fs whole) (-(fs.length : Int))).map
      (fun g => if neg then -g else g) = some x) :
    FloatReadsBack x := by
  intro budget fuel c rest hrest hfueled hstop
  obtain ⟨g, hg, rfl⟩ := Option.map_eq_some_iff.1 hvalue
  have hdigits' : ∀ ch ∈ fs, ch.isDigit = true := List.all_eq_true.1 hdigits
  rw [htext] at hrest
  cases neg with
  | false =>
    -- a digit starts the number
    have hrest' : c.rest = Nat.toDigits 10 whole ++ '.' :: (fs ++ rest) := by simpa using hrest
    obtain ⟨c', hnum, hc'⟩ := readNumber_positional true hrest' hfueled hstop hfs hdigits' hfit hg
    obtain ⟨ch, more, hds, hd⟩ := toDigits_head whole
    exact ⟨c', readValue_digit (by rw [hrest', hds, List.cons_append]) hd hnum, hc'⟩
  | true =>
    -- the minus sign, then the number
    have hrest' : c.rest = '-' :: (Nat.toDigits 10 whole ++ '.' :: (fs ++ rest)) := by
      simpa using hrest
    have hnext := Cursor.next_at hrest'
    obtain ⟨c', hnum, hc'⟩ := readNumber_positional false hnext.rest_eq
      (hnext.fueled (by simp [hrest']) hfueled) hstop hfs hdigits' hfit hg
    exact ⟨c', readValue_minus hrest' hnum, hc'.trans hnext⟩

end Scalars

/-! ## Arrays -/

section Items

variable {budget fuel : Nat} {c : Cursor} {acc : List Json} {rest : List Char}

theorem closes_laterItems (items : List Json) (rest : List Char) :
    Closes (laterItems items ++ ']' :: rest) := by
  cases items with
  | nil => exact closes_cons (.inr (.inl rfl))
  | cons j items => exact closes_cons (.inl rfl)

/-- The closing bracket ends the items, in the order they were read. -/
theorem readItems_close {first : Bool} (hrest : c.rest = ']' :: rest) :
    readItems budget (fuel + 1) c first acc = .ok (acc.reverse, c) := by
  simp [readItems, Cursor.skipBlanks_of_head hrest rfl, hrest]

/-- The first item is read as a value. -/
theorem readItems_first {j : Json} {more : List Char} (hj : ReadsAt budget j)
    (hrest : c.rest = (Json.render j).toList ++ more) (hfueled : c.rest.length < c.fuel)
    (hfuel : (Json.render j).toList.length < fuel) (hstop : Closes more) :
    ∃ c', readItems budget (fuel + 1) c true acc = readItems budget fuel c' false (j :: acc) ∧
      c'.At c more := by
  obtain ⟨ch, tl, htext, hopen⟩ := render_opens j
  have hrest' : c.rest = ch :: (tl ++ more) := by rw [hrest, htext, List.cons_append]
  obtain ⟨c', hread, hc'⟩ := hj hrest hfueled hfuel hstop
  refine ⟨c', ?_, hc'⟩
  simp [readItems, Cursor.skipBlanks_of_head hrest' hopen.not_blank, hrest', hopen.ne_close, hread,
    bind, Except.bind]

/-- An item after a comma is read as a value. -/
theorem readItems_later {j : Json} {more : List Char} (hj : ReadsAt budget j)
    (hrest : c.rest = ',' :: ((Json.render j).toList ++ more)) (hfueled : c.rest.length < c.fuel)
    (hfuel : (Json.render j).toList.length < fuel) (hstop : Closes more) :
    ∃ c', readItems budget (fuel + 1) c false acc = readItems budget fuel c' false (j :: acc) ∧
      c'.At c more := by
  obtain ⟨ch, tl, htext, hopen⟩ := render_opens j
  have hnext := Cursor.next_at hrest
  have hnext' : c.next.rest = ch :: (tl ++ more) := by rw [hnext.rest_eq, htext, List.cons_append]
  obtain ⟨c', hread, hc'⟩ := hj hnext.rest_eq (hnext.fueled (by simp [hrest]) hfueled) hfuel hstop
  refine ⟨c', ?_, hc'.trans hnext⟩
  simp [readItems, Cursor.skipBlanks_of_head hrest rfl, hrest,
    Cursor.skipBlanks_of_head hnext' hopen.not_blank, hnext', hopen.ne_close, hread, bind, Except.bind]

/-- The items after the first, each after a comma, are read up to the
closing bracket. -/
theorem readItems_laterItems {items : List Json} (h : ∀ j ∈ items, ReadsAt budget j)
    (hrest : c.rest = laterItems items ++ ']' :: rest) (hfueled : c.rest.length < c.fuel)
    (hfuel : (laterItems items).length < fuel) :
    ∃ c', readItems budget fuel c false acc = .ok (acc.reverse ++ items, c') ∧ c'.At c (']' :: rest) := by
  induction items generalizing fuel c acc with
  | nil =>
    obtain ⟨f, rfl⟩ : ∃ f, fuel = f + 1 := ⟨fuel - 1, by omega⟩
    have hclose : readItems budget (f + 1) c false acc = .ok (acc.reverse, c) := readItems_close hrest
    exact ⟨c, by simpa using hclose, hrest, rfl⟩
  | cons j items ih =>
    have hlen : (laterItems (j :: items)).length =
        (Json.render j).toList.length + (laterItems items).length + 1 := by
      simp [laterItems]
    rw [hlen] at hfuel
    obtain ⟨f, rfl⟩ : ∃ f, fuel = f + 1 := ⟨fuel - 1, by omega⟩
    have hrest' : c.rest = ',' :: ((Json.render j).toList ++ (laterItems items ++ ']' :: rest)) := by
      simp [hrest, laterItems]
    have hstep : ∃ c₁, readItems budget (f + 1) c false acc = readItems budget f c₁ false (j :: acc) ∧
        c₁.At c (laterItems items ++ ']' :: rest) :=
      readItems_later (h j (by simp)) hrest' hfueled (by omega) (closes_laterItems items rest)
    obtain ⟨c₁, hstep, hc₁⟩ := hstep
    have hread : ∃ c', readItems budget f c₁ false (j :: acc) =
        .ok ((j :: acc).reverse ++ items, c') ∧ c'.At c₁ (']' :: rest) :=
      ih (fun k hk => h k (by simp [hk])) hc₁.rest_eq
        (hc₁.fueled (by simp [hrest']; omega) hfueled) (by omega)
    obtain ⟨c', hread, hc'⟩ := hread
    refine ⟨c', ?_, hc'.trans hc₁⟩
    rw [hstep, hread]
    simp

/-- All items of a written array are read up to its closing bracket. -/
theorem readItems_writeItems {items : List Json} (h : ∀ j ∈ items, ReadsAt budget j)
    (hrest : c.rest = (Json.writeItems "" items).toList ++ ']' :: rest)
    (hfueled : c.rest.length < c.fuel) (hfuel : (Json.writeItems "" items).toList.length + 1 < fuel) :
    ∃ c', readItems budget fuel c true [] = .ok (items, c') ∧ c'.At c (']' :: rest) := by
  obtain ⟨f, rfl⟩ : ∃ f, fuel = f + 1 := ⟨fuel - 1, by omega⟩
  cases items with
  | nil =>
    have hclose : c.rest = ']' :: rest := by simpa [Json.writeItems] using hrest
    have hread : readItems budget (f + 1) c true [] = .ok ([].reverse, c) := readItems_close hclose
    exact ⟨c, by simpa using hread, hclose, rfl⟩
  | cons j items =>
    rw [writeItems_cons_toList] at hrest hfuel
    rw [List.append_assoc] at hrest
    simp only [List.length_append] at hfuel
    have hstep : ∃ c₁, readItems budget (f + 1) c true [] = readItems budget f c₁ false [j] ∧
        c₁.At c (laterItems items ++ ']' :: rest) :=
      readItems_first (h j (by simp)) hrest hfueled (by omega) (closes_laterItems items rest)
    obtain ⟨c₁, hstep, hc₁⟩ := hstep
    have hread : ∃ c', readItems budget f c₁ false [j] = .ok ([j].reverse ++ items, c') ∧
        c'.At c₁ (']' :: rest) :=
      readItems_laterItems (fun k hk => h k (by simp [hk])) hc₁.rest_eq
        (hc₁.fueled (by simp [hrest]) hfueled) (by omega)
    obtain ⟨c', hread, hc'⟩ := hread
    refine ⟨c', ?_, hc'.trans hc₁⟩
    rw [hstep, hread]
    simp

end Items

/-- After the items, the reader passes over the closing bracket or brace. -/
theorem skipBlanks_next_close {c : Cursor} {close : Char} {rest : List Char}
    (hrest : c.rest = close :: rest) (hclose : Cursor.isBlank close = false) :
    c.skipBlanks.next.At c rest := by
  rw [Cursor.skipBlanks_of_head hrest hclose]
  exact Cursor.next_at hrest

theorem readValue_arr {budget fuel : Nat} {c : Cursor} {rest : List Char} {items : List Json}
    (hdeep : 1 < budget) (h : ∀ j ∈ items, ReadsAt (budget - 1) j)
    (hrest : c.rest = (Json.render (.arr items)).toList ++ rest) (hfueled : c.rest.length < c.fuel)
    (hfuel : (Json.render (.arr items)).toList.length < fuel) :
    ∃ c', readValue budget fuel c = .ok (.arr items, c') ∧ c'.At c rest := by
  rw [render_arr_toList] at hrest hfuel
  simp only [List.length_cons, List.length_append] at hfuel
  obtain ⟨f, rfl⟩ : ∃ f, fuel = f + 1 := ⟨fuel - 1, by omega⟩
  have hrest' : c.rest = '[' :: ((Json.writeItems "" items).toList ++ ']' :: rest) := by simp [hrest]
  have hnext := Cursor.next_at hrest'
  have hitems : ∃ c', readItems (budget - 1) f c.next true [] = .ok (items, c') ∧
      c'.At c.next (']' :: rest) :=
    readItems_writeItems h hnext.rest_eq (hnext.fueled (by simp [hrest']) hfueled) (by omega)
  obtain ⟨c', hitems, hc'⟩ := hitems
  refine ⟨c'.skipBlanks.next, ?_, ((skipBlanks_next_close hc'.rest_eq rfl).trans hc').trans hnext⟩
  have hshallow : ¬ budget ≤ 1 := by omega
  simp [readValue, Cursor.skipBlanks_of_head hrest' rfl, hrest', hshallow, hitems, bind, Except.bind]


/-! ## Objects -/

/-- A member's text starts with the quote of its key. -/
theorem memberText_eq (p : String × Json) :
    memberText p = '"' :: (p.1.toList.flatMap escapeChar ++ '"' :: ':' :: (Json.render p.2).toList) := by
  simp [memberText, quote_toList]

theorem closes_laterMembers (fields : List (String × Json)) (rest : List Char) :
    Closes (laterMembers fields ++ '}' :: rest) := by
  cases fields with
  | nil => exact closes_cons (.inr (.inr rfl))
  | cons p fields => exact closes_cons (.inl rfl)

/-- Where a member starts: at once for the first, after its comma for a later one. -/
theorem memberStart_lead {c : Cursor} {first : Bool} {r : List Char}
    (hrest : c.rest = (if first then [] else [',']) ++ '"' :: r) :
    ∃ c₁, memberStart c first = .ok c₁ ∧ c₁.At c ('"' :: r) := by
  cases first with
  | true => exact ⟨c, rfl, hrest, rfl⟩
  | false =>
    have hnext := Cursor.next_at hrest
    refine ⟨c.next, ?_, hnext⟩
    simp [memberStart, hrest, Cursor.skipBlanks_of_head hnext.rest_eq rfl]

/-- A member's key and the colon after it are read from their text. -/
theorem readKey_colon {c : Cursor} {k : String} {more : List Char}
    (hrest : c.rest = (quote k).toList ++ ':' :: more) (hfueled : c.rest.length < c.fuel) :
    ∃ c₂, readString c.next = .ok (k, c₂) ∧ readColon c₂ = .ok c₂.next ∧ c₂.next.At c more := by
  rw [quote_toList, List.cons_append, List.append_assoc, List.cons_append, List.nil_append] at hrest
  have hnext := Cursor.next_at hrest
  obtain ⟨c₂, hkey, hc₂⟩ := readString_quoted hnext.rest_eq (hnext.fueled (by simp [hrest]) hfueled)
  refine ⟨c₂, hkey, ?_, ((Cursor.next_at hc₂.rest_eq).trans hc₂).trans hnext⟩
  simp [readColon, Cursor.skipBlanks_of_head hc₂.rest_eq rfl, hc₂.rest_eq]

/-- A member's key and colon are read from its text, and its value after them. -/
theorem readMember_parts {budget fuel : Nat} {c : Cursor} {p : String × Json} {more : List Char}
    (hv : ReadsAt budget p.2) (hrest : c.rest = memberText p ++ more)
    (hfueled : c.rest.length < c.fuel) (hfuel : (Json.render p.2).toList.length < fuel)
    (hstop : Closes more) :
    ∃ c₂ c₄, readString c.next = .ok (p.1, c₂) ∧ readColon c₂ = .ok c₂.next ∧
      readValue budget fuel c₂.next = .ok (p.2, c₄) ∧ c₄.At c more := by
  rw [memberText, List.append_assoc, List.cons_append] at hrest
  obtain ⟨c₂, hkey, hcolon, hc₃⟩ := readKey_colon hrest hfueled
  obtain ⟨c₄, hval, hc₄⟩ := hv hc₃.rest_eq (hc₃.fueled (by simp [hrest]; omega) hfueled) hfuel hstop
  exact ⟨c₂, c₄, hkey, hcolon, hval, hc₄.trans hc₃⟩

section Members

variable {budget fuel : Nat} {c : Cursor} {acc : List (String × Json)} {rest : List Char}

/-- The closing brace ends the members, in the order they were read. -/
theorem readMembers_close {first : Bool} (hrest : c.rest = '}' :: rest) :
    readMembers budget (fuel + 1) c first acc = .ok (acc.reverse, c) := by
  simp [readMembers, Cursor.skipBlanks_of_head hrest rfl, hrest]

/-- A member, the first or one after a comma, is read as its key and value. -/
theorem readMembers_member {first : Bool} {p : String × Json} {more : List Char}
    (hv : ReadsAt budget p.2) (hrest : c.rest = (if first then [] else [',']) ++ memberText p ++ more)
    (hfueled : c.rest.length < c.fuel) (hfuel : (Json.render p.2).toList.length < fuel)
    (hstop : Closes more) :
    ∃ c', readMembers budget (fuel + 1) c first acc = readMembers budget fuel c' false (p :: acc) ∧
      c'.At c more := by
  have hlead : c.rest = (if first then [] else [',']) ++
      '"' :: (p.1.toList.flatMap escapeChar ++ '"' :: ':' :: ((Json.render p.2).toList ++ more)) := by
    rw [hrest, memberText_eq]
    simp
  obtain ⟨c₁, hstart, hc₁⟩ := memberStart_lead hlead
  obtain ⟨c₂, c₄, hkey, hcolon, hval, hc₄⟩ := readMember_parts hv
    (by rw [hc₁.rest_eq, memberText_eq]; simp) (hc₁.fueled (by simp [hlead]) hfueled) hfuel hstop
  refine ⟨c₄, ?_, hc₄.trans hc₁⟩
  -- the text starts with the key's quote or with a comma, neither of which is blank or a brace
  cases first <;> simp [readMembers, Cursor.skipBlanks_of_head hlead rfl, hlead, hstart, hc₁.rest_eq,
    hkey, hcolon, hval, bind, Except.bind]

/-- The members after the first, each after a comma, are read up to the
closing brace. -/
theorem readMembers_laterMembers {fields : List (String × Json)} (h : ∀ p ∈ fields, ReadsAt budget p.2)
    (hrest : c.rest = laterMembers fields ++ '}' :: rest) (hfueled : c.rest.length < c.fuel)
    (hfuel : (laterMembers fields).length < fuel) :
    ∃ c', readMembers budget fuel c false acc = .ok (acc.reverse ++ fields, c') ∧
      c'.At c ('}' :: rest) := by
  induction fields generalizing fuel c acc with
  | nil =>
    obtain ⟨f, rfl⟩ : ∃ f, fuel = f + 1 := ⟨fuel - 1, by omega⟩
    have hclose : readMembers budget (f + 1) c false acc = .ok (acc.reverse, c) :=
      readMembers_close hrest
    exact ⟨c, by simpa using hclose, hrest, rfl⟩
  | cons p fields ih =>
    have hlen : (laterMembers (p :: fields)).length =
        (memberText p).length + (laterMembers fields).length + 1 := by
      simp [laterMembers]
    rw [hlen] at hfuel
    obtain ⟨f, rfl⟩ : ∃ f, fuel = f + 1 := ⟨fuel - 1, by omega⟩
    have hrest' : c.rest = (if false then [] else [',']) ++ memberText p ++
        (laterMembers fields ++ '}' :: rest) := by
      simp [hrest, laterMembers]
    have hvalue : (Json.render p.2).toList.length < f := by
      simp only [memberText, List.length_append, List.length_cons] at hfuel
      omega
    have hstep : ∃ c₁, readMembers budget (f + 1) c false acc = readMembers budget f c₁ false (p :: acc) ∧
        c₁.At c (laterMembers fields ++ '}' :: rest) :=
      readMembers_member (h p (by simp)) hrest' hfueled hvalue (closes_laterMembers fields rest)
    obtain ⟨c₁, hstep, hc₁⟩ := hstep
    have hread : ∃ c', readMembers budget f c₁ false (p :: acc) =
        .ok ((p :: acc).reverse ++ fields, c') ∧ c'.At c₁ ('}' :: rest) :=
      ih (fun q hq => h q (by simp [hq])) hc₁.rest_eq
        (hc₁.fueled (by simp [hrest']; omega) hfueled) (by omega)
    obtain ⟨c', hread, hc'⟩ := hread
    refine ⟨c', ?_, hc'.trans hc₁⟩
    rw [hstep, hread]
    simp

/-- All members of a written object are read up to its closing brace. -/
theorem readMembers_writeFields {fields : List (String × Json)} (h : ∀ p ∈ fields, ReadsAt budget p.2)
    (hrest : c.rest = (Json.writeFields "" fields).toList ++ '}' :: rest)
    (hfueled : c.rest.length < c.fuel) (hfuel : (Json.writeFields "" fields).toList.length + 1 < fuel) :
    ∃ c', readMembers budget fuel c true [] = .ok (fields, c') ∧ c'.At c ('}' :: rest) := by
  obtain ⟨f, rfl⟩ : ∃ f, fuel = f + 1 := ⟨fuel - 1, by omega⟩
  cases fields with
  | nil =>
    have hclose : c.rest = '}' :: rest := by simpa [Json.writeFields] using hrest
    have hread : readMembers budget (f + 1) c true [] = .ok ([].reverse, c) := readMembers_close hclose
    exact ⟨c, by simpa using hread, hclose, rfl⟩
  | cons p fields =>
    rw [writeFields_cons_toList] at hrest hfuel
    simp only [List.length_append] at hfuel
    have hrest' : c.rest = (if true then [] else [',']) ++ memberText p ++
        (laterMembers fields ++ '}' :: rest) := by
      simp [hrest]
    have hvalue : (Json.render p.2).toList.length < f := by
      simp only [memberText, List.length_append, List.length_cons] at hfuel
      omega
    have hstep : ∃ c₁, readMembers budget (f + 1) c true [] = readMembers budget f c₁ false [p] ∧
        c₁.At c (laterMembers fields ++ '}' :: rest) :=
      readMembers_member (h p (by simp)) hrest' hfueled hvalue (closes_laterMembers fields rest)
    obtain ⟨c₁, hstep, hc₁⟩ := hstep
    have hread : ∃ c', readMembers budget f c₁ false [p] = .ok ([p].reverse ++ fields, c') ∧
        c'.At c₁ ('}' :: rest) :=
      readMembers_laterMembers (fun q hq => h q (by simp [hq])) hc₁.rest_eq
        (hc₁.fueled (by simp [hrest]) hfueled) (by omega)
    obtain ⟨c', hread, hc'⟩ := hread
    refine ⟨c', ?_, hc'.trans hc₁⟩
    rw [hstep, hread]
    simp

end Members

theorem readValue_obj {budget fuel : Nat} {c : Cursor} {rest : List Char}
    {fields : List (String × Json)} (hdeep : 1 < budget) (h : ∀ p ∈ fields, ReadsAt (budget - 1) p.2)
    (hrest : c.rest = (Json.render (.obj fields)).toList ++ rest) (hfueled : c.rest.length < c.fuel)
    (hfuel : (Json.render (.obj fields)).toList.length < fuel) :
    ∃ c', readValue budget fuel c = .ok (.obj fields, c') ∧ c'.At c rest := by
  rw [render_obj_toList] at hrest hfuel
  simp only [List.length_cons, List.length_append] at hfuel
  obtain ⟨f, rfl⟩ : ∃ f, fuel = f + 1 := ⟨fuel - 1, by omega⟩
  have hrest' : c.rest = '{' :: ((Json.writeFields "" fields).toList ++ '}' :: rest) := by simp [hrest]
  have hnext := Cursor.next_at hrest'
  have hmembers : ∃ c', readMembers (budget - 1) f c.next true [] = .ok (fields, c') ∧
      c'.At c.next ('}' :: rest) :=
    readMembers_writeFields h hnext.rest_eq (hnext.fueled (by simp [hrest']) hfueled) (by simp at hfuel; omega)
  obtain ⟨c', hmembers, hc'⟩ := hmembers
  refine ⟨c'.skipBlanks.next, ?_, ((skipBlanks_next_close hc'.rest_eq rfl).trans hc').trans hnext⟩
  have hshallow : ¬ budget ≤ 1 := by omega
  simp [readValue, Cursor.skipBlanks_of_head hrest' rfl, hrest', hshallow, hmembers, bind, Except.bind]

/-! ## Documents -/

/-- A document that reads back does so wherever its text stands: the
induction follows the document, arrays and objects through their items and
members with one less of the depth limit. -/
theorem ReadsBack.readsAt {budget : Nat} {j : Json} (h : ReadsBack budget j) : ReadsAt budget j := by
  induction h with
  | null =>
    intro fuel c rest hrest _ hfuel _
    obtain ⟨f, rfl⟩ : ∃ f, fuel = f + 1 := ⟨fuel - 1, by omega⟩
    exact readValue_null hrest
  | bool b =>
    intro fuel c rest hrest _ hfuel _
    obtain ⟨f, rfl⟩ : ∃ f, fuel = f + 1 := ⟨fuel - 1, by omega⟩
    exact readValue_bool b hrest
  | @num budget n hn =>
    intro fuel c rest hrest hfueled hfuel hstop
    obtain ⟨f, rfl⟩ : ∃ f, fuel = f + 1 := ⟨fuel - 1, by omega⟩
    cases n with
    | unsigned n => exact readValue_unsigned hn hrest hfueled hstop
    | signed i => exact readValue_signed hn hrest hfueled hstop
    | float x => exact hn budget f c rest hrest hfueled hstop
  | str s =>
    intro fuel c rest hrest hfueled hfuel _
    obtain ⟨f, rfl⟩ : ∃ f, fuel = f + 1 := ⟨fuel - 1, by omega⟩
    exact readValue_str s hrest hfueled
  | arr hdeep _ ih =>
    intro fuel c rest hrest hfueled hfuel _
    exact readValue_arr hdeep ih hrest hfueled hfuel
  | obj hdeep _ ih =>
    intro fuel c rest hrest hfueled hfuel _
    exact readValue_obj hdeep ih hrest hfueled hfuel

/-- At the end of the text there is nothing left to refuse. -/
theorem finish_of_nil {c : Cursor} (h : c.rest = []) : finish c = .ok () := by
  have hskip : c.skipBlanks = c := by
    rw [Cursor.skipBlanks]
    split
    · rfl
    · rename_i ch r hr
      rw [h] at hr
      cases hr
  simp [finish, hskip, h]

/-- The text of a document that reads back with the whole depth limit is read
back as the document. -/
theorem read_render {j : Json} (h : ReadsBack depthLimit j) : read (Json.render j) = .ok j := by
  have hstart : (Cursor.start (Json.render j)).rest = (Json.render j).toList ++ [] := by
    simp [Cursor.start]
  have hfueled : (Cursor.start (Json.render j)).rest.length < (Cursor.start (Json.render j)).fuel := by
    simp [Cursor.start, String.length_toList]
  have hread : ∃ c', readValue depthLimit (fuelFor (Cursor.start (Json.render j)))
      (Cursor.start (Json.render j)) = .ok (j, c') ∧ c'.At (Cursor.start (Json.render j)) [] :=
    h.readsAt hstart hfueled (by simp [fuelFor, Cursor.start]; omega) closes_nil
  obtain ⟨c', hread, hc'⟩ := hread
  simp [read, hread, finish_of_nil hc'.rest_eq, bind, Except.bind]

/-! ## Tagged objects -/

section Tagged

variable {α : Type} {rule : TagRule α} {fuel : Nat} {c : Cursor} {acc : List (String × Json)}
  {rest : List Char}

/-- A quoted name of a variant is read as the variant. -/
theorem readVariant_quoted {name : String} {v : α} (hv : rule.variant name = .ok v)
    (hrest : c.rest = (quote name).toList ++ rest) (hfueled : c.rest.length < c.fuel) :
    ∃ c', readVariant rule c = .ok (v, c') ∧ c'.At c rest := by
  rw [quote_toList, List.cons_append, List.append_assoc, List.cons_append, List.nil_append] at hrest
  have hnext := Cursor.next_at hrest
  obtain ⟨c', hname, hc'⟩ := readString_quoted hnext.rest_eq (hnext.fueled (by simp [hrest]) hfueled)
  refine ⟨c', ?_, hc'.trans hnext⟩
  simp [readVariant, Cursor.skipBlanks_of_head hrest rfl, hrest, hname, hv, bind, Except.bind]

/-- The closing brace ends the members: the tag if one was read, and the
others in the order they were read. -/
theorem readTaggedMembers_close {first : Bool} {tag : Option α} (hrest : c.rest = '}' :: rest) :
    readTaggedMembers rule (fuel + 1) c first tag acc = .ok (.done tag acc.reverse c) := by
  simp [readTaggedMembers, Cursor.skipBlanks_of_head hrest rfl, hrest]

/-- A member other than the tag is read as a value and kept. -/
theorem readTaggedMembers_other {first : Bool} {tag : Option α} {p : String × Json}
    {more : List Char} (hkey : p.1 ≠ rule.tag) (hv : ReadsAt (depthLimit - 1) p.2)
    (hrest : c.rest = (if first then [] else [',']) ++ memberText p ++ more)
    (hfueled : c.rest.length < c.fuel) (hfuel : (Json.render p.2).toList.length < fuel)
    (hstop : Closes more) :
    ∃ c', readTaggedMembers rule (fuel + 1) c first tag acc =
      readTaggedMembers rule fuel c' false tag (p :: acc) ∧ c'.At c more := by
  have hlead : c.rest = (if first then [] else [',']) ++
      '"' :: (p.1.toList.flatMap escapeChar ++ '"' :: ':' :: ((Json.render p.2).toList ++ more)) := by
    rw [hrest, memberText_eq]
    simp
  obtain ⟨c₁, hstart, hc₁⟩ := memberStart_lead hlead
  obtain ⟨c₂, c₄, hname, hcolon, hval, hc₄⟩ := readMember_parts hv
    (by rw [hc₁.rest_eq, memberText_eq]; simp) (hc₁.fueled (by simp [hlead]) hfueled) hfuel hstop
  refine ⟨c₄, ?_, hc₄.trans hc₁⟩
  cases first <;> simp [readTaggedMembers, Cursor.skipBlanks_of_head hlead rfl, hlead, hstart,
    hc₁.rest_eq, hname, hkey, hcolon, hval, bind, Except.bind]

/-- The tag member, met before any other tag, is read as the variant it names. -/
theorem readTaggedMembers_tag {first : Bool} {name : String} {v : α} {more : List Char}
    (hv : rule.variant name = .ok v)
    (hrest : c.rest = (if first then [] else [',']) ++ memberText (rule.tag, .str name) ++ more)
    (hfueled : c.rest.length < c.fuel) :
    ∃ c', readTaggedMembers rule (fuel + 1) c first none acc =
      readTaggedMembers rule fuel c' false (some v) acc ∧ c'.At c more := by
  have hlead : c.rest = (if first then [] else [',']) ++
      '"' :: (rule.tag.toList.flatMap escapeChar ++ '"' :: ':' :: ((quote name).toList ++ more)) := by
    rw [hrest, memberText_eq]
    simp [Json.render, Json.writeOnto]
  obtain ⟨c₁, hstart, hc₁⟩ := memberStart_lead hlead
  have hkey : c₁.rest = (quote rule.tag).toList ++ ':' :: ((quote name).toList ++ more) := by
    rw [hc₁.rest_eq]
    simp [quote_toList]
  obtain ⟨c₂, hname, hcolon, hc₃⟩ := readKey_colon hkey (hc₁.fueled (by simp [hlead]) hfueled)
  obtain ⟨c₄, hvariant, hc₄⟩ := readVariant_quoted hv hc₃.rest_eq
    (hc₃.fueled (by simp [hkey]; omega) (hc₁.fueled (by simp [hlead]) hfueled))
  refine ⟨c₄, ?_, (hc₄.trans hc₃).trans hc₁⟩
  cases first <;> simp [readTaggedMembers, Cursor.skipBlanks_of_head hlead rfl, hlead, hstart,
    hc₁.rest_eq, hname, hcolon, hvariant, bind, Except.bind]

theorem closes_laterMembers_append (fields : List (String × Json)) {more : List Char}
    (hstop : Closes more) : Closes (laterMembers fields ++ more) := by
  cases fields with
  | nil => exact hstop
  | cons p fields => exact closes_cons (.inl rfl)

/-- Members other than the tag, each after a comma, are read and kept in
turn, one step of fuel each. -/
theorem readTaggedMembers_others {tag : Option α} {fields : List (String × Json)} {more : List Char}
    (hkeys : ∀ p ∈ fields, p.1 ≠ rule.tag) (h : ∀ p ∈ fields, ReadsAt (depthLimit - 1) p.2)
    (hstop : Closes more) (hrest : c.rest = laterMembers fields ++ more)
    (hfueled : c.rest.length < c.fuel) (hfuel : c.rest.length < fuel) :
    ∃ c', readTaggedMembers rule fuel c false tag acc =
        readTaggedMembers rule (fuel - fields.length) c' false tag (fields.reverse ++ acc) ∧
      c'.At c more ∧ c'.rest.length < fuel - fields.length := by
  induction fields generalizing fuel c acc with
  | nil => exact ⟨c, by simp, ⟨by simpa [laterMembers] using hrest, rfl⟩, by simpa using hfuel⟩
  | cons p fields ih =>
    have hrest' : c.rest = (if false then [] else [',']) ++ memberText p ++
        (laterMembers fields ++ more) := by
      simp [hrest, laterMembers]
    have hlen : c.rest.length = (memberText p).length + (laterMembers fields ++ more).length + 1 := by
      rw [hrest']
      simp only [Bool.false_eq_true, if_false, List.length_append, List.length_cons,
        List.length_nil]
      omega
    obtain ⟨f, rfl⟩ : ∃ f, fuel = f + 1 := ⟨fuel - 1, by omega⟩
    have hvalue : (Json.render p.2).toList.length < f := by
      simp only [memberText, List.length_append, List.length_cons] at hlen
      omega
    have hstep : ∃ c₁, readTaggedMembers rule (f + 1) c false tag acc =
        readTaggedMembers rule f c₁ false tag (p :: acc) ∧ c₁.At c (laterMembers fields ++ more) :=
      readTaggedMembers_other (hkeys p (by simp)) (h p (by simp)) hrest' hfueled hvalue
        (closes_laterMembers_append fields hstop)
    obtain ⟨c₁, hstep, hc₁⟩ := hstep
    have hmember : 0 < (memberText p).length := by
      simp only [memberText, List.length_append, List.length_cons]
      omega
    have hread : ∃ c', readTaggedMembers rule f c₁ false tag (p :: acc) =
        readTaggedMembers rule (f - fields.length) c' false tag (fields.reverse ++ p :: acc) ∧
        c'.At c₁ more ∧ c'.rest.length < f - fields.length :=
      ih (fun q hq => hkeys q (by simp [hq])) (fun q hq => h q (by simp [hq])) hc₁.rest_eq
        (hc₁.fueled (by rw [hlen]; omega) hfueled) (by rw [hc₁.rest_eq]; omega)
    obtain ⟨c', hread, hc', hlen'⟩ := hread
    refine ⟨c', ?_, hc'.trans hc₁, by simpa using hlen'⟩
    rw [hstep, hread]
    simp

/-- Members other than the tag, each after a comma, are read and kept up to
the closing brace. -/
theorem readTaggedMembers_others_close {tag : Option α} {fields : List (String × Json)}
    (hkeys : ∀ p ∈ fields, p.1 ≠ rule.tag) (h : ∀ p ∈ fields, ReadsAt (depthLimit - 1) p.2)
    (hrest : c.rest = laterMembers fields ++ '}' :: rest)
    (hfueled : c.rest.length < c.fuel) (hfuel : c.rest.length < fuel) :
    ∃ c', readTaggedMembers rule fuel c false tag acc = .ok (.done tag (acc.reverse ++ fields) c') ∧
      c'.At c ('}' :: rest) := by
  have hothers : ∃ c', readTaggedMembers rule fuel c false tag acc =
        readTaggedMembers rule (fuel - fields.length) c' false tag (fields.reverse ++ acc) ∧
      c'.At c ('}' :: rest) ∧ c'.rest.length < fuel - fields.length :=
    readTaggedMembers_others hkeys h (closes_cons (.inr (.inr rfl))) hrest hfueled hfuel
  obtain ⟨c', hread, hc', hlen⟩ := hothers
  rw [hc'.rest_eq, List.length_cons] at hlen
  obtain ⟨g, hg⟩ : ∃ g, fuel - fields.length = g + 1 := ⟨fuel - fields.length - 1, by omega⟩
  refine ⟨c', ?_, hc'⟩
  rw [hread, hg, readTaggedMembers_close hc'.rest_eq]
  simp

theorem laterMembers_append (fields more : List (String × Json)) :
    laterMembers (fields ++ more) = laterMembers fields ++ laterMembers more := by
  simp [laterMembers]

/-- The members of a written tagged object, the tag among them, are read as
the variant the tag names and the other members in their order. -/
theorem readTaggedMembers_tagged {name : String} {v : α} {before after : List (String × Json)}
    (hv : rule.variant name = .ok v) (hkeys : ∀ p ∈ before ++ after, p.1 ≠ rule.tag)
    (h : ∀ p ∈ before ++ after, ReadsAt (depthLimit - 1) p.2)
    (hrest : c.rest =
      (Json.writeFields "" (before ++ (rule.tag, .str name) :: after)).toList ++ '}' :: rest)
    (hfueled : c.rest.length < c.fuel) (hfuel : c.rest.length < fuel) :
    ∃ c', readTaggedMembers rule fuel c true none [] = .ok (.done (some v) (before ++ after) c') ∧
      c'.At c ('}' :: rest) := by
  have hkeysA : ∀ p ∈ after, p.1 ≠ rule.tag := fun p hp => hkeys p (by simp [hp])
  have hA : ∀ p ∈ after, ReadsAt (depthLimit - 1) p.2 := fun p hp => h p (by simp [hp])
  have htag : 0 < (memberText (rule.tag, .str name)).length := by
    simp only [memberText, List.length_append, List.length_cons]
    omega
  cases before with
  | nil =>
    -- the tag comes first
    rw [List.nil_append, writeFields_cons_toList, List.append_assoc] at hrest
    have hlen := congrArg List.length hrest
    simp only [List.length_append, List.length_cons] at hlen
    obtain ⟨f, rfl⟩ : ∃ f, fuel = f + 1 := ⟨fuel - 1, by omega⟩
    have hstep : ∃ c₁, readTaggedMembers rule (f + 1) c true none [] =
        readTaggedMembers rule f c₁ false (some v) [] ∧ c₁.At c (laterMembers after ++ '}' :: rest) :=
      readTaggedMembers_tag hv (by simpa using hrest) hfueled
    obtain ⟨c₁, hstep, hc₁⟩ := hstep
    have hread : ∃ c', readTaggedMembers rule f c₁ false (some v) [] =
        .ok (.done (some v) ([].reverse ++ after) c') ∧ c'.At c₁ ('}' :: rest) :=
      readTaggedMembers_others_close hkeysA hA hc₁.rest_eq
        (hc₁.fueled (by simp [hrest]) hfueled) (by rw [hc₁.rest_eq]; simp; omega)
    obtain ⟨c', hread, hc'⟩ := hread
    refine ⟨c', ?_, hc'.trans hc₁⟩
    rw [hstep, hread]
    simp
  | cons b bs =>
    -- the members before the tag are kept, then the tag is read, then the rest
    rw [List.cons_append, writeFields_cons_toList, laterMembers_append] at hrest
    have hrest' : c.rest = (if true then [] else [',']) ++ memberText b ++
        (laterMembers bs ++ (',' :: memberText (rule.tag, .str name) ++ (laterMembers after ++ '}' :: rest))) := by
      simp [hrest, laterMembers]
    have hlen := congrArg List.length hrest'
    simp only [if_true, List.nil_append, List.length_append, List.length_cons] at hlen
    have hb : 0 < (memberText b).length := by
      simp only [memberText, List.length_append, List.length_cons]
      omega
    obtain ⟨f, rfl⟩ : ∃ f, fuel = f + 1 := ⟨fuel - 1, by omega⟩
    have hvalue : (Json.render b.2).toList.length < f := by
      simp only [memberText, List.length_append, List.length_cons] at hlen
      omega
    have hstep₁ : ∃ c₁, readTaggedMembers rule (f + 1) c true none [] =
        readTaggedMembers rule f c₁ false none [b] ∧
        c₁.At c (laterMembers bs ++ (',' :: memberText (rule.tag, .str name) ++
          (laterMembers after ++ '}' :: rest))) :=
      readTaggedMembers_other (hkeys b (by simp)) (h b (by simp)) hrest' hfueled hvalue
        (closes_laterMembers_append bs (closes_cons (.inl rfl)))
    obtain ⟨c₁, hstep₁, hc₁⟩ := hstep₁
    have hstep₂ : ∃ c₂, readTaggedMembers rule f c₁ false none [b] =
        readTaggedMembers rule (f - bs.length) c₂ false none (bs.reverse ++ [b]) ∧
        c₂.At c₁ (',' :: memberText (rule.tag, .str name) ++ (laterMembers after ++ '}' :: rest)) ∧
        c₂.rest.length < f - bs.length :=
      readTaggedMembers_others (fun p hp => hkeys p (by simp [hp])) (fun p hp => h p (by simp [hp]))
        (closes_cons (.inl rfl)) hc₁.rest_eq (hc₁.fueled (by simp [hrest']) hfueled)
        (by rw [hc₁.rest_eq]; simp; omega)
    obtain ⟨c₂, hstep₂, hc₂, hlen₂⟩ := hstep₂
    have hc₂' := hc₂.trans hc₁
    rw [hc₂.rest_eq] at hlen₂
    simp only [List.cons_append, List.length_cons, List.length_append] at hlen₂
    obtain ⟨g, hg⟩ : ∃ g, f - bs.length = g + 1 := ⟨f - bs.length - 1, by omega⟩
    have hstep₃ : ∃ c₃, readTaggedMembers rule (g + 1) c₂ false none (bs.reverse ++ [b]) =
        readTaggedMembers rule g c₃ false (some v) (bs.reverse ++ [b]) ∧
        c₃.At c₂ (laterMembers after ++ '}' :: rest) :=
      readTaggedMembers_tag hv (by rw [hc₂.rest_eq]; simp)
        (hc₂'.fueled (by simp [hrest']; omega) hfueled)
    obtain ⟨c₃, hstep₃, hc₃⟩ := hstep₃
    have hread : ∃ c', readTaggedMembers rule g c₃ false (some v) (bs.reverse ++ [b]) =
        .ok (.done (some v) ((bs.reverse ++ [b]).reverse ++ after) c') ∧ c'.At c₃ ('}' :: rest) :=
      readTaggedMembers_others_close hkeysA hA hc₃.rest_eq
        ((hc₃.trans hc₂').fueled (by simp [hrest']; omega) hfueled)
        (by rw [hc₃.rest_eq]; simp; omega)
    obtain ⟨c', hread, hc'⟩ := hread
    refine ⟨c', ?_, ((hc'.trans hc₃).trans hc₂')⟩
    rw [hstep₁, hstep₂, hg, hstep₃, hread]
    simp

/-- A written tagged object is read as its variant and the other members. -/
theorem readTaggedHead_render {name : String} {v : α} {before after : List (String × Json)}
    (hv : rule.variant name = .ok v) (hkeys : ∀ p ∈ before ++ after, p.1 ≠ rule.tag)
    (h : ∀ p ∈ before ++ after, ReadsAt (depthLimit - 1) p.2) :
    ∃ c', readTaggedHead rule
        (Cursor.start (Json.render (.obj (before ++ (rule.tag, .str name) :: after)))) =
      .ok (v, .obj (before ++ after), c') ∧ c'.rest = [] := by
  generalize hfields : before ++ (rule.tag, .str name) :: after = fields
  have hrest : (Cursor.start (Json.render (.obj fields))).rest =
      '{' :: ((Json.writeFields "" fields).toList ++ '}' :: []) := by
    simp [Cursor.start]
  have hfueled : (Cursor.start (Json.render (.obj fields))).rest.length <
      (Cursor.start (Json.render (.obj fields))).fuel := by
    show (Json.render (.obj fields)).toList.length < (Json.render (.obj fields)).length + 1
    rw [String.length_toList]
    omega
  have hnext := Cursor.next_at hrest
  have hmembers : ∃ c', readTaggedMembers rule (fuelFor (Cursor.start (Json.render (.obj fields))))
      (Cursor.start (Json.render (.obj fields))).next true none [] =
        .ok (.done (some v) (before ++ after) c') ∧
      c'.At (Cursor.start (Json.render (.obj fields))).next ('}' :: []) :=
    readTaggedMembers_tagged hv hkeys h (by rw [hnext.rest_eq, hfields])
      (hnext.fueled (by simp [hrest]) hfueled) (by rw [hnext.rest_eq]; simp [fuelFor, hrest]; omega)
  obtain ⟨c', hmembers, hc'⟩ := hmembers
  have hclose := skipBlanks_next_close hc'.rest_eq rfl
  refine ⟨c'.next, ?_, by rw [← hclose.rest_eq, Cursor.skipBlanks_of_head hc'.rest_eq rfl]⟩
  simp [readTaggedHead, Cursor.skipBlanks_of_head hrest rfl, hrest, hmembers, passClose,
    Cursor.skipBlanks_of_head hc'.rest_eq rfl, hc'.rest_eq, bind, Except.bind]

/-- A written object whose tag member names a variant reads back as what the
variant's body builds from the other members, wherever the tag stands. -/
theorem readTagged_render {β : Type} (body : α → Json → Except Mismatch β) {name : String} {v : α}
    {b : β} {before after : List (String × Json)}
    (hv : rule.variant name = .ok v) (hkeys : ∀ p ∈ before ++ after, p.1 ≠ rule.tag)
    (hvalues : ∀ p ∈ before ++ after, ReadsBack (depthLimit - 1) p.2)
    (hbody : body v (.obj (before ++ after)) = .ok b) :
    readTagged rule body (Json.render (.obj (before ++ (rule.tag, .str name) :: after))) = .ok b := by
  obtain ⟨c', hhead, hc'⟩ := readTaggedHead_render hv hkeys fun p hp => (hvalues p hp).readsAt
  simp [readTagged, hhead, hbody, finish_of_nil hc', bind, Except.bind]

end Tagged

end TopicHub.Json
