/-
  Proofs/Query.lean --- a client id survives the query it is sent in.

  A watcher names itself with the form pair `id=…`, and the hub reads the id
  back from the query of the connection.  Reading undoes writing layer by
  layer.  The encoded text is ASCII, so its bytes are its characters
  (`utf8Bytes_ofList_ascii`); the escapes give back the bytes of the id
  (`unescapeBytes_encoded`); and the bytes of a string read as UTF-8 give
  back its characters (`decodeLossy_utf8Bytes`).  No encoded byte is `&` or
  `=`, so a written pair is read as that one pair (`formPairs_formPair`), and
  the id announced is the id registered, unless it is empty.
-/
import Mathlib.Data.List.Basic
import TopicHub.Protocol.Handshake
import TopicHub.Hub.Session

set_option autoImplicit false

namespace TopicHub.Text

/-! ## The bytes of a string -/

/-- The loop that lists a byte array starts from its `i`-th byte. -/
theorem byteArray_toList_loop (bs : ByteArray) (i : Nat) (r : List UInt8) :
    ByteArray.toList.loop bs i r = r.reverse ++ bs.data.toList.drop i := by
  obtain ⟨data⟩ := bs
  fun_induction ByteArray.toList.loop ⟨data⟩ i r with
  | case1 i r hi ih =>
    have hi' : i < data.toList.length := hi
    rw [ih, List.drop_eq_getElem_cons hi']
    simp [ByteArray.get!, getElem!_pos data i hi]
  | case2 i r hi =>
    have hi' : data.toList.length ≤ i := Nat.le_of_not_lt hi
    simp [List.drop_eq_nil_of_le hi']

theorem byteArray_toList_toByteArray (l : List UInt8) : l.toByteArray.toList = l := by
  rw [ByteArray.toList, byteArray_toList_loop]
  simp

/-- The bytes of a string are the UTF-8 encodings of its characters. -/
theorem utf8Bytes_eq (s : String) :
    utf8Bytes s = (s.toList.flatMap String.utf8EncodeChar).map UInt8.toNat := by
  unfold utf8Bytes
  conv_lhs => rw [← @String.ofList_toList s]
  rw [String.toUTF8_eq_toByteArray, String.toByteArray_ofList, List.utf8Encode,
    byteArray_toList_toByteArray]

theorem utf8Bytes_lt (s : String) : ∀ b ∈ utf8Bytes s, b < 256 := by
  intro b hb
  obtain ⟨x, -, rfl⟩ := List.mem_map.1 hb
  exact UInt8.toNat_lt_size x

/-- A string of ASCII characters has the characters' codes as its bytes. -/
theorem utf8Bytes_ofList_ascii {cs : List Char} (h : ∀ c ∈ cs, c.toNat < 0x80) :
    utf8Bytes (String.ofList cs) = cs.map Char.toNat := by
  rw [utf8Bytes_eq, String.toList_ofList]
  induction cs with
  | nil => rfl
  | cons c rest ih =>
    have hc : c.toNat < 0x80 := h c (by simp)
    simp only [List.flatMap_cons, List.map_append, List.map_cons]
    rw [ih fun x hx => h x (by simp [hx])]
    simp only [String.utf8EncodeChar]
    rw [if_pos (show c.val.toNat ≤ 127 from Nat.le_of_lt_succ hc)]
    simp [Nat.mod_eq_of_lt (show c.toNat < 256 by omega)]

/-! ## Reading UTF-8 back -/

/-- `decodeLossy` on a start byte, with the match on the continuation bytes
written without its proof. -/
theorem decodeLossy_cons (b : Nat) (bs : List Nat) :
    decodeLossy (b :: bs) =
      match continuationRanges b with
      | none => replacement :: decodeLossy bs
      | some ranges =>
        match takeContinuations ranges (startBits b) bs with
        | (some cp, rest) => Char.ofNat cp :: decodeLossy rest
        | (none, rest) => replacement :: decodeLossy rest := by
  rw [decodeLossy]
  cases continuationRanges b with
  | none => rfl
  | some ranges =>
    dsimp only
    split
    · next cp rest h => rw [h]
    · next rest h => rw [h]

/-- The UTF-8 encoding of a character decodes to the character, and the bytes
after it are read on their own. -/
theorem decodeLossy_utf8EncodeChar (c : Char) (rest : List Nat) :
    decodeLossy ((String.utf8EncodeChar c).map UInt8.toNat ++ rest) = c :: decodeLossy rest := by
  have hc : c.val.toNat < 0xd800 ∨ (0xdfff < c.val.toNat ∧ c.val.toNat < 0x110000) := c.valid
  have hof : Char.ofNat c.val.toNat = c := Char.ofNat_toNat c
  simp only [String.utf8EncodeChar]
  generalize c.val.toNat = v at *
  subst hof
  rcases Nat.lt_or_ge v 0x80 with h | h
  · -- one byte: the code point itself
    simp (disch := omega) only [if_pos, List.map_cons, List.map_nil, UInt8.toNat_ofNat', List.cons_append,
      List.nil_append, Nat.reducePow, decodeLossy_cons, continuationRanges, takeContinuations, startBits,
      Nat.mod_eq_of_lt]
  -- otherwise the range of the code point fixes the start byte and the ranges
  -- its continuation bytes must lie in, and they hold the code point's bits
  rcases (show v < 0x800 ∨ (0x800 ≤ v ∧ v < 0x1000) ∨ (0x1000 ≤ v ∧ v < 0xD000) ∨
      (0xD000 ≤ v ∧ v < 0xD800) ∨ (0xE000 ≤ v ∧ v < 0x10000) ∨ (0x10000 ≤ v ∧ v < 0x40000) ∨
      (0x40000 ≤ v ∧ v < 0x100000) ∨ (0x100000 ≤ v ∧ v < 0x110000) by omega)
    with h | h | h | h | h | h | h | h <;>
  · simp (disch := omega) only [if_pos, if_neg, List.map_cons, List.map_nil, UInt8.toNat_ofNat',
      List.cons_append, List.nil_append, Nat.reducePow, decodeLossy_cons, continuationRanges,
      takeContinuations, startBits, Nat.mod_eq_of_lt]
    exact congrArg (fun cp => Char.ofNat cp :: decodeLossy rest) (by omega)

/-- The bytes of a string decode to its characters: nothing is replaced. -/
theorem decodeLossy_utf8Bytes (s : String) : decodeLossy (utf8Bytes s) = s.toList := by
  rw [utf8Bytes_eq]
  induction s.toList with
  | nil => simp [decodeLossy]
  | cons c rest ih => rw [List.flatMap_cons, List.map_append, decodeLossy_utf8EncodeChar, ih]

/-! ## Escapes -/

/-- A code below the surrogates is the code of its character. -/
theorem toNat_charOfNat {n : Nat} (h : n < 0xd800) : (Char.ofNat n).toNat = n := by
  rw [Char.ofNat, dif_pos (Or.inl h)]
  rfl

theorem toNat_upperHexDigit {n : Nat} (h : n < 16) :
    (upperHexDigit n).toNat = if n < 10 then 48 + n else 55 + n := by
  unfold upperHexDigit
  split <;> exact toNat_charOfNat (by omega)

theorem hexByte_upperHexDigit {n : Nat} (h : n < 16) : hexByte? (upperHexDigit n).toNat = some n := by
  rw [toNat_upperHexDigit h]
  split <;> simp (disch := omega) only [hexByte?, if_pos, if_neg] <;> congr 1 <;> omega

/-- The codes of the characters a byte is written as. -/
def encodedCodes (b : Nat) : List Nat := (encodeByte b).map Char.toNat

/-- What a byte is written as: itself when it is left as it is, `+` for a
blank, and otherwise `%` and two hex digits. -/
theorem encodedCodes_cases {b : Nat} (hb : b < 256) :
    (encodedCodes b = [b] ∧ b ≠ 0x2B ∧ b ≠ 0x25 ∧ b ≠ 0x26 ∧ b ≠ 0x3D ∧ b < 0x80) ∨
      (b = 0x20 ∧ encodedCodes b = [0x2B]) ∨
      encodedCodes b = [0x25, (upperHexDigit (b / 16)).toNat, (upperHexDigit (b % 16)).toNat] := by
  unfold encodedCodes encodeByte
  dsimp only
  split
  · next hkept =>
    have hchar : (Char.ofNat b).toNat = b := toNat_charOfNat (by omega)
    -- `+`, `%`, `&` and `=` are neither alphanumeric nor among `*-._`
    have hsep : b ≠ 0x2B ∧ b ≠ 0x25 ∧ b ≠ 0x26 ∧ b ≠ 0x3D := by
      refine ⟨?_, ?_, ?_, ?_⟩ <;> (rintro rfl; revert hkept; decide)
    exact .inl ⟨by simp [hchar], hsep.1, hsep.2.1, hsep.2.2.1, hsep.2.2.2, hkept.1⟩
  · split
    · next hblank => exact .inr (.inl ⟨hblank, rfl⟩)
    · exact .inr (.inr rfl)

/-- Reading a byte's escape back gives the byte, and what follows is read on
its own. -/
theorem unescapeBytes_encodedCodes {b : Nat} (hb : b < 256) (rest : List Nat) :
    unescapeBytes (encodedCodes b ++ rest) = b :: unescapeBytes rest := by
  rcases encodedCodes_cases hb with ⟨he, hplus, hpct, -⟩ | ⟨rfl, he⟩ | he <;> rw [he]
  · -- a byte left as it is is neither `+` nor the start of an escape
    match rest with
    | [] => simp [unescapeBytes]
    | [x] => simp [unescapeBytes]
    | x :: y :: r => simp [unescapeBytes, hpct]
  · simp [unescapeBytes]
  · simp only [List.cons_append, List.nil_append, unescapeBytes,
      hexByte_upperHexDigit (show b / 16 < 16 by omega), hexByte_upperHexDigit (show b % 16 < 16 by omega)]
    congr 1
    omega

/-- Written bytes read back as themselves. -/
theorem unescapeBytes_encoded {bs : List Nat} (h : ∀ b ∈ bs, b < 256) :
    unescapeBytes (bs.flatMap encodedCodes) = bs := by
  induction bs with
  | nil => rfl
  | cons b rest ih =>
    rw [List.flatMap_cons, unescapeBytes_encodedCodes (h b (by simp)), ih fun x hx => h x (by simp [hx])]

/-- Every character a byte is written as is ASCII, and none is `&` or `=`. -/
theorem encodeByte_plain {b : Nat} (hb : b < 256) :
    ∀ c ∈ encodeByte b, c.toNat < 0x80 ∧ c.toNat ≠ 0x26 ∧ c.toNat ≠ 0x3D := by
  intro c hc
  have hcode : c.toNat ∈ encodedCodes b := List.mem_map_of_mem hc
  have hhex : ∀ n < 16, (upperHexDigit n).toNat < 0x80 ∧ (upperHexDigit n).toNat ≠ 0x26 ∧
      (upperHexDigit n).toNat ≠ 0x3D := by
    intro n hn
    rw [toNat_upperHexDigit hn]
    split <;> omega
  rcases encodedCodes_cases hb with ⟨he, -, -, hamp, heq, hlt⟩ | ⟨-, he⟩ | he <;>
    rw [he] at hcode <;> simp only [List.mem_cons, List.not_mem_nil, or_false] at hcode
  · omega
  · omega
  · rcases hcode with h | h | h
    · omega
    · exact h ▸ hhex _ (by omega)
    · exact h ▸ hhex _ (by omega)

/-! ## Names and values -/

/-- A string of ASCII characters has their codes as its bytes. -/
theorem utf8Bytes_ascii {s : String} (h : ∀ c ∈ s.toList, c.toNat < 0x80) :
    utf8Bytes s = s.toList.map Char.toNat := by
  conv_lhs => rw [← @String.ofList_toList s]
  exact utf8Bytes_ofList_ascii h

/-- The characters a string is written as. -/
theorem formEncode_toList (s : String) : (formEncode s).toList = (utf8Bytes s).flatMap encodeByte := by
  simp [formEncode]

/-- A written string is ASCII and holds neither `&` nor `=`. -/
theorem formEncode_plain (s : String) :
    ∀ c ∈ (formEncode s).toList, c.toNat < 0x80 ∧ c.toNat ≠ 0x26 ∧ c.toNat ≠ 0x3D := by
  intro c hc
  rw [formEncode_toList] at hc
  obtain ⟨b, hb, hcb⟩ := List.mem_flatMap.1 hc
  exact encodeByte_plain (utf8Bytes_lt s b hb) c hcb

theorem utf8Bytes_formEncode_eq (s : String) : utf8Bytes (formEncode s) = (formEncode s).toList.map Char.toNat :=
  utf8Bytes_ascii fun c hc => (formEncode_plain s c hc).1

/-- The bytes of a written string are the codes its bytes are written as. -/
theorem utf8Bytes_formEncode (s : String) :
    utf8Bytes (formEncode s) = (utf8Bytes s).flatMap encodedCodes := by
  rw [utf8Bytes_formEncode_eq, formEncode_toList, List.map_flatMap]
  rfl

/-- A written name or value is read back as itself. -/
theorem decodeComponent_formEncode (s : String) : decodeComponent (utf8Bytes (formEncode s)) = s := by
  rw [decodeComponent, utf8Bytes_formEncode, unescapeBytes_encoded (utf8Bytes_lt s),
    decodeLossy_utf8Bytes, String.ofList_toList]

/-- The bytes of a written string hold neither `&` nor `=`. -/
theorem formEncode_no_separator (s : String) : ∀ b ∈ utf8Bytes (formEncode s), b ≠ 0x26 ∧ b ≠ 0x3D := by
  intro b hb
  rw [utf8Bytes_formEncode_eq] at hb
  obtain ⟨c, hc, rfl⟩ := List.mem_map.1 hb
  exact (formEncode_plain s c hc).2

/-- A written pair is read as that one pair. -/
theorem formPairs_formPair (name value : String) : formPairs (formPair name value) = [(name, value)] := by
  have hbytes : utf8Bytes (formPair name value) =
      utf8Bytes (formEncode name) ++ 0x3D :: utf8Bytes (formEncode value) := by
    have hascii : ∀ c ∈ (formPair name value).toList, c.toNat < 0x80 := by
      intro c hc
      simp only [formPair, String.toList_append, List.mem_append] at hc
      rcases hc with (hc | hc) | hc
      · exact (formEncode_plain name c hc).1
      · simp only [show "=".toList = ['='] from rfl, List.mem_singleton] at hc
        exact hc ▸ (by decide)
      · exact (formEncode_plain value c hc).1
    rw [utf8Bytes_ascii hascii, utf8Bytes_formEncode_eq, utf8Bytes_formEncode_eq]
    simp [formPair]
  -- the pair holds no `&`, so it is one part, split at its own `=`
  have hsplit : splitBytes 0x26 (utf8Bytes (formPair name value)) = [utf8Bytes (formPair name value)] := by
    refine List.splitOn_eq_singleton fun hmem => ?_
    rw [hbytes] at hmem
    simp only [List.mem_append, List.mem_cons] at hmem
    rcases hmem with h | h | h
    · exact (formEncode_no_separator name _ h).1 rfl
    · omega
    · exact (formEncode_no_separator value _ h).1 rfl
  have hname : ∀ b ∈ utf8Bytes (formEncode name), (!decide (b = 0x3D)) = true := by
    intro b hb
    simpa using (formEncode_no_separator name b hb).2
  rw [formPairs, hsplit, hbytes]
  simp [List.takeWhile_append_of_pos hname, List.dropWhile_append_of_pos hname,
    decodeComponent_formEncode]

end TopicHub.Text

namespace TopicHub.Protocol

/-- The id a watcher announces in the query it builds is the id the hub reads
from that query, and so the id it registers; an empty id is announced as none,
and the hub makes one up. -/
theorem announced_id_is_registered (id drawn : String) :
    clientIdFromQuery (some (Text.formPair "id" id)) = (if id = "" then none else some id) ∧
      Hub.Gateway.clientOf (some (Text.formPair "id" id)) drawn = (if id = "" then "client-" ++ drawn else id) := by
  have hread : clientIdFromQuery (some (Text.formPair "id" id)) = (if id = "" then none else some id) := by
    by_cases h : id = "" <;> simp [clientIdFromQuery, Text.formPairs_formPair, h]
  refine ⟨hread, ?_⟩
  rw [Hub.Gateway.clientOf, hread]
  split <;> rfl

end TopicHub.Protocol
