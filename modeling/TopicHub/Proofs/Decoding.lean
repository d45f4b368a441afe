/-
  Proofs/Decoding.lean --- decoders take back what the writers give.

  STRUCTS.  A struct is decoded from an object by visiting its members in
  order (`collectMembers`).  When the members' keys are distinct and each
  names a field whose check passes, they are collected as they stand and the
  struct is built from them (`Decoder.struct_obj`).  The build looks each
  field up by key, and in members with distinct keys a lookup does not
  depend on their order (`lookup_eq_of_perm`).

  RECORDS.  So every record decodes from its own members in any order
  (`Measurement.decoder_of_perm` and the lemmas beside it), provided what its
  wire type asks of it holds: the air-quality index is a signed 32-bit
  integer, and a stored reading's timestamp reads back from its text.  A band
  decodes from its name, a list from its items, and a variant of a tagged
  enum with one field from an object holding just that field.
-/
import Mathlib.Data.List.Perm.Basic
import TopicHub.Telemetry.Event

set_option autoImplicit false

namespace TopicHub.Json

/-! ## Looking members up -/

section Lookup

variable {ms ms' : List (String × Json)} {k : String} {v : Json}

/-- In members with distinct keys, a key looks up exactly the member that has it. -/
theorem lookup_eq_some_iff (hnd : (ms.map Prod.fst).Nodup) : ms.lookup k = some v ↔ (k, v) ∈ ms := by
  induction ms with
  | nil => simp
  | cons p ms ih =>
    obtain ⟨k', v'⟩ := p
    rw [List.map_cons, List.nodup_cons] at hnd
    by_cases hk : k = k'
    · subst hk
      simp only [List.lookup_cons, beq_self_eq_true, Option.some.injEq, List.mem_cons,
        Prod.mk.injEq, true_and]
      constructor
      · exact fun h => .inl h.symm
      · rintro (h | h)
        · exact h.symm
        · exact absurd (List.mem_map_of_mem h : (k, v).1 ∈ ms.map Prod.fst) hnd.1
    · have hb : (k == k') = false := beq_eq_false_iff_ne.mpr hk
      simp only [List.lookup_cons, hb, List.mem_cons, Prod.mk.injEq, hk, false_and, false_or]
      exact ih hnd.2

/-- A key none of the members has looks up nothing. -/
theorem lookup_eq_none (h : k ∉ ms.map Prod.fst) : ms.lookup k = none := by
  induction ms with
  | nil => rfl
  | cons p ms ih =>
    obtain ⟨k', v'⟩ := p
    simp only [List.map_cons, List.mem_cons, not_or] at h
    simp [List.lookup_cons, beq_eq_false_iff_ne.mpr h.1, ih h.2]

/-- Reordering members with distinct keys changes no lookup. -/
theorem lookup_eq_of_perm (hnd : (ms.map Prod.fst).Nodup) (hp : ms.Perm ms') (k : String) :
    ms.lookup k = ms'.lookup k := by
  have hnd' : (ms'.map Prod.fst).Nodup := (hp.map Prod.fst).nodup_iff.1 hnd
  cases h : ms.lookup k with
  | some v => exact ((lookup_eq_some_iff hnd').2 (hp.subset ((lookup_eq_some_iff hnd).1 h))).symm
  | none =>
    -- no member of `ms` has the key, so none of `ms'` has it either
    have hnot : k ∉ ms'.map Prod.fst := by
      intro hk
      obtain ⟨⟨k', v⟩, hmem, rfl⟩ := List.mem_map.1 hk
      have := (lookup_eq_some_iff hnd).2 (hp.symm.subset hmem)
      rw [h] at this
      cases this
    exact (lookup_eq_none hnot).symm

end Lookup

/-! ## Structs -/

namespace Decoder

variable {α : Type}

/-- Members whose keys are distinct, each the name of a field whose check
passes and none already found, are collected as they stand. -/
theorem collectMembers_known {specs : List FieldSpec} {members : List (String × Json)}
    (hnd : (members.map Prod.fst).Nodup)
    (hknown : ∀ p ∈ members, ∃ spec, specs.find? (·.name == p.1) = some spec ∧ spec.check p.2 = .ok ()) :
    ∀ {found : FieldValues}, (∀ p ∈ members, ∀ q ∈ found, q.1 ≠ p.1) →
      collectMembers specs members found = .ok (found.reverse ++ members) := by
  induction members with
  | nil =>
    intro found _
    simp [collectMembers]
  | cons p members ih =>
    intro found hfresh
    obtain ⟨k, v⟩ := p
    rw [List.map_cons, List.nodup_cons] at hnd
    obtain ⟨spec, hfind, hcheck⟩ := hknown (k, v) (by simp)
    have hnew : (found.any fun q => q.1 == k) = false := by
      simpa using fun q hq heq => hfresh (k, v) (by simp) q hq heq
    -- the member is kept, and the ones after it have keys other than its own
    have hrest := @ih hnd.2 (fun p hp => hknown p (by simp [hp])) ((k, v) :: found) (by
      intro p hp q hq
      rcases List.mem_cons.1 hq with rfl | hq
      · exact fun heq => hnd.1 (heq ▸ List.mem_map_of_mem hp)
      · exact hfresh p (by simp [hp]) q hq)
    simp only [collectMembers, hfind, hnew, Bool.false_eq_true, if_false, hcheck, hrest, bind,
      Except.bind]
    simp

/-- An object of distinct known members, each passing its field's check, is
built from those members. -/
theorem struct_obj {o : Origin} {what : String} {specs : List FieldSpec}
    {build : FieldValues → Except Mismatch α} {members : List (String × Json)}
    (hnd : (members.map Prod.fst).Nodup)
    (hknown : ∀ p ∈ members, ∃ spec, specs.find? (·.name == p.1) = some spec ∧ spec.check p.2 = .ok ()) :
    Decoder.struct o what specs build (.obj members) = build members := by
  have hcollect : collectMembers specs members [] = .ok ([].reverse ++ members) :=
    collectMembers_known hnd hknown (by simp)
  rw [List.reverse_nil, List.nil_append] at hcollect
  simp [Decoder.struct, hcollect, bind, Except.bind]

/-- Members that reorder a list of distinct known members, each passing its
field's check, are built from as they stand. -/
theorem struct_perm {o : Origin} {what : String} {specs : List FieldSpec}
    {build : FieldValues → Except Mismatch α} {members ms : List (String × Json)}
    (hnd : (members.map Prod.fst).Nodup) (hp : ms.Perm members)
    (hknown : ∀ p ∈ members, ∃ spec, specs.find? (·.name == p.1) = some spec ∧ spec.check p.2 = .ok ()) :
    Decoder.struct o what specs build (.obj ms) = build ms :=
  struct_obj ((hp.map Prod.fst).nodup_iff.2 hnd) fun p h => hknown p (hp.subset h)

/-- Each item of an array of written values is read back. -/
theorem listItems_map {β : Type} {d : Decoder α} {f : β → Json} {g : β → α} {xs : List β}
    (h : ∀ x ∈ xs, d (f x) = .ok (g x)) : listItems d (xs.map f) = .ok (xs.map g) := by
  induction xs with
  | nil => rfl
  | cons x xs ih =>
    simp [listItems, h x (by simp), ih fun y hy => h y (by simp [hy]), bind, Except.bind]

theorem list_map {β : Type} {d : Decoder α} {f : β → Json} {g : β → α} {xs : List β}
    (h : ∀ x ∈ xs, d (f x) = .ok (g x)) : list d (.arr (xs.map f)) = .ok (xs.map g) :=
  listItems_map h

/-- A list of strings reads back. -/
theorem list_string_ofStrings (xs : List String) : list string (Json.ofStrings xs) = .ok xs := by
  have h := @list_map String String string Json.str id xs fun _ _ => rfl
  simpa [Json.ofStrings] using h

/-- A signed 32-bit integer reads back. -/
theorem i32_ofInt {i : Int} (h : -Int.pow 2 31 ≤ i ∧ i ≤ Int.pow 2 31 - 1) : i32 (Json.ofInt i) = .ok i := by
  unfold Json.ofInt
  split
  · have hcast : ((i.toNat : Nat) : Int) = i := Int.toNat_of_nonneg ‹0 ≤ i›
    simp only [i32, integer, hcast, if_pos h]
  · simp only [i32, integer, if_pos h]

/-- An unsigned 32-bit integer reads back. -/
theorem u32_unsigned {n : Nat} (h : n < Nat.pow 2 32) : u32 (.num (.unsigned n)) = .ok n := by
  have hin : (0 : Int) ≤ (n : Int) ∧ (n : Int) ≤ Int.pow 2 32 - 1 := by
    have h32 : Nat.pow 2 32 = 4294967296 := by decide
    have h32' : Int.pow 2 32 = 4294967296 := by decide
    omega
  simp only [u32, unsigned, integer, if_pos hin, Except.map, Int.toNat_natCast]

/-- A variant with one field reads back from an object holding just that field. -/
theorem oneField_single {enum variant field : String} {d : Decoder α} {j : Json} {x : α}
    (h : d j = .ok x) : oneField enum variant field d (.obj [(field, j)]) = .ok x := by
  rw [oneField, struct_obj (by simp) (by simp [FieldSpec.of, h, Except.map])]
  simp [FieldValues.required, h]

end Decoder

/-- The value of a required field is what its decoder reads from the member
with its name. -/
theorem required_of_perm {α : Type} {members ms : List (String × Json)} {name : String}
    {d : Decoder α} (hnd : (members.map Prod.fst).Nodup) (hp : ms.Perm members) :
    FieldValues.required ms name d = FieldValues.required members name d := by
  simp [FieldValues.required, lookup_eq_of_perm ((hp.map Prod.fst).nodup_iff.2 hnd) hp name]

end TopicHub.Json

namespace TopicHub.Telemetry

open TopicHub.Json

/-! ## Records -/

/-- A band reads back from its name. -/
theorem Band.decoder_toJson (b : Band) : Band.decoder b.toJson = .ok b := by
  cases b <;> rfl

/-- A timestamp whose text reads back decodes from it. -/
theorem Timestamp.decoder_toJson {t : Timestamp} (h : Timestamp.parse t.render = .ok t) :
    Timestamp.decoder t.toJson = .ok t := by
  simp [Timestamp.decoder, Timestamp.toJson, h]

/-- A measurement decodes from its own members in any order, when its index is
a signed 32-bit integer. -/
theorem Measurement.decoder_of_perm {o : Origin} {m : Measurement} {ms : List (String × Json)}
    (hq : -Int.pow 2 31 ≤ m.airQuality ∧ m.airQuality ≤ Int.pow 2 31 - 1) (hp : ms.Perm m.members) :
    Measurement.decoder o (.obj ms) = .ok m := by
  have hnd : (m.members.map Prod.fst).Nodup := by simp [Measurement.members]
  have hi32 := Decoder.i32_ofInt hq
  rw [Measurement.decoder, Decoder.struct_perm hnd hp]
  · simp only [required_of_perm hnd hp]
    simp [FieldValues.required, Measurement.members, List.lookup_cons, Decoder.string, Decoder.float,
      Json.ofFloat, hi32, bind, Except.bind]
  · -- every member is a field, and its value one the field takes
    intro p hmem
    simp only [Measurement.members, List.mem_cons, List.not_mem_nil, or_false] at hmem
    rcases hmem with rfl | rfl | rfl | rfl | rfl
    all_goals simp [FieldSpec.of, Except.map, Decoder.string, Decoder.float, Json.ofFloat, hi32]

/-- A stored reading decodes from its own members in any order, when its index
is a signed 32-bit integer and its timestamp reads back from its text. -/
theorem DeviceLog.decoder_of_perm {o : Origin} {l : DeviceLog} {ms : List (String × Json)}
    (hq : -Int.pow 2 31 ≤ l.airQuality ∧ l.airQuality ≤ Int.pow 2 31 - 1)
    (ht : Timestamp.parse l.timestamp.render = .ok l.timestamp) (hp : ms.Perm l.members) :
    DeviceLog.decoder o (.obj ms) = .ok l := by
  have hnd : (l.members.map Prod.fst).Nodup := by simp [DeviceLog.members]
  have hi32 := Decoder.i32_ofInt hq
  have htime := Timestamp.decoder_toJson ht
  rw [DeviceLog.decoder, Decoder.struct_perm hnd hp]
  · simp only [required_of_perm hnd hp]
    simp [FieldValues.required, DeviceLog.members, List.lookup_cons, Decoder.string, Decoder.float,
      Json.ofFloat, hi32, htime, bind, Except.bind]
  · intro p hmem
    simp only [DeviceLog.members, List.mem_cons, List.not_mem_nil, or_false] at hmem
    rcases hmem with rfl | rfl | rfl | rfl | rfl | rfl | rfl | rfl
    all_goals simp [FieldSpec.of, Except.map, Decoder.string, Decoder.float, Json.ofFloat, hi32, htime]

/-- A threshold decodes from its own members in any order. -/
theorem Threshold.decoder_of_perm {o : Origin} {t : Threshold} {ms : List (String × Json)}
    (hp : ms.Perm t.members) : Threshold.decoder o (.obj ms) = .ok t := by
  have hnd : (t.members.map Prod.fst).Nodup := by simp [Threshold.members]
  rw [Threshold.decoder, Decoder.struct_perm hnd hp]
  · simp only [required_of_perm hnd hp]
    simp [FieldValues.required, Threshold.members, List.lookup_cons, Decoder.string, Decoder.float,
      Json.ofFloat, bind, Except.bind]
  · intro p hmem
    simp only [Threshold.members, List.mem_cons, List.not_mem_nil, or_false] at hmem
    rcases hmem with rfl | rfl | rfl | rfl | rfl
    all_goals simp [FieldSpec.of, Except.map, Decoder.string, Decoder.float, Json.ofFloat]

/-- An evaluation decodes from its own members in any order. -/
theorem Evaluation.decoder_of_perm {o : Origin} {e : Evaluation} {ms : List (String × Json)}
    (hp : ms.Perm e.members) : Evaluation.decoder o (.obj ms) = .ok e := by
  have hnd : (e.members.map Prod.fst).Nodup := by simp [Evaluation.members]
  have hband := Band.decoder_toJson e.band
  rw [Evaluation.decoder, Decoder.struct_perm hnd hp]
  · simp only [required_of_perm hnd hp]
    simp [FieldValues.required, Evaluation.members, List.lookup_cons, Decoder.string, Decoder.float,
      Json.ofFloat, hband, bind, Except.bind]
  · intro p hmem
    simp only [Evaluation.members, List.mem_cons, List.not_mem_nil, or_false] at hmem
    rcases hmem with rfl | rfl | rfl
    all_goals simp [FieldSpec.of, Except.map, Decoder.string, Decoder.float, Json.ofFloat, hband]

end TopicHub.Telemetry
