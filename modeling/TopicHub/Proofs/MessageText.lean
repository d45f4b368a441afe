/-
  Proofs/MessageText.lean --- a message reads back from its text.

  A message is written as an object whose first member is the tag `type` and
  whose other members are its fields; the reader finds the tag, buffers the
  fields and decodes the variant's body from them.  So a message reads back
  when its fields do: every string does, whatever its characters; an integer
  does when it lies in its wire type; a double when its text reads back, the
  one thing the reader's treatment of numbers leaves open (`FloatReadsBack`),
  shown of a given double by computing it (`FloatReadsBack.of_positional`).

  RECORDS.  `Measurement.Representable` and the predicates beside it say what
  the wire asks of a record's values.  Under them each member of the record
  reads back (`Measurement.members_readBack`), and with the decoders of
  `Decoding` the record itself does.

  MESSAGES.  Every hub message reads back, and a client message does when its
  values are representable (`messages_read_back_from_text`).
-/
import TopicHub.Proofs.Decoding
import TopicHub.Proofs.DocumentText
import TopicHub.Protocol.Message

set_option autoImplicit false

namespace TopicHub.Json

open Scalar

/-! ## Values that read back -/

/-- A signed 32-bit integer reads back. -/
theorem ReadsBack.ofInt {budget : Nat} {i : Int} (h : -Int.pow 2 31 ≤ i ∧ i ≤ Int.pow 2 31 - 1) :
    ReadsBack budget (.ofInt i) := by
  have h31 : Int.pow 2 31 = 2147483648 := by decide
  have h63 : Int.pow 2 63 = 9223372036854775808 := by decide
  have hmax : maxUnsigned = 18446744073709551615 := by decide
  unfold Json.ofInt
  split
  · exact .num (by simp only [Number.ReadsBack, hmax]; omega)
  · exact .num (by simp only [Number.ReadsBack]; omega)

/-- An array of written values reads back when each value does one level down. -/
theorem ReadsBack.arr_map {β : Type} {budget : Nat} {f : β → Json} {xs : List β} (hdeep : 1 < budget)
    (h : ∀ x ∈ xs, ReadsBack (budget - 1) (f x)) : ReadsBack budget (.arr (xs.map f)) :=
  .arr hdeep fun j hj => by
    obtain ⟨x, hx, rfl⟩ := List.mem_map.1 hj
    exact h x hx

/-- A list of strings reads back when arrays are allowed. -/
theorem ReadsBack.ofStrings {budget : Nat} (hdeep : 1 < budget) (xs : List String) :
    ReadsBack budget (.ofStrings xs) :=
  .arr_map hdeep fun s _ => .str s

/-- A tagged object whose tag comes first is read as the variant the tag names
and the body of its other members. -/
theorem readTagged_render_first {α β : Type} {rule : TagRule α} (body : α → Json → Except Mismatch β)
    {name : String} {v : α} {b : β} {fields : List (String × Json)}
    (hv : rule.variant name = .ok v) (hkeys : ∀ p ∈ fields, p.1 ≠ rule.tag)
    (hvalues : ∀ p ∈ fields, ReadsBack (depthLimit - 1) p.2) (hbody : body v (.obj fields) = .ok b) :
    readTagged rule body (Json.render (.obj ((rule.tag, .str name) :: fields))) = .ok b := by
  have h : readTagged rule body (Json.render (.obj ([] ++ (rule.tag, .str name) :: fields))) = .ok b :=
    readTagged_render body hv (by simpa using hkeys) (by simpa using hvalues) (by simpa using hbody)
  simpa using h

end TopicHub.Json

namespace TopicHub.Telemetry

open TopicHub.Json

/-! ## Records -/

/-- What the wire asks of a measurement: its doubles read back, and its
air-quality index is a signed 32-bit integer. -/
def Measurement.Representable (m : Measurement) : Prop :=
  FloatReadsBack m.temperature ∧ FloatReadsBack m.humidity ∧ FloatReadsBack m.pressure ∧
    -Int.pow 2 31 ≤ m.airQuality ∧ m.airQuality ≤ Int.pow 2 31 - 1

/-- What the wire asks of a threshold: its four limits read back. -/
def Threshold.Representable (t : Threshold) : Prop :=
  FloatReadsBack t.warnMin ∧ FloatReadsBack t.goodMin ∧ FloatReadsBack t.goodMax ∧
    FloatReadsBack t.warnMax

theorem Measurement.members_readBack {budget : Nat} {m : Measurement} (h : m.Representable) :
    ∀ p ∈ m.members, ReadsBack budget p.2 := by
  obtain ⟨ht, hh, hp, hq⟩ := h
  intro p hmem
  simp only [Measurement.members, List.mem_cons, List.not_mem_nil, or_false] at hmem
  rcases hmem with rfl | rfl | rfl | rfl | rfl
  · exact .str _
  · exact .num ht
  · exact .num hh
  · exact .num hp
  · exact .ofInt hq

theorem Threshold.members_readBack {budget : Nat} {t : Threshold} (h : t.Representable) :
    ∀ p ∈ t.members, ReadsBack budget p.2 := by
  obtain ⟨h₁, h₂, h₃, h₄⟩ := h
  intro p hmem
  simp only [Threshold.members, List.mem_cons, List.not_mem_nil, or_false] at hmem
  rcases hmem with rfl | rfl | rfl | rfl | rfl
  · exact .str _
  · exact .num h₁
  · exact .num h₂
  · exact .num h₃
  · exact .num h₄

end TopicHub.Telemetry

namespace TopicHub.Protocol

open TopicHub.Json
open TopicHub.Json.Scalar
open TopicHub.Telemetry

/-! ## Messages -/

/-- What the wire asks of a client message: the values of its records are
representable, and an interval is an unsigned 32-bit integer. -/
def ClientMessage.Representable : ClientMessage → Prop
  | .measurement r => r.Representable
  | .changeInterval n => n < Nat.pow 2 32
  | .updateThresholds ts => ∀ t ∈ ts, t.Representable
  | .subscribe _ | .unsubscribe _ | .clearData => True

theorem ClientKind.ofName_name (k : ClientKind) : ClientKind.ofName k.name = .ok k := by
  cases k <;> rfl

theorem ServerKind.ofName_name (k : ServerKind) : ServerKind.ofName k.name = .ok k := by
  cases k <;> rfl

/-- A client message whose fields are written after its tag, read back and
decode to it, reads back from its text. -/
theorem ClientMessage.parse_render_of {m : ClientMessage} {fields : List (String × Json)}
    (hjson : m.toJson = .obj (("type", .str m.kind.name) :: fields))
    (hkeys : ∀ p ∈ fields, p.1 ≠ "type") (hvalues : ∀ p ∈ fields, ReadsBack (depthLimit - 1) p.2)
    (hbody : m.kind.body (.obj fields) = .ok m) : ClientMessage.parse m.render = .ok m := by
  rw [ClientMessage.parse, ClientMessage.render, hjson]
  exact readTagged_render_first ClientKind.body (ClientKind.ofName_name m.kind) hkeys hvalues hbody

theorem ServerMessage.parse_render_of {r : ServerMessage} {fields : List (String × Json)}
    (hjson : r.toJson = .obj (("type", .str r.kind.name) :: fields))
    (hkeys : ∀ p ∈ fields, p.1 ≠ "type") (hvalues : ∀ p ∈ fields, ReadsBack (depthLimit - 1) p.2)
    (hbody : r.kind.body (.obj fields) = .ok r) : ServerMessage.parse r.render = .ok r := by
  rw [ServerMessage.parse, ServerMessage.render, hjson]
  exact readTagged_render_first ServerKind.body (ServerKind.ofName_name r.kind) hkeys hvalues hbody

/-- The text of every hub message reads back as it, whatever its strings hold;
so does the text of every client message whose values the wire can carry. -/
theorem messages_read_back_from_text :
    (∀ m : ClientMessage, m.Representable → ClientMessage.parse m.render = .ok m) ∧
      ∀ r : ServerMessage, ServerMessage.parse r.render = .ok r := by
  have hdeep : 1 < depthLimit - 1 := by decide
  refine ⟨fun m hm => ?_, fun r => ?_⟩
  · cases m with
    | subscribe ts | unsubscribe ts =>
      refine ClientMessage.parse_render_of rfl (by simp) (by simpa using .ofStrings hdeep ts) ?_
      simp [ClientKind.body, ClientMessage.kind, Decoder.oneField_single (Decoder.list_string_ofStrings ts)]
    | measurement r =>
      refine ClientMessage.parse_render_of rfl (by simp [Measurement.members])
        (Measurement.members_readBack hm) ?_
      simp [ClientKind.body, ClientMessage.kind, Measurement.decoder_of_perm hm.2.2.2 (List.Perm.refl _)]
    | clearData => exact ClientMessage.parse_render_of rfl (by simp) (by simp) rfl
    | changeInterval n =>
      have hmax : Nat.pow 2 32 ≤ maxUnsigned := by decide
      refine ClientMessage.parse_render_of rfl (by simp) (by simpa using .num (by
        simp only [Number.ReadsBack]; exact Nat.le_trans (Nat.le_of_lt hm) hmax)) ?_
      simp [ClientKind.body, ClientMessage.kind, Decoder.oneField_single (Decoder.u32_unsigned hm)]
    | updateThresholds ts =>
      -- the thresholds are objects one level down, each decoding from its own members
      have hitems : ReadsBack (depthLimit - 1) (.arr (ts.map Threshold.toJson)) :=
        .arr_map hdeep fun t ht => .obj (by decide) (Threshold.members_readBack (hm t ht))
      have hlist : Decoder.list (Threshold.decoder .buffered) (.arr (ts.map Threshold.toJson)) =
          .ok (ts.map fun t => t) :=
        Decoder.list_map fun t _ => Threshold.decoder_of_perm (List.Perm.refl _)
      refine ClientMessage.parse_render_of rfl (by simp) (by simpa using hitems) ?_
      simp [ClientKind.body, ClientMessage.kind, Decoder.oneField_single hlist]
  · cases r with
    | subscribed ts | unsubscribed ts =>
      refine ServerMessage.parse_render_of rfl (by simp) (by simpa using .ofStrings hdeep ts) ?_
      simp [ServerKind.body, ServerMessage.kind, Decoder.oneField_single (Decoder.list_string_ofStrings ts)]
    | error message =>
      refine ServerMessage.parse_render_of rfl (by simp) (by simpa using .str message) ?_
      simp [ServerKind.body, ServerMessage.kind, Decoder.oneField_single (rfl : Decoder.string (.str message) = _)]

/-- A reading of 21.5 degrees, 40.1 per cent humidity and 1013.25 hPa, with an
air-quality index of 42, reads back from its text (the doubles by their bits;
40.1 has no exact double, and its nearest is read back). -/
theorem measurement_message_reads_back :
    let m : ClientMessage := .measurement ⟨"sensor-1", Float.ofBits 0x4035800000000000,
      Float.ofBits 0x40440CCCCCCCCCCD, Float.ofBits 0x408FAA0000000000, 42⟩
    m.Representable ∧ ClientMessage.parse m.render = .ok m := by
  intro m
  -- each double is written positionally, and its digits scale back to it
  have htemperature : FloatReadsBack (Float.ofBits 0x4035800000000000) := by
    refine .of_positional false 21 ['5'] ?_ ?_ ?_ ?_ ?_ <;> decide +kernel
  have hhumidity : FloatReadsBack (Float.ofBits 0x40440CCCCCCCCCCD) := by
    refine .of_positional false 40 ['1'] ?_ ?_ ?_ ?_ ?_ <;> decide +kernel
  have hpressure : FloatReadsBack (Float.ofBits 0x408FAA0000000000) := by
    refine .of_positional false 1013 ['2', '5'] ?_ ?_ ?_ ?_ ?_ <;> decide +kernel
  have h : m.Representable := ⟨htemperature, hhumidity, hpressure, by decide, by decide⟩
  exact ⟨h, messages_read_back_from_text.1 m h⟩

end TopicHub.Protocol
