/-
  Proofs/EventText.lean --- a dashboard frame reads back as its event.

  An event reaches the dashboards as the frame of its map value: the members
  of every object sorted by key (`Json.normalize`), then the top-level keys
  renamed to camel case (`Naming.camelFrame`).  The reader of events finds
  `eventType` wherever the sort put it and decodes the other members by name,
  so the frame reads back although its keys are not in the order the event
  writes them.

  MAP VALUES.  Members whose keys are distinct are only reordered by the sort
  (`sortMembers_perm`); the members of a record are scalars, so its map value
  is its members sorted, and the record decodes from them
  (`DeviceLog.decoder_normalize` and the lemmas beside it).

  FRAMES.  Renaming keys that are sorted and already in camel case gives the
  same members back (`renameMembers_sorted`), so the frame of an event is the
  text of its map value (`camelFrame_normalize`); and that text reads back as
  the event (`DashboardEvent.parse_normalize`).
-/
import Mathlib.Data.List.Nodup
import Mathlib.Data.List.Perm.Basic
import TopicHub.Proofs.Frames
import TopicHub.Proofs.MessageText

set_option autoImplicit false

namespace TopicHub.Json

/-! ## Map values of distinct keys -/

section MapValues

variable {fields : List (String × Json)}

/-- Members with distinct keys have no run of equal keys to collapse. -/
theorem lastOfRuns_of_nodup (h : (fields.map Prod.fst).Nodup) : Json.lastOfRuns fields = fields := by
  fun_induction Json.lastOfRuns fields with
  | case1 => rfl
  | case2 m => rfl
  | case3 m n rest heq ih =>
    -- two neighbours with one key contradict the distinct keys
    have hne : m.1 ≠ n.1 := by
      simp only [List.map_cons, List.nodup_cons, List.mem_cons] at h
      exact fun hmn => h.1 (.inl hmn)
    exact absurd (by simpa using heq) hne
  | case4 m n rest _ ih =>
    rw [List.map_cons, List.nodup_cons] at h
    rw [ih h.2]

/-- Members with distinct keys are only reordered by the sort. -/
theorem sortMembers_perm (h : (fields.map Prod.fst).Nodup) : (Json.sortMembers fields).Perm fields := by
  have hperm := List.mergeSort_perm fields fun a b => decide (a.1 ≤ b.1)
  rw [Json.sortMembers, lastOfRuns_of_nodup ((hperm.map Prod.fst).nodup_iff.2 h)]
  exact hperm

/-- A map value keeps only members the document has. -/
theorem mem_sortMembers {p : String × Json} (h : p ∈ Json.sortMembers fields) : p ∈ fields :=
  (List.mergeSort_perm fields _).subset ((lastOfRuns_sublist _).subset h)

/-- An object whose values are their own map values has its members sorted as
its map value. -/
theorem normalize_obj_of_fixed (h : ∀ p ∈ fields, p.2.normalize = p.2) :
    (Json.obj fields).normalize = .obj (Json.sortMembers fields) := by
  have hfields : Json.normalizeFields fields = fields := by
    induction fields with
    | nil => rfl
    | cons p rest ih =>
      obtain ⟨k, v⟩ := p
      simp only [Json.normalizeFields, h (k, v) (by simp), ih fun q hq => h q (by simp [hq])]
  simp [Json.normalize, hfields]

theorem mem_normalizeFields {p : String × Json} (h : p ∈ Json.normalizeFields fields) :
    ∃ q ∈ fields, p = (q.1, q.2.normalize) := by
  induction fields with
  | nil => simp [Json.normalizeFields] at h
  | cons q rest ih =>
    obtain ⟨k, v⟩ := q
    simp only [Json.normalizeFields, List.mem_cons] at h
    rcases h with rfl | h
    · exact ⟨(k, v), by simp, rfl⟩
    · obtain ⟨q, hq, rfl⟩ := ih h
      exact ⟨q, by simp [hq], rfl⟩

/-- An object of members that read back one level down reads back as its map
value, when its values are their own map values. -/
theorem ReadsBack.obj_sortMembers {budget : Nat} (hdeep : 1 < budget)
    (h : ∀ p ∈ fields, ReadsBack (budget - 1) p.2) : ReadsBack budget (.obj (Json.sortMembers fields)) :=
  .obj hdeep fun p hp => h p (mem_sortMembers hp)

end MapValues

@[simp] theorem normalize_str (s : String) : (Json.str s).normalize = .str s := rfl

@[simp] theorem normalize_num (n : Number) : (Json.num n).normalize = .num n := rfl

@[simp] theorem normalize_ofFloat (x : Float) : (Json.ofFloat x).normalize = .ofFloat x := rfl

@[simp] theorem normalize_ofInt (i : Int) : (Json.ofInt i).normalize = .ofInt i := by
  unfold Json.ofInt
  split <;> rfl

theorem normalizeItems_eq_map (items : List Json) : Json.normalizeItems items = items.map Json.normalize := by
  induction items with
  | nil => rfl
  | cons j rest ih => simp [Json.normalizeItems, ih]

@[simp] theorem normalize_arr (items : List Json) :
    (Json.arr items).normalize = .arr (items.map Json.normalize) := by
  simp [Json.normalize, normalizeItems_eq_map]

end TopicHub.Json

/-! ## Frames of sorted camel-case keys -/

namespace TopicHub.Naming

open TopicHub.Json

/-- A key above every key of sorted members goes last. -/
theorem insertSorted_of_lt {k : String} {v : Json} {out : List (String × Json)}
    (h : ∀ p ∈ out, p.1 < k) : Json.insertSorted k v out = out ++ [(k, v)] := by
  induction out with
  | nil => rfl
  | cons p rest ih =>
    obtain ⟨k', v'⟩ := p
    have hlt : k' < k := h (k', v') (by simp)
    have hnlt : ¬ k < k' := not_lt_of_gt hlt
    have hne : k ≠ k' := ne_of_gt hlt
    simp [Json.insertSorted, hnlt, hne, ih fun q hq => h q (by simp [hq])]

/-- Renaming members that are sorted and already in camel case, after members
with smaller keys, appends them as they stand. -/
theorem renameMembers_sorted {fields out : List (String × Json)}
    (hfixed : ∀ p ∈ fields, toCamelCase p.1 = p.1) (hsorted : fields.Pairwise fun a b => a.1 < b.1)
    (hbelow : ∀ p ∈ out, ∀ q ∈ fields, p.1 < q.1) : renameMembers fields out = .ok (out ++ fields) := by
  induction fields generalizing out with
  | nil => simp [renameMembers]
  | cons q rest ih =>
    obtain ⟨k, v⟩ := q
    obtain ⟨hhead, hrest⟩ := List.pairwise_cons.1 hsorted
    have hk : toCamelCase k = k := hfixed (k, v) (by simp)
    have hnew : (out.any fun p => p.1 == k) = false := by
      simpa using fun p hp heq => ne_of_lt (hbelow p hp (k, v) (by simp)) heq
    have hnext := @ih (out ++ [(k, v)]) (fun p hp => hfixed p (by simp [hp])) hrest (by
      intro p hp r hr
      rcases List.mem_append.1 hp with hp | hp
      · exact hbelow p hp r (by simp [hr])
      · rw [List.mem_singleton.1 hp]
        exact hhead r hr)
    simp only [renameMembers, hk, hnew, Bool.false_eq_true, if_false,
      insertSorted_of_lt fun p hp => hbelow p hp (k, v) (by simp), hnext]
    simp

/-- The frame of the map value of an object whose top-level keys are in camel
case renames nothing: it is the text of the map value. -/
theorem camelFrame_normalize {fields : List (String × Json)}
    (hfixed : ∀ p ∈ fields, toCamelCase p.1 = p.1) :
    camelFrame (Json.obj fields).normalize = .ok (Json.obj fields).normalize.render := by
  have hkeys : ∀ p ∈ Json.sortMembers (Json.normalizeFields fields), toCamelCase p.1 = p.1 := by
    intro p hp
    obtain ⟨q, hq, rfl⟩ := mem_normalizeFields (mem_sortMembers hp)
    exact hfixed q hq
  have hrename := @renameMembers_sorted _ [] hkeys (sortMembers_keys_lt _) (by simp)
  simp [camelFrame, Json.normalize, hrename, bind, Except.bind]

end TopicHub.Naming

/-! ## Records as map values -/

namespace TopicHub.Telemetry

open TopicHub.Json

/-- What the wire asks of a stored reading: its doubles read back, its
air-quality index is a signed 32-bit integer, and its timestamp reads back
from its text. -/
def DeviceLog.Representable (l : DeviceLog) : Prop :=
  FloatReadsBack l.temperature ∧ FloatReadsBack l.humidity ∧ FloatReadsBack l.pressure ∧
    (-Int.pow 2 31 ≤ l.airQuality ∧ l.airQuality ≤ Int.pow 2 31 - 1) ∧
    Timestamp.parse l.timestamp.render = .ok l.timestamp

/-- What the wire asks of an evaluation: its value reads back. -/
def Evaluation.Representable (e : Evaluation) : Prop := FloatReadsBack e.value

theorem DeviceLog.members_readBack {budget : Nat} {l : DeviceLog} (h : l.Representable) :
    ∀ p ∈ l.members, ReadsBack budget p.2 := by
  obtain ⟨ht, hh, hp, hq, _⟩ := h
  intro p hmem
  simp only [DeviceLog.members, List.mem_cons, List.not_mem_nil, or_false] at hmem
  rcases hmem with rfl | rfl | rfl | rfl | rfl | rfl | rfl | rfl
  · exact .str _
  · exact .str _
  · exact .str _
  · exact .str _
  · exact .num ht
  · exact .num hh
  · exact .num hp
  · exact .ofInt hq

theorem Evaluation.members_readBack {budget : Nat} {e : Evaluation} (h : e.Representable) :
    ∀ p ∈ e.members, ReadsBack budget p.2 := by
  intro p hmem
  simp only [Evaluation.members, List.mem_cons, List.not_mem_nil, or_false] at hmem
  rcases hmem with rfl | rfl | rfl
  · exact .str _
  · exact .num h
  · exact .str _

/-- The map value of a stored reading is its members sorted by key. -/
theorem DeviceLog.normalize_toJson (l : DeviceLog) :
    l.toJson.normalize = .obj (Json.sortMembers l.members) :=
  normalize_obj_of_fixed (by simp [DeviceLog.members, Timestamp.toJson])

theorem Threshold.normalize_toJson (t : Threshold) :
    t.toJson.normalize = .obj (Json.sortMembers t.members) :=
  normalize_obj_of_fixed (by simp [Threshold.members])

theorem Evaluation.normalize_toJson (e : Evaluation) :
    e.toJson.normalize = .obj (Json.sortMembers e.members) :=
  normalize_obj_of_fixed (by simp [Evaluation.members, Band.toJson])

/-- A stored reading reads back as its map value, wherever objects are allowed. -/
theorem DeviceLog.readsBack_normalize {budget : Nat} {l : DeviceLog} (hdeep : 1 < budget)
    (h : l.Representable) : ReadsBack budget l.toJson.normalize := by
  rw [DeviceLog.normalize_toJson]
  exact .obj_sortMembers hdeep (DeviceLog.members_readBack h)

theorem Threshold.readsBack_normalize {budget : Nat} {t : Threshold} (hdeep : 1 < budget)
    (h : t.Representable) : ReadsBack budget t.toJson.normalize := by
  rw [Threshold.normalize_toJson]
  exact .obj_sortMembers hdeep (Threshold.members_readBack h)

theorem Evaluation.readsBack_normalize {budget : Nat} {e : Evaluation} (hdeep : 1 < budget)
    (h : e.Representable) : ReadsBack budget e.toJson.normalize := by
  rw [Evaluation.normalize_toJson]
  exact .obj_sortMembers hdeep (Evaluation.members_readBack h)

/-- A stored reading decodes from its map value. -/
theorem DeviceLog.decoder_normalize {o : Origin} {l : DeviceLog} (h : l.Representable) :
    DeviceLog.decoder o l.toJson.normalize = .ok l := by
  rw [DeviceLog.normalize_toJson]
  exact DeviceLog.decoder_of_perm h.2.2.2.1 h.2.2.2.2
    (sortMembers_perm (by simp [DeviceLog.members]))

theorem Threshold.decoder_normalize {o : Origin} (t : Threshold) :
    Threshold.decoder o t.toJson.normalize = .ok t := by
  rw [Threshold.normalize_toJson]
  exact Threshold.decoder_of_perm (sortMembers_perm (by simp [Threshold.members]))

theorem Evaluation.decoder_normalize {o : Origin} (e : Evaluation) :
    Evaluation.decoder o e.toJson.normalize = .ok e := by
  rw [Evaluation.normalize_toJson]
  exact Evaluation.decoder_of_perm (sortMembers_perm (by simp [Evaluation.members]))

/-! ## Events -/

/-- What the wire asks of a dashboard event: the values of its records are
representable, and an interval is an unsigned 32-bit integer. -/
def DashboardEvent.Representable : DashboardEvent → Prop
  | .liveData logs => ∀ l ∈ logs, l.Representable
  | .intervalChanged n => n < Nat.pow 2 32
  | .thresholdsUpdated ts es => (∀ t ∈ ts, t.Representable) ∧ ∀ e ∈ es, e.Representable
  | .dataCleared => True

theorem EventKind.ofName_name (k : EventKind) : EventKind.ofName k.name = .ok k := by
  cases k <;> rfl

/-- The text of the map value of an event reads back as the event when its
fields have distinct keys other than `eventType`, read back as map values,
and decode to the event in any order. -/
theorem DashboardEvent.parse_normalize_of {e : DashboardEvent} {rest : List (String × Json)}
    (hjson : e.toJson = .obj (("eventType", .str e.name) :: rest))
    (hnd : (("eventType", Json.str e.name) :: rest).map Prod.fst |>.Nodup)
    (hvalues : ∀ p ∈ rest, ReadsBack (depthLimit - 1) p.2.normalize)
    (hbody : ∀ ms, ms.Perm (Json.normalizeFields rest) → e.kind.body (.obj ms) = .ok e) :
    DashboardEvent.parse (Json.render e.toJson.normalize) = .ok e := by
  have hdistinct : ((("eventType", Json.str e.name) :: Json.normalizeFields rest).map Prod.fst).Nodup := by
    simpa [keys_normalizeFields] using hnd
  have hperm := sortMembers_perm hdistinct
  have htag : (eventTag.tag, Json.str e.name) ∈
      Json.sortMembers (("eventType", .str e.name) :: Json.normalizeFields rest) :=
    hperm.symm.subset (by simp [eventTag])
  -- the sort puts the tag somewhere among the fields
  obtain ⟨before, after, hsplit⟩ := List.append_of_mem htag
  have hnodup := (hperm.map Prod.fst).nodup_iff.2 hdistinct
  rw [hsplit, List.map_append, List.map_cons, List.nodup_middle, List.nodup_cons,
    ← List.map_append] at hnodup
  have hothers : (before ++ after).Perm (Json.normalizeFields rest) := by
    have h := hsplit ▸ hperm
    exact (List.perm_middle.symm.trans h).cons_inv
  have hkeys : ∀ p ∈ before ++ after, p.1 ≠ eventTag.tag := by
    intro p hp heq
    have hmem : p.1 ∈ (before ++ after).map Prod.fst := List.mem_map_of_mem hp
    rw [heq] at hmem
    exact hnodup.1 hmem
  have hread : ∀ p ∈ before ++ after, ReadsBack (depthLimit - 1) p.2 := by
    intro p hp
    obtain ⟨q, hq, rfl⟩ := mem_normalizeFields (hothers.subset hp)
    exact hvalues q hq
  have hnorm : e.toJson.normalize =
      .obj (Json.sortMembers (("eventType", .str e.name) :: Json.normalizeFields rest)) := by
    rw [hjson]
    simp [Json.normalize, Json.normalizeFields]
  rw [hnorm, hsplit, DashboardEvent.parse]
  exact readTagged_render EventKind.body (EventKind.ofName_name e.kind) hkeys hread
    (hbody _ hothers)

/-- The thresholds event decodes from the map values of its two lists, by
name and in either order. -/
theorem EventKind.body_thresholdsUpdated {ts : List Threshold} {es : List Evaluation}
    {ms : List (String × Json)}
    (hms : ms.Perm [("updatedThresholds", .arr (ts.map (Json.normalize ∘ Threshold.toJson))),
      ("evaluations", .arr (es.map (Json.normalize ∘ Evaluation.toJson)))]) :
    EventKind.thresholdsUpdated.body (.obj ms) = .ok (.thresholdsUpdated ts es) := by
  have hthresholds : Decoder.list (Threshold.decoder .buffered)
      (.arr (ts.map (Json.normalize ∘ Threshold.toJson))) = .ok (ts.map fun t => t) :=
    Decoder.list_map fun t _ => Threshold.decoder_normalize t
  have hevaluations : Decoder.list (Evaluation.decoder .buffered)
      (.arr (es.map (Json.normalize ∘ Evaluation.toJson))) = .ok (es.map fun e => e) :=
    Decoder.list_map fun e _ => Evaluation.decoder_normalize e
  have hnd : ([("updatedThresholds", Json.arr (ts.map (Json.normalize ∘ Threshold.toJson))),
      ("evaluations", Json.arr (es.map (Json.normalize ∘ Evaluation.toJson)))].map Prod.fst).Nodup := by
    simp
  rw [EventKind.body, Decoder.struct_perm hnd hms]
  · simp only [required_of_perm hnd hms]
    simp [FieldValues.required, List.lookup_cons, hthresholds, hevaluations, bind, Except.bind]
  · -- both members are fields, each holding a list its decoder reads
    intro p hp
    simp only [List.mem_cons, List.not_mem_nil, or_false] at hp
    rcases hp with rfl | rfl
    all_goals simp [FieldSpec.of, Except.map, hthresholds, hevaluations]

/-- The text of the map value of every representable event reads back as the event. -/
theorem DashboardEvent.parse_normalize {e : DashboardEvent} (he : e.Representable) :
    DashboardEvent.parse (Json.render e.toJson.normalize) = .ok e := by
  have hdeep : 1 < depthLimit - 1 := by decide
  cases e with
  | liveData logs =>
    have hitems : ∀ l ∈ logs, DeviceLog.decoder .buffered l.toJson.normalize = .ok l :=
      fun l hl => DeviceLog.decoder_normalize (he l hl)
    refine DashboardEvent.parse_normalize_of rfl (by simp [DashboardEvent.name]) ?_ ?_
    · simp only [List.mem_singleton, forall_eq, normalize_arr, List.map_map]
      exact .arr_map hdeep fun l hl => DeviceLog.readsBack_normalize (by decide) (he l hl)
    · intro ms hms
      simp only [Json.normalizeFields, List.perm_singleton] at hms
      subst hms
      have hlist : Decoder.list (DeviceLog.decoder .buffered)
          (.arr (logs.map fun l => l.toJson.normalize)) = .ok (logs.map fun l => l) :=
        Decoder.list_map hitems
      simp [EventKind.body, DashboardEvent.kind, List.map_map, Function.comp_def,
        Decoder.oneField_single hlist]
  | dataCleared =>
    refine DashboardEvent.parse_normalize_of rfl (by simp) (by simp) ?_
    intro ms hms
    simp only [Json.normalizeFields, List.perm_nil] at hms
    subst hms
    rfl
  | intervalChanged n =>
    have hmax : Nat.pow 2 32 ≤ Scalar.maxUnsigned := by decide
    refine DashboardEvent.parse_normalize_of rfl (by simp [DashboardEvent.name]) ?_ ?_
    · simpa using .num (Nat.le_trans (Nat.le_of_lt he) hmax)
    · intro ms hms
      simp only [Json.normalizeFields, List.perm_singleton] at hms
      subst hms
      simp [EventKind.body, DashboardEvent.kind, Decoder.oneField_single (Decoder.u32_unsigned he)]
  | thresholdsUpdated ts es =>
    obtain ⟨hts, hes⟩ := he
    refine @DashboardEvent.parse_normalize_of (.thresholdsUpdated ts es)
      [("updatedThresholds", .arr (ts.map Threshold.toJson)),
        ("evaluations", .arr (es.map Evaluation.toJson))] rfl (by simp [DashboardEvent.name]) ?_ ?_
    · -- both lists are arrays of records, each reading back as its map value
      intro p hp
      simp only [List.mem_cons, List.not_mem_nil, or_false] at hp
      rcases hp with rfl | rfl
      · simp only [normalize_arr, List.map_map]
        exact .arr_map hdeep fun t ht => Threshold.readsBack_normalize (by decide) (hts t ht)
      · simp only [normalize_arr, List.map_map]
        exact .arr_map hdeep fun e he => Evaluation.readsBack_normalize (by decide) (hes e he)
    · intro ms hms
      simp only [Json.normalizeFields, normalize_arr, List.map_map] at hms
      exact EventKind.body_thresholdsUpdated hms

/-- Every representable dashboard event is framed without a collision and
without a renamed key: the frame is the text of the event's map value, whose
top-level keys increase, and the frame reads back as the event. -/
theorem dashboard_frames_read_back (e : DashboardEvent) (he : e.Representable) :
    ∃ fields, e.toJson.normalize = .obj fields ∧ (fields.Pairwise fun a b => a.1 < b.1) ∧
      Naming.camelFrame e.toJson.normalize = .ok (Json.obj fields).render ∧
      DashboardEvent.parse (Json.obj fields).render = .ok e := by
  obtain ⟨members, hjson, hfixed⟩ := e.keys_camelCase
  have hnorm : e.toJson.normalize = .obj (Json.sortMembers (Json.normalizeFields members)) := by
    rw [hjson]
    rfl
  refine ⟨_, hnorm, sortMembers_keys_lt _, ?_, ?_⟩
  · rw [← hnorm, hjson]
    exact Naming.camelFrame_normalize hfixed
  · rw [← hnorm]
    exact DashboardEvent.parse_normalize he

/-- Temperature thresholds from -5.5 to 30, good from 18 to 24.5, and the
evaluation of a reading of 22.75 against them are framed as their map value
and read back (the doubles by their bits). -/
theorem threshold_update_frame_reads_back :
    let t : Threshold := ⟨"temperature", Float.ofBits 0xC016000000000000,
      Float.ofBits 0x4032000000000000, Float.ofBits 0x4038800000000000,
      Float.ofBits 0x403E000000000000⟩
    let e : DashboardEvent := .thresholdsUpdated [t] [t.evaluate (Float.ofBits 0x4036C00000000000)]
    e.Representable ∧
      ∃ fields, e.toJson.normalize = .obj fields ∧ (fields.Pairwise fun a b => a.1 < b.1) ∧
        Naming.camelFrame e.toJson.normalize = .ok (Json.obj fields).render ∧
        DashboardEvent.parse (Json.obj fields).render = .ok e := by
  intro t e
  -- each double is written positionally, and its digits scale back to it
  have hwarnMin : FloatReadsBack t.warnMin := by
    refine .of_positional true 5 ['5'] ?_ ?_ ?_ ?_ ?_ <;> decide +kernel
  have hgoodMin : FloatReadsBack t.goodMin := by
    refine .of_positional false 18 ['0'] ?_ ?_ ?_ ?_ ?_ <;> decide +kernel
  have hgoodMax : FloatReadsBack t.goodMax := by
    refine .of_positional false 24 ['5'] ?_ ?_ ?_ ?_ ?_ <;> decide +kernel
  have hwarnMax : FloatReadsBack t.warnMax := by
    refine .of_positional false 30 ['0'] ?_ ?_ ?_ ?_ ?_ <;> decide +kernel
  have hvalue : FloatReadsBack (t.evaluate (Float.ofBits 0x4036C00000000000)).value := by
    refine .of_positional false 22 ['7', '5'] ?_ ?_ ?_ ?_ ?_ <;> decide +kernel
  have ht : t.Representable := ⟨hwarnMin, hgoodMin, hgoodMax, hwarnMax⟩
  have he : e.Representable := by
    refine ⟨fun u hu => ?_, fun v hv => ?_⟩
    · rw [List.mem_singleton.1 hu]
      exact ht
    · rw [List.mem_singleton.1 hv]
      exact hvalue
  exact ⟨he, dashboard_frames_read_back e he⟩

end TopicHub.Telemetry
