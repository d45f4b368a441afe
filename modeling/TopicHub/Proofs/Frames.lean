/-
  Proofs/Frames.lean --- a frame of camel-case keys is always written.

  `camelFrame` refuses an object only when two of its top-level keys get one
  camel-case name.  The map value of a document (`Json.normalize`) keeps each
  top-level key once, in increasing order, and has no key the document lacks
  (`sortMembers_keys_lt`, `mem_keys_sortMembers`); renaming keys that are
  already in camel case therefore never collides (`renameMembers_ok`).  Every
  key of a dashboard event is in camel case, so a broadcast of an event to
  the dashboard topic always goes through (`Server.announce_ok`).
-/
import Mathlib.Data.String.Basic
import TopicHub.Hub.Server

set_option autoImplicit false

namespace TopicHub.Json

/-! ## Map values keep each key once -/

variable {k x : String} {v : Json} {out fields : List (String × Json)}

/-- Inserting a member adds its key and no other. -/
theorem mem_keys_insertSorted (h : x ∈ (Json.insertSorted k v out).map Prod.fst) :
    x = k ∨ x ∈ out.map Prod.fst := by
  induction out with
  | nil => simpa [Json.insertSorted] using h
  | cons p rest ih =>
    simp only [Json.insertSorted] at h
    split_ifs at h
    · simpa using h
    · simp only [List.map_cons, List.mem_cons] at h ⊢
      rcases h with h | h
      · exact .inl h
      · exact .inr (.inr h)
    · simp only [List.map_cons, List.mem_cons] at h ⊢
      rcases h with h | h
      · exact .inr (.inl h)
      · rcases ih h with h | h
        · exact .inl h
        · exact .inr (.inr h)

/-- Of each run of equal keys one member is kept, in order. -/
theorem lastOfRuns_sublist (fields : List (String × Json)) : (Json.lastOfRuns fields).Sublist fields := by
  fun_induction Json.lastOfRuns fields with
  | case1 => exact .slnil
  | case2 m => exact .refl _
  | case3 m n rest _ ih => exact ih.cons m
  | case4 m n rest _ ih => exact ih.cons_cons m

/-- Runs of equal keys in members sorted by key collapse to keys in strictly
increasing order. -/
theorem lastOfRuns_keys_lt (h : fields.Pairwise fun a b => a.1 ≤ b.1) :
    (Json.lastOfRuns fields).Pairwise fun a b => a.1 < b.1 := by
  fun_induction Json.lastOfRuns fields with
  | case1 => exact .nil
  | case2 m => exact List.pairwise_singleton _ _
  | case3 m n rest _ ih => exact ih (List.pairwise_cons.1 h).2
  | case4 m n rest hne ih =>
    obtain ⟨hm, htail⟩ := List.pairwise_cons.1 h
    -- the kept member's key is below `n`'s, which is at most every later key
    have hlt : m.1 < n.1 := lt_of_le_of_ne (hm n (by simp)) (by simpa using hne)
    refine List.pairwise_cons.2 ⟨fun y hy => ?_, ih htail⟩
    rcases List.mem_cons.1 ((lastOfRuns_sublist (n :: rest)).subset hy) with rfl | hy
    · exact hlt
    · exact lt_of_lt_of_le hlt ((List.pairwise_cons.1 htail).1 y hy)

/-- The members of a map value have strictly increasing keys. -/
theorem sortMembers_keys_lt (fields : List (String × Json)) :
    (Json.sortMembers fields).Pairwise fun a b => a.1 < b.1 := by
  apply lastOfRuns_keys_lt
  have hsorted : (fields.mergeSort fun a b => decide (a.1 ≤ b.1)).Pairwise
      fun a b => decide (a.1 ≤ b.1) = true := List.pairwise_mergeSort
    (fun a b c hab hbc => by
      simp only [decide_eq_true_eq] at hab hbc ⊢
      exact le_trans hab hbc)
    (fun a b => by
      simp only [Bool.or_eq_true, decide_eq_true_eq]
      exact le_total a.1 b.1) fields
  exact hsorted.imp fun hab => by simpa using hab

/-- A map value has no key the document lacks. -/
theorem mem_keys_sortMembers (h : x ∈ (Json.sortMembers fields).map Prod.fst) : x ∈ fields.map Prod.fst := by
  obtain ⟨p, hp, rfl⟩ := List.mem_map.1 h
  have hsorted : p ∈ fields.mergeSort fun a b => decide (a.1 ≤ b.1) :=
    (lastOfRuns_sublist _).subset hp
  exact List.mem_map_of_mem ((List.mergeSort_perm _ _).subset hsorted)

/-- Normalizing the values keeps the keys. -/
@[simp] theorem keys_normalizeFields (fields : List (String × Json)) :
    (Json.normalizeFields fields).map Prod.fst = fields.map Prod.fst := by
  induction fields with
  | nil => rfl
  | cons p rest ih =>
    obtain ⟨k, v⟩ := p
    simp [Json.normalizeFields, ih]

end TopicHub.Json

/-! ## Renaming keys already in camel case -/

namespace TopicHub.Naming

open TopicHub.Json

variable {fields out : List (String × Json)}

/-- Members whose keys are distinct and already in camel case, none of them
among the keys already renamed, are renamed without a collision. -/
theorem renameMembers_ok (hfixed : ∀ p ∈ fields, toCamelCase p.1 = p.1)
    (hnodup : (fields.map Prod.fst).Nodup) (hfresh : ∀ p ∈ fields, p.1 ∉ out.map Prod.fst) :
    ∃ r, renameMembers fields out = .ok r := by
  induction fields generalizing out with
  | nil => exact ⟨out, rfl⟩
  | cons p rest ih =>
    obtain ⟨k, v⟩ := p
    have hk : toCamelCase k = k := hfixed (k, v) (by simp)
    have hnew : (out.any fun q => q.1 == k) = false := by
      have := hfresh (k, v) (by simp)
      simpa using fun q hq hqk => this (List.mem_map.2 ⟨q, hq, hqk⟩)
    obtain ⟨hkrest, hrest⟩ := List.nodup_cons.1 hnodup
    simp only [renameMembers, hk, hnew, Bool.false_eq_true, if_false]
    refine ih (fun p hp => hfixed p (by simp [hp])) hrest fun p hp hmem => ?_
    -- the keys renamed so far are `k` and those before it, and `p` is neither
    rcases mem_keys_insertSorted hmem with heq | hout
    · have hkey : p.1 ∈ rest.map Prod.fst := List.mem_map.2 ⟨p, hp, rfl⟩
      exact hkrest (heq ▸ hkey)
    · exact hfresh p (by simp [hp]) hout

/-- A key without underscores that does not start with an upper-case
character is already in camel case. -/
theorem toCamelCase_eq_self {key : String} (hunder : key.toList.contains '_' = false)
    (hhead : (key.toList.head?.all fun c => !Text.isUpper c) = true) : toCamelCase key = key := by
  unfold toCamelCase
  rw [if_neg (ne_true_of_eq_false hunder)]
  cases h : key.toList with
  | nil => simp [lowerLead, ← String.toList_eq_nil_iff.1 h]
  | cons c rest =>
    have hc : Text.isUpper c = false := by simpa [h] using hhead
    simp only [lowerLead, hc, Bool.not_false, if_true]
    rw [← h, String.ofList_toList]

/-- The frame of an object whose top-level keys are in camel case is always
written. -/
theorem camelFrame_normalize_ok {fields : List (String × Json)}
    (hfixed : ∀ p ∈ fields, toCamelCase p.1 = p.1) :
    ∃ text, camelFrame (Json.obj fields).normalize = .ok text := by
  have hkeys : ∀ p ∈ Json.sortMembers (Json.normalizeFields fields), toCamelCase p.1 = p.1 := by
    intro p hp
    have hmem := mem_keys_sortMembers (List.mem_map.2 ⟨p, hp, rfl⟩)
    rw [keys_normalizeFields] at hmem
    obtain ⟨q, hq, hqp⟩ := List.mem_map.1 hmem
    rw [← hqp]
    exact hfixed q hq
  have hnodup : ((Json.sortMembers (Json.normalizeFields fields)).map Prod.fst).Nodup :=
    List.pairwise_map.2 ((sortMembers_keys_lt _).imp ne_of_lt)
  obtain ⟨out, hout⟩ := @renameMembers_ok _ [] hkeys hnodup (by simp)
  exact ⟨_, by simp [camelFrame, Json.normalize, hout]; rfl⟩

end TopicHub.Naming

/-! ## Dashboard events -/

namespace TopicHub.Telemetry

/-- Every top-level key of a dashboard event is already in camel case. -/
theorem DashboardEvent.keys_camelCase (e : DashboardEvent) :
    ∃ fields, e.toJson = .obj fields ∧ ∀ p ∈ fields, Naming.toCamelCase p.1 = p.1 := by
  -- each key is lower-case ASCII at its start and has no underscore
  have hkeys : ∀ key ∈ ["eventType", "logs", "interval", "updatedThresholds", "evaluations"],
      Naming.toCamelCase key = key := by
    intro key hkey
    simp only [List.mem_cons, List.not_mem_nil, or_false] at hkey
    rcases hkey with rfl | rfl | rfl | rfl | rfl <;>
      exact Naming.toCamelCase_eq_self (by decide) (by decide)
  cases e <;> refine ⟨_, rfl, ?_⟩ <;> simp [hkeys]

end TopicHub.Telemetry

namespace TopicHub.Hub

/-- A broadcast of a dashboard event always goes through: no event fails to
be written as a frame. -/
theorem Server.announce_ok (s : Server) (links : ConnId → Link) (e : Telemetry.DashboardEvent) :
    ∃ sends, s.announce links e = .ok sends := by
  obtain ⟨fields, hjson, hfixed⟩ := e.keys_camelCase
  obtain ⟨text, htext⟩ := Naming.camelFrame_normalize_ok hfixed
  -- the serializer gives the event's map value, whose frame is written
  have hframe : Naming.camelCaseJson Telemetry.DashboardEvent.toValue e = .ok text := by
    rw [← htext, ← hjson]
    rfl
  unfold Server.announce Broker.broadcast
  simp only [hframe]
  -- a topic without members is answered at once, else the frame fans out
  split
  · exact ⟨_, rfl⟩
  · exact ⟨_, rfl⟩

end TopicHub.Hub
