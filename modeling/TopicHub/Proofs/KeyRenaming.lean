/-
  Proofs/KeyRenaming.lean --- what the frame of a payload is, case by case.

  `camelCaseJson` hands a payload to its serializer and writes the map value
  it gets with `camelFrame`.  A payload the serializer refuses is refused
  with the serializer's fault, and a value that is no object is written as
  it is.  The members of an object are renamed one after the other into an
  accumulator kept sorted by the new names (`Json.insertSorted`), and a
  member whose new name the accumulator already has stops the renaming.

  Two facts about one step carry the rest: inserting a name the accumulator
  lacks keeps it strictly sorted (`insertSorted_keys_lt`) and adds that one
  member (`insertSorted_perm`).  So when no two members get one name, the
  renaming ends with the renamed members sorted by name
  (`renameMembers_eq_ok`), which are their map value
  (`camelFrame_obj_of_nodup`); otherwise it stops at the first member whose
  name an earlier member already got, and names it
  (`renameMembers_first_clash`, `camelFrame_obj_first_clash`).  When the keys
  are distinct, as a map value's are, two members share a name exactly when
  two distinct keys do (`not_nodup_camelNames_iff`).  The cases together:
  `camelCaseJson_answers_each_case`.
-/
import TopicHub.Proofs.EventText

set_option autoImplicit false

namespace TopicHub.Json

variable {k : String} {v : Json} {out : List (String × Json)}

/-- Members sorted strictly by key have distinct keys. -/
theorem keys_nodup_of_lt (h : out.Pairwise fun a b => a.1 < b.1) : (out.map Prod.fst).Nodup :=
  List.pairwise_map.2 (h.imp ne_of_lt)

/-- Inserting keeps members strictly sorted by key. -/
theorem insertSorted_keys_lt (h : out.Pairwise fun a b => a.1 < b.1) :
    (Json.insertSorted k v out).Pairwise fun a b => a.1 < b.1 := by
  induction out with
  | nil => exact List.pairwise_singleton _ _
  | cons p rest ih =>
    obtain ⟨hp, hrest⟩ := List.pairwise_cons.1 h
    simp only [Json.insertSorted]
    split_ifs with hlt heq
    · -- the new member goes first, below `p` and so below every later member
      refine List.pairwise_cons.2 ⟨fun q hq => ?_, h⟩
      rcases List.mem_cons.1 hq with rfl | hq
      · exact hlt
      · exact lt_trans hlt (hp q hq)
    · -- the new member takes the place of `p`, under the same key
      subst heq
      exact List.pairwise_cons.2 ⟨hp, hrest⟩
    · -- `p` stays first: its key is below the new one and below the rest
      have hpk : p.1 < k := lt_of_le_of_ne (not_lt.1 hlt) (Ne.symm heq)
      refine List.pairwise_cons.2 ⟨fun q hq => ?_, ih hrest⟩
      rcases mem_keys_insertSorted (List.mem_map_of_mem (f := Prod.fst) hq) with hqk | hqrest
      · exact hqk ▸ hpk
      · obtain ⟨r, hr, hrq⟩ := List.mem_map.1 hqrest
        exact hrq ▸ hp r hr

/-- Inserting a key the members lack adds that one member. -/
theorem insertSorted_perm (h : k ∉ out.map Prod.fst) :
    (Json.insertSorted k v out).Perm ((k, v) :: out) := by
  induction out with
  | nil => exact List.Perm.refl _
  | cons p rest ih =>
    have hne : k ≠ p.1 := fun heq => h (heq ▸ List.mem_cons_self)
    have hrest : k ∉ rest.map Prod.fst := fun hk => h (List.mem_cons_of_mem _ hk)
    simp only [Json.insertSorted, hne, if_false]
    split_ifs
    · exact List.Perm.refl _
    · exact ((ih hrest).cons p).trans (List.Perm.swap _ _ _)

/-- After a key the members lack is inserted, their keys followed by any
names are the old keys followed by the new one and those names, reordered. -/
theorem keys_insertSorted_append_perm (h : k ∉ out.map Prod.fst) (names : List String) :
    ((Json.insertSorted k v out).map Prod.fst ++ names).Perm (out.map Prod.fst ++ k :: names) :=
  (((insertSorted_perm h).map Prod.fst).append_right names).trans List.perm_middle.symm

end TopicHub.Json

namespace TopicHub.Naming

open TopicHub.Json

section Renaming

variable {k : String} {v : Json} {rest out : List (String × Json)}

/-- A member whose new name is already taken stops the renaming, named in
the fault. -/
theorem renameMembers_cons_of_mem (h : toCamelCase k ∈ out.map Prod.fst) :
    renameMembers ((k, v) :: rest) out = .error (collision k (toCamelCase k)) := by
  have hany : (out.any fun q => q.1 == toCamelCase k) = true := by simpa using h
  simp only [renameMembers, hany, if_true]

/-- A member whose new name is not yet taken is inserted under it. -/
theorem renameMembers_cons_of_not_mem (h : toCamelCase k ∉ out.map Prod.fst) :
    renameMembers ((k, v) :: rest) out = renameMembers rest (Json.insertSorted (toCamelCase k) v out) := by
  have hany : (out.any fun q => q.1 == toCamelCase k) = false :=
    Bool.eq_false_iff.2 fun hany => h (by simpa using hany)
  simp only [renameMembers, hany, Bool.false_eq_true, if_false]

/-- When the names taken and the new names are all distinct, the renaming
goes through, and ends with the members taken and the renamed ones, sorted
by name. -/
theorem renameMembers_eq_ok (hsorted : out.Pairwise fun a b => a.1 < b.1)
    (hnodup : (out.map Prod.fst ++ rest.map fun p => toCamelCase p.1).Nodup) :
    ∃ out', renameMembers rest out = .ok out' ∧ (out'.Pairwise fun a b => a.1 < b.1) ∧
      out'.Perm (out ++ rest.map fun p => (toCamelCase p.1, p.2)) := by
  induction rest generalizing out with
  | nil => exact ⟨out, rfl, hsorted, by simp⟩
  | cons p rest ih =>
    obtain ⟨k, v⟩ := p
    have hfresh : toCamelCase k ∉ out.map Prod.fst := fun hk =>
      (List.nodup_append.1 hnodup).2.2 _ hk _ (by simp) rfl
    have hperm := keys_insertSorted_append_perm (v := v) hfresh
    obtain ⟨out', hout', hsorted', hperm'⟩ :=
      ih (insertSorted_keys_lt hsorted) ((hperm _).nodup_iff.2 hnodup)
    refine ⟨out', by rw [renameMembers_cons_of_not_mem hfresh, hout'], hsorted', ?_⟩
    -- the member renamed here moves from the front of the rest to its place
    exact hperm'.trans (((insertSorted_perm hfresh).append_right _).trans List.perm_middle.symm)

/-- When two of the names, taken or new, are one, the renaming stops at the
first member whose name is taken by the time it is reached, and names it. -/
theorem renameMembers_first_clash (hsorted : out.Pairwise fun a b => a.1 < b.1)
    (hclash : ¬ (out.map Prod.fst ++ rest.map fun p => toCamelCase p.1).Nodup) :
    ∃ pre k w post, rest = pre ++ (k, w) :: post ∧
      (out.map Prod.fst ++ pre.map fun p => toCamelCase p.1).Nodup ∧
      toCamelCase k ∈ out.map Prod.fst ++ pre.map (fun p => toCamelCase p.1) ∧
      renameMembers rest out = .error (collision k (toCamelCase k)) := by
  induction rest generalizing out with
  | nil => exact absurd (by simpa using keys_nodup_of_lt hsorted) hclash
  | cons p rest ih =>
    obtain ⟨k, v⟩ := p
    by_cases hk : toCamelCase k ∈ out.map Prod.fst
    · -- this member is the first clash
      exact ⟨[], k, v, rest, rfl, by simpa using keys_nodup_of_lt hsorted, by simpa using hk,
        renameMembers_cons_of_mem hk⟩
    · -- the clash comes later, with this member's name among those taken
      have hperm := keys_insertSorted_append_perm (v := v) hk
      obtain ⟨pre, k', w, post, rfl, hpre, hmem, herr⟩ :=
        ih (insertSorted_keys_lt hsorted) fun h => hclash ((hperm _).nodup_iff.1 h)
      refine ⟨(k, v) :: pre, k', w, post, rfl, (hperm _).nodup_iff.1 hpre, (hperm _).mem_iff.1 hmem, ?_⟩
      rw [renameMembers_cons_of_not_mem hk, herr]

end Renaming

section Frames

variable {fields : List (String × Json)}

/-- A value that is no object is written as it is. -/
theorem camelFrame_of_getObj?_eq_none {j : Json} (h : j.getObj? = none) : camelFrame j = .ok j.render := by
  unfold camelFrame
  split
  · simp [Json.getObj?] at h
  · rfl

/-- The frame of an object none of whose members share a camel-case name is
the text of its renamed members, sorted by name. -/
theorem camelFrame_obj_of_nodup (h : (fields.map fun p => toCamelCase p.1).Nodup) :
    camelFrame (.obj fields) =
      .ok (Json.obj (Json.sortMembers (fields.map fun p => (toCamelCase p.1, p.2)))).render := by
  obtain ⟨out, hout, hsorted, hperm⟩ := @renameMembers_eq_ok fields [] .nil (by simpa using h)
  have hkeys : ((fields.map fun p => (toCamelCase p.1, p.2)).map Prod.fst).Nodup := by
    simpa [Function.comp_def] using h
  -- both lists are strictly sorted by name and hold the same members
  have heq : out = Json.sortMembers (fields.map fun p => (toCamelCase p.1, p.2)) :=
    List.Perm.eq_of_pairwise (fun _ _ _ _ hab hba => absurd (lt_trans hab hba) (lt_irrefl _))
      hsorted (sortMembers_keys_lt _) (hperm.trans (sortMembers_perm hkeys).symm)
  simp [camelFrame, hout, heq, bind, Except.bind]

/-- The frame of an object two of whose members share a camel-case name is
refused, naming the first member whose name an earlier member already has. -/
theorem camelFrame_obj_first_clash (h : ¬ (fields.map fun p => toCamelCase p.1).Nodup) :
    ∃ pre k w post, fields = pre ++ (k, w) :: post ∧ (pre.map fun p => toCamelCase p.1).Nodup ∧
      toCamelCase k ∈ pre.map (fun p => toCamelCase p.1) ∧
      camelFrame (.obj fields) = .error (collision k (toCamelCase k)) := by
  obtain ⟨pre, k, w, post, hfields, hpre, hmem, herr⟩ :=
    @renameMembers_first_clash fields [] .nil (by simpa using h)
  refine ⟨pre, k, w, post, hfields, by simpa using hpre, by simpa using hmem, ?_⟩
  simp [camelFrame, herr, bind, Except.bind]

/-- Among members with distinct keys, two share a camel-case name exactly
when two distinct keys have one. -/
theorem not_nodup_camelNames_iff (hkeys : (fields.map Prod.fst).Nodup) :
    ¬ (fields.map fun p => toCamelCase p.1).Nodup ↔
      ∃ p ∈ fields, ∃ q ∈ fields, p.1 ≠ q.1 ∧ toCamelCase p.1 = toCamelCase q.1 := by
  rw [List.nodup_map_iff_inj_on (hkeys.of_map _)]
  constructor
  · intro h
    push Not at h
    obtain ⟨p, hp, q, hq, hpq, hne⟩ := h
    exact ⟨p, hp, q, hq, fun heq => hne (List.inj_on_of_nodup_map hkeys hp hq heq), hpq⟩
  · rintro ⟨p, hp, q, hq, hne, hpq⟩ hinj
    exact hne (congrArg Prod.fst (hinj p hp q hq hpq))

end Frames

/-- A payload is written as its frame, case by case.  A payload the
serializer refuses is refused with the serializer's fault; a value that is
no object is written as it is.  An object with its keys in increasing order
is refused exactly when two distinct keys have one camel-case name; then the
fault names the first key, in that order, whose name an earlier key already
has; otherwise the frame is the text of the members under their new names,
in the order of the new names, their values as they are. -/
theorem camelCaseJson_answers_each_case {α : Type} (toValue : α → Except Mismatch Json) (payload : α) :
    (∀ e, toValue payload = .error e → camelCaseJson toValue payload = .error e) ∧
    (∀ j, toValue payload = .ok j → j.getObj? = none → camelCaseJson toValue payload = .ok j.render) ∧
    ∀ fields, toValue payload = .ok (.obj fields) → (fields.Pairwise fun a b => a.1 < b.1) →
      ((∃ m, camelCaseJson toValue payload = .error m) ↔
        ∃ p ∈ fields, ∃ q ∈ fields, p.1 ≠ q.1 ∧ toCamelCase p.1 = toCamelCase q.1) ∧
      (¬ (fields.map fun p => toCamelCase p.1).Nodup →
        ∃ pre k w post, fields = pre ++ (k, w) :: post ∧ (pre.map fun p => toCamelCase p.1).Nodup ∧
          toCamelCase k ∈ pre.map (fun p => toCamelCase p.1) ∧
          camelCaseJson toValue payload = .error (collision k (toCamelCase k))) ∧
      ((fields.map fun p => toCamelCase p.1).Nodup →
        camelCaseJson toValue payload =
          .ok (Json.obj (Json.sortMembers (fields.map fun p => (toCamelCase p.1, p.2)))).render) := by
  refine ⟨fun e he => by simp [camelCaseJson, he, bind, Except.bind],
    fun j hj hobj => by simp [camelCaseJson, hj, bind, Except.bind, camelFrame_of_getObj?_eq_none hobj], ?_⟩
  intro fields hv hsorted
  have hframe : camelCaseJson toValue payload = camelFrame (.obj fields) := by
    simp [camelCaseJson, hv, bind, Except.bind]
  rw [hframe]
  refine ⟨?_, camelFrame_obj_first_clash, camelFrame_obj_of_nodup⟩
  rw [← not_nodup_camelNames_iff (keys_nodup_of_lt hsorted)]
  constructor
  · rintro ⟨m, hm⟩ hnodup
    rw [camelFrame_obj_of_nodup hnodup] at hm
    cases hm
  · intro hclash
    obtain ⟨_, k, _, _, _, _, _, herr⟩ := camelFrame_obj_first_clash hclash
    exact ⟨_, herr⟩

/-- An object whose keys are lower-case words in increasing order goes
through: its keys keep their names, so no two share one. -/
theorem camelCaseJson_lower_case_keys :
    let fields : List (String × Json) := [("id", .str "d1"), ("logs", .arr [])]
    (Except.ok (Json.obj fields) : Except Mismatch Json) = .ok (.obj fields) ∧
      (fields.Pairwise fun a b => a.1 < b.1) ∧ (fields.map fun p => toCamelCase p.1).Nodup ∧
      camelCaseJson Except.ok (Json.obj fields) =
        .ok (Json.obj (Json.sortMembers (fields.map fun p => (toCamelCase p.1, p.2)))).render := by
  have hid : toCamelCase "id" = "id" := toCamelCase_eq_self (by decide) (by decide)
  have hlogs : toCamelCase "logs" = "logs" := toCamelCase_eq_self (by decide) (by decide)
  refine ⟨rfl, by decide, by simp [hid, hlogs], ?_⟩
  exact ((camelCaseJson_answers_each_case Except.ok _).2.2 _ rfl (by decide)).2.2 (by simp [hid, hlogs])

end TopicHub.Naming
