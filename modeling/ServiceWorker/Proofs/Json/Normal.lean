import ServiceWorker.Proofs.Json.Printing

/-!
# Normal forms of plain values

If no key is repeated, the normal form of an object has the same members in key order, each in its
own normal form. So it is plain again, and it is its own normal form.

## Main results

* `Json.perm_normalMembers`: normal members are the members in another order
* `Json.Plain.normal`: the normal form of a plain value is plain
* `Json.Plain.normal_normal`: it is its own normal form
-/

namespace ServiceWorker.Json

open Text (Ordered insertSorted)

variable {limit : Limit}

/-- A member with the normal form of its value. -/
def normalPair (m : String × Json) : String × Json :=
  (m.1, m.2.normal)

theorem normalItems_eq (items : List Json) : normalItems items = items.map normal := by
  induction items with
  | nil => rfl
  | cons v items ih => rw [normalItems, ih, List.map_cons]

theorem map_fst_normalPair (members : List (String × Json)) :
    (members.map normalPair).map Prod.fst = members.map Prod.fst := by
  rw [List.map_map]
  rfl

/-- A new entry is put among the others. -/
theorem perm_insertSorted {key : String} {v : Json} {sorted : List (String × Json)}
    (h : Ordered sorted) (hkey : key ∉ sorted.map Prod.fst) :
    (insertSorted key v sorted).Perm ((key, v) :: sorted) := by
  obtain ⟨below, above, hinsert, -, hsorted⟩ := @exists_of_insertSorted _ key v _ h
  rw [hinsert]
  rcases hsorted with rfl | ⟨old, rfl⟩
  · exact List.perm_middle
  · exact absurd (List.mem_map_of_mem (List.mem_append_right below List.mem_cons_self)) hkey

/-- Members are inserted one after another, and none takes the place of another. -/
theorem normalMembers_perm (members : List (String × Json)) {sorted : List (String × Json)}
    (h : Ordered sorted)
    (hkeys : (members.map Prod.fst ++ sorted.map Prod.fst).Nodup) :
    (normalMembers sorted members).Perm (members.map normalPair ++ sorted) ∧
      Ordered (normalMembers sorted members) := by
  induction members generalizing sorted with
  | nil => exact ⟨.refl _, h⟩
  | cons m members ih =>
    obtain ⟨key, v⟩ := m
    obtain ⟨hkey, hrest⟩ := List.nodup_cons.mp hkeys
    have hnew : key ∉ sorted.map Prod.fst := fun hmem => hkey (List.mem_append_right _ hmem)
    have hperm := perm_insertSorted (v := v.normal) h hnew
    -- The keys that are there now are those that were there and the new one.
    have hkeys' : (members.map Prod.fst ++
        (insertSorted key v.normal sorted).map Prod.fst).Nodup := by
      refine (List.Perm.nodup_iff ?_).mpr hkeys
      exact ((hperm.map Prod.fst).append_left _).trans List.perm_middle
    obtain ⟨hmembers, hordered⟩ := ih (Text.pairwise_insertSorted h) hkeys'
    rw [normalMembers, normalMember]
    exact ⟨hmembers.trans ((hperm.append_left _).trans List.perm_middle), hordered⟩

/-- **Normal members are the members in another order**, in their normal forms. -/
theorem perm_normalMembers {members : List (String × Json)}
    (hkeys : (members.map Prod.fst).Nodup) :
    (normalMembers [] members).Perm (members.map normalPair) := by
  have hperm := (normalMembers_perm members List.Pairwise.nil (by simpa using hkeys)).1
  rwa [List.append_nil] at hperm

theorem ordered_normalMembers {members : List (String × Json)}
    (hkeys : (members.map Prod.fst).Nodup) : Ordered (normalMembers [] members) :=
  (normalMembers_perm members List.Pairwise.nil (by simpa using hkeys)).2

theorem nodup_normalMembers {members : List (String × Json)}
    (hkeys : (members.map Prod.fst).Nodup) : ((normalMembers [] members).map Prod.fst).Nodup := by
  rw [((perm_normalMembers hkeys).map Prod.fst).nodup_iff, map_fst_normalPair]
  exact hkeys

/-- Sorted members are not moved. -/
theorem normalMembers_of_ordered {members sorted : List (String × Json)}
    (h : Ordered (sorted ++ members)) (hvalues : ∀ m ∈ members, m.2.normal = m.2) :
    normalMembers sorted members = sorted ++ members := by
  induction members generalizing sorted with
  | nil => rw [normalMembers, List.append_nil]
  | cons m members ih =>
    obtain ⟨hm, hrest⟩ := List.forall_mem_cons.mp hvalues
    have hlast : normalMember sorted m = sorted ++ [m] := by
      rw [normalMember, hm]
      refine Text.insertSorted_last fun a ha => ?_
      exact (List.pairwise_append.mp h).2.2 a ha m List.mem_cons_self
    have hsplit : sorted ++ m :: members = (sorted ++ [m]) ++ members := by simp
    rw [normalMembers, hlast, hsplit, ih (hsplit ▸ h) hrest]

/-- **The normal form of a plain value is plain.** -/
theorem Plain.normal {v : Json} (h : v.Plain limit) : v.normal.Plain limit := by
  induction h with
  | null => exact .null
  | bool b => exact .bool b
  | number hn => exact .number hn
  | string s => exact .string s
  | array hlimit _ ih =>
    refine .array hlimit ?_
    rw [normalItems_eq]
    exact List.forall_mem_map.mpr ih
  | object hlimit hkeys _ ih =>
    refine .object hlimit (nodup_normalMembers hkeys) fun m hm => ?_
    obtain ⟨m, hmem, rfl⟩ := List.mem_map.mp ((perm_normalMembers hkeys).mem_iff.mp hm)
    exact ih m hmem

/-- **A normal form is its own normal form.** -/
theorem Plain.normal_normal {v : Json} (h : v.Plain limit) : v.normal.normal = v.normal := by
  induction h with
  | null => rfl
  | bool b => rfl
  | number hn => rfl
  | string s => rfl
  | array hlimit _ ih =>
    simp only [Json.normal, normalItems_eq, List.map_map]
    exact congrArg Json.array (List.map_congr_left ih)
  | object hlimit hkeys _ ih =>
    simp only [Json.normal]
    refine congrArg Json.object
      (normalMembers_of_ordered (ordered_normalMembers hkeys) fun m hm => ?_)
    obtain ⟨m, hmem, rfl⟩ := List.mem_map.mp ((perm_normalMembers hkeys).mem_iff.mp hm)
    exact ih m hmem

end ServiceWorker.Json
