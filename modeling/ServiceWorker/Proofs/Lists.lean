import Mathlib.Data.List.Forall2
import Mathlib.Data.List.Nodup

/-!
# Lists

## Main results

* `find?_of_nodup`, `perm_cons_filter`: an item is found by its key, and taken out by it
* `exists_of_forall₂`, `forall₂_mapM`: what comes of several items comes of one of them each
* `intercalate_cons`, `map_intercalate`: every part but the first has a separator in front of it
* `getElem?_of_prefix`: an item keeps its place when others follow
* `takeWhile_ne_append`, `dropWhile_append_cons`: what stands before an item
* `eq_nil_of_prefix`, `eq_of_prefix_append`: what begins a list with an item that occurs in it once
-/

namespace ServiceWorker

variable {α β κ : Type} [DecidableEq κ] {key : α → κ} {l : List α} {x : α}

/-- An item is found by its key if no other has the same. -/
theorem find?_of_nodup (h : (l.map key).Nodup) (hx : x ∈ l) :
    l.find? (fun y => key y = key x) = some x := by
  obtain ⟨y, hy⟩ : ∃ y, l.find? (fun y => key y = key x) = some y :=
    Option.isSome_iff_exists.mp (List.find?_isSome.mpr ⟨x, hx, by simp⟩)
  have hsame : key y = key x := by simpa using List.find?_some hy
  rw [hy, List.inj_on_of_nodup_map h (List.mem_of_find?_eq_some hy) hx hsame]

/-- What is left is all but the item, if no other has its key. -/
theorem perm_cons_filter (h : (l.map key).Nodup) (hx : x ∈ l) :
    l.Perm (x :: l.filter fun y => key y ≠ key x) := by
  induction l with
  | nil => cases hx
  | cons y l ih =>
    obtain ⟨hy, hrest⟩ := List.nodup_cons.mp h
    rw [List.filter_cons]
    rcases List.mem_cons.mp hx with rfl | hx
    · have hall : (l.filter fun y => key y ≠ key x) = l := List.filter_eq_self.mpr fun z hz =>
        decide_eq_true fun hsame => hy (hsame ▸ List.mem_map_of_mem hz)
      rw [if_neg (by simp), hall]
    · have hne : key y ≠ key x := fun hsame => hy (hsame ▸ List.mem_map_of_mem hx)
      rw [if_pos (decide_eq_true hne)]
      exact ((ih hrest hx).cons y).trans (.swap x y _)

/-- What comes of several items comes of one of them each. -/
theorem exists_of_forall₂ {R : α → β → Prop} {ys : List β} (h : l.Forall₂ R ys) {y : β}
    (hy : y ∈ ys) : ∃ x ∈ l, R x y := by
  induction h with
  | nil => cases hy
  | cons hx _ ih =>
    rcases List.mem_cons.mp hy with rfl | hy
    · exact ⟨_, List.mem_cons_self, hx⟩
    · obtain ⟨x, hmem, hR⟩ := ih hy
      exact ⟨x, List.mem_cons_of_mem _ hmem, hR⟩

/-- If related items give related results or none, so do their lists. -/
theorem forall₂_mapM {γ δ : Type} {R : α → β → Prop} {S : γ → δ → Prop} {f : α → Option γ}
    {g : β → Option δ} {ys : List β} (h : l.Forall₂ R ys)
    (hfg : ∀ x y, R x y → Option.Rel S (f x) (g y)) :
    Option.Rel (List.Forall₂ S) (l.mapM f) (ys.mapM g) := by
  induction h with
  | nil => exact .some .nil
  | @cons x y xs ys hx _ ih =>
    have hfg := hfg x y hx
    rw [List.mapM_cons, List.mapM_cons]
    generalize f x = z, g y = w at hfg ⊢
    generalize xs.mapM f = zs, ys.mapM g = ws at ih ⊢
    cases hfg with
    | none => exact .none
    | some hz =>
      cases ih with
      | none => exact .none
      | some hzs => exact .some (.cons hz hzs)

/-- Every part but the first has a separator in front of it. -/
theorem intercalate_cons (sep part : List α) (parts : List (List α)) :
    sep.intercalate (part :: parts) = part ++ parts.flatMap (sep ++ ·) := by
  induction parts generalizing part with
  | nil => simp
  | cons next parts ih =>
    rw [List.intercalate_cons_cons, ih, List.flatMap_cons, List.append_assoc, List.append_assoc]

theorem map_intercalate (f : α → β) (sep : List α) (parts : List (List α)) :
    (sep.intercalate parts).map f = (sep.map f).intercalate (parts.map (List.map f)) := by
  cases parts with
  | nil => rfl
  | cons part parts =>
    simp [intercalate_cons, List.map_flatMap, List.flatMap_map]

/-! ## What begins a list -/

/-- What stands before an item is all that is there before it comes for the first time. -/
theorem takeWhile_ne_append {a : κ} {older : List κ} (h : a ∉ older) (younger : List κ) :
    (older ++ a :: younger).takeWhile (· ≠ a) = older := by
  have hall : ∀ b ∈ older, decide (b ≠ a) = true :=
    fun b hb => decide_eq_true fun hsame => h (hsame ▸ hb)
  rw [List.takeWhile_append_of_pos hall, List.takeWhile_cons_of_neg (by simp), List.append_nil]

/-- What is left out at the beginning of a list ends at an item that is not left out. -/
theorem dropWhile_append_cons {p : α → Bool} {a : α} (ha : p a = false) (front back : List α) :
    (front ++ a :: back).dropWhile p = front.dropWhile p ++ a :: back := by
  rw [List.dropWhile_append, List.dropWhile_cons_of_neg (by simp [ha])]
  split
  next hnil => rw [List.isEmpty_iff.mp hnil, List.nil_append]
  next => rfl

/-- An item keeps its place when others follow. -/
theorem getElem?_of_prefix {l l' : List α} {i : Nat} {x : α} (h : l <+: l') (hx : l[i]? = some x) :
    l'[i]? = some x := by
  obtain ⟨more, rfl⟩ := h
  rw [List.getElem?_append_left (List.getElem?_eq_some_iff.mp hx).1, hx]

/-- What comes first in a list and not again comes first in all that begin it. -/
theorem eq_nil_of_prefix {a : α} {l r rest : List α} (h : l ++ a :: r <+: a :: rest)
    (ha : a ∉ rest) : l = [] ∧ r <+: rest := by
  cases l with
  | nil => exact ⟨rfl, (List.cons_prefix_cons.mp h).2⟩
  | cons b l =>
    have hrest := (List.cons_prefix_cons.mp h).2
    exact absurd (hrest.subset (List.mem_append_right l List.mem_cons_self)) ha

/-- What is begun by two lists, of which the second has at most one member more, and by a member of
it that the first does not have, is begun by all of the first. -/
theorem eq_of_prefix_append {a : α} {l r first last : List α}
    (h : l ++ a :: r <+: first ++ last) (ha : a ∉ first) (hlast : last.length ≤ 1) :
    l = first ∧ r = [] := by
  obtain ⟨t, ht⟩ := h
  rw [List.append_assoc] at ht
  obtain ⟨x, rfl, hx⟩ | ⟨x, rfl, hx⟩ := List.append_eq_append_iff.mp ht
  · cases x with
    | nil =>
      rw [List.nil_append] at hx
      rw [← hx] at hlast
      refine ⟨(List.append_nil l).symm, List.eq_nil_of_length_eq_zero ?_⟩
      simp only [List.cons_append, List.length_cons, List.length_append] at hlast
      omega
    | cons b x =>
      obtain ⟨rfl, -⟩ := List.cons.inj hx
      exact absurd (List.mem_append_right l List.mem_cons_self) ha
  · rw [hx] at hlast
    simp only [List.cons_append, List.length_cons, List.length_append] at hlast
    have hx : x = [] := List.eq_nil_of_length_eq_zero (by omega)
    exact ⟨by rw [hx, List.append_nil], List.eq_nil_of_length_eq_zero (by omega)⟩

end ServiceWorker
