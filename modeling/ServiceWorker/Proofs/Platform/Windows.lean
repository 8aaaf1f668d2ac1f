import ServiceWorker.Proofs.Lists
import ServiceWorker.Proofs.Platform.Journal

/-!
# The order of the windows

A window that takes the focus comes to the front, a window that is opened goes behind all others,
and none is ever closed. So the list of windows tells which of them have had the focus, and in which
order they had it last.

## Main definitions

* `Platform.created`, `Platform.focused`: the windows that operations have opened, and those that
  they have brought to the front
* `Platform.Rearranged`: what an operation does to the list of windows
* `Platform.target?`: the window that had the focus last, or else the one that was opened first
* `Platform.Recency`: what holds of the windows after operations

## Main results

* `Platform.rearranged_apply`: an operation leaves the windows alone, opens one, or brings one to
  the front
* `Platform.recency_course`: the order of the windows after operations, whatever they are
-/

namespace ServiceWorker.Platform

/-! ## What operations open and bring to the front -/

/-- The windows that an operation opens. -/
def creates (p : Platform) : Operation → List Client
  | .addWindow url => [(p.addWindow url).1]
  | .call _ (.openWindow url) => [(p.openWindow url).1]
  | _ => []

/-- The windows that an operation brings to the front: the one that is to take the focus, if that
does not fail. -/
def focuses (p : Platform) : Operation → List String
  | .call _ (.focus client) => if (p.answer (.focus client)).isOk then [client.id] else []
  | _ => []

/-- The windows that operations have opened, in order. -/
def created (ops : List Operation) : List Client :=
  gather creates ops

/-- The windows that operations have brought to the front, the last of them at the end. -/
def focused (ops : List Operation) : List String :=
  gather focuses ops

/-- The window that had the focus last. If none ever had it, it is the one that was opened first. -/
def target? (ops : List Operation) : Option String :=
  (focused ops).getLast?.or ((created ops).map Client.id).head?

theorem created_concat (ops : List Operation) (op : Operation) :
    created (ops ++ [op]) = created ops ++ (course ops).creates op :=
  gather_concat creates ops op

theorem focused_concat (ops : List Operation) (op : Operation) :
    focused (ops ++ [op]) = focused ops ++ (course ops).focuses op :=
  gather_concat focuses ops op

/-- The name of a window by its number. -/
def Client.name (count : Nat) : String :=
  "client-" ++ String.ofList (Decimal.ofNat count)

theorem Client.name_injective : Function.Injective Client.name := by
  intro m n h
  rw [name, name, String.append_right_inj] at h
  have hdigits : Decimal.ofNat m = Decimal.ofNat n := by
    simpa using congrArg String.toList h
  rw [← Decimal.value_ofNat m, hdigits, Decimal.value_ofNat]

/-! ## What an operation does to the windows -/

/-- What has happened to the windows when some were opened and some brought to the front: nothing,
or one is opened behind the others, or one of them comes before the others. -/
inductive Rearranged (p p' : Platform) : List Client → List String → Prop
  | same (windows : p'.windows = p.windows) (count : p'.openedCount = p.openedCount) :
      Rearranged p p' [] []
  | opened (url : String)
      (windows : p'.windows = p.windows ++ [⟨Client.name (p.openedCount + 1), url⟩])
      (count : p'.openedCount = p.openedCount + 1) :
      Rearranged p p' [⟨Client.name (p.openedCount + 1), url⟩] []
  | fronted (window : Client) (found : p.windows.find? (·.id = window.id) = some window)
      (windows : p'.windows = window :: p.windows.eraseP (·.id = window.id))
      (count : p'.openedCount = p.openedCount) : Rearranged p p' [] [window.id]

theorem close_openedCount (p : Platform) (id : Nat) :
    (p.close id).openedCount = p.openedCount := by
  unfold close
  split <;> rfl

theorem answer_focus_isOk (p : Platform) (client : Client) :
    (p.answer (.focus client)).isOk = p.hasWindow client.id := by
  show (p.ifOpen client).isOk = _
  unfold ifOpen
  split
  next h => exact h.symm
  next h => exact (Bool.eq_false_iff.mpr h).symm

theorem rearranged_focus (p : Platform) (now : Time.Instant) (client : Client) :
    Rearranged p (p.focus client.id) [] (p.focuses (.call now (.focus client))) := by
  rw [focuses, answer_focus_isOk, hasWindow, ← List.isSome_find?, focus]
  cases hfind : p.windows.find? (·.id = client.id) with
  | none => exact .same rfl rfl
  | some window =>
    obtain hid : window.id = client.id := by simpa using List.find?_some hfind
    rw [← hid] at hfind ⊢
    exact .fronted window hfind rfl rfl

/-- **An operation leaves the windows alone, opens one, or brings one to the front.** -/
theorem rearranged_apply (p : Platform) (op : Operation) :
    Rearranged p (p.apply op) (p.creates op) (p.focuses op) := by
  cases op with
  | addWindow url => exact .opened url rfl rfl
  | drain => exact .same rfl rfl
  | call now c =>
    cases c with
    | openWindow url => exact .opened url rfl rfl
    | focus client => exact p.rearranged_focus now client
    | close id => exact .same (p.close_windows id) (p.close_openedCount id)
    | post client message =>
      show Rearranged p (if p.hasWindow client.id then _ else p : Platform) [] []
      split <;> exact .same rfl rfl
    | _ => exact .same rfl rfl

/-! ## Names -/

/-- The windows are named by their numbers, in the order in which they are opened. -/
theorem map_id_created (ops : List Operation) :
    (course ops).openedCount = (created ops).length ∧
      (created ops).map Client.id = (List.range' 1 (created ops).length).map Client.name := by
  induction ops using List.reverseRecOn with
  | nil => exact ⟨rfl, rfl⟩
  | append_singleton ops op ih =>
    obtain ⟨hcount, hnames⟩ := ih
    have hstep := (course ops).rearranged_apply op
    rw [course_concat, created_concat]
    generalize (course ops).creates op = opened, (course ops).focuses op = fronted at hstep
    cases hstep with
    | same _ count => rw [List.append_nil, count]; exact ⟨hcount, hnames⟩
    | fronted _ _ _ count => rw [List.append_nil, count]; exact ⟨hcount, hnames⟩
    | opened url _ count =>
      rw [count, hcount, List.length_append, List.length_singleton, List.map_append, hnames,
        List.range'_1_concat, List.map_append, Nat.add_comm 1]
      exact ⟨rfl, rfl⟩

/-- No two windows have the same name. -/
theorem nodup_created (ops : List Operation) : ((created ops).map Client.id).Nodup := by
  rw [(map_id_created ops).2]
  exact List.Nodup.map Client.name_injective List.nodup_range'

/-! ## The order of the windows -/

section Fronted

variable {windows : List Client} {window : Client} (hnodup : (windows.map Client.id).Nodup)
include hnodup

/-- The window that comes to the front leaves its place. -/
theorem eraseP_eq_filter_id :
    windows.eraseP (·.id = window.id) = windows.filter (·.id ≠ window.id) := by
  have halone : windows.Pairwise fun a b =>
      decide (a.id = window.id) = true → decide (b.id = window.id) = false := by
    refine (List.pairwise_map.mp hnodup).imp fun {a b} hne ha => decide_eq_false fun hb => ?_
    exact hne ((of_decide_eq_true ha).trans hb.symm)
  rw [eraseP_eq_filter halone]
  exact List.filter_congr fun _ _ => decide_not.symm

theorem perm_fronted (hfound : windows.find? (·.id = window.id) = some window) :
    (window :: windows.eraseP (·.id = window.id)).Perm windows := by
  rw [eraseP_eq_filter_id hnodup]
  exact (perm_cons_filter hnodup (List.mem_of_find?_eq_some hfound)).symm

theorem map_id_fronted : (window :: windows.eraseP (·.id = window.id)).map Client.id =
    window.id :: (windows.map Client.id).filter (· ≠ window.id) := by
  rw [eraseP_eq_filter_id hnodup, List.map_cons, List.filter_map]
  rfl

end Fronted

/-- Every window that was ever opened is still there, and no other. -/
theorem perm_created (ops : List Operation) : (course ops).windows.Perm (created ops) := by
  induction ops using List.reverseRecOn with
  | nil => exact .nil
  | append_singleton ops op ih =>
    have hnodup := (ih.map Client.id).nodup_iff.mpr (nodup_created ops)
    have hstep := (course ops).rearranged_apply op
    rw [course_concat, created_concat]
    generalize (course ops).creates op = opened, (course ops).focuses op = fronted at hstep
    cases hstep with
    | same windows => rw [windows, List.append_nil]; exact ih
    | opened url windows => rw [windows]; exact ih.append_right _
    | fronted window found windows =>
      rw [windows, List.append_nil]
      exact (perm_fronted hnodup found).trans ih

theorem nodup_windows (ops : List Operation) : ((course ops).windows.map Client.id).Nodup :=
  ((perm_created ops).map Client.id).nodup_iff.mpr (nodup_created ops)

/-- A window that has had the focus was opened. -/
theorem focused_subset (ops : List Operation) : focused ops ⊆ (created ops).map Client.id := by
  induction ops using List.reverseRecOn with
  | nil => exact List.nil_subset _
  | append_singleton ops op ih =>
    have hstep := (course ops).rearranged_apply op
    rw [focused_concat, created_concat]
    generalize (course ops).creates op = opened, (course ops).focuses op = fronted at hstep
    cases hstep with
    | same => rw [List.append_nil, List.append_nil]; exact ih
    | opened url =>
      rw [List.append_nil, List.map_append]
      exact List.subset_append_of_subset_left _ ih
    | fronted window found =>
      rw [List.append_nil, List.append_subset]
      refine ⟨ih, List.cons_subset.mpr ⟨?_, List.nil_subset _⟩⟩
      exact List.mem_map_of_mem ((perm_created ops).subset (List.mem_of_find?_eq_some found))

/-- What is taken out of a list can be taken out before or after its duplicates are. -/
theorem eraseDups_filter (q : String → Bool) (l : List String) :
    (l.filter q).eraseDups = l.eraseDups.filter q := by
  induction h : l.length using Nat.strongRecOn generalizing l with
  | ind n ih =>
    subst h
    cases l with
    | nil => rfl
    | cons a l =>
      have hshort : (l.filter fun b => !b == a).length < (a :: l).length :=
        Nat.lt_succ_of_le (List.length_filter_le _ l)
      rw [List.eraseDups_cons, List.filter_cons, List.filter_cons, ← ih _ hshort _ rfl]
      split
      · rw [List.eraseDups_cons, List.filter_filter, List.filter_filter]
        simp only [Bool.and_comm]
      next hq =>
        rw [List.filter_filter]
        congr 1
        refine List.filter_congr fun b _ => ?_
        by_cases hb : b = a <;> simp_all

/-- **The windows that have had the focus come first, the one that had it last in front**, and
behind them the others in the order in which they were opened. -/
theorem map_id_windows (ops : List Operation) : (course ops).windows.map Client.id =
    (focused ops).reverse.eraseDups ++ ((created ops).map Client.id).filter (· ∉ focused ops) := by
  induction ops using List.reverseRecOn with
  | nil => rfl
  | append_singleton ops op ih =>
    have hfresh := nodup_created (ops ++ [op])
    have hstep := (course ops).rearranged_apply op
    rw [course_concat, created_concat, focused_concat]
    rw [created_concat] at hfresh
    generalize (course ops).creates op = opened, (course ops).focuses op = fronted at hstep hfresh
    cases hstep with
    | same windows => rw [windows, List.append_nil, List.append_nil]; exact ih
    | opened url windows =>
      -- The window is new, so it cannot have had the focus.
      rw [List.map_append, List.nodup_append'] at hfresh
      have hnew : Client.name ((course ops).openedCount + 1) ∉ focused ops := fun hmem =>
        hfresh.2.2 (focused_subset ops hmem) List.mem_cons_self
      rw [windows, List.map_append, ih, List.append_nil, List.map_append, List.filter_append,
        List.append_assoc]
      simp [hnew]
    | fronted window found windows =>
      rw [windows, map_id_fronted (nodup_windows ops), ih, List.append_nil,
        List.reverse_append, List.reverse_singleton, List.singleton_append, List.eraseDups_cons,
        List.filter_append, eraseDups_filter, List.cons_append, List.filter_filter]
      congr 2
      · exact List.filter_congr fun b _ => by by_cases hb : b = window.id <;> simp [hb]
      · refine List.filter_congr fun b _ => ?_
        simp [and_comm]

/-- The window in front is the one that had the focus last, or else the one that was opened
first. -/
theorem head?_windows (ops : List Operation) :
    (course ops).windows.head?.map Client.id = target? ops := by
  rw [← List.head?_map, map_id_windows, target?]
  rcases List.eq_nil_or_concat (focused ops) with hnone | ⟨before, last, hlast⟩
  · rw [hnone]
    simp
  · rw [hlast, List.concat_eq_append, List.reverse_append, List.reverse_singleton,
      List.singleton_append, List.eraseDups_cons]
    simp

/-! ## What holds of the windows -/

/-- What holds of the windows after operations. -/
structure Recency (ops : List Operation) : Prop where
  /-- The windows can be listed: each that was ever opened is there once, and nothing else. -/
  listed : (course ops).answer .windows = .ok (course ops).windows
  each : (course ops).windows.Perm (created ops)
  distinct : ((course ops).windows.map Client.id).Nodup
  /-- Those that have had the focus come first, the one that had it last in front, and behind them
  the others in the order in which they were opened. -/
  order : (course ops).windows.map Client.id = (focused ops).reverse.eraseDups ++
    ((created ops).map Client.id).filter (· ∉ focused ops)
  /-- A window can take the focus and be told something if it was ever opened. -/
  takes : ∀ client, (course ops).answer (.focus client) = .ok () ↔
    client.id ∈ (created ops).map Client.id
  told : ∀ client message, (course ops).answer (.post client message) = .ok () ↔
    client.id ∈ (created ops).map Client.id
  /-- What fails does nothing. -/
  failed : ∀ now c failure, (course ops).answer c = .error failure →
    (course ops).after now c = course ops

theorem ifOpen_eq_ok_iff (ops : List Operation) (client : Client) :
    (course ops).ifOpen client = .ok () ↔ client.id ∈ (created ops).map Client.id := by
  rw [← ((perm_created ops).map Client.id).mem_iff, ifOpen, hasWindow]
  simp [List.mem_map]

/-- **The windows are kept in the order in which they had the focus**, whatever operations there
are. -/
theorem recency_course (ops : List Operation) : Recency ops where
  listed := rfl
  each := perm_created ops
  distinct := nodup_windows ops
  order := map_id_windows ops
  takes := ifOpen_eq_ok_iff ops
  told client _ := ifOpen_eq_ok_iff ops client
  failed now _ _ h := (course ops).after_of_error now h

end ServiceWorker.Platform
