import Mathlib.Data.List.Pairwise
import ServiceWorker.Proofs.Platform.Course

/-!
# What is displayed

Showing a notification removes the first one displayed that has its tag. No two that are displayed
share a tag, so that one is all of them, and what is displayed is told by the operations alone: all
notifications that were shown, but for those that a later operation removes.

## Main definitions

* `Platform.Operation.shows`, `Platform.Operation.removes`: the notification that an operation
  shows, and those that it removes
* `Platform.showings`, `Platform.shownBy`, `Platform.lasting`: the notifications shown by
  operations, and those among them that none of the later operations removes
* `Platform.Tidy`: the numbers of the displayed notifications increase and their tags differ
* `Platform.Tray`: what holds of the displayed notifications after operations

## Main results

* `Platform.Tidy.notifications_apply`: an operation removes what it removes, and shows what it shows
* `Platform.tray_course`: what is displayed after operations, whatever they are
-/

namespace ServiceWorker

/-- A notification gives way to one with the same tag, unless the tag is empty. -/
theorem Notification.givesWayTo_iff {n : Notification} {options : Options} :
    n.givesWayTo options = true ↔ options.tag ≠ "" ∧ n.options.tag = options.tag := by
  simp [givesWayTo]

namespace Platform

/-! ## What is shown, and what of it lasts -/

/-- The notification that an operation shows, as the one after so many others. -/
def Operation.shows (count : Nat) : Operation → List Notification
  | .call now (.display title options) => [⟨count + 1, title, options, now⟩]
  | _ => []

/-- Whether an operation removes a notification that is displayed. -/
def Operation.removes (n : Notification) : Operation → Bool
  | .call _ (.display _ options) => options.tag ≠ "" ∧ n.options.tag = options.tag
  | .call _ (.close id) => n.id = id
  | _ => false

theorem Operation.shows_cases (count : Nat) (op : Operation) :
    op.shows count = [] ∨ ∃ now title options, op = .call now (.display title options) := by
  unfold shows
  split
  · exact .inr ⟨_, _, _, rfl⟩
  · exact .inl rfl

/-- A notification is numbered after those shown before it. -/
theorem Operation.id_of_mem_shows {count : Nat} {op : Operation} {n : Notification}
    (h : n ∈ op.shows count) : n.id = count + 1 := by
  obtain hnone | ⟨now, title, options, rfl⟩ := op.shows_cases count
  · rw [hnone] at h
    cases h
  · rw [List.mem_singleton.mp h]

/-- The notifications that operations show after so many others, each with the operations that come
after it. -/
def showings (count : Nat) : List Operation → List (Notification × List Operation)
  | [] => []
  | op :: ops =>
    (op.shows count).map (·, ops) ++ showings (count + (op.shows count).length) ops

/-- The notifications that operations show. -/
def shownBy (ops : List Operation) : List Notification :=
  (showings 0 ops).map Prod.fst

/-- The notifications that operations show and none of the later ones removes. -/
def lasting (ops : List Operation) : List Notification :=
  ((showings 0 ops).filter fun x => x.2.all (!·.removes x.1)).map Prod.fst

/-- The last operation comes behind everything that was shown before it. -/
theorem showings_concat (count : Nat) (ops : List Operation) (op : Operation) :
    showings count (ops ++ [op]) =
      (showings count ops).map (fun x => (x.1, x.2 ++ [op])) ++
        (op.shows (count + (showings count ops).length)).map (·, []) := by
  induction ops generalizing count with
  | nil => exact List.append_nil _
  | cons op' ops ih =>
    rw [List.cons_append, showings, ih, showings, List.map_append, List.map_map, List.length_append,
      List.length_map, Nat.add_assoc, List.append_assoc]
    rfl

/-- The last operation adds what it shows to what was shown before it. -/
theorem shownBy_concat (ops : List Operation) (op : Operation) :
    shownBy (ops ++ [op]) = shownBy ops ++ op.shows (shownBy ops).length := by
  rw [shownBy, showings_concat, List.map_append, List.map_map, List.map_map, Nat.zero_add, shownBy,
    List.length_map]
  exact congrArg _ (List.map_id _)

/-- The last operation removes what it removes, and adds what it shows. -/
theorem lasting_concat (ops : List Operation) (op : Operation) :
    lasting (ops ++ [op]) =
      (lasting ops).filter (!op.removes ·) ++ op.shows (shownBy ops).length := by
  rw [lasting, showings_concat, List.filter_append, List.map_append, Nat.zero_add]
  congr 1
  · rw [List.filter_map, List.map_map, lasting, List.filter_map, List.filter_filter]
    congr 1
    refine List.filter_congr fun x _ => ?_
    rw [Function.comp_apply, Function.comp_apply, List.all_append, List.all_cons, List.all_nil,
      Bool.and_true, Bool.and_comm]
  · rw [List.filter_eq_self.mpr, List.map_map, shownBy, List.length_map]
    · exact List.map_id _
    · intro x hx
      obtain ⟨n, -, rfl⟩ := List.mem_map.mp hx
      rfl

theorem lasting_sublist (ops : List Operation) : (lasting ops).Sublist (shownBy ops) :=
  List.filter_sublist.map _

/-- The notifications are numbered in the order in which they are shown. -/
theorem map_id_shownBy (ops : List Operation) :
    (shownBy ops).map Notification.id = List.range' 1 (shownBy ops).length := by
  induction ops using List.reverseRecOn with
  | nil => rfl
  | append_singleton ops op ih =>
    rw [shownBy_concat, List.map_append, ih, List.length_append]
    obtain h | ⟨now, title, options, rfl⟩ := op.shows_cases (shownBy ops).length
    · rw [h]
      exact List.append_nil _
    · rw [Operation.shows, List.map_singleton, List.length_singleton, List.range'_1_concat,
        Nat.add_comm 1]

theorem shownCount_apply (p : Platform) (op : Operation) :
    (p.apply op).shownCount = p.shownCount + (op.shows p.shownCount).length := by
  cases op with
  | addWindow url => rfl
  | drain => rfl
  | call now c =>
    cases c with
    | display title options => rfl
    | close id => exact p.close_shownCount id
    | _ => exact (p.after_notifications now (by simp) (by simp)).2

/-! ## Predicates of which no two in a list agree -/

section Alone

variable {α : Type} {q : α → Bool} {l : List α}
  (h : l.Pairwise fun a b => q a = true → q b = false)
include h

theorem eraseP_eq_filter : l.eraseP q = l.filter (!q ·) := by
  induction l with
  | nil => rfl
  | cons a l ih =>
    obtain ⟨ha, hl⟩ := List.pairwise_cons.mp h
    cases hq : q a with
    | false =>
      rw [List.eraseP_cons_of_neg (by simp [hq]), ih hl, List.filter_cons_of_pos (by simp [hq])]
    | true =>
      rw [List.eraseP_cons_of_pos hq, List.filter_cons_of_neg (by simp [hq]),
        List.filter_eq_self.mpr fun b hb => by rw [ha b hb hq]; rfl]

theorem find?_eq_some_of_mem {a : α} (ha : a ∈ l) (hq : q a = true) : l.find? q = some a := by
  obtain ⟨before, after, rfl⟩ := List.append_of_mem ha
  refine List.find?_eq_some_iff_append.mpr ⟨hq, before, after, rfl, fun b hb => ?_⟩
  rw [Bool.not_eq_true', Bool.eq_false_iff]
  intro hqb
  rw [(List.pairwise_append.mp h).2.2 b hb a List.mem_cons_self hqb] at hq
  cases hq

end Alone

/-! ## What is kept by every operation -/

/-- The numbers of the displayed notifications increase, none is higher than the count, and no two
of them share a tag that is not empty. -/
structure Tidy (p : Platform) : Prop where
  increasing : p.notifications.Pairwise (·.id < ·.id)
  counted : ∀ n ∈ p.notifications, n.id ≤ p.shownCount
  tagged : p.notifications.Pairwise fun m n => m.options.tag = n.options.tag → m.options.tag = ""

namespace Tidy

variable {p : Platform}

theorem empty : Tidy empty :=
  ⟨.nil, fun _ hn => absurd hn List.not_mem_nil, .nil⟩

theorem givesWayTo (h : Tidy p) (options : Notification.Options) : p.notifications.Pairwise
    fun m n => m.givesWayTo options = true → n.givesWayTo options = false := by
  refine h.tagged.imp fun {m n} hmn hm => ?_
  rw [← Bool.not_eq_true, Notification.givesWayTo_iff]
  rintro ⟨hne, hn⟩
  obtain ⟨-, hm⟩ := Notification.givesWayTo_iff.mp hm
  exact hne (hm ▸ hmn (hm.trans hn.symm))

/-- In a tidy tray a notification that gives way is the one that is replaced. -/
theorem replacedBy_eq (h : Tidy p) {n : Notification} (hn : n ∈ p.notifications)
    {options : Notification.Options} (hgives : n.givesWayTo options = true) :
    p.replacedBy options = some n :=
  find?_eq_some_of_mem (h.givesWayTo options) hn hgives

/-- **An operation removes what it removes, and shows what it shows**: showing a notification
leaves no other with its tag. -/
theorem notifications_apply (h : Tidy p) (op : Operation) :
    (p.apply op).notifications =
      p.notifications.filter (!op.removes ·) ++ op.shows p.shownCount := by
  have hsame : p.notifications = p.notifications.filter (fun _ => !false) ++ [] := by
    rw [List.append_nil]
    exact (List.filter_eq_self.mpr fun _ _ => rfl).symm
  cases op with
  | addWindow url => exact hsame
  | drain => exact hsame
  | call now c =>
    cases c with
    | display title options =>
      show (p.display now title options).notifications = _
      rw [display_notifications, eraseP_eq_filter]
      · congr 1
        refine List.filter_congr fun n _ => ?_
        rw [Bool.eq_iff_iff, Bool.not_eq_true', Bool.not_eq_true', ← Bool.not_eq_true,
          ← Bool.not_eq_true, Notification.givesWayTo_iff]
        exact not_congr decide_eq_true_iff.symm
      · exact h.givesWayTo options
    | close id =>
      show (p.close id).notifications = _
      rw [close_notifications]
      refine Eq.trans ?_ (List.append_nil _).symm
      exact List.filter_congr fun n _ => (decide_not : decide (n.id ≠ id) = _)
    | _ => exact (p.after_notifications now (by simp) (by simp)).1.trans hsame

/-- **The displayed notifications are kept in order** by every operation. -/
theorem apply (h : Tidy p) (op : Operation) : Tidy (p.apply op) := by
  have hkept : (p.notifications.filter (!op.removes ·)).Sublist p.notifications :=
    List.filter_sublist
  obtain hnone | ⟨now, title, options, rfl⟩ := op.shows_cases p.shownCount
  · have hn := h.notifications_apply op
    have hcount := p.shownCount_apply op
    rw [hnone, List.append_nil] at hn
    rw [hnone, List.length_nil, Nat.add_zero] at hcount
    constructor
    · exact hn ▸ h.increasing.sublist hkept
    · exact fun n hmem => hcount ▸ h.counted n (hkept.subset (hn ▸ hmem))
    · exact hn ▸ h.tagged.sublist hkept
  · have hn : (p.apply (.call now (.display title options))).notifications =
        p.notifications.filter (!(Operation.call now (.display title options)).removes ·) ++
          [p.next now title options] := h.notifications_apply _
    constructor
    · rw [hn, List.pairwise_append]
      refine ⟨h.increasing.sublist hkept, List.pairwise_singleton _ _, fun m hm n hlast => ?_⟩
      rw [List.mem_singleton.mp hlast]
      exact Nat.lt_succ_of_le (h.counted m (hkept.subset hm))
    · intro n hmem
      rw [hn] at hmem
      rcases List.mem_append.mp hmem with hmem | hlast
      · exact Nat.le_succ_of_le (h.counted n (hkept.subset hmem))
      · rw [List.mem_singleton.mp hlast]
        exact Nat.le_refl _
    · rw [hn, List.pairwise_append]
      refine ⟨h.tagged.sublist hkept, List.pairwise_singleton _ _, fun m hm n hlast htag => ?_⟩
      -- A notification with the tag of the one shown is gone, unless the tag is empty.
      rw [List.mem_singleton.mp hlast] at htag
      have hstays := (List.mem_filter.mp hm).2
      by_contra hne
      have hgone : (Operation.call now (.display title options)).removes m = true :=
        decide_eq_true ⟨htag ▸ hne, htag⟩
      rw [hgone] at hstays
      cases hstays

end Tidy

/-- The tray is tidy, whatever has happened. -/
theorem tidy_course (ops : List Operation) : Tidy (course ops) := by
  induction ops using List.reverseRecOn with
  | nil => exact .empty
  | append_singleton ops op ih => exact course_concat ops op ▸ ih.apply op

/-- All that were shown have been counted. -/
theorem shownCount_course (ops : List Operation) :
    (course ops).shownCount = (shownBy ops).length := by
  induction ops using List.reverseRecOn with
  | nil => rfl
  | append_singleton ops op ih =>
    rw [course_concat, shownCount_apply, ih, shownBy_concat, List.length_append]

/-- What is displayed is what lasts. -/
theorem notifications_course (ops : List Operation) : (course ops).notifications = lasting ops := by
  induction ops using List.reverseRecOn with
  | nil => rfl
  | append_singleton ops op ih =>
    rw [course_concat, (tidy_course ops).notifications_apply, ih, lasting_concat, shownCount_course]

/-! ## What the record tells -/

/-- The notification that is shown according to an entry of the record. -/
def Effect.shown? : Effect → Option Notification
  | .shown n _ => some n
  | _ => none

/-- Every notification that is shown is recorded. -/
theorem adds_shown? (p : Platform) (op : Operation) :
    (p.adds op).filterMap Effect.shown? = op.shows p.shownCount := by
  cases op with
  | addWindow url => rfl
  | drain => rfl
  | call now c =>
    show (p.recorded now c).filterMap Effect.shown? = _
    cases c with
    | display title options => rw [recorded_display]; rfl
    | close id => rw [recorded_close]; split <;> rfl
    | post client message => rw [recorded_post]; split <;> rfl
    | focus client => rw [recorded_focus]; split <;> rfl
    | notifications => rw [recorded_notifications]; rfl
    | windows => rw [recorded_windows]; rfl
    | setBadge count => rw [recorded_setBadge]; rfl
    | clearBadge => rw [recorded_clearBadge]; rfl
    | openWindow url => rw [recorded_openWindow]; rfl
    | claim => rw [recorded_claim]; rfl

/-- The record names each notification that is shown, as it is shown. -/
theorem history_shown? (ops : List Operation) :
    (history ops).filterMap Effect.shown? = shownBy ops := by
  induction ops using List.reverseRecOn with
  | nil => rfl
  | append_singleton ops op ih =>
    rw [history_concat, List.filterMap_append, ih, adds_shown?, shownBy_concat, shownCount_course]

theorem replacedBy_eq_some {p : Platform} {options : Notification.Options} {m : Notification}
    (h : p.replacedBy options = some m) :
    m ∈ p.notifications ∧ options.tag ≠ "" ∧ m.options.tag = options.tag := by
  have hgives : m.givesWayTo options = true :=
    List.find?_some (p := fun n : Notification => n.givesWayTo options) h
  exact ⟨List.mem_of_find?_eq_some h, Notification.givesWayTo_iff.mp hgives⟩

theorem adds_replaced {p : Platform} {op : Operation} {n : Notification} {id : Nat}
    (h : .shown n (some id) ∈ p.adds op) :
    n.options.tag ≠ "" ∧ ∃ m ∈ p.notifications, m.id = id ∧ m.options.tag = n.options.tag := by
  have hshown : n ∈ op.shows p.shownCount := by
    rw [← adds_shown?, List.mem_filterMap]
    exact ⟨_, h, rfl⟩
  obtain hnone | ⟨now, title, options, rfl⟩ := op.shows_cases p.shownCount
  · rw [hnone] at hshown
    cases hshown
  · have hadds : p.adds (.call now (.display title options)) = _ :=
      p.recorded_display now title options
    rw [hadds, List.mem_singleton] at h
    obtain ⟨rfl, hid⟩ := Effect.shown.inj h
    obtain ⟨m, hm, rfl⟩ := Option.map_eq_some_iff.mp hid.symm
    obtain ⟨hmem, htag, hsame⟩ := replacedBy_eq_some hm
    exact ⟨htag, m, hmem, rfl, hsame⟩

/-- What is recorded as replaced was shown before, with the same tag. -/
theorem history_replaced {ops : List Operation} {n : Notification} {id : Nat}
    (h : .shown n (some id) ∈ history ops) :
    n.options.tag ≠ "" ∧ ∃ m ∈ shownBy ops, m.id = id ∧ m.options.tag = n.options.tag := by
  induction ops using List.reverseRecOn with
  | nil => cases h
  | append_singleton ops op ih =>
    rw [history_concat] at h
    rw [shownBy_concat]
    rcases List.mem_append.mp h with h | h
    · obtain ⟨htag, m, hm, hid⟩ := ih h
      exact ⟨htag, m, List.mem_append_left _ hm, hid⟩
    · obtain ⟨htag, m, hm, hid⟩ := adds_replaced h
      rw [notifications_course] at hm
      exact ⟨htag, m, List.mem_append_left _ ((lasting_sublist ops).subset hm), hid⟩

/-! ## The tray -/

theorem notificationTagged_eq_replacedBy (p : Platform) {options : Notification.Options}
    (htag : options.tag ≠ "") : p.notificationTagged options.tag = p.replacedBy options := by
  refine congrFun (congrArg List.find? (funext fun n => ?_)) p.notifications
  rw [Bool.eq_iff_iff, decide_eq_true_iff, Notification.givesWayTo_iff]
  exact ⟨fun hn => ⟨htag, hn⟩, fun hn => hn.2⟩

/-- What holds of the displayed notifications after operations. -/
structure Tray (ops : List Operation) : Prop where
  /-- The record names the notifications that were shown, and each has its own number. -/
  shown : (history ops).filterMap Effect.shown? = shownBy ops
  numbered : (shownBy ops).map Notification.id = List.range' 1 (shownBy ops).length
  increasing : (course ops).notifications.Pairwise (·.id < ·.id)
  tagged : (course ops).notifications.Pairwise fun m n =>
    m.options.tag = n.options.tag → m.options.tag = ""
  /-- Displayed is what was shown and not removed since. -/
  displayed : (course ops).notifications = lasting ops
  found : ∀ n ∈ (course ops).notifications, n.options.tag ≠ "" →
    (course ops).notificationTagged n.options.tag = some n
  /-- What replaces and what is replaced have one tag, and it is not empty. -/
  replaced : ∀ n id, .shown n (some id) ∈ history ops →
    n.options.tag ≠ "" ∧ ∃ m ∈ shownBy ops, m.id = id ∧ m.options.tag = n.options.tag
  /-- Nothing goes when a notification without a tag is shown, and a notification without a tag
  stays whatever is shown. -/
  spared : ∀ now title options, ∀ n ∈ (course ops).notifications,
    options.tag = "" ∨ n.options.tag = "" →
      n ∈ ((course ops).display now title options).notifications

/-- **What is displayed**, after any operations in any order: the notifications that were shown and
not closed since, nor replaced by a later one with the same tag, in the order in which they were
shown. -/
theorem tray_course (ops : List Operation) : Tray ops where
  shown := history_shown? ops
  numbered := map_id_shownBy ops
  increasing := (tidy_course ops).increasing
  tagged := (tidy_course ops).tagged
  displayed := notifications_course ops
  found n hn htag := by
    rw [notificationTagged_eq_replacedBy _ htag]
    exact (tidy_course ops).replacedBy_eq hn (Notification.givesWayTo_iff.mpr ⟨htag, rfl⟩)
  replaced n id h := history_replaced h
  spared now title options n hn htag := by
    have h : ((course ops).display now title options).notifications = _ :=
      (tidy_course ops).notifications_apply (.call now (.display title options))
    rw [h]
    refine List.mem_append_left _ (List.mem_filter.mpr ⟨hn, ?_⟩)
    rw [Bool.not_eq_true']
    refine decide_eq_false fun ⟨hne, hsame⟩ => ?_
    rcases htag with hempty | hempty
    · exact hne hempty
    · exact hne (hsame ▸ hempty)

end Platform

end ServiceWorker
