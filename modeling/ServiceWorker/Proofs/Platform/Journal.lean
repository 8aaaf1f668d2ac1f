import Mathlib.Data.List.Nodup
import ServiceWorker.Proofs.Platform.Tray

/-!
# The record as a journal

All that has ever been recorded, read line by line with the windows that were opened without the
worker, tells what is displayed, the badge, and the windows in the order in which they had the
focus. A notification leaves in one way only, and the record says so once.

## Main definitions

* `Platform.Scene`, `Platform.scene`: what is seen of a platform
* `Platform.Scene.enter`: what is seen after an entry of the record
* `Platform.Line`, `Platform.journal`: the entries of the record, and the windows opened without the
  worker where they were opened
* `Platform.Effect.leaves`: the notifications that leave by an entry
* `Platform.Journal`: what holds of the journal of operations

## Main results

* `Platform.Tidy.scene_after`: the entries recorded by a call lead to what is seen after it
* `Platform.count_shownBy`: a notification that was shown is displayed or has left, and that once
* `Platform.journal_course`: the journal of operations, whatever they are
-/

namespace ServiceWorker.Platform

/-! ## What is seen -/

/-- What is seen of a platform: the notifications, the badge, and the windows, the one focused last
in front. -/
@[ext] structure Scene where
  notifications : List Notification
  badge : Option Nat
  windows : List Client

/-- What is seen of a platform. -/
def scene (p : Platform) : Scene :=
  ⟨p.notifications, p.badge, p.windows⟩

namespace Scene

/-- Nothing to be seen. -/
def empty : Scene := ⟨[], none, []⟩

/-- The numbers of the displayed notifications. -/
def ids (s : Scene) : List Nat :=
  s.notifications.map Notification.id

/-- What is seen after an entry of the record. -/
def enter (s : Scene) : Effect → Scene
  | .shown n replaced =>
    { s with notifications := s.notifications.filter (some ·.id ≠ replaced) ++ [n] }
  | .closed id => { s with notifications := s.notifications.filter (·.id ≠ id) }
  | .badgeSet count => { s with badge := some count }
  | .badgeCleared => { s with badge := none }
  | .opened client => { s with windows := s.windows ++ [client] }
  | .focused id =>
    { s with
      windows := (s.windows.find? (·.id = id)).toList ++ s.windows.eraseP (·.id = id) }
  | .posted _ _ => s
  | .claimed => s

end Scene

/-! ## The journal -/

/-- A line of the journal: an entry of the record, or a window opened without the worker. -/
inductive Line where
  | entry (e : Effect)
  | added (client : Client)

/-- The entry of the record in a line. -/
def Line.entry? : Line → Option Effect
  | .entry e => some e
  | .added _ => none

/-- What is seen after a line of the journal. -/
def Scene.read (s : Scene) : Line → Scene
  | .entry e => s.enter e
  | .added client => { s with windows := s.windows ++ [client] }

/-- The lines that an operation adds to the journal. -/
def lines (p : Platform) : Operation → List Line
  | .addWindow url => [.added (p.addWindow url).1]
  | op => (p.adds op).map .entry

/-- The journal of operations. -/
def journal (ops : List Operation) : List Line :=
  gather lines ops

/-- The journal has every entry that was ever recorded, and no other. -/
theorem filterMap_journal (ops : List Operation) :
    (journal ops).filterMap Line.entry? = history ops := by
  induction ops using List.reverseRecOn with
  | nil => rfl
  | append_singleton ops op ih =>
    rw [journal, gather_concat, List.filterMap_append, history_concat, ← ih, journal]
    congr 1
    cases op with
    | addWindow url => rfl
    | drain => rfl
    | call now c =>
      rw [lines, List.filterMap_map]
      · exact List.filterMap_some
      · rintro _ ⟨⟩

/-! ## Reading the journal -/

theorem Tidy.nodup_ids {p : Platform} (h : Tidy p) : p.scene.ids.Nodup :=
  List.pairwise_map.mpr (h.increasing.imp Nat.ne_of_lt)

/-- A notification goes when another is shown if it is the one named as replaced. -/
theorem Tidy.removes_iff {p : Platform} (h : Tidy p) {now : Time.Instant} {title : String}
    {options : Notification.Options} {n : Notification} (hn : n ∈ p.notifications) :
    (Operation.call now (.display title options)).removes n = true ↔
      some n.id = (p.replacedBy options).map Notification.id := by
  rw [show (Operation.call now (.display title options)).removes n = true ↔ _ from
    decide_eq_true_iff, ← Notification.givesWayTo_iff]
  constructor
  · intro hgives
    rw [h.replacedBy_eq hn hgives, Option.map_some]
  · intro hid
    obtain ⟨m, hm, hid⟩ := Option.map_eq_some_iff.mp hid.symm
    obtain ⟨hmem, htag⟩ := replacedBy_eq_some hm
    rw [← List.inj_on_of_nodup_map h.nodup_ids hmem hn hid]
    exact Notification.givesWayTo_iff.mpr htag

/-- **The entries recorded by a call lead to what is seen after it.** An entry tells the number of
what is replaced, and the platform looks for its tag, so the numbers and the tags of what is
displayed have to differ. -/
theorem Tidy.scene_after {p : Platform} (h : Tidy p) (now : Time.Instant) (c : Call) :
    (p.after now c).scene = (p.recorded now c).foldl Scene.enter p.scene := by
  cases c with
  | display title options =>
    rw [recorded_display, List.foldl_cons, List.foldl_nil]
    have hn : (p.display now title options).notifications = _ :=
      h.notifications_apply (.call now (.display title options))
    refine Scene.ext (hn.trans (congrArg (· ++ _) ?_)) rfl rfl
    refine List.filter_congr fun n hmem => ?_
    rw [Bool.eq_iff_iff, Bool.not_eq_true', ← Bool.not_eq_true, h.removes_iff hmem]
    exact decide_eq_true_iff.symm
  | close id =>
    rw [recorded_close]
    show (p.close id).scene = _
    refine Scene.ext ((p.close_notifications id).trans ?_) ?_ ?_
    · split
      · rfl
      next hnone =>
        refine List.filter_eq_self.mpr fun n hn => decide_eq_true fun hid => hnone ?_
        exact List.any_eq_true.mpr ⟨n, hn, decide_eq_true hid⟩
    · refine (p.close_badge id).trans ?_
      split <;> rfl
    · refine (p.close_windows id).trans ?_
      split <;> rfl
  | post client message =>
    rw [recorded_post]
    show (if p.hasWindow client.id then _ else p : Platform).scene = _
    split <;> rfl
  | focus client =>
    rw [recorded_focus]
    show (p.focus client.id).scene = _
    unfold focus hasWindow
    rw [← List.isSome_find?]
    split
    next window hfind =>
      rw [hfind]
      refine Scene.ext rfl rfl ?_
      show _ = (p.windows.find? _).toList ++ _
      rw [hfind]
      rfl
    next hnone => rw [hnone]; rfl
  | notifications => rw [recorded_notifications]; rfl
  | windows => rw [recorded_windows]; rfl
  | setBadge count => rw [recorded_setBadge]; rfl
  | clearBadge => rw [recorded_clearBadge]; rfl
  | openWindow url => rw [recorded_openWindow]; rfl
  | claim => rw [recorded_claim]; rfl

/-- Read from the start, the journal tells what is seen. -/
theorem foldl_journal (ops : List Operation) :
    (journal ops).foldl Scene.read Scene.empty = (course ops).scene := by
  induction ops using List.reverseRecOn with
  | nil => rfl
  | append_singleton ops op ih =>
    rw [journal, gather_concat, List.foldl_append, ← journal, ih, course_concat]
    cases op with
    | addWindow url => rfl
    | drain => rfl
    | call now c =>
      rw [lines, List.foldl_map]
      · exact ((tidy_course ops).scene_after now c).symm
      · rintro _ ⟨⟩

/-! ## Where a notification is -/

/-- The number of the notification that an entry names as replaced. -/
def Effect.replaced? : Effect → Option Nat
  | .shown _ replaced => replaced
  | _ => none

/-- The number of the notification that an entry names as closed. -/
def Effect.closed? : Effect → Option Nat
  | .closed id => some id
  | _ => none

/-- The numbers of the notifications that leave by an entry. -/
def Effect.leaves (e : Effect) : List Nat :=
  e.replaced?.toList ++ e.closed?.toList

theorem Effect.leaves_shown (n : Notification) (replaced : Option Nat) :
    (Effect.shown n replaced).leaves = replaced.toList :=
  List.append_nil _

/-- A call adds one entry to the record or none, and what leaves by it is displayed. -/
theorem recorded_cases (p : Platform) (now : Time.Instant) (c : Call) :
    p.recorded now c = [] ∨ ∃ e, p.recorded now c = [e] ∧ e.leaves ⊆ p.scene.ids := by
  cases c with
  | display title options =>
    refine .inr ⟨_, p.recorded_display now title options, fun id hid => ?_⟩
    rw [Effect.leaves_shown, Option.mem_toList] at hid
    obtain ⟨m, hm, rfl⟩ := Option.map_eq_some_iff.mp hid
    exact List.mem_map_of_mem (replacedBy_eq_some hm).1
  | close id =>
    rw [recorded_close]
    split
    next hany =>
      refine .inr ⟨_, rfl, fun other hother => ?_⟩
      obtain ⟨n, hn, hid⟩ := List.any_eq_true.mp hany
      rw [List.mem_singleton.mp hother]
      exact List.mem_map.mpr ⟨n, hn, of_decide_eq_true hid⟩
    next => exact .inl rfl
  | post client message =>
    rw [recorded_post]
    split
    · exact .inr ⟨_, rfl, List.nil_subset _⟩
    · exact .inl rfl
  | focus client =>
    rw [recorded_focus]
    split
    · exact .inr ⟨_, rfl, List.nil_subset _⟩
    · exact .inl rfl
  | notifications => exact .inl (p.recorded_notifications now)
  | windows => exact .inl (p.recorded_windows now)
  | setBadge count => exact .inr ⟨_, p.recorded_setBadge now count, List.nil_subset _⟩
  | clearBadge => exact .inr ⟨_, p.recorded_clearBadge now, List.nil_subset _⟩
  | openWindow url => exact .inr ⟨_, p.recorded_openWindow now url, List.nil_subset _⟩
  | claim => exact .inr ⟨_, p.recorded_claim now, List.nil_subset _⟩

theorem adds_cases (p : Platform) (op : Operation) :
    p.adds op = [] ∨ ∃ e, p.adds op = [e] ∧ e.leaves ⊆ p.scene.ids := by
  cases op with
  | addWindow url => exact .inl rfl
  | drain => exact .inl rfl
  | call now c => exact p.recorded_cases now c

theorem Tidy.ids_apply {p : Platform} (h : Tidy p) (op : Operation) :
    (p.apply op).scene.ids = ((p.adds op).foldl Scene.enter p.scene).ids := by
  cases op with
  | call now c => exact congrArg Scene.ids (h.scene_after now c)
  | addWindow url => rfl
  | drain => rfl

/-- A number that is taken from numbers without duplicates is taken once. -/
theorem count_filter_add {l : List Nat} (hl : l.Nodup) (gone : Option Nat)
    (hgone : gone.toList ⊆ l) (id : Nat) :
    (l.filter (some · ≠ gone)).count id + gone.toList.count id = l.count id := by
  by_cases hid : some id = gone
  · subst hid
    have hmem : id ∈ l := hgone List.mem_cons_self
    have hnot : id ∉ l.filter (some · ≠ some id) := fun h =>
      of_decide_eq_true (List.mem_filter.mp h).2 rfl
    rw [List.count_eq_one_of_mem hl hmem, List.count_eq_zero_of_not_mem hnot]
    exact congrArg (0 + ·) List.count_singleton_self
  · have hnot : id ∉ gone.toList := fun h => hid (Option.mem_toList.mp h).symm
    rw [List.count_filter (p := fun x => decide (some x ≠ gone)) (decide_eq_true hid),
      List.count_eq_zero_of_not_mem hnot, Nat.add_zero]

/-- What is displayed after an entry, and what leaves by it, is what was displayed before, and what
is shown by it. -/
theorem Scene.count_enter {s : Scene} (hs : s.ids.Nodup) {e : Effect} (he : e.leaves ⊆ s.ids)
    (id : Nat) : (s.enter e).ids.count id + e.leaves.count id =
      s.ids.count id + (e.shown?.toList.map Notification.id).count id := by
  cases e with
  | shown n replaced =>
    rw [Effect.leaves_shown] at he ⊢
    rw [← count_filter_add hs replaced he id, ids, enter, List.map_append, List.count_append, ids,
      List.filter_map]
    exact Nat.add_right_comm _ _ _
  | closed other =>
    have hsame : s.notifications.filter (·.id ≠ other) =
        s.notifications.filter ((fun id => decide (some id ≠ some other)) ∘ Notification.id) :=
      List.filter_congr fun n _ => by simp
    rw [← count_filter_add hs (some other) he id, ids, enter, hsame, ids, List.filter_map]
    rfl
  | _ => rfl

/-- **A notification that was shown is displayed or has left, and that once.** -/
theorem count_shownBy (ops : List Operation) (id : Nat) :
    (course ops).scene.ids.count id + ((history ops).flatMap Effect.leaves).count id =
      ((shownBy ops).map Notification.id).count id := by
  induction ops using List.reverseRecOn with
  | nil => rfl
  | append_singleton ops op ih =>
    -- An operation adds one entry at most, and that entry keeps the balance.
    have hshows := (course ops).adds_shown? op
    rw [shownCount_course] at hshows
    rw [course_concat, (tidy_course ops).ids_apply, history_concat, shownBy_concat,
      List.flatMap_append, List.map_append, List.count_append, List.count_append, ← ih, ← hshows]
    obtain hnone | ⟨e, he, hleaves⟩ := (course ops).adds_cases op
    · rw [hnone]
      rfl
    · have hcount := Scene.count_enter (tidy_course ops).nodup_ids hleaves id
      have hone : [e].filterMap Effect.shown? = e.shown?.toList := by cases e <;> rfl
      rw [he, hone, List.flatMap_singleton, List.foldl_cons, List.foldl_nil]
      omega

theorem count_leaves (entries : List Effect) (id : Nat) :
    (entries.flatMap Effect.leaves).count id =
      (entries.filterMap Effect.replaced?).count id +
        (entries.filterMap Effect.closed?).count id := by
  induction entries with
  | nil => rfl
  | cons e entries ih =>
    have hcons {f : Effect → Option Nat} :
        ((e :: entries).filterMap f).count id =
          (f e).toList.count id + (entries.filterMap f).count id := by
      rw [List.filterMap_cons]
      cases f e with
      | none => exact (Nat.zero_add _).symm
      | some other =>
        show ([other] ++ entries.filterMap f).count id = _
        rw [List.count_append]
        rfl
    rw [List.flatMap_cons, List.count_append, ih, hcons, hcons, Effect.leaves, List.count_append]
    omega

/-- What was recorded before an entry was recorded by operations before. -/
theorem exists_of_history {ops : List Operation} {past future : List Effect} {e : Effect}
    (h : history ops = past ++ e :: future) :
    ∃ before op, history before = past ∧ (course before).adds op = [e] := by
  induction ops using List.reverseRecOn generalizing future with
  | nil =>
    rw [history_nil] at h
    cases past <;> cases h
  | append_singleton ops op ih =>
    rw [history_concat] at h
    obtain hnone | ⟨last, hlast, -⟩ := (course ops).adds_cases op
    · rw [hnone, List.append_nil] at h
      exact ih h
    · rw [hlast] at h
      -- The entry is the last one, or it was there before the last operation.
      rcases List.eq_nil_or_concat future with rfl | ⟨future, last', rfl⟩
      · obtain ⟨hpast, he⟩ := List.append_inj' h rfl
        exact ⟨ops, op, hpast, hlast.trans he⟩
      · rw [List.concat_eq_append, ← List.cons_append, ← List.append_assoc] at h
        exact ih (List.append_inj' h rfl).1

/-- The number of a notification is new when it is shown, so no entry until then names it. -/
theorem not_mem_leaves_of_adds {before : List Operation} {op : Operation} {n : Notification}
    {replaced : Option Nat} (hadds : (course before).adds op = [.shown n replaced]) :
    n.id ∉ (history before).flatMap Effect.leaves ∧ n.id ∉ (Effect.shown n replaced).leaves := by
  have hid : n.id = (shownBy before).length + 1 := by
    have hmem : n ∈ op.shows (course before).shownCount := by
      rw [← adds_shown?, hadds]
      exact List.mem_cons_self
    rw [← shownCount_course]
    exact Operation.id_of_mem_shows hmem
  have hnew : n.id ∉ (shownBy before).map Notification.id := by
    rw [map_id_shownBy, List.mem_range'_1]
    omega
  have hcount := count_shownBy before n.id
  rw [List.count_eq_zero_of_not_mem hnew, Nat.add_eq_zero_iff] at hcount
  obtain ⟨hdisplayed, hleft⟩ := hcount
  refine ⟨List.count_eq_zero.mp hleft, ?_⟩
  -- What the entry itself names is displayed before.
  obtain hnone | ⟨e, he, hleaves⟩ := (course before).adds_cases op
  · rw [hadds] at hnone
    cases hnone
  · rw [hadds] at he
    obtain rfl := List.head_eq_of_cons_eq he
    exact fun hmem => List.count_eq_zero.mp hdisplayed (hleaves hmem)

/-- A notification that was shown is in one place: it is displayed, or one later entry names it as
replaced, or one later entry names it as closed. -/
theorem place_of_history {ops : List Operation} {past future : List Effect} {n : Notification}
    {replaced : Option Nat} (h : history ops = past ++ .shown n replaced :: future) :
    (course ops).scene.ids.count n.id + (future.filterMap Effect.replaced?).count n.id +
      (future.filterMap Effect.closed?).count n.id = 1 ∧
    ∀ e ∈ past ++ [.shown n replaced], n.id ∉ e.leaves := by
  obtain ⟨before, op, rfl, hadds⟩ := exists_of_history h
  obtain ⟨hpast, hself⟩ := not_mem_leaves_of_adds hadds
  have hshown : n.id ∈ (shownBy ops).map Notification.id := by
    refine List.mem_map_of_mem ?_
    rw [← history_shown?, h, List.filterMap_append]
    exact List.mem_append_right _ List.mem_cons_self
  have hone : ((shownBy ops).map Notification.id).count n.id = 1 := by
    refine List.count_eq_one_of_mem ?_ hshown
    rw [map_id_shownBy]
    exact List.nodup_range'
  rw [← count_shownBy, h, List.flatMap_append, List.flatMap_cons, List.count_append,
    List.count_append, List.count_eq_zero_of_not_mem hpast, List.count_eq_zero_of_not_mem hself,
    count_leaves] at hone
  refine ⟨by omega, fun e he => ?_⟩
  rcases List.mem_append.mp he with he | he
  · exact fun hmem => hpast (List.mem_flatMap.mpr ⟨e, he, hmem⟩)
  · rw [List.mem_singleton.mp he]
    exact hself

/-- A notification that was shown has an entry. -/
theorem exists_entry_of_shownBy {ops : List Operation} {n : Notification} (hn : n ∈ shownBy ops) :
    ∃ past replaced future, history ops = past ++ .shown n replaced :: future := by
  rw [← history_shown?, List.mem_filterMap] at hn
  obtain ⟨e, he, hshown⟩ := hn
  cases e with
  | shown m replaced =>
    obtain rfl := Option.some.inj hshown
    obtain ⟨past, future, hsplit⟩ := List.append_of_mem he
    exact ⟨past, replaced, future, hsplit⟩
  | _ => cases hshown

/-! ## What fails -/

/-- A call that fails does nothing. -/
theorem after_of_error (p : Platform) (now : Time.Instant) {c : Call} {failure : Failure}
    (h : p.answer c = .error failure) : p.after now c = p := by
  have hgone {client : Client} (h : p.ifOpen client = .error failure) :
      p.hasWindow client.id = false := by
    unfold ifOpen at h
    split at h
    · cases h
    next hnone => exact Bool.eq_false_iff.mpr hnone
  cases c with
  | post client message =>
    show (if p.hasWindow client.id then _ else p : Platform) = p
    rw [hgone h]
    rfl
  | focus client =>
    show p.focus client.id = p
    have hnone : p.windows.find? (·.id = client.id) = none := by
      rw [← Option.not_isSome_iff_eq_none, List.isSome_find?]
      exact Bool.eq_false_iff.mp (hgone h)
    rw [Platform.focus, hnone]
  | _ => cases h

/-! ## The journal of operations -/

/-- What holds of the journal of operations. -/
structure Journal (ops : List Operation) : Prop where
  /-- The entries of the journal are those that were taken, and those still held. -/
  complete : (journal ops).filterMap Line.entry? = gather taken ops ++ (course ops).effects
  /-- Read from the start, the journal tells what is seen. -/
  faithful : (journal ops).foldl Scene.read .empty = (course ops).scene
  /-- The entries name each notification that was shown, as it was shown, and each has its own
  number. -/
  shown : (gather taken ops ++ (course ops).effects).filterMap Effect.shown? = shownBy ops
  numbered : (shownBy ops).map Notification.id = List.range' 1 (shownBy ops).length
  /-- A notification that was shown is in one place: it is displayed, or one entry behind its own
  names it as replaced, or one entry behind its own names it as closed. -/
  place : ∀ n ∈ shownBy ops,
    (∃ past replaced future,
      gather taken ops ++ (course ops).effects = past ++ .shown n replaced :: future) ∧
    ∀ past replaced future,
      gather taken ops ++ (course ops).effects = past ++ .shown n replaced :: future →
        (course ops).scene.ids.count n.id + (future.filterMap Effect.replaced?).count n.id +
          (future.filterMap Effect.closed?).count n.id = 1 ∧
        ∀ e ∈ past ++ [.shown n replaced], n.id ∉ e.leaves
  /-- A call that fails does nothing, and so does closing what is not displayed. -/
  failed : ∀ now c failure, (course ops).answer c = .error failure →
    (course ops).after now c = course ops
  unknown : ∀ now id, id ∉ (course ops).scene.ids → (course ops).after now (.close id) = course ops

/-- **The record is a complete journal**, whatever operations there are and whenever it is taken. -/
theorem journal_course (ops : List Operation) : Journal ops where
  complete := filterMap_journal ops
  faithful := foldl_journal ops
  shown := history_shown? ops
  numbered := map_id_shownBy ops
  place _ hn := ⟨exists_entry_of_shownBy hn, fun _ _ _ h => place_of_history h⟩
  failed now _ _ h := (course ops).after_of_error now h
  unknown _ id h := (course ops).close_of_forall_ne id fun _ hn hid =>
    h (List.mem_map.mpr ⟨_, hn, hid⟩)

end ServiceWorker.Platform
