import Mathlib.Data.List.Induction
import ServiceWorker.Platform.Basic

/-!
# What happens to a platform

A platform is called, by the worker and by others, windows are opened on it without the worker, and
its record is taken from time to time. All that happens from the empty platform on is a list of such
operations.

## Main definitions

* `Platform.Operation`, `Platform.apply`, `Platform.course`: operations, and the platform after them
* `Platform.gather`: what is told of operations one by one, each in the state that it meets
* `Platform.recorded`, `Platform.taken`, `Platform.history`: what an operation adds to the record,
  what it takes from it, and all that has ever been recorded

## Main results

* `Platform.effects_after`: a call only adds to the record
* `Platform.history_eq_gather`: nothing that is recorded is lost when the record is taken
-/

namespace ServiceWorker.Platform

/-! ## Operations -/

/-- What happens to a platform: it is called at a time, a window is opened without the worker, or
the record is taken. -/
inductive Operation where
  | call (now : Time.Instant) (c : Call)
  | addWindow (url : String)
  | drain
  deriving DecidableEq

/-- The platform after an operation. -/
def apply (p : Platform) : Operation → Platform
  | .call now c => p.after now c
  | .addWindow url => (p.addWindow url).2
  | .drain => p.drain.2

/-- The platform after operations, one after another from the empty one on. -/
def course (ops : List Operation) : Platform :=
  ops.foldl apply empty

theorem course_concat (ops : List Operation) (op : Operation) :
    course (ops ++ [op]) = (course ops).apply op := by
  rw [course, List.foldl_append]
  rfl

section

variable {β : Type} (f : Platform → Operation → List β)

/-- What is told of operations one by one, each in the state that it meets. -/
def gatherFrom (p : Platform) : List Operation → List β
  | [] => []
  | op :: ops => f p op ++ gatherFrom (p.apply op) ops

/-- What is told of operations from the empty platform on. -/
def gather (ops : List Operation) : List β :=
  gatherFrom f empty ops

theorem gatherFrom_concat (p : Platform) (ops : List Operation) (op : Operation) :
    gatherFrom f p (ops ++ [op]) = gatherFrom f p ops ++ f (ops.foldl apply p) op := by
  induction ops generalizing p with
  | nil => exact List.append_nil _
  | cons op' ops ih => rw [List.cons_append, gatherFrom, ih, gatherFrom, List.append_assoc]; rfl

theorem gather_concat (ops : List Operation) (op : Operation) :
    gather f (ops ++ [op]) = gather f ops ++ f (course ops) op :=
  gatherFrom_concat f empty ops op

end

/-! ## What a call does -/

section Parts

variable (p : Platform) (now : Time.Instant) (title : String) (options : Notification.Options)
  (id : Nat)

/-- The notification that a call would show. -/
def next : Notification :=
  ⟨p.shownCount + 1, title, options, now⟩

/-- A notification is shown behind all others; one with the same tag is gone. -/
theorem display_notifications : (p.display now title options).notifications =
    p.notifications.eraseP (·.givesWayTo options) ++ [p.next now title options] := rfl

theorem display_effects : (p.display now title options).effects = p.effects ++
    [.shown (p.next now title options) ((p.replacedBy options).map Notification.id)] := rfl

/-- A notification that is shown is closed, and the closing is recorded. -/
theorem close_of_mem {n : Notification} (hn : n ∈ p.notifications) :
    p.close n.id =
      ({ p with notifications := p.notifications.filter (·.id ≠ n.id) }).record (.closed n.id) :=
  if_pos (List.any_eq_true.mpr ⟨n, hn, decide_eq_true rfl⟩)

/-- Closing one that is not shown does nothing. -/
theorem close_of_forall_ne (h : ∀ n ∈ p.notifications, n.id ≠ id) : p.close id = p := by
  refine if_neg fun hany => ?_
  obtain ⟨n, hn, hid⟩ := List.any_eq_true.mp hany
  exact h n hn (of_decide_eq_true hid)

/-- After closing, no notification has the id, and all others are left. -/
theorem close_notifications : (p.close id).notifications = p.notifications.filter (·.id ≠ id) := by
  by_cases h : ∃ n ∈ p.notifications, n.id = id
  · obtain ⟨n, hn, rfl⟩ := h
    rw [p.close_of_mem hn]
    rfl
  · have hne : ∀ n ∈ p.notifications, n.id ≠ id := fun n hn hid => h ⟨n, hn, hid⟩
    rw [p.close_of_forall_ne id hne, List.filter_eq_self.mpr]
    exact fun n hn => decide_eq_true (hne n hn)

/-- A closing is recorded if there was something to close. -/
theorem close_effects : (p.close id).effects =
    p.effects ++ if p.notifications.any (·.id = id) then [.closed id] else [] := by
  unfold close
  split
  · rfl
  · exact (List.append_nil _).symm

theorem close_badge : (p.close id).badge = p.badge := by
  unfold close
  split <;> rfl

theorem close_windows : (p.close id).windows = p.windows := by
  unfold close
  split <;> rfl

theorem close_shownCount : (p.close id).shownCount = p.shownCount := by
  unfold close
  split <;> rfl

/-- A posting is recorded if there is such a window. -/
theorem post_effects (client : Client) (message : ClickedMessage) :
    (p.after now (.post client message)).effects =
      p.effects ++ if p.hasWindow client.id then [.posted client.id message] else [] := by
  show (if p.hasWindow client.id then _ else p : Platform).effects = _
  split
  · rfl
  · exact (List.append_nil _).symm

/-- So is a focusing. -/
theorem focus_effects (client : Client) :
    (p.after now (.focus client)).effects =
      p.effects ++ if p.hasWindow client.id then [.focused client.id] else [] := by
  show (p.focus client.id).effects = _
  unfold focus hasWindow
  rw [← List.isSome_find?]
  split
  next window hfind => rw [hfind]; rfl
  next hnone => rw [hnone]; exact (List.append_nil _).symm

/-- A call that neither shows nor closes a notification leaves them alone. -/
theorem after_notifications {c : Call} (hdisplay : ∀ title options, c ≠ .display title options)
    (hclose : ∀ id, c ≠ .close id) :
    (p.after now c).notifications = p.notifications ∧
      (p.after now c).shownCount = p.shownCount := by
  cases c with
  | display title options => exact absurd rfl (hdisplay title options)
  | close id => exact absurd rfl (hclose id)
  | post client message =>
    simp only [after]
    split <;> exact ⟨rfl, rfl⟩
  | focus client =>
    simp only [after, focus]
    split <;> exact ⟨rfl, rfl⟩
  | _ => exact ⟨rfl, rfl⟩

end Parts

/-! ## The record -/

/-- What a call adds to the record. -/
def recorded (p : Platform) (now : Time.Instant) (c : Call) : List Effect :=
  (p.after now c).effects.drop p.effects.length

/-- No call takes anything from the record. -/
theorem effects_prefix (p : Platform) (now : Time.Instant) (c : Call) :
    p.effects <+: (p.after now c).effects := by
  cases c with
  | notifications => exact List.prefix_rfl
  | windows => exact List.prefix_rfl
  | close id => exact ⟨_, (p.close_effects id).symm⟩
  | post client message => exact ⟨_, (p.post_effects now client message).symm⟩
  | focus client => exact ⟨_, (p.focus_effects now client).symm⟩
  | _ => exact List.prefix_append _ _

/-- **A call only adds to the record.** -/
theorem effects_after (p : Platform) (now : Time.Instant) (c : Call) :
    (p.after now c).effects = p.effects ++ p.recorded now c := by
  obtain ⟨new, hnew⟩ := p.effects_prefix now c
  rw [recorded, ← hnew, List.drop_left]

/-- What a call adds is what follows on the record before. -/
theorem recorded_eq {p : Platform} {now : Time.Instant} {c : Call} {new : List Effect}
    (h : (p.after now c).effects = p.effects ++ new) : p.recorded now c = new := by
  rw [recorded, h, List.drop_left]

section Entries

variable (p : Platform) (now : Time.Instant)

theorem recorded_notifications : p.recorded now .notifications = [] :=
  recorded_eq (List.append_nil _).symm

theorem recorded_windows : p.recorded now .windows = [] :=
  recorded_eq (List.append_nil _).symm

theorem recorded_display (title : String) (options : Notification.Options) :
    p.recorded now (.display title options) =
      [.shown (p.next now title options) ((p.replacedBy options).map Notification.id)] :=
  recorded_eq (p.display_effects now title options)

theorem recorded_close (id : Nat) :
    p.recorded now (.close id) = if p.notifications.any (·.id = id) then [.closed id] else [] :=
  recorded_eq (p.close_effects id)

theorem recorded_setBadge (count : Nat) : p.recorded now (.setBadge count) = [.badgeSet count] :=
  recorded_eq rfl

theorem recorded_clearBadge : p.recorded now .clearBadge = [.badgeCleared] :=
  recorded_eq rfl

theorem recorded_post (client : Client) (message : ClickedMessage) :
    p.recorded now (.post client message) =
      if p.hasWindow client.id then [.posted client.id message] else [] :=
  recorded_eq (p.post_effects now client message)

theorem recorded_focus (client : Client) :
    p.recorded now (.focus client) = if p.hasWindow client.id then [.focused client.id] else [] :=
  recorded_eq (p.focus_effects now client)

theorem recorded_openWindow (url : String) :
    p.recorded now (.openWindow url) = [.opened (p.openWindow url).1] :=
  recorded_eq rfl

theorem recorded_claim : p.recorded now .claim = [.claimed] :=
  recorded_eq rfl

end Entries

/-- What an operation adds to the record. -/
def adds (p : Platform) : Operation → List Effect
  | .call now c => p.recorded now c
  | _ => []

/-- What an operation takes from the record. -/
def taken (p : Platform) : Operation → List Effect
  | .drain => p.drain.1
  | _ => []

/-- All that has ever been recorded: what has been taken, and what is still there. -/
def history (ops : List Operation) : List Effect :=
  gather taken ops ++ (course ops).effects

/-- **Nothing that is recorded is lost** when the record is taken. -/
theorem history_eq_gather (ops : List Operation) : history ops = gather adds ops := by
  induction ops using List.reverseRecOn with
  | nil => rfl
  | append_singleton ops op ih =>
    rw [gather_concat, ← ih, history, history, gather_concat, course_concat]
    cases op with
    | call now c =>
      show _ ++ [] ++ ((course ops).after now c).effects = _ ++ (course ops).recorded now c
      rw [effects_after, List.append_nil, List.append_assoc]
    | addWindow url => simp [taken, adds, apply, addWindow]
    | drain => simp [taken, adds, apply, drain]

theorem history_nil : history [] = [] := rfl

/-- The last operation adds to the history what it adds to the record. -/
theorem history_concat (ops : List Operation) (op : Operation) :
    history (ops ++ [op]) = history ops ++ (course ops).adds op := by
  rw [history_eq_gather, history_eq_gather, gather_concat]

end ServiceWorker.Platform
