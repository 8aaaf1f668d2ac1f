import ServiceWorker.Proofs.History.InTurn
import ServiceWorker.Proofs.Platform.Tray
import ServiceWorker.Proofs.Worker.Handlers

/-!
# What the program for a push leaves

Of all that a platform holds, a push changes the notifications that are displayed and the badge. A
platform that a push has to itself looks in the end as the payload asks for.

## Main definitions

* `Push.Look`, `Platform.look`: what pushes change of a platform
* `Push.Look.push`: what is to be seen after one more payload
* `Platform.Looks`: a platform in order that looks as it should

## Main results

* `Push.route_leaves`: the program for a push does what its payload asks for
* `Push.canEnd_push`: the program for a push can end
-/

namespace ServiceWorker

open Notification (Options)

/-! ## What pushes change -/

namespace Push

/-- Whether a notification takes the place of one that was shown before. -/
def replaces (later options : Options) : Bool :=
  later.tag ≠ "" ∧ options.tag = later.tag

/-- What pushes change of a platform: the titles and options of the notifications that are
displayed, the badge, and the counts that have been put on it. -/
@[ext] structure Look where
  notices : List (String × Options)
  badge : Option Nat
  marks : List (Option Nat)

namespace Look

/-- Nothing to be seen. -/
def empty : Look := ⟨[], none, []⟩

/-- One more notification, which replaces others with its tag. -/
def shown (l : Look) (title : String) (options : Options) : Look :=
  { l with
    notices := l.notices.filter (fun x => !replaces options x.2) ++ [(title, options)] }

/-- No notification any more. -/
def cleared (l : Look) : Look :=
  { l with notices := [] }

/-- Another count on the badge, if there is one, or none on it. -/
def marked (l : Look) (hasBadge : Bool) (count : Option Nat) : Look :=
  if hasBadge then { l with badge := count, marks := l.marks ++ [count] } else l

/-- What is to be seen after one more payload. -/
def push (w : Worker) (l : Look) (p : Payload) : Look :=
  match p.kind with
  | .message =>
    (l.marked w.hasBadge p.badgeCount?).shown w.config.productName (p.messageOptions w.config)
  | .clear => l.cleared.marked w.hasBadge p.badgeCount?
  | .updateBadge => l.marked w.hasBadge p.badgeCount?
  | .session => l.shown w.config.productName (p.sessionOptions w.config)
  | .unknown => l

end Look

end Push

namespace Platform

open Push (Look)

/-- The count that is put on the badge according to an entry of the record. -/
def Effect.mark? : Effect → Option (Option Nat)
  | .badgeSet count => some (some count)
  | .badgeCleared => some none
  | _ => none

/-- What pushes change of a platform. -/
def look (p : Platform) : Look :=
  ⟨p.notifications.map fun n => (n.title, n.options), p.badge, p.effects.filterMap Effect.mark?⟩

/-- A platform with its notifications in order looks as it should. -/
structure Looks (l : Look) (p : Platform) : Prop where
  tidy : Tidy p
  eq : p.look = l

theorem marks_after (p : Platform) (now : Time.Instant) (c : Call) :
    (p.after now c).look.marks = p.look.marks ++ (p.recorded now c).filterMap Effect.mark? := by
  rw [look, effects_after, List.filterMap_append, look]

namespace Looks

variable {l : Look} {p : Platform} (h : Looks l p) (now : Time.Instant)
include h

theorem display (title : String) (options : Options) :
    Looks (l.shown title options) (p.after now (.display title options)) where
  tidy := h.tidy.apply (.call now (.display title options))
  eq := by
    have hn : (p.after now (.display title options)).notifications = _ :=
      h.tidy.notifications_apply (.call now (.display title options))
    obtain ⟨-, rfl⟩ := h
    have hnotices : (p.after now (.display title options)).look.notices =
        (p.look.shown title options).notices := by
      rw [Platform.look, hn, List.map_append, Look.shown, Platform.look, List.filter_map]
      rfl
    refine Look.ext hnotices rfl ?_
    rw [marks_after, recorded_display]
    exact List.append_nil _

theorem close (id : Nat) : Looks
    { l with notices := (p.notifications.filter (·.id ≠ id)).map fun n => (n.title, n.options) }
    (p.after now (.close id)) where
  tidy := h.tidy.apply (.call now (.close id))
  eq := by
    obtain ⟨-, rfl⟩ := h
    refine Look.ext ?_ (p.close_badge id) ?_
    · exact congrArg (List.map _) (p.close_notifications id)
    · rw [marks_after, recorded_close]
      split <;> exact List.append_nil _

theorem setBadge (count : Nat) :
    Looks (l.marked true (some count)) (p.after now (.setBadge count)) where
  tidy := h.tidy.apply (.call now (.setBadge count))
  eq := by
    obtain ⟨-, rfl⟩ := h
    refine Look.ext rfl rfl ?_
    rw [marks_after, recorded_setBadge]
    rfl

theorem clearBadge : Looks (l.marked true none) (p.after now .clearBadge) where
  tidy := h.tidy.apply (.call now .clearBadge)
  eq := by
    obtain ⟨-, rfl⟩ := h
    refine Look.ext rfl rfl ?_
    rw [marks_after, recorded_clearBadge]
    rfl

end Looks

end Platform

/-! ## What the program for a push leaves -/

namespace Push

open Platform (Looks)
open Program (leaves_seq leaves_pure leaves_discard leaves_call)

variable {l : Look} {p : Platform}

theorem display_leaves (h : Looks l p) (title : String) (options : Options) :
    (discard (Program.platform (.display title options))).Leaves
      (fun _ => Looks (l.shown title options)) p := by
  rw [leaves_discard, leaves_call]
  exact fun now => h.display now title options

theorem updateBadge_leaves (h : Looks l p) (hasBadge : Bool) (q : Payload) :
    (updateBadge hasBadge q).Leaves (fun _ => Looks (l.marked hasBadge q.badgeCount?)) p := by
  unfold updateBadge
  cases hasBadge with
  | false => exact leaves_pure.mpr h
  | true =>
    rw [if_pos rfl]
    cases q.badgeCount? with
    | none =>
      rw [leaves_discard, leaves_call]
      exact fun now => h.clearBadge now
    | some count =>
      rw [leaves_discard, leaves_call]
      exact fun now => h.setBadge now count

/-- Of the notifications that are closed one after another none is left. -/
theorem closeAll_leaves (h : Looks l p) {shown : List Notification}
    (hshown : ∀ n ∈ p.notifications, n ∈ shown) :
    (closeAll shown).Leaves (fun _ => Looks l.cleared) p := by
  induction shown generalizing l p with
  | nil =>
    obtain ⟨htidy, rfl⟩ := h
    refine leaves_pure.mpr ⟨htidy, ?_⟩
    have hnone : p.notifications = [] :=
      List.eq_nil_iff_forall_not_mem.mpr fun n hn => List.not_mem_nil (hshown n hn)
    rw [Platform.look, hnone]
    rfl
  | cons m shown ih =>
    rw [closeAll, leaves_seq, leaves_discard, leaves_call]
    intro now
    have hrest := ih (h.close now m.id) fun n hn => ?_
    · exact hrest
    rw [show (p.after now (.close m.id)).notifications = _ from p.close_notifications m.id,
      List.mem_filter] at hn
    obtain ⟨hmem, hne⟩ := hn
    rcases List.mem_cons.mp (hshown n hmem) with rfl | htail
    · exact absurd rfl (of_decide_eq_true hne)
    · exact htail

theorem clear_leaves (h : Looks l p) : clear.Leaves (fun _ => Looks l.cleared) p := by
  rw [clear, leaves_seq, leaves_call]
  exact fun now => closeAll_leaves h fun n hn => hn

/-- **The program for a push does what its payload asks for.** -/
theorem route_leaves (h : Looks l p) (w : Worker) (body : Option Bytes) :
    (route w.config w.hasBadge body).Leaves
      (fun _ => Looks ((decode body).elim l (l.push w))) p := by
  unfold route
  cases decode body with
  | none => exact leaves_pure.mpr h
  | some q =>
    show (routePayload w.config w.hasBadge q).Leaves (fun _ => Looks (l.push w q)) p
    unfold routePayload Look.push
    cases q.kind with
    | message =>
      rw [leaves_seq]
      exact (updateBadge_leaves h w.hasBadge q).mono fun _ _ h => display_leaves h _ _
    | clear =>
      rw [leaves_seq]
      exact (clear_leaves h).mono fun _ _ h => updateBadge_leaves h w.hasBadge q
    | updateBadge => exact updateBadge_leaves h w.hasBadge q
    | session => exact display_leaves h _ _
    | unknown => exact leaves_pure.mpr h

/-! ## It can end -/

open Program (OneAtATime oneAtATime_wait oneAtATime_done)

theorem oneAtATime_call (call : Platform.Call) :
    (discard (Program.platform call)).OneAtATime :=
  oneAtATime_wait.mpr ⟨nofun, fun _ => oneAtATime_done⟩

theorem oneAtATime_updateBadge (hasBadge : Bool) (q : Payload) :
    (updateBadge hasBadge q).OneAtATime := by
  unfold updateBadge
  split
  · split <;> exact oneAtATime_call _
  · exact oneAtATime_done

theorem oneAtATime_closeAll (shown : List Notification) : (closeAll shown).OneAtATime := by
  induction shown with
  | nil => exact oneAtATime_done
  | cons n rest ih => exact (oneAtATime_call _).bind fun _ => ih

theorem oneAtATime_clear : clear.OneAtATime := by
  refine oneAtATime_wait.mpr ⟨nofun, fun reply => ?_⟩
  cases reply with
  | ok shown => exact oneAtATime_closeAll shown
  | error e => exact oneAtATime_done

theorem oneAtATime_route (config : Config) (hasBadge : Bool) (body : Option Bytes) :
    (route config hasBadge body).OneAtATime := by
  unfold route
  split
  next q _ =>
    unfold routePayload
    split
    · exact (oneAtATime_updateBadge hasBadge q).bind fun _ => oneAtATime_call _
    · exact oneAtATime_clear.bind fun _ => oneAtATime_updateBadge hasBadge q
    · exact oneAtATime_updateBadge hasBadge q
    · exact oneAtATime_call _
    · exact oneAtATime_done
  next => exact oneAtATime_done

/-- The program for a push can end. -/
theorem canEnd_push (w : Worker) (body : Option Bytes) : (w.handle (.push body)).CanEnd := by
  refine ⟨(oneAtATime_route _ _ body).bind fun _ => oneAtATime_done, _, _,
    w.handle_keeps (.push body), ?_⟩
  rintro past ticket reply ⟨call, reply', hdeed, -⟩
  cases hdeed

end Push

end ServiceWorker
