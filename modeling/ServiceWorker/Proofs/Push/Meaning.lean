import Mathlib.Data.List.DropRight
import ServiceWorker.Proofs.Push.Badge
import ServiceWorker.Proofs.Push.Routing
import ServiceWorker.Proofs.Worker.Life

/-!
# What pushes come to

Pushes that are handled one after another leave notifications and a badge that the payloads alone
tell: each payload changes what is to be seen in its own way, and what remains of all of them can be
read off their list.

## Main definitions

* `Push.payloads`, `Push.sinceClear`, `Push.unreplaced`: the payloads of pushes, those after the
  last clearing, and the notifications that no later one replaces
* `Push.Meaning`: what pushes come to

## Main results

* `Push.lookAfter_notices`, `Push.lookAfter_marks`: what remains of payloads
* `Worker.meaning_of_pushes`: what pushes handled one after another come to
-/

namespace ServiceWorker

open Notification (Options)

namespace Push

open Platform (Looks)

/-! ## What remains of payloads -/

/-- The payloads of pushes, but for those that cannot be read and those of no known kind. -/
def payloads (bodies : List (Option Bytes)) : List Payload :=
  (bodies.filterMap decode).filter (·.kind ≠ .unknown)

/-- The notification that a payload asks for. -/
def Payload.notice? (config : Config) (p : Payload) : Option Options :=
  match p.kind with
  | .message => some (p.messageOptions config)
  | .session => some (p.sessionOptions config)
  | _ => none

/-- A payload of these kinds is about the badge. -/
def Payload.marks (p : Payload) : Bool :=
  p.kind = .message ∨ p.kind = .clear ∨ p.kind = .updateBadge

/-- The payloads after the last one that clears. -/
def sinceClear (ps : List Payload) : List Payload :=
  ps.rtakeWhile (·.kind ≠ .clear)

/-- The notifications that no later one replaces. -/
def unreplaced : List Options → List Options
  | [] => []
  | o :: rest => if rest.any (replaces · o) then unreplaced rest else o :: unreplaced rest

theorem unreplaced_concat (os : List Options) (o : Options) :
    unreplaced (os ++ [o]) = (unreplaced os).filter (!replaces o ·) ++ [o] := by
  induction os with
  | nil => rfl
  | cons x os ih =>
    rw [List.cons_append, unreplaced, unreplaced, ih, List.any_append]
    cases os.any (replaces · x) with
    | true => rfl
    | false =>
      cases hlast : replaces o x <;> simp [hlast]

theorem sinceClear_concat (ps : List Payload) (p : Payload) :
    sinceClear (ps ++ [p]) = if p.kind = .clear then [] else sinceClear ps ++ [p] := by
  rw [sinceClear, List.rtakeWhile_concat]
  by_cases h : p.kind = .clear <;> simp [h, sinceClear]

section

variable (w : Worker) (l : Look) (p : Payload)

@[simp] theorem Look.marked_notices (hasBadge : Bool) (count : Option Nat) :
    (l.marked hasBadge count).notices = l.notices := by
  unfold marked
  split <;> rfl

theorem Look.push_notices : (l.push w p).notices =
    if p.kind = .clear then []
    else match p.notice? w.config with
      | some o => l.notices.filter (fun x => !replaces o x.2) ++ [(w.config.productName, o)]
      | none => l.notices := by
  unfold push Payload.notice?
  cases p.kind <;> simp [shown, cleared]

theorem Look.push_marks : (l.push w p).marks =
    l.marks ++ if w.hasBadge && p.marks then [p.badgeCount?] else [] := by
  unfold push Payload.marks marked
  cases p.kind <;> cases w.hasBadge <;> simp [shown, cleared]

theorem Look.push_badge : (l.push w p).badge =
    if w.hasBadge && p.marks then p.badgeCount? else l.badge := by
  unfold push Payload.marks marked
  cases p.kind <;> cases w.hasBadge <;> simp [shown, cleared]

end

variable (w : Worker)

/-- What is to be seen after payloads. -/
def lookAfter (ps : List Payload) : Look :=
  ps.foldl (Look.push w) .empty

theorem lookAfter_concat (ps : List Payload) (p : Payload) :
    lookAfter w (ps ++ [p]) = (lookAfter w ps).push w p :=
  List.foldl_append

/-- **The notifications that remain of payloads**: those asked for since the last clearing that no
later one replaces. -/
theorem lookAfter_notices (ps : List Payload) :
    (lookAfter w ps).notices =
      (unreplaced ((sinceClear ps).filterMap (Payload.notice? w.config))).map
        (w.config.productName, ·) := by
  induction ps using List.reverseRecOn with
  | nil => rfl
  | append_singleton ps p ih =>
    rw [lookAfter_concat, Look.push_notices, sinceClear_concat]
    split
    · rfl
    · rw [ih, List.filterMap_append]
      cases hnotice : p.notice? w.config with
      | none => simp [hnotice]
      | some o =>
        have hone : [p].filterMap (Payload.notice? w.config) = [o] := by simp [hnotice]
        rw [hone, unreplaced_concat, List.map_append]
        exact congrArg (· ++ _) List.filter_map

/-- **The counts that payloads put on the badge**, one after another. -/
theorem lookAfter_marks (ps : List Payload) :
    (lookAfter w ps).marks =
      if w.hasBadge then (ps.filter Payload.marks).map Payload.badgeCount? else [] := by
  induction ps using List.reverseRecOn with
  | nil => cases w.hasBadge <;> rfl
  | append_singleton ps p ih =>
    rw [lookAfter_concat, Look.push_marks, ih, List.filter_append, List.map_append]
    cases w.hasBadge <;> cases hmarks : p.marks <;> simp [hmarks]

/-- The last count is the one on the badge. -/
theorem lookAfter_badge (ps : List Payload) :
    (lookAfter w ps).badge = (lookAfter w ps).marks.getLast?.join := by
  induction ps using List.reverseRecOn with
  | nil => rfl
  | append_singleton ps p ih =>
    rw [lookAfter_concat, Look.push_marks, Look.push_badge]
    cases w.hasBadge && p.marks with
    | false => simpa using ih
    | true => simp

/-- A push that cannot be read changes nothing, and so does one of no known kind. -/
theorem lookAfter_payloads_concat (bodies : List (Option Bytes)) (body : Option Bytes) :
    lookAfter w (payloads (bodies ++ [body])) =
      (decode body).elim (lookAfter w (payloads bodies))
        ((lookAfter w (payloads bodies)).push w) := by
  rw [payloads, List.filterMap_append, List.filter_append, ← payloads]
  cases hdecode : decode body with
  | none => simp [hdecode]
  | some p =>
    have hone : [body].filterMap decode = [p] := by simp [hdecode]
    rw [hone]
    by_cases hkind : p.kind = .unknown
    · simp [hkind, Look.push]
    · rw [List.filter_eq_self.mpr, lookAfter_concat, Option.elim_some]
      exact fun q hq => List.mem_singleton.mp hq ▸ decide_eq_true hkind

/-! ## Counts -/

namespace Badge

theorem clamp_le (n : Int) : clamp n ≤ most := by
  unfold clamp most least
  omega

theorem ofWhole?_le {n m : Int} (h : ofWhole? n = some m) : m ≤ most := by
  unfold ofWhole? at h
  split at h
  next hcount => exact Option.some.inj h ▸ hcount.2
  next =>
    obtain ⟨x, -, rfl⟩ := Option.map_eq_some_iff.mp h
    exact clamp_le _

theorem ofText?_le {text : List Char} {n : Int} (h : ofText? text = some n) : n ≤ most := by
  unfold ofText? at h
  split at h
  split at h
  · cases h
  · obtain rfl := Option.some.inj h
    rw [getD_size?]
    unfold most
    split <;> omega

theorem count?_le {value : Json} {n : Int} (h : count? value = some n) : n ≤ most := by
  unfold count? at h
  split at h
  · exact ofWhole?_le h
  · exact Option.some.inj h ▸ clamp_le _
  · exact ofText?_le h
  · cases h

end Badge

theorem Payload.badgeCount?_eq_some {p : Payload} {n : Nat} :
    p.badgeCount? = some n ↔ 0 < n ∧ p.badge.bind Badge.count? = some (n : Int) := by
  unfold badgeCount?
  cases p.badge.bind Badge.count? with
  | none => simp
  | some k =>
    simp only [Option.some.injEq]
    split <;> simp <;> omega

/-! ## What pushes come to -/

/-- What pushes come to: the notifications that remain of their payloads, and the badge. -/
structure Meaning (w : Worker) (bodies : List (Option Bytes)) (p : Platform) : Prop where
  /-- Displayed are the notifications asked for since the last clearing that no later one
  replaces, each under the name of the product. -/
  notices : p.notifications.map (fun n => (n.title, n.options)) =
    (unreplaced ((sinceClear (payloads bodies)).filterMap (Payload.notice? w.config))).map
      (w.config.productName, ·)
  /-- The badge, if there is one, shows what the last payload that is about it says, if that is a
  count above zero. -/
  badge : ∀ n : Nat, p.badge = some n ↔ w.hasBadge = true ∧ 0 < n ∧
    ∃ q ∈ ((payloads bodies).filter Payload.marks).getLast?,
      q.badge.bind Badge.count? = some (n : Int)
  bounded : ∀ n, p.badge = some n → 0 < n ∧ n ≤ Badge.most
  /-- No payload touches the badge but those that are about it. -/
  marks : p.effects.filterMap Platform.Effect.mark? =
    if w.hasBadge then ((payloads bodies).filter Payload.marks).map Payload.badgeCount? else []

theorem Meaning.of_looks {w : Worker} {bodies : List (Option Bytes)} {p : Platform}
    (h : Looks (lookAfter w (payloads bodies)) p) : Meaning w bodies p := by
  have hbadge : ∀ n : Nat, p.badge = some n ↔ w.hasBadge = true ∧ 0 < n ∧
      ∃ q ∈ ((payloads bodies).filter Payload.marks).getLast?,
        q.badge.bind Badge.count? = some (n : Int) := by
    intro n
    rw [show p.badge = _ from congrArg Look.badge h.eq, lookAfter_badge, lookAfter_marks]
    cases w.hasBadge with
    | false => simp
    | true =>
      rw [if_pos rfl, List.getLast?_map]
      cases ((payloads bodies).filter Payload.marks).getLast? with
      | none => simp
      | some q => simpa using Payload.badgeCount?_eq_some
  refine ⟨(congrArg Look.notices h.eq).trans (lookAfter_notices w _), hbadge, fun n hn => ?_,
    (congrArg Look.marks h.eq).trans (lookAfter_marks w _)⟩
  obtain ⟨-, hpos, q, -, hcount⟩ := (hbadge n).mp hn
  obtain ⟨value, -, hcount⟩ := Option.bind_eq_some_iff.mp hcount
  exact ⟨hpos, Badge.count?_le hcount⟩

end Push

/-! ## One push after another -/

/-- The body of a push. -/
def Event.body? : Event → Option (Option Bytes)
  | .push body => some body
  | _ => none

namespace Worker

open History (InTurn)
open Program (leaves_pure leaves_seq)
open Push (Meaning canEnd_push lookAfter lookAfter_payloads_concat payloads)

theorem filterMap_body? (bodies : List (Option Bytes)) :
    (bodies.map Event.push).filterMap Event.body? = bodies := by
  rw [List.filterMap_map]
  exact List.filterMap_some

/-- **What pushes come to** that are handled one after another on a platform that does as it is
told. -/
theorem meaning_of_pushes (w : Worker) (store : Cache.Store) (bodies : List (Option Bytes)) :
    (∃ h, InTurn w.handle (World.young store .empty) (bodies.map .push) h) ∧
    ∀ h, InTurn w.handle (World.young store .empty) (bodies.map .push) h →
      Meaning w bodies h.world.platform := by
  constructor
  · refine History.exists_inTurn (fun event hevent => ?_) _ Surroundings.reliable_calm
    obtain ⟨body, -, rfl⟩ := List.mem_map.mp hevent
    exact canEnd_push w body
  · intro h hh
    refine .of_looks ?_
    rw [← filterMap_body? bodies]
    refine hh.invariant (P := fun events => Platform.Looks
      (lookAfter w (payloads (events.filterMap Event.body?)))) ⟨.empty, rfl⟩ ?_
    intro past event hevent p hp
    obtain ⟨body, -, rfl⟩ := List.mem_map.mp
      (hevent.subset (List.mem_append_right _ List.mem_cons_self))
    have hbody : (past ++ [Event.push body]).filterMap Event.body? =
        past.filterMap Event.body? ++ [body] := List.filterMap_append
    rw [hbody, lookAfter_payloads_concat]
    exact leaves_seq.mpr ((Push.route_leaves hp w body).mono fun _ _ h => leaves_pure.mpr h)

/-- On the local machine, a message and the end of a session with one tag leave one notification,
and the count of the message on the badge. -/
theorem loopback_pushes :
    let w : Worker := ⟨.ofOrigin .loopback, true⟩
    let bodies := [
      some (Text.utf8 "\x7b\"data\":\x7b\"type\":\"message\",\"ack_id\":\"a\",\"badge\":2\x7d\x7d"),
      none,
      some (Text.utf8 "\x7b\"data\":\x7b\"type\":\"session\",\"ack_id\":\"a\"\x7d\x7d")]
    let notices := w.config.notices
    ∃ h, InTurn w.handle (World.young .empty .empty) (bodies.map .push) h ∧
      h.world.platform.badge = some 2 ∧
      h.world.platform.notifications.map (fun n => (n.title, n.options)) =
        [(w.config.productName,
          ⟨notices.defaultIcon, "a", notices.sessionBody, ⟨notices.loginPath, none, none⟩⟩)] := by
  intro w bodies notices
  obtain ⟨⟨h, hh⟩, hmeaning⟩ := meaning_of_pushes w .empty bodies
  refine ⟨h, hh, ((hmeaning h hh).badge 2).mpr ⟨rfl, by decide, ?_⟩,
    (hmeaning h hh).notices.trans ?_⟩
  · decide +kernel
  · decide +kernel

end Worker

end ServiceWorker
