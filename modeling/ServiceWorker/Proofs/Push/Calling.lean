import ServiceWorker.Proofs.Push.Routing
import ServiceWorker.Proofs.Worker.Sides

/-!
# Which calls a push makes

A push looks at nothing that its calls come to, but for the list of what is displayed. So its calls
are settled by its payload, its worker and this list, and no call that fails cuts them short.

## Main definitions

* `callsOf`, `listedIn`: the calls that deeds have made, and the notifications they have listed
* `Program.callAll`: the program that makes calls one after another, whatever they come to
* `Push.callsFor`: the calls that the body of a push leads to
* `Worker.Persists`: what the handler of a push calls the platform for

## Main results

* `Push.route_keeps_calling`: the program for a push makes these calls and does nothing else
* `Worker.push_persists`: so it is in every story, whatever fails in it
-/

namespace ServiceWorker

open Platform (Call)

/-! ## Calls -/

/-- The call to the platform that a deed has made. -/
def Deed.call? : Deed → Option Call
  | .wait (.platform c) _ => some c
  | _ => none

/-- The notifications that a deed has listed. -/
def Deed.listed : Deed → List Notification
  | .wait (.platform .notifications) (.ok shown) => shown
  | _ => []

/-- The calls to the platform that deeds have made, in order. -/
def callsOf (ds : List Deed) : List Call :=
  ds.filterMap Deed.call?

/-- The notifications that deeds have listed; none if they could not be listed. -/
def listedIn (ds : List Deed) : List Notification :=
  ds.flatMap Deed.listed

variable {past : List Deed} {c : Call}

theorem callsOf_concat (past : List Deed) (reply : Wait.Reply (.platform c)) :
    callsOf (past ++ [.wait (.platform c) reply]) = callsOf past ++ [c] :=
  List.filterMap_append

theorem listedIn_concat (past : List Deed) (hc : c ≠ .notifications)
    (reply : Wait.Reply (.platform c)) :
    listedIn (past ++ [.wait (.platform c) reply]) = listedIn past := by
  have hnone : Deed.listed (.wait (.platform c) reply) = [] := by
    cases c with
    | notifications => exact absurd rfl hc
    | _ => rfl
  rw [listedIn, List.flatMap_append, List.flatMap_singleton, hnone, List.append_nil, listedIn]

/-- Every deed is a call, and the calls so far are the first of those that are wanted for what has
been listed. -/
def Calling (wanted : List Notification → List Call) (past : List Deed) (d : Deed) : Prop :=
  d.call?.isSome = true ∧ callsOf (past ++ [d]) <+: wanted (listedIn (past ++ [d]))

/-- All calls have been made that are wanted for what has been listed. -/
def Called (wanted : List Notification → List Call) (ds : List Deed) : Prop :=
  callsOf ds = wanted (listedIn ds)

namespace Program

variable {wanted : List Notification → List Call} {calls : List Call}

/-- Calls one after another, whatever they come to. -/
def callAll : List Call → Program Unit
  | [] => done ()
  | c :: rest => wait (.platform c) fun _ => callAll rest

theorem callAll_append (calls more : List Call) :
    callAll (calls ++ more) = (callAll calls).bind fun _ => callAll more := by
  induction calls with
  | nil => rfl
  | cons c rest ih => exact congrArg (wait (.platform c)) (funext fun _ => ih)

/-- Calls are made to the last, if none of them lists notifications. -/
theorem callAll_keeps (hquiet : .notifications ∉ calls)
    (hwanted : callsOf past ++ calls = wanted (listedIn past)) :
    (callAll calls).Keeps (Calling wanted) (fun ds _ => Called wanted ds) past := by
  induction calls generalizing past with
  | nil => exact keeps_done.mpr ((List.append_nil _).symm.trans hwanted)
  | cons c rest ih =>
    obtain ⟨hc, hrest⟩ := not_or.mp (mt List.mem_cons.mpr hquiet)
    refine keeps_wait.mpr fun reply _ => ?_
    have hlisted := listedIn_concat past (Ne.symm hc) reply
    have hnext : callsOf (past ++ [.wait (.platform c) reply]) ++ rest =
        wanted (listedIn (past ++ [.wait (.platform c) reply])) := by
      rw [callsOf_concat, hlisted, List.append_assoc]
      exact hwanted
    exact ⟨⟨rfl, hnext ▸ List.prefix_append _ _⟩, ih hrest hnext⟩

end Program

/-! ## The calls of a push -/

namespace Push

open Program (callAll callAll_append callAll_keeps keeps_pure keeps_wait)

namespace Payload

/-- The call for the badge: a count above zero is put on it, and else it is cleared. -/
def badgeCall (p : Payload) : Call :=
  match p.badge.bind Badge.count? with
  | some n => if 0 < n then .setBadge n.toNat else .clearBadge
  | none => .clearBadge

/-- The calls for the badge, if there is one. -/
def badgeCalls (hasBadge : Bool) (p : Payload) : List Call :=
  if hasBadge then [p.badgeCall] else []

/-- The calls that a payload leads to if given notifications are listed. -/
def calls (w : Worker) (p : Payload) (listed : List Notification) : List Call :=
  match p.kind with
  | .message =>
    p.badgeCalls w.hasBadge ++ [.display w.config.productName (p.messageOptions w.config)]
  | .clear => .notifications :: (listed.map fun n => .close n.id) ++ p.badgeCalls w.hasBadge
  | .updateBadge => p.badgeCalls w.hasBadge
  | .session => [.display w.config.productName (p.sessionOptions w.config)]
  | .unknown => []

theorem length_badgeCalls_le (p : Payload) (hasBadge : Bool) :
    (p.badgeCalls hasBadge).length ≤ 1 := by
  unfold badgeCalls
  split <;> simp

theorem eq_of_mem_badgeCalls {p : Payload} {hasBadge : Bool} {c : Call}
    (h : c ∈ p.badgeCalls hasBadge) : c = .clearBadge ∨ ∃ n, c = .setBadge n := by
  unfold badgeCalls badgeCall at h
  split at h
  · obtain rfl := List.mem_singleton.mp h
    repeat' split
    all_goals simp
  · cases h

theorem notifications_not_mem_badgeCalls (p : Payload) (hasBadge : Bool) :
    .notifications ∉ p.badgeCalls hasBadge := by
  intro h
  obtain hclear | ⟨n, hset⟩ := eq_of_mem_badgeCalls h
  · cases hclear
  · cases hset

end Payload

/-- The calls that the body of a push leads to; none if there is nothing to be read in it. -/
def callsFor (w : Worker) (body : Option Bytes) (listed : List Notification) : List Call :=
  (decode body).elim [] fun p => p.calls w listed

theorem updateBadge_eq (hasBadge : Bool) (p : Payload) :
    updateBadge hasBadge p = callAll (p.badgeCalls hasBadge) := by
  unfold updateBadge Payload.badgeCalls Payload.badgeCall Payload.badgeCount?
  cases hasBadge with
  | false => rfl
  | true =>
    simp only [if_true]
    cases p.badge.bind Badge.count? with
    | none => rfl
    | some n => by_cases hn : 0 < n <;> simp only [if_pos, hn] <;> rfl

theorem closeAll_eq (shown : List Notification) :
    closeAll shown = callAll (shown.map fun n => .close n.id) := by
  induction shown with
  | nil => rfl
  | cons n rest ih => exact congrArg (Program.wait (.platform (.close n.id))) (funext fun _ => ih)

/-- A clearing lists what is displayed. All that it does then is settled by what has been
listed. -/
theorem clear_eq (calls : List Call) :
    clear.bind (fun _ => callAll calls) = .wait (.platform .notifications) fun reply =>
      callAll ((reply.toOption.getD []).map (fun n => .close n.id) ++ calls) := by
  refine congrArg (Program.wait (.platform .notifications)) (funext fun reply => ?_)
  cases reply with
  | error failure => rfl
  | ok shown =>
    show (closeAll shown).bind _ = _
    rw [closeAll_eq, ← callAll_append]
    rfl

/-- **The program for a push makes its calls to the last, and does nothing else**, whatever the
calls come to. -/
theorem route_keeps_calling (w : Worker) (body : Option Bytes) :
    (route w.config w.hasBadge body).Keeps (Calling (callsFor w body))
      (fun ds _ => Called (callsFor w body) ds) [] := by
  unfold route
  cases hdecode : decode body with
  | none => exact keeps_pure.mpr (by simp [Called, callsFor, hdecode, callsOf])
  | some p =>
    have hwanted : callsFor w body = p.calls w := by
      funext listed
      rw [callsFor, hdecode, Option.elim_some]
    have hbadge := p.notifications_not_mem_badgeCalls w.hasBadge
    show (routePayload w.config w.hasBadge p).Keeps _ _ []
    rw [hwanted]
    unfold routePayload
    -- But for a clearing, the program is that of its calls.
    cases hkind : p.kind with
    | message =>
      have heq : (updateBadge w.hasBadge p >>= fun _ => discard (Program.platform
          (.display w.config.productName (p.messageOptions w.config)))) =
          callAll (p.calls w []) := by
        rw [updateBadge_eq, Payload.calls, hkind, callAll_append]
        rfl
      refine heq ▸ callAll_keeps ?_ rfl
      simp [Payload.calls, hkind, hbadge]
    | clear =>
      rw [updateBadge_eq]
      show (clear.bind fun _ => callAll _).Keeps _ _ []
      rw [clear_eq, keeps_wait]
      intro reply _
      have hcalls : callsOf [Deed.wait (.platform .notifications) reply] ++
          ((reply.toOption.getD []).map (fun n => .close n.id) ++ p.badgeCalls w.hasBadge) =
            p.calls w (listedIn [Deed.wait (.platform .notifications) reply]) := by
        rw [Payload.calls, hkind]
        cases reply <;> simp [callsOf, Deed.call?, listedIn, Deed.listed, Except.toOption]
      refine ⟨⟨rfl, hcalls ▸ List.prefix_append _ _⟩, callAll_keeps ?_ hcalls⟩
      simp [hbadge]
    | updateBadge =>
      rw [updateBadge_eq]
      refine callAll_keeps hbadge ?_
      rw [Payload.calls, hkind]
      rfl
    | session =>
      have heq : discard (Program.platform
          (.display w.config.productName (p.sessionOptions w.config))) =
          callAll (p.calls w []) := by
        rw [Payload.calls, hkind]
        rfl
      refine heq ▸ callAll_keeps ?_ rfl
      simp [Payload.calls, hkind]
    | unknown =>
      refine keeps_pure.mpr ?_
      rw [Called, Payload.calls, hkind]
      rfl

end Push

/-! ## What a push persists in -/

namespace Worker

variable {w : Worker} {body : Option Bytes} {ds : List Deed}
  {q : Program (Except Failure Outcome)}

/-- The handler of a push has come to a program by some deeds, and nothing has cut it short. -/
structure Persists (w : Worker) (body : Option Bytes) (ds : List Deed)
    (q : Program (Except Failure Outcome)) : Prop where
  /-- It has done nothing but to call the platform, -/
  only : ∀ d ∈ ds, d.call?.isSome = true
  /-- and has made the first of the calls that its body leads to. -/
  first : callsOf ds <+: Push.callsFor w body (listedIn ds)
  /-- Either it has ended, and then nothing has failed and it has made all of them, -/
  goes : (q = .done (.ok .done) ∧ callsOf ds = Push.callsFor w body (listedIn ds)) ∨
    -- or it waits for the platform, and what it calls for is the next of them.
    ∃ c next, q = .wait (.platform c) next ∧
      callsOf ds ++ [c] <+: Push.callsFor w body (listedIn ds)

theorem handle_keeps_calling (w : Worker) (body : Option Bytes) :
    (w.handle (.push body)).Keeps (Calling (Push.callsFor w body))
      (fun ds result => result = .ok .done ∧ Called (Push.callsFor w body) ds) [] := by
  rw [handle, Program.keeps_seq]
  exact (Push.route_keeps_calling w body).mono (fun _ _ h => h) fun _ _ h =>
    Program.keeps_pure.mpr ⟨rfl, h⟩

/-- The next call comes after all that have been made, whatever it comes to. -/
theorem callsOf_prefix_of_calling {c : Call} {wanted : List Notification → List Call}
    (h : ∀ reply, Calling wanted ds (.wait (.platform c) reply)) :
    callsOf ds ++ [c] <+: wanted (listedIn ds) := by
  have hreply := (h (.error .unavailable)).2
  have hlisted : listedIn (ds ++ [.wait (.platform c) (.error .unavailable)]) = listedIn ds := by
    rw [listedIn, List.flatMap_append]
    cases c <;> exact List.append_nil _
  rwa [callsOf_concat, hlisted] at hreply

theorem persists_of_path (hpath : (w.handle (.push body)).Path ds q) : w.Persists body ds q := by
  have hkeeps : q.Keeps (Calling (Push.callsFor w body))
      (fun ds result => result = .ok .done ∧ Called (Push.callsFor w body) ds) ds := by
    simpa using hpath.keeps (w.handle_keeps_calling body)
  have hone : q.OneAtATime := hpath.oneAtATime (Push.canEnd_push w body).1
  have only : ∀ d ∈ ds, d.call?.isSome = true := by
    intro d hd
    obtain ⟨past, future, rfl⟩ := List.append_of_mem hd
    exact (hpath.allowed (w.handle_keeps_calling body)).1
  cases q with
  | done result =>
    obtain ⟨rfl, hcalled⟩ := Program.keeps_done.mp hkeeps
    exact ⟨only, hcalled ▸ List.prefix_rfl, .inl ⟨rfl, hcalled⟩⟩
  | act a next =>
    have hcall := (Program.keeps_act.mp hkeeps ((World.fresh .empty).act .calm a).1).1.1
    cases hcall
  | wait t next =>
    cases t with
    | answer tickets =>
      obtain ⟨ticket, rfl⟩ := (Program.oneAtATime_wait.mp hone).1 tickets rfl
      have hcall := (Program.keeps_wait.mp hkeeps (ticket, .ok default)
        (List.mem_singleton_self _)).1.1
      cases hcall
    | platform c =>
      have hnext := callsOf_prefix_of_calling fun reply =>
        (Program.keeps_wait.mp hkeeps reply trivial).1
      exact ⟨only, (List.prefix_append _ _).trans hnext, .inr ⟨c, next, rfl, hnext⟩⟩

section Story

variable {start : World} {xs : List (Moment Event)} {i : Nat}
  (hpush : (w.story start xs).causes[i]? = some (.push body))
include hpush

theorem exists_persists : ∃ q, (w.story start xs).task? i = some q ∧
    w.Persists body ((w.story start xs).deeds i) q := by
  have hproper : (w.story start xs).Proper w.handle := (History.proper_fresh w.handle start).pass xs
  obtain ⟨q, hq⟩ := hproper.exists_task hpush
  exact ⟨q, hq, persists_of_path (hproper.path i _ q hpush hq)⟩

/-- When the handler of a push has ended, it has made all its calls. -/
theorem calls_of_result {result : Except Failure Outcome}
    (hresult : (w.story start xs).result? i = some result) :
    callsOf ((w.story start xs).deeds i) =
      Push.callsFor w body (listedIn ((w.story start xs).deeds i)) := by
  obtain ⟨q, hq, hpersists⟩ := exists_persists hpush
  rw [History.task_of_result hresult] at hq
  obtain rfl := Option.some.inj hq
  obtain ⟨-, hall⟩ | ⟨c, next, hwaits, -⟩ := hpersists.goes
  · exact hall
  · cases hwaits

/-- In every story the handler of a push can come to its end by itself. -/
theorem push_can_end (envs : Nat → Surroundings) :
    ∃ turns : List (Turn Event), (∀ x ∈ turns, x.concerns i) ∧
      ((w.story start xs).run w.handle (Turns.under envs turns)).result? i = some (.ok .done) := by
  have hproper : (w.story start xs).Proper w.handle := (History.proper_fresh w.handle start).pass xs
  obtain ⟨q, -, hpersists⟩ := exists_persists hpush
  obtain ⟨hone, rule, goal, hkeeps, hrule⟩ := Push.canEnd_push w body
  -- A push sends no requests, so there is none that could be missing.
  have hsent : Program.SentBy ((w.story start xs).deeds i) (w.story start xs).world :=
    fun r ticket hsend => nomatch hpersists.only _ hsend
  obtain ⟨turns, hturns, result, hresult⟩ :=
    hproper.can_end_of_sent hsent hpush hkeeps hone hrule envs
  obtain ⟨rfl, -⟩ := (hproper.run _).reaches (History.cause_run w.handle hpush _) hresult
    (w.handle_keeps_calling body)
  exact ⟨turns, hturns, hresult⟩

end Story

/-- **No failure cuts a push short.** Whatever the platform replies to it, its handler makes the
calls that its body leads to for what has been listed; and in every story it can come to its end by
itself, whatever else happens and whichever calls fail. -/
theorem push_persists (w : Worker) (body : Option Bytes) :
    (∀ ds q, (w.handle (.push body)).Path ds q → w.Persists body ds q) ∧
      ∀ start xs i, (w.story start xs).causes[i]? = some (.push body) →
        (∃ q, (w.story start xs).task? i = some q ∧
          w.Persists body ((w.story start xs).deeds i) q) ∧
        ∀ envs, ∃ turns : List (Turn Event), (∀ x ∈ turns, x.concerns i) ∧
          ((w.story start xs).run w.handle (Turns.under envs turns)).result? i =
            some (.ok .done) :=
  ⟨fun _ _ => persists_of_path, fun _ _ _ hpush => ⟨exists_persists hpush, push_can_end hpush⟩⟩

/-- On a platform that lists what is displayed and does nothing else, a clearing tries to close both
notifications and to clear the badge. -/
theorem loopback_persists :
    let w : Worker := ⟨.ofOrigin .loopback, true⟩
    let body := some (Text.utf8 "\x7b\"data\":\x7b\"type\":\"clear\",\"badge\":0\x7d\x7d")
    let options : Notification.Options := ⟨"", "", "", ⟨"/", none, none⟩⟩
    let shown := (Platform.empty.display ⟨0, 0⟩ "a" options).display ⟨0, 0⟩ "b" options
    let env := { Surroundings.calm with platformFails := fun _ c => c ≠ .notifications }
    let xs : List (Moment Event) :=
      [.arrive (.push body), .wake 0 0, .wake 0 0, .wake 0 0, .wake 0 0].map (.turn env)
    let h := w.story (World.young .empty shown) xs
    callsOf (h.deeds 0) = [.notifications, .close 1, .close 2, .clearBadge] ∧
      h.world.platform = shown ∧
      ∃ q, h.task? 0 = some q ∧ w.Persists body (h.deeds 0) q := by
  intro w body options shown env xs h
  have hpush : h.causes[0]? = some (.push body) := rfl
  exact ⟨by decide +kernel, by decide +kernel, ((push_persists w body).2 _ xs 0 hpush).1⟩

end Worker

end ServiceWorker
