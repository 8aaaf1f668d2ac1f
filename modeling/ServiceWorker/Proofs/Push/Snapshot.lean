import ServiceWorker.Proofs.Lists
import ServiceWorker.Proofs.Push.Calling

/-!
# What a clearing closes

A clearing lists what is displayed and then closes one after another, while others show, replace and
close notifications. As no number is given twice, what has been shown since can neither be closed by
it nor be taken for what it has closed.

## Main definitions

* `Surroundings.Unfailing`: no call to the platform fails
* `Platform.Since`: what is left of what was displayed, and what has been shown since
* `Entry.Lists`: a task lists what is displayed
* `Worker.Clears`: what a clearing does from that moment on

## Main results

* `Platform.Since.apply`, `Platform.Since.call`: what is left, whatever happens to the platform
* `Worker.clear_closes_snapshot`: so it is in every story in which no call fails
-/

namespace ServiceWorker

open Platform (Call Operation Tidy)

/-- No call to the platform fails. -/
def Surroundings.Unfailing (env : Surroundings) : Prop :=
  ∀ count call, env.platformFails count call = false

/-! ## What is left of what was displayed -/

namespace Platform

/-- What is displayed has been shown since, or it was displayed before and has not been closed by
calls. -/
structure Since (before : Platform) (calls : List Call) (p : Platform) : Prop where
  counted : ∀ n ∈ before.notifications, n.id ≤ before.shownCount
  later : before.shownCount ≤ p.shownCount
  left : ∀ n ∈ p.notifications, before.shownCount < n.id ∨
    n ∈ before.notifications ∧ .close n.id ∉ calls

namespace Since

variable {before p : Platform} {calls : List Call}

theorem start (htidy : Tidy before) : Since before [] before :=
  ⟨htidy.counted, Nat.le_refl _, fun _ hn => .inr ⟨hn, List.not_mem_nil⟩⟩

/-- Whatever happens to the platform leaves no more of it. -/
theorem apply (h : Since before calls p) (htidy : Tidy p) (op : Operation) :
    Since before calls (p.apply op) := by
  refine ⟨h.counted, ?_, fun n hn => ?_⟩
  · rw [Platform.shownCount_apply]
    exact Nat.le_add_right_of_le h.later
  · rw [htidy.notifications_apply, List.mem_append] at hn
    rcases hn with hkept | hnew
    · exact h.left n (List.mem_filter.mp hkept).1
    · rw [Operation.id_of_mem_shows hnew]
      exact .inl (Nat.lt_succ_of_le h.later)

/-- What the calls close is gone. -/
theorem call (h : Since before calls p) (htidy : Tidy p) (now : Time.Instant) (c : Call) :
    Since before (calls ++ [c]) (p.after now c) := by
  have hafter : Since before calls (p.after now c) := h.apply htidy (.call now c)
  refine ⟨h.counted, hafter.later, fun n hn => (hafter.left n hn).imp_right ?_⟩
  rintro ⟨hold, hopen⟩
  refine ⟨hold, ?_⟩
  rw [List.mem_append, List.mem_singleton, not_or]
  refine ⟨hopen, ?_⟩
  rintro rfl
  have hclosed : n ∈ (p.close n.id).notifications := hn
  rw [Platform.close_notifications] at hclosed
  exact absurd rfl (of_decide_eq_true (List.mem_filter.mp hclosed).2)

end Since

end Platform

/-! ## Calls of a task -/

/-- A task lists what is displayed. -/
def Entry.Lists (i : Nat) (e : Entry) : Prop :=
  e.task = i ∧ e.deed.call? = some .notifications

theorem Deed.call?_eq_some {d : Deed} {c : Call} (h : d.call? = some c) :
    ∃ reply, d = .wait (.platform c) reply := by
  cases d with
  | act a reply => cases h
  | wait t reply =>
    cases t with
    | answer tickets => cases h
    | platform call =>
      obtain rfl := Option.some.inj h
      exact ⟨reply, rfl⟩

namespace Entry

variable {e : Entry} {c : Call}

/-- What is no call leaves the platform alone. -/
theorem Happens.platform_of_no_call (h : e.Happens) (hcall : e.deed.call? = none) :
    e.after.platform = e.before.platform := by
  have hplatform := h.onPlatform
  unfold Deed.OnPlatform at hplatform
  split at hplatform
  next c reply hdeed =>
    rw [hdeed] at hcall
    cases hcall
  next => exact hplatform

/-- A call that cannot fail does what it is for. -/
theorem Under.platform_of_call (h : e.Under Surroundings.Unfailing)
    (hcall : e.deed.call? = some c) : ∃ env : Surroundings,
      e.after.platform = e.before.platform.after env.now c ∧
      e.deed = .wait (.platform c) (World.platformAnswer env e.before.platform c) := by
  obtain ⟨reply, hdeed⟩ := Deed.call?_eq_some hcall
  obtain ⟨env, henv, ⟨hfails, -⟩ | ⟨-, rfl, hafter, -⟩⟩ := effects_of_call h hdeed
  · rw [henv] at hfails
    cases hfails
  · exact ⟨env, hafter, hdeed⟩

/-- What a call neither closes nor replaces stays. -/
theorem Under.stays (h : e.Under Surroundings.Unfailing) {n : Notification}
    (hn : n ∈ e.before.platform.notifications) (hclose : e.deed.call? ≠ some (.close n.id))
    (hdisplay : ∀ title options, e.deed.call? ≠ some (.display title options)) :
    n ∈ e.after.platform.notifications := by
  cases hcall : e.deed.call? with
  | none =>
    obtain ⟨env, -, happens⟩ := h
    rwa [Happens.platform_of_no_call ⟨env, happens⟩ hcall]
  | some c =>
    obtain ⟨env, hafter, -⟩ := h.platform_of_call hcall
    rw [hcall] at hclose hdisplay
    rw [hafter]
    cases c with
    | close id =>
      have hne : n.id ≠ id := fun hid => hclose (hid ▸ rfl)
      show n ∈ (e.before.platform.close id).notifications
      rw [Platform.close_notifications]
      exact List.mem_filter.mpr ⟨hn, decide_eq_true hne⟩
    | display title options => exact absurd rfl (hdisplay title options)
    | _ => rwa [(e.before.platform.after_notifications env.now (by simp) (by simp)).1]

end Entry

section Calls

variable {i : Nat} {e : Entry}

theorem callsOf_append (ds more : List Deed) : callsOf (ds ++ more) = callsOf ds ++ callsOf more :=
  List.filterMap_append

theorem callsOf_deedsOf_concat (i : Nat) (past : List Entry) (e : Entry) :
    callsOf (deedsOf i (past ++ [e])) =
      callsOf (deedsOf i past) ++ if e.task = i then e.deed.call?.toList else [] := by
  rw [deedsOf_append, callsOf_append]
  congr 1
  by_cases htask : e.task = i
  · rw [if_pos htask, ← htask, deedsOf_cons_self]
    cases hcall : e.deed.call? <;> simp [callsOf, deedsOf, hcall]
  · rw [if_neg htask, deedsOf, List.filter_eq_nil_iff.mpr (by simpa using htask)]
    rfl

theorem listedIn_eq_nil {ds : List Deed} (h : .notifications ∉ callsOf ds) : listedIn ds = [] := by
  refine List.flatMap_eq_nil_iff.mpr fun d hd => ?_
  cases d with
  | act a reply => rfl
  | wait t reply =>
    cases t with
    | answer tickets => rfl
    | platform c =>
      cases c with
      | notifications =>
        have hmem : Call.notifications ∈ callsOf ds := List.mem_filterMap.mpr ⟨_, hd, rfl⟩
        exact absurd hmem h
      | _ => rfl

/-- A call of a task parts its calls in two. -/
theorem callsOf_deedsOf_split {i : Nat} {past future : List Entry} {e : Entry} {c : Call}
    (htask : e.task = i) (hcall : e.deed.call? = some c) :
    callsOf (deedsOf i (past ++ e :: future)) =
      callsOf (deedsOf i past) ++ c :: callsOf (deedsOf i future) := by
  rw [deedsOf_append, callsOf_append, ← htask, deedsOf_cons_self]
  simp [callsOf, hcall]

end Calls

/-! ## Clearings -/

namespace Worker

variable {w : Worker} {start : World} {xs : List (Moment Event)} {i : Nat} {body : Option Bytes}
  {p : Push.Payload}

/-- What a clearing does from the moment on at which it lists what is displayed. -/
structure Clears (w : Worker) (h : Life) (i : Nat) (p : Push.Payload) (e : Entry) : Prop where
  /-- It is told of all that is displayed then. -/
  told : e.deed = .wait (.platform .notifications) (.ok e.before.platform.notifications)
  /-- All that it does, one after another, is to list these, to close each, and to see to the
  badge. -/
  calls : callsOf (h.deeds i) <+: .notifications ::
    (e.before.platform.notifications.map fun n => .close n.id) ++ p.badgeCalls w.hasBadge
  /-- So it closes none but these, -/
  closes : ∀ id, .close id ∈ callsOf (h.deeds i) → ∃ n ∈ e.before.platform.notifications, n.id = id
  /-- and nothing that has been shown since leaves by what it does. -/
  spares : ∀ f ∈ h.log, f.task = i → ∀ n ∈ f.before.platform.notifications,
    e.before.platform.shownCount < n.id → n ∈ f.after.platform.notifications
  /-- Once it has ended none of these is displayed, and all that is has been shown since. -/
  gone : ∀ result, h.result? i = some result → ∀ n ∈ h.world.platform.notifications,
    e.before.platform.shownCount < n.id ∧ ∀ m ∈ e.before.platform.notifications, m.id ≠ n.id
  /-- When it sees to the badge it has closed all of them, and then it does nothing more. -/
  badge : ∀ past f future c, h.log = past ++ f :: future → f.task = i → f.deed.call? = some c →
    c ∈ p.badgeCalls w.hasBadge → callsOf (deedsOf i future) = [] ∧
      callsOf (deedsOf i past) =
        .notifications :: e.before.platform.notifications.map fun n => .close n.id

theorem callsFor_of_clear (hbody : Push.decode body = some p) (hkind : p.kind = .clear)
    (listed : List Notification) : Push.callsFor w body listed =
      .notifications :: (listed.map fun n => .close n.id) ++ p.badgeCalls w.hasBadge := by
  rw [Push.callsFor, hbody, Option.elim_some, Push.Payload.calls, hkind]

section Clearing

variable {listed : List Notification} {c : Call}

theorem notifications_not_mem_closings : .notifications ∉
    (listed.map fun n => Call.close n.id) ++ p.badgeCalls w.hasBadge := by
  rw [List.mem_append, not_or]
  exact ⟨by simp, p.notifications_not_mem_badgeCalls w.hasBadge⟩

/-- All calls of a clearing are to list, to close what has been listed, or for the badge. -/
theorem mem_clearing_cases (hc : c ∈ .notifications ::
    (listed.map fun n => Call.close n.id) ++ p.badgeCalls w.hasBadge) :
    c = .notifications ∨ (∃ n ∈ listed, c = .close n.id) ∨ c = .clearBadge ∨
      ∃ n, c = .setBadge n := by
  rcases List.mem_append.mp hc with hc | hc
  · rcases List.mem_cons.mp hc with hc | hc
    · exact .inl hc
    · obtain ⟨n, hn, rfl⟩ := List.mem_map.mp hc
      exact .inr (.inl ⟨n, hn, rfl⟩)
  · exact .inr (.inr (Push.Payload.eq_of_mem_badgeCalls hc))

theorem exists_of_close_mem {id : Nat} (hc : .close id ∈ .notifications ::
    (listed.map fun n => Call.close n.id) ++ p.badgeCalls w.hasBadge) :
    ∃ n ∈ listed, n.id = id := by
  obtain hc | ⟨n, hn, hc⟩ | hc | ⟨n, hc⟩ := mem_clearing_cases hc
  · cases hc
  · exact ⟨n, hn, (Call.close.inj hc).symm⟩
  · cases hc
  · cases hc

end Clearing

/-- What is left of all that a task has listed, in a story in which it lists before all else. -/
theorem since_of_story (htidy : Tidy start.platform)
    (hxs : ∀ x ∈ xs, x.In Surroundings.Unfailing)
    (hfirst : ∀ past e, past ++ [e] <+: (w.story start xs).log → e.Lists i →
      callsOf (deedsOf i past) = []) :
    Tidy (w.story start xs).world.platform ∧ ∀ e ∈ (w.story start xs).log, e.Lists i →
      Platform.Since e.before.platform (callsOf ((w.story start xs).deeds i))
        (w.story start xs).world.platform := by
  refine History.pass_induct (P := fun past world => Tidy world.platform ∧ ∀ e ∈ past,
    e.Lists i → Platform.Since e.before.platform (callsOf (deedsOf i past)) world.platform)
    hxs ⟨htidy, fun _ he => absurd he List.not_mem_nil⟩ ?deed ?outside
  case outside =>
    exact fun past world op ⟨htidy, hsince⟩ =>
      ⟨htidy.apply op, fun e he hlists => (hsince e he hlists).apply htidy op⟩
  case deed =>
    rintro past f hpast hunder ⟨htidy, hsince⟩
    rw [callsOf_deedsOf_concat]
    cases hcall : f.deed.call? with
    | none =>
      obtain ⟨env, -, happens⟩ := hunder
      have hsame := Entry.Happens.platform_of_no_call ⟨env, happens⟩ hcall
      rw [hsame, Option.toList_none, ite_self, List.append_nil]
      refine ⟨htidy, fun e he hlists => ?_⟩
      rcases List.mem_append.mp he with he | he
      · exact hsince e he hlists
      · rw [← List.mem_singleton.mp he, hlists.2] at hcall
        cases hcall
    | some c =>
      obtain ⟨env, hafter, -⟩ := hunder.platform_of_call hcall
      rw [hafter]
      refine ⟨htidy.apply (.call env.now c), fun e he hlists => ?_⟩
      have hbefore : Platform.Since e.before.platform (callsOf (deedsOf i past))
          f.before.platform := by
        rcases List.mem_append.mp he with he | he
        · exact hsince e he hlists
        -- Nothing has been closed before the list was made.
        · obtain rfl := List.mem_singleton.mp he
          rw [hfirst past e hpast hlists]
          exact .start htidy
      by_cases htask : f.task = i
      · rw [if_pos htask]
        exact hbefore.call htidy env.now c
      · rw [if_neg htask, List.append_nil]
        exact hbefore.apply htidy (.call env.now c)

section Clearing

variable (hpush : (w.story start xs).causes[i]? = some (.push body))
  (hbody : Push.decode body = some p) (hkind : p.kind = .clear)
include hpush hbody hkind

/-- A clearing makes its list before all else, and no other. -/
theorem lists_once {past future : List Entry} {e : Entry}
    (hlog : (w.story start xs).log = past ++ e :: future) (hlists : e.Lists i) :
    callsOf (deedsOf i past) = [] ∧ .notifications ∉ callsOf (deedsOf i future) := by
  obtain ⟨q, -, hpersists⟩ := exists_persists hpush
  have hcalls := hpersists.first
  rw [History.deeds, hlog, callsOf_deedsOf_split hlists.1 hlists.2, callsFor_of_clear hbody hkind]
    at hcalls
  obtain ⟨hpast, hfuture⟩ := eq_nil_of_prefix hcalls notifications_not_mem_closings
  exact ⟨hpast, fun hmem => notifications_not_mem_closings (hfuture.subset hmem)⟩

/-- What has been listed is what was displayed then. -/
theorem listedIn_of_lists {e : Entry} (he : e ∈ (w.story start xs).log) (hlists : e.Lists i)
    (hunder : e.Under Surroundings.Unfailing) :
    listedIn ((w.story start xs).deeds i) = e.before.platform.notifications := by
  obtain ⟨past, future, hlog⟩ := List.append_of_mem he
  obtain ⟨hpast, hfuture⟩ := lists_once hpush hbody hkind hlog hlists
  obtain ⟨env, -, htold⟩ := hunder.platform_of_call hlists.2
  have hnone : listedIn (deedsOf i past) = [] := listedIn_eq_nil (hpast ▸ List.not_mem_nil)
  have hdeeds : (w.story start xs).deeds i = deedsOf i past ++ e.deed :: deedsOf i future := by
    rw [History.deeds, hlog, deedsOf_append, ← hlists.1, deedsOf_cons_self]
  calc listedIn ((w.story start xs).deeds i)
      = listedIn (deedsOf i past) ++ (e.deed.listed ++ listedIn (deedsOf i future)) := by
        rw [hdeeds, listedIn, List.flatMap_append, List.flatMap_cons, listedIn, listedIn]
    _ = e.deed.listed := by
        rw [hnone, listedIn_eq_nil hfuture, List.append_nil, List.nil_append]
    _ = e.before.platform.notifications := by
        rw [htold]
        rfl

theorem clears_of_lists (htidy : Tidy start.platform)
    (hxs : ∀ x ∈ xs, x.In Surroundings.Unfailing) {e : Entry} (he : e ∈ (w.story start xs).log)
    (hlists : e.Lists i) : w.Clears (w.story start xs) i p e := by
  have hunder : ∀ f ∈ (w.story start xs).log, f.Under Surroundings.Unfailing :=
    History.under_pass start hxs
  have hfirst : ∀ past f, past ++ [f] <+: (w.story start xs).log → f.Lists i →
      callsOf (deedsOf i past) = [] := by
    rintro past f ⟨future, hlog⟩ hf
    rw [List.append_assoc] at hlog
    exact (lists_once hpush hbody hkind hlog.symm hf).1
  have hlisted := listedIn_of_lists hpush hbody hkind he hlists (hunder e he)
  have hsince := (w.since_of_story htidy hxs hfirst).2 e he hlists
  obtain ⟨q, -, hpersists⟩ := exists_persists hpush
  have hcalls := hpersists.first
  rw [hlisted, callsFor_of_clear hbody hkind] at hcalls
  have hclosed : ∀ id, .close id ∈ callsOf ((w.story start xs).deeds i) →
      ∃ n ∈ e.before.platform.notifications, n.id = id := fun id hid =>
    exists_of_close_mem (hcalls.subset hid)
  refine ⟨?told, hcalls, hclosed, ?spares, ?gone, ?badge⟩
  case told =>
    obtain ⟨env, -, htold⟩ := (hunder e he).platform_of_call hlists.2
    exact htold
  case spares =>
    intro f hf htask n hn hnew
    have hmem : ∀ c, f.deed.call? = some c → c ∈ callsOf ((w.story start xs).deeds i) :=
      fun c hc => List.mem_filterMap.mpr ⟨f.deed, mem_deedsOf.mpr ⟨f, hf, htask, rfl⟩, hc⟩
    refine (hunder f hf).stays hn (fun hc => ?_) fun title options hc => ?_
    · obtain ⟨m, hm, hid⟩ := hclosed n.id (hmem _ hc)
      exact absurd (hsince.counted m hm) (Nat.not_le_of_lt (hid ▸ hnew))
    · obtain hc | ⟨m, -, hc⟩ | hc | ⟨m, hc⟩ := mem_clearing_cases (hcalls.subset (hmem _ hc))
      all_goals cases hc
  case gone =>
    intro result hresult n hn
    have hall := calls_of_result hpush hresult
    rw [hlisted, callsFor_of_clear hbody hkind] at hall
    have hnew : e.before.platform.shownCount < n.id := by
      refine (hsince.left n hn).resolve_right fun ⟨hold, hopen⟩ => hopen ?_
      rw [hall]
      exact List.mem_append_left _ (List.mem_cons_of_mem _ (List.mem_map.mpr ⟨n, hold, rfl⟩))
    exact ⟨hnew, fun m hm => Nat.ne_of_lt (Nat.lt_of_le_of_lt (hsince.counted m hm) hnew)⟩
  case badge =>
    intro past f future c hlog htask hcall hbadge
    rw [History.deeds, hlog, callsOf_deedsOf_split htask hcall] at hcalls
    have hnot : c ∉ .notifications ::
        e.before.platform.notifications.map fun n => Call.close n.id := by
      obtain rfl | ⟨n, rfl⟩ := Push.Payload.eq_of_mem_badgeCalls hbadge <;> simp
    obtain ⟨hpast, hfuture⟩ := eq_of_prefix_append hcalls hnot
      (p.length_badgeCalls_le w.hasBadge)
    exact ⟨hfuture, hpast⟩

/-- A clearing that has ended has made its list. -/
theorem exists_lists_of_result {result : Except Failure Outcome}
    (hresult : (w.story start xs).result? i = some result) :
    ∃ e ∈ (w.story start xs).log, e.Lists i := by
  have hmem : .notifications ∈ callsOf ((w.story start xs).deeds i) := by
    rw [calls_of_result hpush hresult, callsFor_of_clear hbody hkind]
    exact List.mem_cons_self
  obtain ⟨d, hd, hcall⟩ := List.mem_filterMap.mp hmem
  obtain ⟨e, he, htask, rfl⟩ := mem_deedsOf.mp hd
  exact ⟨e, he, htask, hcall⟩

end Clearing

/-- **A clearing closes what was displayed when it listed it, and nothing else**, in every story in
which no call to the platform fails: what has been shown since stays, whatever its tag is. -/
theorem clear_closes_snapshot (w : Worker) {start : World} {ops : List Operation}
    (hstart : start.platform = Platform.course ops) {xs : List (Moment Event)}
    (hxs : ∀ x ∈ xs, x.In Surroundings.Unfailing) {i : Nat} {body : Option Bytes}
    {p : Push.Payload} (hpush : (w.story start xs).causes[i]? = some (.push body))
    (hbody : Push.decode body = some p) (hkind : p.kind = .clear) :
    (∀ envs, ∃ turns : List (Turn Event), (∀ x ∈ turns, x.concerns i) ∧
        ((w.story start xs).run w.handle (Turns.under envs turns)).result? i =
          some (.ok .done)) ∧
      (∀ result, (w.story start xs).result? i = some result →
        ∃ e ∈ (w.story start xs).log, e.Lists i) ∧
      ∀ e ∈ (w.story start xs).log, e.Lists i → w.Clears (w.story start xs) i p e :=
  ⟨push_can_end hpush, fun _ => exists_lists_of_result hpush hbody hkind,
    fun _ => clears_of_lists hpush hbody hkind (hstart ▸ Platform.tidy_course ops) hxs⟩

/-- A message that replaces a notification after a clearing has listed it is not closed in its
place. -/
theorem loopback_clear :
    let w : Worker := ⟨.ofOrigin .loopback, true⟩
    let body := some (Text.utf8 "\x7b\"data\":\x7b\"type\":\"clear\"\x7d\x7d")
    let message := some
      (Text.utf8 "\x7b\"data\":\x7b\"type\":\"message\",\"ack_id\":\"a\"\x7d\x7d")
    let options (tag : String) : Notification.Options := ⟨"", tag, "", ⟨"/", none, none⟩⟩
    let platform := Platform.course
      [.call ⟨0, 0⟩ (.display "a" (options "a")), .call ⟨0, 0⟩ (.display "b" (options "b"))]
    let xs : List (Moment Event) := [.arrive (.push body), .arrive (.push message), .wake 0 0,
      .wake 1 0, .wake 1 0, .wake 0 0, .wake 0 0, .wake 0 0].map (.turn .calm)
    let h := w.story (World.young .empty platform) xs
    callsOf (h.deeds 0) = [.notifications, .close 1, .close 2, .clearBadge] ∧
      h.world.platform.notifications.map (fun n => (n.id, n.options.tag)) = [(3, "a")] ∧
      ∃ p, Push.decode body = some p ∧ ∃ e ∈ h.log, e.Lists 0 ∧ w.Clears h 0 p e := by
  intro w body message options platform xs h
  have hxs : ∀ x ∈ xs, x.In Surroundings.Unfailing := by
    have hcalm : Surroundings.calm.Unfailing := fun _ _ => rfl
    simp [xs, Moment.In, hcalm]
  have hclear : (Push.decode body).map Push.Payload.kind = some .clear := by decide +kernel
  obtain ⟨p, hbody, hkind⟩ := Option.map_eq_some_iff.mp hclear
  have hpush : h.causes[0]? = some (.push body) := rfl
  have hstart : (World.young .empty platform).platform = platform := rfl
  obtain ⟨-, hlisted, hclears⟩ := clear_closes_snapshot w hstart hxs hpush hbody hkind
  have hended : (h.result? 0).isSome = true := by decide +kernel
  obtain ⟨result, hresult⟩ := Option.isSome_iff_exists.mp hended
  obtain ⟨e, he, hlists⟩ := hlisted result hresult
  exact ⟨by decide +kernel, by decide +kernel, p, hbody, e, he, hlists, hclears e he hlists⟩

end Worker

end ServiceWorker
