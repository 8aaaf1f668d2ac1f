import ServiceWorker.Proofs.Platform.Windows
import ServiceWorker.Proofs.Push.Snapshot
import ServiceWorker.Proofs.Worker.Arrival

/-!
# Which window a click visits

A click looks for windows once, and visits the one in front. Windows are opened and take the focus
at any time, by other handlers and from outside, so the window in front is told by all that has
happened to the platform up to the moment at which the click looks.

## Main definitions

* `History.operations`: what happens to the platform in a history
* `Notification.visiting`: the calls of a click that visits a window
* `Worker.Visits`: what a click does from the moment on at which it looks for windows

## Main results

* `History.platform_pass`: the platform of a history is the one that these operations lead to
* `Notification.calls_of_path`: a click that is told of windows calls for none but the first
* `Worker.windows_by_focus`: the windows are in the order in which they had the focus, and a click
  visits the one that had it last
-/

namespace ServiceWorker

open Platform (Call Client Operation course created target?)

variable {ι α : Type}

/-! ## What happens to the platform -/

/-- The end of a wait is all that happens in its turn. -/
theorem Program.before_of_mem_wakes {env : Surroundings} {ticket : Ticket} {i : Nat}
    {p : Program α} {w : World} {e : Entry} (he : e ∈ p.wakes env ticket i w) : e.before = w := by
  unfold wakes at he
  split at he
  · split at he
    · rw [List.mem_singleton.mp he]
    · cases he
  · cases he

/-- What a deed does to the platform at a time. -/
def Deed.operation? (now : Time.Instant) (d : Deed) : Option Operation :=
  d.call?.map (.call now)

/-- A deed does to a reliable platform what it is for. -/
theorem Deed.Happens.platform {env : Surroundings} (henv : env.Reliable) {d : Deed} {w w' : World}
    (h : d.Happens env w w') :
    w'.platform = (d.operation? env.now).toList.foldl Platform.apply w.platform := by
  cases hcall : d.call? with
  | none =>
    rw [operation?, hcall]
    exact Entry.Happens.platform_of_no_call (e := ⟨0, d, w, w'⟩) ⟨env, h⟩ hcall
  | some c =>
    obtain ⟨reply, rfl⟩ := Deed.call?_eq_some hcall
    obtain ⟨ticket, hwake⟩ := h
    have hafter : (w.callPlatform env c).2 = w' := congrArg Prod.snd (Option.some.inj hwake)
    rw [← hafter, (w.callPlatform_of_reliable henv c).2]
    rfl

namespace History

variable (serve : ι → Program α)

/-- What happens to the platform at a moment. -/
def operationsAt (h : History ι α) : Moment ι → List Operation
  | .turn env t => (h.entries serve (env, t)).filterMap (·.deed.operation? env.now)
  | .outside op => [op]

/-- What happens to the platform in several moments, one after another. -/
def operations (h : History ι α) : List (Moment ι) → List Operation
  | [] => []
  | x :: xs => h.operationsAt serve x ++ (h.advance serve x).operations xs

variable {serve}

theorem platform_advance (h : History ι α) {x : Moment ι} (hx : x.In Surroundings.Reliable) :
    (h.advance serve x).world.platform =
      (h.operationsAt serve x).foldl Platform.apply h.world.platform := by
  cases x with
  | outside op => rfl
  | turn env t =>
    refine (h.linked_step serve (env, t)).induct (P := fun new w => w.platform =
      (new.filterMap (·.deed.operation? env.now)).foldl Platform.apply h.world.platform) rfl ?_
    intro past e hpast _ hplatform
    have hmem := hpast.subset (List.mem_append_right past (List.mem_singleton_self e))
    have hone : [e].filterMap (·.deed.operation? env.now) =
        (e.deed.operation? env.now).toList := by
      cases hop : e.deed.operation? env.now <;> simp [hop]
    rw [(happens_of_mem_entries serve hmem).platform hx, hplatform, List.filterMap_append,
      List.foldl_append, hone]

/-- **The platform of a history is the one that its operations lead to.** -/
theorem platform_pass (h : History ι α) {xs : List (Moment ι)}
    (hxs : ∀ x ∈ xs, x.In Surroundings.Reliable) : (h.pass serve xs).world.platform =
      (h.operations serve xs).foldl Platform.apply h.world.platform := by
  induction xs generalizing h with
  | nil => rfl
  | cons x xs ih =>
    rw [pass_cons, ih _ fun y hy => hxs y (List.mem_cons_of_mem _ hy),
      platform_advance h (hxs x List.mem_cons_self), operations, List.foldl_append]

/-- A call to the platform is the first thing in its turn. -/
theorem before_of_call {h : History ι α} {x : Surroundings × Turn ι} {e : Entry}
    (he : e ∈ h.entries serve x) {c : Call} (hcall : e.deed.call? = some c) :
    e.before = h.world := by
  obtain ⟨i, ticket, p, -, -, he⟩ | ⟨i, p, -, -, he⟩ := cases_of_mem_entries serve he
  · exact Program.before_of_mem_wakes he
  · obtain ⟨a, reply, hact⟩ := Program.exists_act_of_mem_acts he
    rw [hact] at hcall
    cases hcall

/-- So it is answered as the platform is when the turn begins. -/
theorem deed_of_call {h : History ι α} {env : Surroundings} (henv : env.Reliable) {t : Turn ι}
    {e : Entry} (he : e ∈ h.entries serve (env, t)) {c : Call} (hcall : e.deed.call? = some c) :
    e.deed = .wait (.platform c) (h.world.platform.answer c) := by
  obtain ⟨reply, hdeed⟩ := Deed.call?_eq_some hcall
  have happens := happens_of_mem_entries serve he
  rw [hdeed] at happens
  obtain ⟨ticket, hwake⟩ := happens
  have hreply : (e.before.callPlatform env c).1 = reply := congrArg Prod.fst (Option.some.inj hwake)
  rw [hdeed, ← hreply, (e.before.callPlatform_of_reliable henv c).1, before_of_call he hcall]

end History

/-! ## The calls of a click -/

namespace Program

/-- Calls one after another are made from the first on, and all of them before the end. -/
theorem calls_of_callAll {calls : List Call} {a : α} {ds : List Deed} {q : Program α}
    (h : ((callAll calls).bind fun _ => done a).Path ds q) :
    callsOf ds <+: calls ∧ ∀ b, q = done b → callsOf ds = calls := by
  induction calls generalizing ds with
  | nil =>
    cases h with
    | stay => exact ⟨List.prefix_rfl, fun _ _ => rfl⟩
  | cons c rest ih =>
    cases h with
    | stay => exact ⟨List.nil_prefix, fun _ h => by cases h⟩
    | wait _ later =>
      obtain ⟨hbegins, hall⟩ := ih later
      exact ⟨List.cons_prefix_cons.mpr ⟨rfl, hbegins⟩, fun b hb => congrArg (c :: ·) (hall b hb)⟩

end Program

namespace Notification

open Program (callAll keeps_seq keeps_pure Keeps)

variable (n : Notification)

/-- The calls of a visit to a window. -/
def visitCalls (client : Client) : List Call :=
  (n.channel?.map fun channel => Call.post client ⟨channel, n.options.target.teamId⟩).toList ++
    [.focus client]

/-- The calls of a click that visits a window. -/
def visiting (client : Client) : List Call :=
  .close n.id :: .windows :: n.visitCalls client

theorem visit_eq (client : Client) : n.visit client = callAll (n.visitCalls client) := by
  unfold visit visitCalls
  cases n.channel? <;> rfl

/-- What a click does when it has looked for windows. -/
def goOn : Except Platform.Failure (List Client) → Program Unit
  | .ok (client :: _) => n.visit client
  | _ => n.openPage

theorem handle_click (w : Worker) : w.handle (.click n) =
    .wait (.platform (.close n.id)) fun _ => .wait (.platform .windows) fun found =>
      (n.goOn found).bind fun _ => .done (.ok .done) := by
  refine congrArg (Program.wait _) (funext fun _ => ?_)
  refine congrArg (Program.wait _) (funext fun found => ?_)
  rcases found with failure | _ | ⟨client, rest⟩ <;> rfl

/-- A click that has looked for windows does not look for them again, -/
theorem goOn_keeps (found : Except Platform.Failure (List Client)) :
    (n.goOn found).Keeps (fun _ d => d.call? ≠ some .windows) (fun _ _ => True) [] := by
  have other : ∀ {c : Call}, c ≠ .windows → ∀ past, (discard (Program.platform c)).Keeps
      (fun _ d => d.call? ≠ some .windows) (fun _ _ => True) past :=
    fun hc past => keeps_call fun _ _ h => hc (Option.some.inj h)
  have opens : n.openPage.Keeps (fun _ d => d.call? ≠ some .windows) (fun _ _ => True) [] := by
    rw [openPage, keeps_seq]
    refine Keeps.platform fun reply => ⟨by simp [Deed.call?], ?_⟩
    rcases reply with failure | _ | client
    · exact keeps_pure.mpr trivial
    · exact keeps_pure.mpr trivial
    · exact other (by simp) _
  rcases found with failure | _ | ⟨client, rest⟩
  · exact opens
  · exact opens
  · show (n.visit client).Keeps _ _ []
    unfold visit
    split
    · exact keeps_andThen (other (by simp)) fun _ => other (by simp)
    · exact other (by simp) _

/-- so it looks for them once. -/
theorem windows_not_mem_of_goOn {found : Except Platform.Failure (List Client)} {ds : List Deed}
    {q : Program (Except Failure Outcome)}
    (h : ((n.goOn found).bind fun _ => .done (.ok .done)).Path ds q) :
    .windows ∉ callsOf ds := by
  have keeps : ((n.goOn found).bind fun _ => .done (.ok .done)).Keeps
      (fun _ d => d.call? ≠ some .windows)
      (fun _ (_ : Except Failure Outcome) => True) [] :=
    Program.keeps_bind.mpr
      ((n.goOn_keeps found).mono (fun _ _ h => h) fun _ _ _ => Program.keeps_done.mpr trivial)
  intro hmem
  obtain ⟨d, hd, hcall⟩ := List.mem_filterMap.mp hmem
  obtain ⟨past, future, rfl⟩ := List.append_of_mem hd
  exact h.allowed keeps hcall

/-- **A click that is told of windows calls for none but the first**, and it calls for it whatever
comes of its calls. -/
theorem calls_of_path {w : Worker} {ds : List Deed} {q : Program (Except Failure Outcome)}
    (h : (w.handle (.click n)).Path ds q) {client : Client} {rest : List Client}
    (hfound : .wait (.platform .windows) (.ok (client :: rest)) ∈ ds) :
    callsOf ds <+: n.visiting client ∧ ∀ b, q = .done b → callsOf ds = n.visiting client := by
  rw [handle_click] at h
  cases h with
  | stay => cases hfound
  | @wait _ _ closed _ _ _ h =>
    replace hfound := (List.mem_cons.mp hfound).resolve_left (by simp)
    cases h with
    | stay => cases hfound
    | @wait _ _ found more _ _ h =>
      -- It is told of windows only here.
      have hsame : found = .ok (client :: rest) := by
        rcases List.mem_cons.mp hfound with hfound | hfound
        · exact (eq_of_heq (Deed.wait.inj hfound).2).symm
        · have hagain : Call.windows ∈ callsOf more := List.mem_filterMap.mpr ⟨_, hfound, rfl⟩
          exact absurd hagain (n.windows_not_mem_of_goOn h)
      subst hsame
      change ((n.visit client).bind fun _ => .done (.ok .done)).Path more q at h
      rw [visit_eq] at h
      obtain ⟨hbegins, hall⟩ := Program.calls_of_callAll h
      have hcons : ∀ more, callsOf (.wait (.platform (.close n.id)) closed ::
          .wait (.platform .windows) (.ok (client :: rest)) :: more) =
            .close n.id :: .windows :: callsOf more := fun _ => rfl
      rw [hcons]
      exact ⟨by simpa [visiting] using hbegins, fun b hb => by rw [hall b hb, visiting]⟩

/-- A click that has ended has looked for windows. -/
theorem windows_mem_of_path {w : Worker} {ds : List Deed} {result : Except Failure Outcome}
    (h : (w.handle (.click n)).Path ds (.done result)) : .windows ∈ callsOf ds := by
  rw [handle_click] at h
  cases h with
  | wait _ h =>
    cases h with
    | wait _ h => exact List.mem_cons_of_mem _ List.mem_cons_self

end Notification

/-! ## Clicks in a story -/

namespace Worker

variable {w : Worker} {start : World} {ops : List Operation} {xs : List (Moment Event)} {i : Nat}
  {n : Notification}

/-- What a click does that has looked for windows after operations. -/
structure Visits (h : Life) (i : Nat) (n : Notification) (ops : List Operation) (e : Entry) :
    Prop where
  /-- It is told of the windows as they are. -/
  told : e.deed = .wait (.platform .windows) (.ok (course ops).windows)
  /-- If there are any, the one in front is the one that had the focus last, or else the one that
  was opened first; -/
  target : ∀ client rest, (course ops).windows = client :: rest →
    client ∈ created ops ∧ target? ops = some client.id
  /-- and the click visits this one and no other. When it has ended it has done so. -/
  calls : ∀ client rest, (course ops).windows = client :: rest →
    callsOf (h.deeds i) <+: n.visiting client ∧
      ∀ result, h.result? i = some result → callsOf (h.deeds i) = n.visiting client

/-- What clicks do in a story that begins after operations. -/
structure Targets (w : Worker) (start : World) (ops : List Operation) (xs : List (Moment Event))
    (i : Nat) (n : Notification) : Prop where
  /-- A click can come to its end by itself, and when it has ended it has looked for windows. -/
  ends : ∀ envs, ∃ turns : List (Turn Event), (∀ x ∈ turns, x.concerns i) ∧
    ((w.story start xs).run w.handle (Turns.under envs turns)).result? i = some (.ok .done)
  looks : ∀ result, (w.story start xs).result? i = some result →
    ∃ e ∈ (w.story start xs).log, e.task = i ∧ e.deed.call? = some .windows
  /-- What it does is settled by all that has happened to the platform when it looks for them. -/
  visits : ∀ before env turn after e, xs = before ++ .turn env turn :: after →
    e ∈ (w.story start before).entries w.handle (env, turn) → e.task = i →
    e.deed.call? = some .windows →
      Visits (w.story start xs) i n
        (ops ++ (History.fresh start : Life).operations w.handle before) e

theorem exists_path (hclick : (w.story start xs).causes[i]? = some (.click n)) :
    ∃ q, (w.story start xs).task? i = some q ∧
      (w.handle (.click n)).Path ((w.story start xs).deeds i) q := by
  have hproper : (w.story start xs).Proper w.handle := (History.proper_fresh w.handle start).pass xs
  obtain ⟨q, hq⟩ := hproper.exists_task hclick
  exact ⟨q, hq, hproper.path i _ q hclick hq⟩

theorem platform_story (hstart : start.platform = course ops)
    (hxs : ∀ x ∈ xs, x.In Surroundings.Reliable) : (w.story start xs).world.platform =
      course (ops ++ (History.fresh start : Life).operations w.handle xs) := by
  rw [story, History.platform_pass _ hxs, course, List.foldl_append]
  exact congrArg (List.foldl Platform.apply · _) hstart

/-- A click can come to its end by itself, as it sends no request for whose answer it would have to
wait. -/
theorem click_can_end (hclick : (w.story start xs).causes[i]? = some (.click n))
    (envs : Nat → Surroundings) : ∃ turns : List (Turn Event), (∀ x ∈ turns, x.concerns i) ∧
      ((w.story start xs).run w.handle (Turns.under envs turns)).result? i =
        some (.ok .done) := by
  have hproper : (w.story start xs).Proper w.handle := (History.proper_fresh w.handle start).pass xs
  obtain ⟨q, hq, hpath⟩ := exists_path hclick
  have hsent : Program.SentBy ((w.story start xs).deeds i) (w.story start xs).world := by
    intro r ticket hsend
    obtain ⟨past, future, hdeeds⟩ := List.append_of_mem hsend
    rw [hdeeds] at hpath
    obtain ⟨call, reply, hdeed, -⟩ := hpath.allowed (w.handle_keeps (.click n))
    cases hdeed
  obtain ⟨hone, rule, goal, hkeeps, hrule⟩ := Notification.canEnd_click w n
  obtain ⟨turns, hturns, result, hresult⟩ :=
    hproper.can_end_of_sent hsent hclick hkeeps hone hrule envs
  obtain ⟨rfl, -⟩ := (hproper.run _).reaches (History.cause_run w.handle hclick _) hresult
    (w.handle_takes_course n)
  exact ⟨turns, hturns, hresult⟩

/-- What is done in a turn of a story is among all that is done. -/
theorem deed_mem_deeds {before after : List (Moment Event)} {env : Surroundings}
    {turn : Turn Event} {e : Entry} (hsplit : xs = before ++ .turn env turn :: after)
    (he : e ∈ (w.story start before).entries w.handle (env, turn)) (htask : e.task = i) :
    e.deed ∈ (w.story start xs).deeds i := by
  refine mem_deedsOf.mpr ⟨e, ?_, htask, rfl⟩
  rw [story, hsplit, History.pass_append, History.pass_cons]
  exact (History.log_pass _ after).subset (List.mem_append_right _ he)

/-- What a click is told of is what there is at that moment. -/
theorem visits_of_entries (hstart : start.platform = course ops)
    (hxs : ∀ x ∈ xs, x.In Surroundings.Reliable)
    (hclick : (w.story start xs).causes[i]? = some (.click n)) {before after : List (Moment Event)}
    {env : Surroundings} {turn : Turn Event} {e : Entry}
    (hsplit : xs = before ++ .turn env turn :: after)
    (he : e ∈ (w.story start before).entries w.handle (env, turn)) (htask : e.task = i)
    (hcall : e.deed.call? = some .windows) :
    Visits (w.story start xs) i n
      (ops ++ (History.fresh start : Life).operations w.handle before) e := by
  have hbefore := w.platform_story hstart fun x hx => hxs x (hsplit ▸ List.mem_append_left _ hx)
  have henv : env.Reliable :=
    hxs (.turn env turn) (hsplit ▸ List.mem_append_right _ List.mem_cons_self)
  generalize ops ++ (History.fresh start : Life).operations w.handle before = now at hbefore ⊢
  have told := History.deed_of_call henv he hcall
  rw [hbefore] at told
  refine ⟨told, fun client rest hfront => ⟨?_, ?_⟩, fun client rest hfront => ?_⟩
  · exact (Platform.perm_created now).subset (hfront ▸ List.mem_cons_self)
  · rw [← Platform.head?_windows, hfront]
    rfl
  · obtain ⟨q, hq, hpath⟩ := exists_path hclick
    have hmem := deed_mem_deeds hsplit he htask
    rw [told, show (course now).answer .windows = .ok (course now).windows from rfl, hfront] at hmem
    obtain ⟨hbegins, hall⟩ := n.calls_of_path hpath hmem
    refine ⟨hbegins, fun result hresult => hall result ?_⟩
    rw [History.task_of_result hresult] at hq
    exact (Option.some.inj hq).symm

/-- **The windows are kept in the order in which they had the focus, and a click visits the one that
had it last**, or the one that was opened first if none ever had it, in every story in which the
platform does as it is told. -/
theorem windows_by_focus (w : Worker) : (∀ ops, Platform.Recency ops) ∧
    ∀ start ops xs i n, start.platform = course ops →
      (∀ x ∈ xs, x.In Surroundings.Reliable) →
      (w.story start xs).causes[i]? = some (.click n) → w.Targets start ops xs i n := by
  refine ⟨Platform.recency_course, fun start ops xs i n hstart hxs hclick =>
    ⟨click_can_end hclick, fun result hresult => ?_, ?_⟩⟩
  · obtain ⟨q, hq, hpath⟩ := exists_path hclick
    rw [History.task_of_result hresult] at hq
    obtain rfl := Option.some.inj hq
    obtain ⟨d, hd, hcall⟩ := List.mem_filterMap.mp (n.windows_mem_of_path hpath)
    obtain ⟨e, he, htask, rfl⟩ := mem_deedsOf.mp hd
    exact ⟨e, he, htask, hcall⟩
  · intro before env turn after e hsplit he htask hcall
    exact visits_of_entries hstart hxs hclick hsplit he htask hcall

/-- While a click closes its notification another window takes the focus, and one that is not there
is asked to. The click visits the window that has the focus when it looks. -/
theorem loopback_windows :
    let n : Notification := ⟨1, "a", ⟨"", "a", "", ⟨"/a", none, none⟩⟩, ⟨0, 0⟩⟩
    let ops : List Operation :=
      [.addWindow "/a", .addWindow "/b", .addWindow "/c", .call ⟨0, 0⟩ (.focus ⟨"client-3", "/c"⟩)]
    let start := World.young .empty (course ops)
    let before : List (Moment Event) := [.turn .calm (.arrive (.click n)), .turn .calm (.wake 0 0),
      .outside (.call ⟨0, 0⟩ (.focus ⟨"client-2", "/"⟩)),
      .outside (.call ⟨0, 0⟩ (.focus ⟨"ghost", "/"⟩))]
    let xs := before ++ [.turn .calm (.wake 0 0), .turn .calm (.wake 0 0)]
    let now := ops ++ (History.fresh start : Life).operations loopback.handle before
    (∀ x ∈ xs, x.In Surroundings.Reliable) ∧
      (course now).windows = [⟨"client-2", "/b"⟩, ⟨"client-3", "/c"⟩, ⟨"client-1", "/a"⟩] ∧
      target? now = some "client-2" ∧ loopback.Targets start ops xs 0 n ∧
      callsOf ((loopback.story start xs).deeds 0) = n.visiting ⟨"client-2", "/b"⟩ := by
  intro n ops start before xs now
  have hxs : ∀ x ∈ xs, x.In Surroundings.Reliable := by
    simp [xs, before, Moment.In, Surroundings.reliable_calm]
  exact ⟨hxs, by decide +kernel, by decide +kernel,
    (windows_by_focus loopback).2 start ops xs 0 n rfl hxs rfl, by decide +kernel⟩

end Worker

end ServiceWorker
