import ServiceWorker.Proofs.History.Recording
import ServiceWorker.Proofs.Notification.Clicking
import ServiceWorker.Proofs.Worker.Life

/-!
# What a click brings up

A click is to bring up one page, be it a window that is open or a new one, whatever else fails on
the way. It does so unless the first of the windows that it is told of is not open: that one is
asked to take the focus in vain, and nothing else is tried.

## Main definitions

* `Notification.Course`: how a click ends
* `Platform.OnePage`: just one page has been brought up
* `Surroundings.Serving`: open windows take the focus and windows are opened, whatever else fails
* `Worker.Misled`: a task has asked a window for the focus that is not open
* `Worker.Arrives`: what a click has brought up

## Main results

* `Notification.click_takes_course`: every click ends so
* `Worker.click_brings_up`: a click brings up one page, or none if it has been misled
-/

namespace ServiceWorker

open Platform (Client Effect)

/-! ## How a click ends -/

/-- A call to the platform that neither opens a window nor brings one to the front. -/
def Deed.Prepares (d : Deed) : Prop :=
  ∃ call reply, d = .wait (.platform call) reply ∧ (∀ client, call ≠ .focus client) ∧
    ∀ url, call ≠ .openWindow url

namespace Notification

open Program hiding bind

/-- How a click ends after some preparation: the first of the windows that were found gets the
focus, or a window is opened, which gets the focus if it is handed over. -/
inductive Course : List Deed → Prop
  | visited {past : List Deed} (hpast : ∀ d ∈ past, d.Prepares) {client : Client}
      {rest : List Client} (hfound : .wait (.platform .windows) (.ok (client :: rest)) ∈ past)
      (focused : Wait.Reply (.platform (.focus client))) :
      Course (past ++ [.wait (.platform (.focus client)) focused])
  | opened {past : List Deed} (hpast : ∀ d ∈ past, d.Prepares) {url : String}
      {reply : Wait.Reply (.platform (.openWindow url))}
      (hreply : ∀ client, reply ≠ .ok (some client)) :
      Course (past ++ [.wait (.platform (.openWindow url)) reply])
  | entered {past : List Deed} (hpast : ∀ d ∈ past, d.Prepares) (url : String) (client : Client)
      (focused : Wait.Reply (.platform (.focus client))) :
      Course (past ++ [.wait (.platform (.openWindow url)) (.ok (some client)),
        .wait (.platform (.focus client)) focused])

variable {n : Notification} {past : List Deed}

theorem visit_takes_course (hpast : ∀ d ∈ past, d.Prepares) {client : Client} {rest : List Client}
    (hfound : .wait (.platform .windows) (.ok (client :: rest)) ∈ past) :
    (n.visit client).Keeps (fun _ _ => True) (fun ds _ => Course ds) past := by
  unfold visit
  split
  next channel _ =>
    rw [keeps_seq, keeps_discard]
    refine Keeps.platform fun posted => ⟨trivial, ?_⟩
    rw [keeps_discard]
    refine Keeps.platform fun focused => ⟨trivial, ?_⟩
    refine .visited ?_ (List.mem_append_left _ hfound) focused
    intro d hd
    rcases List.mem_append.mp hd with hd | hd
    · exact hpast d hd
    · exact ⟨_, posted, List.mem_singleton.mp hd, by simp, by simp⟩
  next =>
    show (discard (platform (.focus client))).Keeps _ _ _
    rw [keeps_discard]
    exact Keeps.platform fun focused => ⟨trivial, .visited hpast hfound focused⟩

theorem openPage_takes_course (hpast : ∀ d ∈ past, d.Prepares) :
    n.openPage.Keeps (fun _ _ => True) (fun ds _ => Course ds) past := by
  rw [openPage, keeps_seq]
  refine Keeps.platform fun reply => ⟨trivial, ?_⟩
  rcases reply with failure | _ | client
  · exact keeps_pure.mpr (.opened hpast (by simp))
  · exact keeps_pure.mpr (.opened hpast (by simp))
  · show (discard (platform (.focus client))).Keeps _ _ _
    rw [keeps_discard]
    refine Keeps.platform fun focused => ⟨trivial, ?_⟩
    rw [List.append_assoc]
    exact .entered hpast _ client focused

/-- **Every click ends so**, whatever it is told. -/
theorem click_takes_course (n : Notification) :
    n.click.Keeps (fun _ _ => True) (fun ds _ => Course ds) [] := by
  rw [click, keeps_seq, keeps_discard]
  refine Keeps.platform fun closed => ⟨trivial, ?_⟩
  rw [keeps_seq, windows, keeps_seq]
  refine Keeps.platform fun found => ⟨trivial, ?_⟩
  have hpast : ∀ d ∈ ([] ++ [Deed.wait (.platform (.close n.id)) closed]) ++
      [.wait (.platform .windows) found], d.Prepares := by
    intro d hd
    simp only [List.nil_append, List.cons_append, List.mem_cons, List.not_mem_nil, or_false] at hd
    rcases hd with rfl | rfl
    · exact ⟨_, closed, rfl, by simp, by simp⟩
    · exact ⟨_, found, rfl, by simp, by simp⟩
  -- Windows that cannot be listed count as none.
  rcases found with failure | _ | ⟨client, rest⟩
  · exact keeps_pure.mpr (openPage_takes_course hpast)
  · exact keeps_pure.mpr (openPage_takes_course hpast)
  · exact keeps_pure.mpr
      (visit_takes_course hpast (List.mem_append_right _ (List.mem_singleton_self _)))

end Notification

/-! ## Pages -/

/-- Whether a page is brought up: a window gets the focus, or one is opened. -/
def Platform.Effect.bringsUp : Effect → Bool
  | .focused _ => true
  | .opened _ => true
  | _ => false

/-- Just one page has been brought up: either one window has got the focus and none was opened, or
one was opened and no other one has got the focus. -/
inductive Platform.OnePage : List Effect → Prop
  | focused (id : String) : OnePage [.focused id]
  | opened (client : Client) : OnePage [.opened client]
  | entered (client : Client) : OnePage [.opened client, .focused client.id]

/-- A window that is open takes the focus when it is asked to, and a window is opened when one is
asked for. All else may fail, windows may be listed that are not open, and one that is opened need
not be handed over. -/
structure Surroundings.Serving (env : Surroundings) : Prop where
  focuses : ∀ count client, env.platformFails count (.focus client) = false
  opens : ∀ count url, env.platformFails count (.openWindow url) = false

/-- The pages that deeds have brought up. -/
def pagesOf (log : List Entry) : List Effect :=
  (log.flatMap Entry.effects).filter Effect.bringsUp

/-- A window is asked to take the focus that is not open. -/
def Entry.Misled (e : Entry) : Prop :=
  ∃ client reply, e.deed = .wait (.platform (.focus client)) reply ∧
    e.before.platform.hasWindow client.id = false

theorem pagesOf_append (log more : List Entry) :
    pagesOf (log ++ more) = pagesOf log ++ pagesOf more := by
  rw [pagesOf, List.flatMap_append, List.filter_append]
  rfl

section Pages

variable {log : List Entry} {e : Entry}

/-- What only prepares brings up no page. -/
theorem pagesOf_of_prepares (hunder : ∀ e ∈ log, e.Under Surroundings.Serving)
    (hprepares : ∀ e ∈ log, e.deed.Prepares) : pagesOf log = [] := by
  rw [pagesOf, List.filter_flatMap, List.flatMap_eq_nil_iff]
  intro e he
  obtain ⟨c, reply, hdeed, hfocus, hopen⟩ := hprepares e he
  obtain ⟨env, -, ⟨-, heffects⟩ | ⟨-, -, -, heffects⟩⟩ := Entry.effects_of_call (hunder e he) hdeed
  · rw [heffects, List.filter_nil]
  · rw [heffects]
    cases c with
    | focus client => exact absurd rfl (hfocus client)
    | openWindow url => exact absurd rfl (hopen url)
    | notifications => rw [Platform.recorded_notifications, List.filter_nil]
    | windows => rw [Platform.recorded_windows, List.filter_nil]
    | display title options => rw [Platform.recorded_display]; rfl
    | setBadge count => rw [Platform.recorded_setBadge]; rfl
    | clearBadge => rw [Platform.recorded_clearBadge]; rfl
    | claim => rw [Platform.recorded_claim]; rfl
    | close id => rw [Platform.recorded_close]; split <;> rfl
    | post client message => rw [Platform.recorded_post]; split <;> rfl

/-- A window gets the focus if it is open, and nothing happens if it is not. -/
theorem pagesOf_focus (h : e.Under Surroundings.Serving) {client : Client}
    {reply : Wait.Reply (.platform (.focus client))}
    (hdeed : e.deed = .wait (.platform (.focus client)) reply) :
    pagesOf [e] = if e.before.platform.hasWindow client.id then [.focused client.id] else [] := by
  rw [pagesOf, List.flatMap_singleton]
  obtain ⟨env, henv, ⟨hfails, -⟩ | ⟨-, -, -, heffects⟩⟩ := Entry.effects_of_call h hdeed
  · rw [henv.focuses] at hfails
    cases hfails
  · rw [heffects, Platform.recorded_focus]
    split <;> rfl

/-- A window is opened, and it is the one that is handed over. -/
theorem pagesOf_openWindow (h : e.Under Surroundings.Serving) {url : String}
    {reply : Wait.Reply (.platform (.openWindow url))}
    (hdeed : e.deed = .wait (.platform (.openWindow url)) reply) :
    ∃ client : Client, pagesOf [e] = [.opened client] ∧
      e.after.platform.hasWindow client.id = true ∧
      ∀ other, reply = .ok (some other) → other = client := by
  rw [pagesOf, List.flatMap_singleton]
  obtain ⟨env, henv, ⟨hfails, -⟩ | ⟨-, hreply, hafter, heffects⟩⟩ := Entry.effects_of_call h hdeed
  · rw [henv.opens] at hfails
    cases hfails
  · refine ⟨(e.before.platform.openWindow url).1, ?_, ?_, ?_⟩
    · rw [heffects, Platform.recorded_openWindow]
      rfl
    · rw [hafter]
      exact List.any_eq_true.mpr ⟨_, List.mem_append_right _ (List.mem_singleton_self _),
        decide_eq_true rfl⟩
    · rintro other rfl
      simp only [World.platformAnswer, Platform.answer] at hreply
      split at hreply
      · exact Option.some.inj (Except.ok.inj hreply)
      · cases hreply

/-- What only prepares is not misled, -/
theorem Deed.Prepares.not_misled (h : e.deed.Prepares) : ¬e.Misled := by
  obtain ⟨c, reply, hdeed, hfocus, -⟩ := h
  rintro ⟨client, reply', hdeed', -⟩
  exact hfocus client (Wait.platform.inj (Deed.wait.inj (hdeed.symm.trans hdeed')).1)

/-- and neither is the opening of a window. -/
theorem not_misled_openWindow {url : String} {reply : Wait.Reply (.platform (.openWindow url))}
    (hdeed : e.deed = .wait (.platform (.openWindow url)) reply) : ¬e.Misled := by
  rintro ⟨client, reply', hdeed', -⟩
  cases (Deed.wait.inj (hdeed.symm.trans hdeed')).1

theorem misled_focus {client : Client} {reply : Wait.Reply (.platform (.focus client))}
    (hdeed : e.deed = .wait (.platform (.focus client)) reply) :
    e.Misled ↔ e.before.platform.hasWindow client.id = false := by
  constructor
  · rintro ⟨client', reply', hdeed', hclosed⟩
    obtain rfl := Platform.Call.focus.inj
      (Wait.platform.inj (Deed.wait.inj (hdeed.symm.trans hdeed')).1)
    exact hclosed
  · exact fun hclosed => ⟨client, reply, hdeed, hclosed⟩

end Pages

/-- The deeds of a click that has ended have brought up one page if none of them was misled, and
none otherwise. Only what the click was told of open windows can mislead it. -/
theorem Notification.Course.one_page {log : List Entry} (h : Course (log.map Entry.deed))
    (hunder : ∀ e ∈ log, e.Under Surroundings.Serving)
    (hstays : log.Pairwise fun e e' => ∀ id, e.after.platform.hasWindow id = true →
      e'.before.platform.hasWindow id = true) :
    (∀ e ∈ log, ¬e.Misled) ∧ Platform.OnePage (pagesOf log) ∨
      (∃ e ∈ log, e.Misled) ∧ pagesOf log = [] ∧ ∃ e ∈ log, ∃ client rest,
        e.deed = .wait (.platform .windows) (.ok (client :: rest)) ∧
          e.after.platform.hasWindow client.id = false := by
  -- What goes before the end brings up nothing and is not misled.
  have prepared : ∀ past : List Entry, past ⊆ log → (∀ d ∈ past.map Entry.deed, d.Prepares) →
      pagesOf past = [] ∧ ∀ e ∈ past, ¬e.Misled := fun past hsub hpast =>
    ⟨pagesOf_of_prepares (fun e he => hunder e (hsub he)) fun e he =>
      hpast _ (List.mem_map_of_mem he), fun e he => (hpast _ (List.mem_map_of_mem he)).not_misled⟩
  generalize hds : log.map Entry.deed = ds at h
  cases h with
  | @visited _ hpast client rest hfound focused =>
    obtain ⟨past, last, rfl, rfl, hlast⟩ := List.map_eq_append_iff.mp hds
    obtain ⟨e, rfl, hdeed⟩ := List.map_eq_singleton_iff.mp hlast
    obtain ⟨hnone, hnot⟩ := prepared past (List.subset_append_left _ _) hpast
    rw [pagesOf_append, hnone, List.nil_append, pagesOf_focus (hunder e (by simp)) hdeed,
      List.forall_mem_append, List.forall_mem_singleton, misled_focus hdeed]
    cases hopen : e.before.platform.hasWindow client.id with
    | true => exact .inl ⟨⟨hnot, by simp⟩, .focused client.id⟩
    | false =>
      refine .inr ⟨⟨e, by simp, (misled_focus hdeed).mpr hopen⟩, rfl, ?_⟩
      obtain ⟨told, htold, hwindows⟩ := List.mem_map.mp hfound
      refine ⟨told, List.mem_append_left _ htold, client, rest, hwindows, ?_⟩
      -- Had the window been open when the click was told of it, it would be so still.
      by_contra hne
      rw [(List.pairwise_append.mp hstays).2.2 told htold e (List.mem_singleton_self e) client.id
        (by simpa using hne)] at hopen
      cases hopen
  | @opened _ hpast url reply hreply =>
    obtain ⟨past, last, rfl, rfl, hlast⟩ := List.map_eq_append_iff.mp hds
    obtain ⟨e, rfl, hdeed⟩ := List.map_eq_singleton_iff.mp hlast
    obtain ⟨hnone, hnot⟩ := prepared past (List.subset_append_left _ _) hpast
    obtain ⟨client, hpages, -, -⟩ := pagesOf_openWindow (hunder e (by simp)) hdeed
    rw [pagesOf_append, hnone, hpages, List.forall_mem_append, List.forall_mem_singleton]
    exact .inl ⟨⟨hnot, not_misled_openWindow hdeed⟩, .opened client⟩
  | @entered _ hpast url client focused =>
    obtain ⟨past, last, rfl, rfl, hlast⟩ := List.map_eq_append_iff.mp hds
    obtain ⟨e, last, rfl, hdeed, hlast⟩ := List.map_eq_cons_iff.mp hlast
    obtain ⟨e', rfl, hdeed'⟩ := List.map_eq_singleton_iff.mp hlast
    obtain ⟨hnone, hnot⟩ := prepared past (List.subset_append_left _ _) hpast
    obtain ⟨opened, hpages, hopen, hsame⟩ := pagesOf_openWindow (hunder e (by simp)) hdeed
    obtain rfl := hsame client rfl
    have hstill : e'.before.platform.hasWindow client.id = true :=
      List.pairwise_pair.mp (List.pairwise_append.mp hstays).2.1 client.id hopen
    have hboth : pagesOf [e, e'] = [.opened client, .focused client.id] := by
      rw [show [e, e'] = [e] ++ [e'] from rfl, pagesOf_append, hpages,
        pagesOf_focus (hunder e' (by simp)) hdeed', if_pos hstill]
      rfl
    rw [pagesOf_append, hnone, hboth, List.forall_mem_append, List.forall_mem_cons,
      List.forall_mem_singleton, misled_focus hdeed']
    exact .inl ⟨⟨hnot, not_misled_openWindow hdeed, by simp [hstill]⟩, .entered client⟩

namespace Worker

variable {w : Worker} {start : World} {turns : Turns Event} {h : Life} {i : Nat} {n : Notification}

/-- A task has asked a window for the focus that is not open. -/
def Misled (h : Life) (i : Nat) : Prop :=
  ∃ e ∈ h.log, e.task = i ∧ e.Misled

/-- What a click has brought up. -/
structure Arrives (w : Worker) (h : Life) (i : Nat) : Prop where
  /-- It can come to its end by itself in any surroundings. -/
  ends : ∀ envs, ∃ turns : List (Turn Event), (∀ x ∈ turns, x.concerns i) ∧
    (h.run w.handle (Turns.under envs turns)).result? i = some (.ok .done)
  /-- When it has ended, just one page has been brought up, unless it has been misled. -/
  one : h.result? i = some (.ok .done) → ¬Misled h i →
    Platform.OnePage ((h.effectsOf i).filter Effect.bringsUp)
  /-- If it has been misled, none has, and the first window that it was told of was not open. -/
  none : h.result? i = some (.ok .done) → Misled h i →
    (h.effectsOf i).filter Effect.bringsUp = [] ∧ ∃ e ∈ h.log, e.task = i ∧ ∃ client rest,
      e.deed = .wait (.platform .windows) (.ok (client :: rest)) ∧
        e.after.platform.hasWindow client.id = false

theorem handle_takes_course (w : Worker) (n : Notification) :
    (w.handle (.click n)).Keeps (fun _ _ => True)
      (fun ds result => result = .ok .done ∧ Notification.Course ds) [] := by
  rw [handle, Program.keeps_seq]
  exact n.click_takes_course.mono (fun _ _ h => h) fun _ _ h => Program.keeps_pure.mpr ⟨rfl, h⟩

/-- **A click brings up one page**, or none if it has been misled, whatever else fails and whatever
other handlers do in between. -/
theorem click_brings_up (w : Worker) (start : World) (turns : Turns Event) (i : Nat)
    (n : Notification) (hserving : ∀ x ∈ turns, x.1.Serving)
    (hclick : (w.life start turns).causes[i]? = some (.click n)) :
    w.Arrives (w.life start turns) i := by
  have hproper := w.proper_life start turns
  have hlinked := w.linked_life start turns
  -- When it has ended, the deeds of its own are a whole course.
  have hpages : (w.life start turns).result? i = some (.ok .done) → _ := fun hresult =>
    (hproper.reaches hclick hresult (w.handle_takes_course n)).2.one_page
      (fun e he => History.under_fresh w.handle start hserving e (List.mem_filter.mp he).1)
      (hlinked.pairwise_hasWindow.sublist List.filter_sublist)
  simp only [List.mem_filter, decide_eq_true_eq, and_assoc, and_imp] at hpages
  refine ⟨fun envs => ?_, fun hresult hnot => ?_, fun hresult hmisled => ?_⟩
  · obtain ⟨hone, rule, goal, hkeeps, hrule⟩ := Notification.canEnd_click w n
    obtain ⟨more, hmore, result, hresult⟩ :=
      hproper.can_end hlinked hclick hkeeps hone hrule envs
    have hclick' := History.cause_run w.handle hclick (Turns.under envs more)
    obtain ⟨rfl, -⟩ := (hproper.run (Turns.under envs more)).reaches hclick' hresult
      (w.handle_takes_course n)
    exact ⟨more, hmore, hresult⟩
  · exact (hpages hresult).elim (·.2) fun h => absurd h.1 hnot
  · obtain ⟨hnot, -⟩ | ⟨-, hnone, htold⟩ := hpages hresult
    · obtain ⟨e, he, htask, hm⟩ := hmisled
      exact absurd hm (hnot e he htask)
    · exact ⟨hnone, htold⟩

/-- On the local machine, a click that finds no window opens one, though the notification cannot be
closed and the window is not handed over. -/
theorem loopback_arrives :
    let n : Notification := ⟨1, "a", ⟨"", "a", "", ⟨"/a", none, none⟩⟩, ⟨0, 0⟩⟩
    let env : Surroundings := { Surroundings.calm with
      platformFails := fun _ c => c = .close 1
      givesHandles := false }
    let turns := Turns.under (fun _ => env) [.arrive (.click n), .wake 0 0, .wake 0 0, .wake 0 0]
    let h := loopback.life (World.young .empty .empty) turns
    (∀ x ∈ turns, x.1.Serving) ∧ h.causes[0]? = some (.click n) ∧ loopback.Arrives h 0 ∧
      h.result? 0 = some (.ok .done) ∧ h.effectsOf 0 = [.opened ⟨"client-1", "/a"⟩] := by
  intro n env turns h
  have hserving : ∀ x ∈ turns, x.1.Serving := by
    have henv : env.Serving := ⟨fun _ _ => rfl, fun _ _ => rfl⟩
    exact fun x hx => (Turns.mem_under hx).1 ▸ henv
  exact ⟨hserving, rfl, click_brings_up _ _ turns 0 n hserving rfl, rfl, by decide +kernel⟩

/-- On the local machine, a click that is told first of a window that is not open brings up
nothing. -/
theorem loopback_lost_click :
    let n : Notification := ⟨1, "a", ⟨"", "a", "", ⟨"/a", none, none⟩⟩, ⟨0, 0⟩⟩
    let env : Surroundings := { Surroundings.calm with listed := (⟨"ghost", "/"⟩ :: ·) }
    let turns := Turns.under (fun _ => env) [.arrive (.click n), .wake 0 0, .wake 0 0, .wake 0 0]
    let h := loopback.life (World.young .empty .empty) turns
    (∀ x ∈ turns, x.1.Serving) ∧ h.causes[0]? = some (.click n) ∧
      h.result? 0 = some (.ok .done) ∧
      ¬Platform.OnePage ((h.effectsOf 0).filter Effect.bringsUp) := by
  intro n env turns h
  refine ⟨?_, rfl, rfl, ?_⟩
  · have henv : env.Serving := ⟨fun _ _ => rfl, fun _ _ => rfl⟩
    exact fun x hx => (Turns.mem_under hx).1 ▸ henv
  · have hnone : (h.effectsOf 0).filter Effect.bringsUp = [] := by decide +kernel
    rw [hnone]
    rintro ⟨⟩

end Worker

end ServiceWorker
