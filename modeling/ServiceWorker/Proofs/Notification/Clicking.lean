import ServiceWorker.Proofs.Push.Routing

/-!
# What the program for a click leaves

A click closes its notification, looks for open windows, and visits the first of them or opens one.
On a platform that it has to itself it leaves just that.

## Main definitions

* `Notification.FoundNone`: the deeds of a click that has found no window
* `Notification.Opens`: the rule by which a click opens a window
* `Notification.Clicked`: what a click does to a platform

## Main results

* `Notification.click_keeps_opens`: a click opens a window only if it has found none
* `Notification.click_leaves`: what a click leaves of a platform that it has to itself
* `Notification.canEnd_click`: the program for a click can end
-/

namespace ServiceWorker.Notification

open Platform (Client Effect)
open Program hiding bind

variable (n : Notification)

/-! ## When a window is opened -/

/-- The deeds of a click that has found no window: the notification was closed, and the windows were
looked for, in vain. -/
def FoundNone (ds : List Deed) : Prop :=
  ∃ closed found, ds = [.wait (.platform (.close n.id)) closed, .wait (.platform .windows) found] ∧
    ∀ client rest, found ≠ .ok (client :: rest)

/-- A window is opened by a click that has found none, at the page of the notification. -/
def Opens (past : List Deed) (d : Deed) : Prop :=
  ∀ url reply, d = .wait (.platform (.openWindow url)) reply → url = n.page ∧ n.FoundNone past

variable {n}

theorem Opens.of_ne {call : Platform.Call} (h : ∀ url, call ≠ .openWindow url) {past : List Deed}
    (reply : (Wait.platform call).Reply) : n.Opens past (.wait (.platform call) reply) := by
  intro url reply' heq
  exact absurd (Wait.platform.inj (Deed.wait.inj heq).1) (h url)

variable (n)

theorem visit_keeps_opens (client : Client) {past : List Deed} :
    (n.visit client).Keeps n.Opens (fun _ _ => True) past := by
  unfold visit
  split
  · exact keeps_andThen (fun _ => keeps_call fun _ reply => .of_ne (by simp) reply)
      fun _ _ => keeps_call fun _ reply => .of_ne (by simp) reply
  · exact keeps_call fun _ reply => .of_ne (by simp) reply

theorem openPage_keeps_opens {past : List Deed} (hfound : n.FoundNone past) :
    n.openPage.Keeps n.Opens (fun _ _ => True) past := by
  rw [openPage, keeps_seq]
  refine Keeps.platform fun reply => ⟨?_, ?_⟩
  · intro url reply' heq
    exact ⟨(Platform.Call.openWindow.inj (Wait.platform.inj (Deed.wait.inj heq).1)).symm, hfound⟩
  · rcases reply with failure | _ | client
    · exact keeps_pure.mpr trivial
    · exact keeps_pure.mpr trivial
    · exact keeps_call fun _ reply => .of_ne (by simp) reply

/-- **A click opens a window only if it has found none.** -/
theorem click_keeps_opens : n.click.Keeps n.Opens (fun _ _ => True) [] := by
  rw [click, keeps_seq, keeps_discard]
  refine Keeps.platform fun closed => ⟨.of_ne (by simp) closed, ?_⟩
  rw [keeps_seq, windows, keeps_seq]
  refine Keeps.platform fun found => ⟨.of_ne (by simp) found, ?_⟩
  -- Windows that cannot be listed count as none.
  rcases found with failure | _ | ⟨client, rest⟩
  · exact keeps_pure.mpr (n.openPage_keeps_opens ⟨closed, _, rfl, fun _ _ h => by cases h⟩)
  · exact keeps_pure.mpr (n.openPage_keeps_opens ⟨closed, _, rfl, fun _ _ h => by cases h⟩)
  · exact keeps_pure.mpr (n.visit_keeps_opens client)

/-! ## What a click leaves -/

/-- What a click does to a platform. The notification goes, and no other. If a window is open, the
first one is told which channel to show, if there is one, and gets the focus; if none is open, one
is opened and gets the focus. -/
structure Clicked (p p' : Platform) : Prop where
  notifications : p'.notifications = p.notifications.filter (·.id ≠ n.id)
  visited : ∀ client rest, p.windows = client :: rest → p'.windows = p.windows ∧
    p'.effects = p.effects ++ (.closed n.id ::
      (n.channel?.map fun channel =>
        Effect.posted client.id ⟨channel, n.options.target.teamId⟩).toList ++ [.focused client.id])
  opened : p.windows = [] → ∃ client : Client, client.url = n.page ∧ p'.windows = [client] ∧
    p'.effects = p.effects ++ [.closed n.id, .opened client, .focused client.id]

variable {n} {p : Platform}

/-- The window in front stays in front when it gets the focus. -/
theorem focus_front {client : Client} {rest : List Client} (h : p.windows = client :: rest) :
    p.focus client.id = p.record (.focused client.id) := by
  have hfind : p.windows.find? (·.id = client.id) = some client := by
    rw [h]
    exact List.find?_cons_of_pos (decide_eq_true rfl)
  have herase : p.windows.eraseP (·.id = client.id) = rest := by
    rw [h]
    exact List.eraseP_cons_of_pos (decide_eq_true rfl)
  rw [Platform.focus, hfind]
  show Platform.record { p with windows := client :: p.windows.eraseP (·.id = client.id) } _ = _
  rw [herase, ← h]

theorem hasWindow_front {client : Client} {rest : List Client} (h : p.windows = client :: rest) :
    p.hasWindow client.id = true := by
  rw [Platform.hasWindow, h]
  exact List.any_eq_true.mpr ⟨client, List.mem_cons_self, decide_eq_true rfl⟩

/-- What a visit to the window in front leaves: all as it is, but for the record. -/
theorem visit_leaves {client : Client} {rest : List Client} (h : p.windows = client :: rest) :
    (n.visit client).Leaves (fun _ p' => p'.notifications = p.notifications ∧
      p'.windows = p.windows ∧ p'.effects = p.effects ++ ((n.channel?.map fun channel =>
        Effect.posted client.id ⟨channel, n.options.target.teamId⟩).toList ++
          [.focused client.id])) p := by
  unfold visit
  cases n.channel? with
  | none =>
    show (discard (platform (.focus client))).Leaves _ p
    rw [leaves_discard, leaves_call]
    intro now
    rw [show p.after now (.focus client) = _ from focus_front h]
    exact ⟨rfl, rfl, rfl⟩
  | some channel =>
    show (discard (platform (.post client _)) >>= fun _ =>
      discard (platform (.focus client))).Leaves _ p
    rw [leaves_seq, leaves_discard, leaves_call]
    intro posted
    have hposted : p.after posted (.post client ⟨channel, n.options.target.teamId⟩) =
        p.record (.posted client.id ⟨channel, n.options.target.teamId⟩) :=
      if_pos (hasWindow_front h)
    rw [hposted, leaves_discard, leaves_call]
    intro now
    have hfront : (p.record (.posted client.id ⟨channel, n.options.target.teamId⟩)).windows =
        client :: rest := h
    rw [show Platform.after _ now (.focus client) = _ from focus_front hfront]
    exact ⟨rfl, rfl, List.append_assoc _ _ _⟩

/-- What is left when a window has been opened: it is the only one, and has the focus. -/
theorem openPage_leaves (h : p.windows = []) :
    n.openPage.Leaves (fun _ p' => p'.notifications = p.notifications ∧
      ∃ client : Client, client.url = n.page ∧ p'.windows = [client] ∧
        p'.effects = p.effects ++ [.opened client, .focused client.id]) p := by
  rw [openPage, leaves_seq, leaves_call]
  intro opened
  show (discard (platform (.focus (p.openWindow n.page).1))).Leaves _ (p.openWindow n.page).2
  rw [leaves_discard, leaves_call]
  intro now
  have hwindows : (p.openWindow n.page).2.windows = [(p.openWindow n.page).1] := by
    show p.windows ++ [(p.openWindow n.page).1] = _
    rw [h]
    rfl
  rw [show Platform.after _ now (.focus _) = _ from focus_front hwindows]
  exact ⟨rfl, _, rfl, hwindows, List.append_assoc _ _ _⟩

/-- **What a click leaves** of a platform that it has to itself and that displays the
notification. -/
theorem click_leaves (hn : n ∈ p.notifications) : n.click.Leaves (fun _ => n.Clicked p) p := by
  rw [click, leaves_seq, leaves_discard, leaves_call]
  intro closed
  obtain ⟨p', hp', hnotifications, hwindows, heffects⟩ : ∃ p', p.after closed (.close n.id) = p' ∧
      p'.notifications = p.notifications.filter (·.id ≠ n.id) ∧ p'.windows = p.windows ∧
      p'.effects = p.effects ++ [.closed n.id] :=
    ⟨_, p.close_of_mem hn, rfl, rfl, rfl⟩
  rw [hp', leaves_seq, windows, leaves_seq, leaves_call]
  intro looked
  show Program.Leaves _ (pure p'.windows) p'
  rw [leaves_pure]
  -- Closing leaves the windows alone, so the first one found is the one in front.
  cases hfront : p'.windows with
  | nil =>
    refine (openPage_leaves hfront).mono fun _ last h => ?_
    obtain ⟨hsame, client, hurl, hopened, hrecorded⟩ := h
    refine ⟨hsame.trans hnotifications, fun client rest h => ?_,
      fun _ => ⟨client, hurl, hopened, ?_⟩⟩
    · rw [← hwindows, hfront] at h
      cases h
    · rw [hrecorded, heffects, List.append_assoc]
      rfl
  | cons front rest =>
    refine (visit_leaves hfront).mono fun _ last h => ?_
    obtain ⟨hsame, hkept, hrecorded⟩ := h
    refine ⟨hsame.trans hnotifications, fun client others h => ⟨hkept.trans hwindows, ?_⟩,
      fun h => ?_⟩
    · obtain ⟨rfl, -⟩ := List.cons_eq_cons.mp (hfront.symm.trans (hwindows.trans h))
      rw [hrecorded, heffects, List.append_assoc]
      rfl
    · rw [← hwindows, hfront] at h
      cases h

/-! ## It can end -/

open Push (oneAtATime_call)

theorem oneAtATime_click (n : Notification) : n.click.OneAtATime := by
  have looks : windows.OneAtATime := by
    refine oneAtATime_wait.mpr ⟨nofun, fun reply => ?_⟩
    cases reply <;> exact oneAtATime_done
  refine (oneAtATime_call _).bind fun _ => looks.bind fun clients => ?_
  cases clients with
  | nil =>
    refine oneAtATime_wait.mpr ⟨nofun, fun reply => ?_⟩
    rcases reply with failure | _ | client
    · exact oneAtATime_done
    · exact oneAtATime_done
    · exact oneAtATime_call _
  | cons client rest =>
    show (n.visit client).OneAtATime
    unfold visit
    split
    · exact (oneAtATime_call _).bind fun _ => oneAtATime_call _
    · exact oneAtATime_call _

/-- The program for a click can end. -/
theorem canEnd_click (w : Worker) (n : Notification) : (w.handle (.click n)).CanEnd := by
  refine ⟨(oneAtATime_click n).bind fun _ => oneAtATime_done, _, _, w.handle_keeps (.click n), ?_⟩
  rintro past ticket reply ⟨call, reply', hdeed, -⟩
  cases hdeed

end ServiceWorker.Notification
