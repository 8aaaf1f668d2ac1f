import ServiceWorker.Proofs.History.Sequel
import ServiceWorker.Proofs.Notification.Clicking
import ServiceWorker.Proofs.Push.Meaning

/-!
# Where a click on a notification leads

A push shows a notification that bears where a click on it leads: to the channel of a message, or to
the login page if a session has ended. Whatever happens until the click, it leads there, unless the
notification has left before.

## Main definitions

* `Push.Payload.channel?`, `Push.Payload.page`: where the notification of a payload leads
* `Worker.Followed`: what a click on the notification of a payload does
* `Worker.DeepLink`: what becomes of a push, up to the click on its notification

## Main results

* `Push.route_shows`: a message shows its notification, and so does the end of a session
* `Worker.deep_links`: a click leads where the push has said, whatever has happened in between
-/

namespace ServiceWorker

open Notification (Options)
open Platform (Client Effect Tidy)

/-! ## What a payload says -/

namespace Push

namespace Payload

variable (q : Payload)

/-- The channel that a payload leads to. Only messages lead to one. -/
def channel? : Option String :=
  match q.kind with
  | .message => q.channelId.filter (· ≠ "")
  | _ => none

/-- The page that a payload leads to, if no window is open: that of the channel of a message, and
the login page otherwise. -/
def page (config : Config) : String :=
  match q.kind with
  | .message => q.channel?.elim "/" ("/_redirect/" ++ ·)
  | _ => if config.notices.loginPath = "" then "/" else config.notices.loginPath

variable {q} {config : Config} {options : Options} {n : Notification}

theorem nonEmpty_eq_filter (text : Option String) : nonEmpty text = text.filter (· ≠ "") := by
  cases text with
  | none => rfl
  | some s => by_cases h : s = "" <;> simp [nonEmpty, Option.filter, h]

theorem notice?_cases (h : q.notice? config = some options) :
    q.kind = .message ∧ options = q.messageOptions config ∨
      q.kind = .session ∧ options = q.sessionOptions config := by
  unfold notice? at h
  split at h
  next hkind => exact .inl ⟨hkind, (Option.some.inj h).symm⟩
  next hkind => exact .inr ⟨hkind, (Option.some.inj h).symm⟩
  next => cases h

/-- The notification of a payload leads to the channel that the payload says. -/
theorem channel?_eq (h : q.notice? config = some n.options) : n.channel? = q.channel? := by
  obtain ⟨hkind, hoptions⟩ | ⟨hkind, hoptions⟩ := notice?_cases h
  · rw [Notification.channel?, channel?, hkind, hoptions]
    show q.channelId.filter _ = _
    congr 1
    funext s
    by_cases hs : s = "" <;> simp [hs]
  · rw [Notification.channel?, channel?, hkind, hoptions]
    rfl

theorem teamId_eq (h : q.notice? config = some n.options) {channel : String}
    (hchannel : q.channel? = some channel) : n.options.target.teamId = q.teamId := by
  obtain ⟨-, hoptions⟩ | ⟨hkind, -⟩ := notice?_cases h
  · rw [hoptions]
    rfl
  · rw [channel?, hkind] at hchannel
    cases hchannel

/-- The notification of a payload leads to the page that the payload says. -/
theorem page_eq (h : q.notice? config = some n.options) : n.page = q.page config := by
  obtain ⟨hkind, hoptions⟩ | ⟨hkind, hoptions⟩ := notice?_cases h
  · have htarget : n.options.target.redirectTo = q.channel?.elim "/" ("/_redirect/" ++ ·) := by
      rw [hoptions, channel?, hkind]
      show q.redirectTo = _
      rw [redirectTo, nonEmpty_eq_filter]
      cases q.channelId.filter (· ≠ "") <;> rfl
    have hne : q.channel?.elim "/" ("/_redirect/" ++ ·) ≠ "" := by
      cases q.channel? with
      | none => decide
      | some channel => exact fun h => absurd (String.append_eq_empty_iff.mp h).1 (by decide)
    rw [Notification.page, htarget, page, hkind]
    exact if_neg (fun h => hne (String.isEmpty_iff.mp h))
  · have htarget : n.options.target.redirectTo = config.notices.loginPath := by
      rw [hoptions]
      rfl
    rw [Notification.page, htarget, page, hkind]
    by_cases hlogin : config.notices.loginPath = "" <;> simp [hlogin]

end Payload

/-! ## What is shown -/

open Program (leaves_seq leaves_discard leaves_call leaves_of_forall)

/-- A notification was shown last, by what has happened since some moment. -/
def ShownSince (p : Platform) (title : String) (options : Options) (p' : Platform) : Prop :=
  Tidy p' ∧ ∃ n past replaced, n ∈ p'.notifications ∧ n.title = title ∧ n.options = options ∧
    p'.effects = p.effects ++ past ++ [.shown n replaced]

theorem display_shows {p p' : Platform} (htidy : Tidy p') (hpre : p.effects <+: p'.effects)
    (title : String) (options : Options) :
    (discard (Program.platform (.display title options))).Leaves
      (fun _ => ShownSince p title options) p' := by
  rw [leaves_discard, leaves_call]
  intro now
  obtain ⟨past, hpast⟩ := hpre
  refine ⟨htidy.apply (.call now (.display title options)), p'.next now title options, past,
    (p'.replacedBy options).map Notification.id, ?_, rfl, rfl, ?_⟩
  · exact List.mem_append_right _ List.mem_cons_self
  · rw [hpast]
    rfl

/-- **A message shows its notification, and so does the end of a session.** -/
theorem route_shows {w : Worker} {body : Option Bytes} {q : Payload} {options : Options}
    (hdecode : decode body = some q) (hnotice : q.notice? w.config = some options) {p : Platform}
    (htidy : Tidy p) : (route w.config w.hasBadge body).Leaves
      (fun _ => ShownSince p w.config.productName options) p := by
  have hroute : route w.config w.hasBadge body = routePayload w.config w.hasBadge q := by
    rw [route, hdecode]
  rw [hroute, routePayload]
  obtain ⟨hkind, rfl⟩ | ⟨hkind, rfl⟩ := Payload.notice?_cases hnotice
  · rw [hkind]
    -- What is done to the badge before only adds to the record.
    have hbadge := leaves_of_forall (P := fun p' => Tidy p' ∧ p.effects <+: p'.effects)
      (fun p' now c hbefore =>
        ⟨hbefore.1.apply (.call now c), hbefore.2.trans (p'.effects_prefix now c)⟩)
      (updateBadge w.hasBadge q) ⟨htidy, List.prefix_rfl⟩
    exact leaves_seq.mpr (hbadge.mono fun _ p' hafter => display_shows hafter.1 hafter.2 _ _)
  · rw [hkind]
    exact display_shows htidy List.prefix_rfl _ _

end Push

/-! ## Statement -/

namespace Worker

open History (Ready Sequel)
open Push (Payload)

/-- What a click on the notification of a payload does, and what is recorded of it. The notification
goes, and no other. If a window is open, the first one is told the channel that the payload leads
to, if there is one, and gets the focus; if none is open, one is opened at the page that the payload
leads to. -/
structure Followed (w : Worker) (q : Payload) (n : Notification) (p p' : Platform)
    (new : List Effect) : Prop where
  gone : p'.notifications = p.notifications.erase n
  visited : ∀ client rest, p.windows = client :: rest → p'.windows = p.windows ∧
    new = .closed n.id ::
      (q.channel?.map fun channel => Effect.posted client.id ⟨channel, q.teamId⟩).toList ++
        [.focused client.id]
  opened : p.windows = [] → ∃ client : Client, client.url = q.page w.config ∧
    p'.windows = [client] ∧ new = [.closed n.id, .opened client, .focused client.id]

/-- What becomes of a push that shows a notification, up to the click on it. -/
structure DeepLink (w : Worker) (h : Life) (body : Option Bytes) (q : Payload) : Prop where
  /-- The push can be handled. -/
  handled : ∃ new h', h.Follows w.handle (.event (.push body)) new h'
  /-- When it has been handled, the notification is displayed that the payload asks for, -/
  shown : ∀ new h', h.Follows w.handle (.event (.push body)) new h' →
    ∃ n past replaced, new = past ++ [.shown n replaced] ∧ n ∈ h'.world.platform.notifications ∧
      n.title = w.config.productName ∧ some n.options = q.notice? w.config ∧
      -- and whatever happens then, unless it closes or replaces the notification,
      ∀ xs more h₁, Sequel w.handle h' xs more h₁ → n.id ∉ more.flatMap Effect.leaves →
        -- the notification is displayed, and a click on it leads where the payload says.
        n ∈ h₁.world.platform.notifications ∧
        (∃ last h₂, h₁.Follows w.handle (.event (.click n)) last h₂) ∧
        ∀ last h₂, h₁.Follows w.handle (.event (.click n)) last h₂ →
          w.Followed q n h₁.world.platform h₂.world.platform last

/-! ## Proof -/

theorem handle_leaves_push {w : Worker} {body : Option Bytes} {p : Platform}
    {goal : Platform → Prop}
    (h : (Push.route w.config w.hasBadge body).Leaves (fun _ => goal) p) :
    (w.handle (.push body)).Leaves (fun _ => goal) p :=
  Program.leaves_seq.mpr (h.mono fun _ _ h => Program.leaves_pure.mpr h)

theorem handle_leaves_click {w : Worker} {n : Notification} {p : Platform} {goal : Platform → Prop}
    (h : n.click.Leaves (fun _ => goal) p) : (w.handle (.click n)).Leaves (fun _ => goal) p :=
  Program.leaves_seq.mpr (h.mono fun _ _ h => Program.leaves_pure.mpr h)

/-- Closing a notification takes away that one and no other. -/
theorem filter_id_eq_erase {p : Platform} (htidy : Tidy p) {n : Notification}
    (hn : n ∈ p.notifications) :
    p.notifications.filter (·.id ≠ n.id) = p.notifications.erase n := by
  have hnodup : p.notifications.Nodup := List.Nodup.of_map Notification.id htidy.nodup_ids
  rw [hnodup.erase_eq_filter]
  refine List.filter_congr fun m hm => ?_
  have hiff : m.id = n.id ↔ m = n :=
    ⟨fun hid => List.inj_on_of_nodup_map htidy.nodup_ids hm hn hid, fun h => h ▸ rfl⟩
  by_cases hmn : m = n <;> simp [hmn, hiff]

/-- A click on the notification of a payload leads where the payload says. -/
theorem followed_of_click {w : Worker} {h h' : Life} (hh : h.Ready w.handle)
    (htidy : Tidy h.world.platform) {q : Payload} {n : Notification}
    (hn : n ∈ h.world.platform.notifications) (hnotice : q.notice? w.config = some n.options)
    {new : List Effect} (hclick : h.Follows w.handle (.event (.click n)) new h') :
    w.Followed q n h.world.platform h'.world.platform new := by
  obtain ⟨-, ⟨-, hclicked⟩, hrecorded⟩ :=
    hclick.leaves hh (handle_leaves_click (Notification.click_leaves hn))
  refine ⟨hclicked.notifications.trans (filter_id_eq_erase htidy hn),
    fun client rest hwindows => ?_, fun hwindows => ?_⟩
  · obtain ⟨hsame, heffects⟩ := hclicked.visited client rest hwindows
    refine ⟨hsame, (List.append_cancel_left (hrecorded.symm.trans heffects)).trans ?_⟩
    rw [Payload.channel?_eq hnotice]
    cases hchannel : q.channel? with
    | none => rfl
    | some channel => rw [Payload.teamId_eq hnotice hchannel]
  · obtain ⟨client, hurl, hopened, heffects⟩ := hclicked.opened hwindows
    refine ⟨client, hurl.trans (Payload.page_eq hnotice), hopened, ?_⟩
    exact List.append_cancel_left (hrecorded.symm.trans heffects)

/-- **A click leads where the push has said**, whatever has happened before the push and whatever
happens in between, unless it closes or replaces the notification. -/
theorem deep_links (w : Worker) (store : Cache.Store) {before : List (Happening Event)}
    {recorded : List Effect} {h : Life}
    (hbefore : Sequel w.handle (.fresh (World.young store .empty)) before recorded h)
    {body : Option Bytes} {q : Payload} (hdecode : Push.decode body = some q)
    (hkind : q.kind = .message ∨ q.kind = .session) : w.DeepLink h body q := by
  -- Numbers are given out once, so no other notification bears the one of this push.
  obtain ⟨hready, htidy⟩ := hbefore.invariant (History.ready_fresh w.handle _)
    (P := fun _ => Tidy) .empty fun _ p op hp => hp.apply op
  obtain ⟨options, hnotice⟩ : ∃ options, q.notice? w.config = some options := by
    unfold Payload.notice?
    rcases hkind with hkind | hkind
    · exact ⟨_, by rw [hkind]⟩
    · exact ⟨_, by rw [hkind]⟩
  refine ⟨hready.exists_follows (Push.canEnd_push w body) Surroundings.reliable_calm, ?_⟩
  intro new h' hpush
  obtain ⟨hready', ⟨-, htidy', n, past, replaced, hn, htitle, rfl, heffects⟩, hrecorded⟩ :=
    hpush.leaves hready (handle_leaves_push (Push.route_shows hdecode hnotice htidy))
  refine ⟨n, past, replaced, ?_, hn, htitle, hnotice.symm, ?_⟩
  · rw [List.append_assoc] at heffects
    exact List.append_cancel_left (hrecorded.symm.trans heffects)
  intro xs more h₁ hsequel hleaves
  obtain ⟨hready₁, htidy₁, hn₁⟩ := hsequel.stays hready' htidy' hn hleaves
  have hclicks := hready₁.exists_follows (Notification.canEnd_click w n) Surroundings.reliable_calm
  refine ⟨hn₁, hclicks, ?_⟩
  exact fun last h₂ hclick => followed_of_click hready₁ htidy₁ hn₁ hnotice hclick

/-- On the local machine, where a window is open, a message leads to its channel. -/
theorem loopback_deep_link :
    let body := some (Text.utf8
      "\x7b\"data\":\x7b\"type\":\"message\",\"channel_id\":\"c1\",\"team_id\":7\x7d\x7d")
    let start : Life := .fresh (World.young .empty .empty)
    Sequel loopback.handle start [.outside (.addWindow "/")] [] (start.outside (.addWindow "/")) ∧
      ∃ q, Push.decode body = some q ∧ q.channel? = some "c1" ∧ q.teamId = some "7" ∧
        q.page loopback.config = "/_redirect/c1" ∧
        loopback.DeepLink (start.outside (.addWindow "/")) body q := by
  intro body start
  have hbefore : Sequel loopback.handle start [.outside (.addWindow "/")] []
      (start.outside (.addWindow "/")) :=
    .cons (.outside (.addWindow "/")) (.nil _)
  have hread : (Push.decode body).any (fun q => decide (q.kind = .message ∧
      q.channel? = some "c1" ∧ q.teamId = some "7" ∧
        q.page loopback.config = "/_redirect/c1")) = true := by decide +kernel
  obtain ⟨q, hdecode, hq⟩ := (Option.any_eq_true _ _).mp hread
  obtain ⟨hkind, hchannel, hteam, hpage⟩ := of_decide_eq_true hq
  exact ⟨hbefore, q, hdecode, hchannel, hteam, hpage,
    deep_links loopback .empty hbefore hdecode (.inl hkind)⟩

end Worker

end ServiceWorker
