import Mathlib.Data.List.Destutter
import ServiceWorker.Proofs.Worker.Lifecycle

/-!
# The law of the lifecycle

What every turn of a life may do to the lifecycle, and which phases are seen over the whole life.

## Main definitions

* `Worker.phases`: the phases that are seen between the turns of a life
* `Worker.FirstInstall`, `Worker.LaterInstall`: the first turn of an installation, before or after
  another one has begun
* `Worker.LifecycleStep`, `Worker.LifecycleLaw`: the law for a turn and for a life

## Main results

* `Worker.lifecycle_law`: every life keeps to the law
-/

namespace ServiceWorker

/-! ## The order of phases -/

namespace Phase

/-- The orders in which phases can follow on a phase. -/
def lines : Phase → List (List Phase)
  | parsed => [[parsed, activating, active], [parsed, redundant]]
  | activating => [[activating, active]]
  | active => [[active]]
  | redundant => [[redundant]]
  | _ => []

theorem lines_of_advances {a : Phase} {l : List Phase} (hvisible : a ≠ installing ∧ a ≠ waiting)
    (hchain : (a :: l).IsChain Advances) :
    ∃ line ∈ a.lines, (a :: l).destutter (· ≠ ·) <+: line := by
  induction l generalizing a with
  | nil =>
    rw [List.destutter_singleton]
    cases a with
    | parsed => exact ⟨_, List.mem_cons_self, by decide⟩
    | installing => exact absurd rfl hvisible.1
    | waiting => exact absurd rfl hvisible.2
    | activating => exact ⟨_, List.mem_cons_self, by decide⟩
    | active => exact ⟨_, List.mem_cons_self, by decide⟩
    | redundant => exact ⟨_, List.mem_cons_self, by decide⟩
  | cons b l ih =>
    obtain ⟨hab, hrest⟩ := List.isChain_cons_cons.mp hchain
    obtain ⟨line, hline, hprefix⟩ := ih (hab.visible hvisible) hrest
    rw [List.destutter_cons'] at hprefix ⊢
    -- A phase that is seen again at once adds nothing. Every other step goes on along a line.
    by_cases hne : a = b
    · subst hne
      rw [List.destutter'_cons, if_neg (by simp)]
      exact ⟨line, hline, hprefix⟩
    · rw [List.destutter'_cons, if_pos hne]
      cases hab with
      | stays => exact absurd rfl hne
      | installs =>
        obtain rfl : line = _ := List.mem_singleton.mp hline
        exact ⟨_, List.mem_cons_self, List.cons_prefix_cons.mpr ⟨rfl, hprefix⟩⟩
      | spoils =>
        obtain rfl : line = _ := List.mem_singleton.mp hline
        exact ⟨_, List.mem_cons_of_mem _ List.mem_cons_self,
          List.cons_prefix_cons.mpr ⟨rfl, hprefix⟩⟩
      | activates =>
        obtain rfl : line = _ := List.mem_singleton.mp hline
        exact ⟨_, List.mem_cons_self, List.cons_prefix_cons.mpr ⟨rfl, hprefix⟩⟩

end Phase

namespace Worker

variable {w : Worker} {h : Life} {i : Nat} {event : Event} {ds : List Deed}
  {p : Program (Except Failure Outcome)} {world : World} {phase : Phase}

/-! ## Statement -/

/-- The phases that are seen between the turns of a life. -/
def phases (w : Worker) (start : World) (turns : Turns Event) : List Phase :=
  (turns.scanl (History.step w.handle) (History.fresh start)).map phaseOf

/-- An installation that is about to begin before any other has begun. -/
def FirstInstall (h : Life) (i : Nat) : Prop :=
  h.causes[i]? = some .install ∧ ∀ j, h.causes[j]? = some .install → h.deeds j = []

/-- An installation that is about to begin after another has begun. -/
def LaterInstall (h : Life) (i : Nat) : Prop :=
  h.causes[i]? = some .install ∧ h.deeds i = [] ∧
    ∃ j, h.causes[j]? = some .install ∧ h.deeds j ≠ []

/-- What a turn may do to the lifecycle. -/
structure LifecycleStep (w : Worker) (h : Life) (env : Surroundings) (turn : Turn Event) :
    Prop where
  /-- Four phases are seen between turns. -/
  visible : phaseOf h ∈ [.parsed, .activating, .active, .redundant]
  /-- Only the first installation leads away from the first phase. -/
  leaves_parsed : phaseOf h = .parsed → phaseOf (h.step w.handle (env, turn)) ≠ .parsed →
    ∃ i, turn = .settle i ∧ FirstInstall h i
  /-- It lists the caches and deletes them. If all of these calls succeed, the worker is
  activating and no cache is left of those that were listed, -/
  installs : ∀ i, turn = .settle i → FirstInstall h i →
    (∀ e ∈ h.entries w.handle (env, turn), e.deed.fails = false) →
    phaseOf h = .parsed ∧ phaseOf (h.step w.handle (env, turn)) = .activating ∧
      (h.step w.handle (env, turn)).world.store =
        h.world.store.names.foldl Cache.Store.delete h.world.store
  /-- and if one of them fails, the worker is redundant and the installation returns an error. -/
  spoils : ∀ i, turn = .settle i → FirstInstall h i →
    (∃ e ∈ h.entries w.handle (env, turn), e.deed.fails = true) →
    phaseOf h = .parsed ∧ phaseOf (h.step w.handle (env, turn)) = .redundant ∧
      ∃ failure, (h.step w.handle (env, turn)).result? i = some (.error (.flush failure))
  /-- These are all calls to the store that it makes in this turn. -/
  calls : ∀ i, turn = .settle i → FirstInstall h i →
    ∀ e ∈ h.entries w.handle (env, turn), ∀ call reply, e.deed = .act (.store call) reply →
      call = .names ∨ ∃ name, call = .delete name
  /-- A later installation returns an error and changes nothing in the world. -/
  refuses : ∀ i, turn = .settle i → LaterInstall h i →
    (h.step w.handle (env, turn)).world = h.world ∧
      (h.step w.handle (env, turn)).result? i =
        some (.error (.transition ⟨phaseOf h, .installing⟩))
  /-- Every other change is from activating to active, by an activation that has waited for the
  windows to be claimed. -/
  leaves_other : phaseOf h ≠ .parsed → phaseOf (h.step w.handle (env, turn)) ≠ phaseOf h →
    phaseOf h = .activating ∧ phaseOf (h.step w.handle (env, turn)) = .active ∧
      ∃ i, turn = .settle i ∧ h.causes[i]? = some .activate ∧
        ∃ reply, .wait (.platform .claim) reply ∈ h.deeds i
  /-- An activation that begins while the worker is activating waits for the windows to be
  claimed, -/
  begins : ∀ i, turn = .settle i → h.causes[i]? = some .activate → h.deeds i = [] →
    phaseOf h = .activating → (h.step w.handle (env, turn)).world = h.world ∧
      ∃ next, (h.step w.handle (env, turn)).task? i = some (.wait (.platform .claim) next)
  /-- and one that begins in any other phase ends at once and changes nothing. -/
  ignores : ∀ i, turn = .settle i → h.causes[i]? = some .activate → h.deeds i = [] →
    phaseOf h ≠ .activating → (h.step w.handle (env, turn)).world = h.world ∧
      (h.step w.handle (env, turn)).result? i = some (.ok .done)
  /-- An activation that has waited makes the worker active, whether the windows could be claimed or
  not. -/
  activates : ∀ i reply, turn = .settle i → h.causes[i]? = some .activate →
    .wait (.platform .claim) reply ∈ h.deeds i →
    phaseOf (h.step w.handle (env, turn)) = .active
  /-- Windows are claimed only while the worker is activating or active, -/
  claims : ∀ e ∈ h.entries w.handle (env, turn), ∀ reply,
    e.deed = .wait (.platform .claim) reply → phaseOf h = .activating ∨ phaseOf h = .active
  /-- and no handler waits for it in any other phase. -/
  awaits : ∀ i next, h.task? i = some (.wait (.platform .claim) next) →
    phaseOf h = .activating ∨ phaseOf h = .active

/-- What a life does to the lifecycle. -/
structure LifecycleLaw (w : Worker) (start : World) (turns : Turns Event) : Prop where
  /-- No phase is seen again after another one. -/
  order : (w.phases start turns).destutter (· ≠ ·) <+: [.parsed, .activating, .active] ∨
    (w.phases start turns).destutter (· ≠ ·) <+: [.parsed, .redundant]
  /-- Every turn keeps to the law for turns. -/
  step : ∀ before env turn after, turns = before ++ (env, turn) :: after →
    w.LifecycleStep (w.life start before) env turn
  /-- Only installations fail: the first one, after a call to the store has failed, and every one
  that begins after another. -/
  errors : ∀ i failure, (w.life start turns).result? i = some (.error failure) →
    (w.life start turns).causes[i]? = some .install ∧
      ((∃ f, failure = .flush f ∧ phaseOf (w.life start turns) = .redundant ∧
          ∃ d ∈ (w.life start turns).deeds i, d.fails = true) ∨
        ∃ source j, failure = .transition ⟨source, .installing⟩ ∧ j ≠ i ∧
          (w.life start turns).causes[j]? = some .install ∧
          (w.life start turns).deeds i =
            [.act (.moveTo .installing) (.error ⟨source, .installing⟩)] ∧
          .act (.moveTo .installing) (.ok ()) ∈ (w.life start turns).deeds j)

/-! ## Proof -/

/-- While a worker is in its first phase no installation has begun. -/
theorem Stands.fresh_of_parsed (hs : w.Stands .parsed .install ds p) : ds = [] := by
  cases hs with
  | fresh => rfl
  | installed hphase => simp at hphase
  | spoilt failure hphase => cases hphase
  | refused source hphase => exact absurd rfl hphase
  | quiet hevent => exact absurd rfl hevent

/-- Only installations end with an error. -/
theorem Stands.of_error {failure : Failure}
    (hs : w.Stands phase event ds (.done (.error failure))) :
    event = .install ∧ ((∃ f, failure = .flush f ∧ phase = .redundant ∧
        ∃ d ∈ ds, d.fails = true) ∨
      ∃ source, failure = .transition ⟨source, .installing⟩ ∧ phase ≠ .parsed ∧
        ds = [.act (.moveTo .installing) (.error ⟨source, .installing⟩)]) := by
  -- A quiet program ends as it should, so it is not one that ends with an error.
  have hnot : ∀ {result : Except Failure Outcome → Prop}, ¬result (.error failure) →
      ¬(Program.done (.error failure) : Program (Except Failure Outcome)).Quiet result :=
    fun hno ⟨past, hkeeps⟩ => hno (Program.keeps_done.mp hkeeps)
  generalize hp : (Program.done (.error failure) : Program (Except Failure Outcome)) = p at hs hnot
  cases hs with
  | fresh =>
    by_cases hinstall : event = .install
    · rw [hinstall, handle_install] at hp
      cases hp
    by_cases hactivate : event = .activate
    · rw [hactivate, handle_activate] at hp
      cases hp
    exact absurd (quiet_handle hinstall hactivate) (hnot (by simp))
  | installed hphase hquiet => exact absurd hquiet (hnot (by simp))
  | spoilt f hphase hfails =>
    cases hp
    exact ⟨rfl, .inl ⟨f, rfl, hphase, hfails⟩⟩
  | refused source hphase =>
    cases hp
    exact ⟨rfl, .inr ⟨source, rfl, hphase, rfl⟩⟩
  | claiming => cases hp
  | claimed => cases hp
  | quiet hevent hclaim hquiet => exact absurd hquiet (hnot (by simp))

/-- An activation that has waited for the windows to be claimed leaves the worker active. -/
theorem Stands.settle_claimed (hs : w.Stands world.lifecycle.phase .activate ds p)
    {reply : Wait.Reply (.platform .claim)} (hmem : .wait (.platform .claim) reply ∈ ds)
    (env : Surroundings) : (p.settle env world).2.lifecycle.phase = .active := by
  cases hs with
  | fresh => cases hmem
  | claiming hphase hclaim => exact absurd hmem (hclaim reply)
  | claimed hphase hclaimed =>
    rcases hphase with hphase | hphase
    all_goals
      simp [Worker.claimed, Program.settle, World.act, World.change, Lifecycle.moveTo, hphase,
        Phase.leadsTo]
  | quiet hevent hclaim hquiet =>
    rw [hquiet.lifecycle_settle]
    exact hclaim reply hmem

variable {env : Surroundings}

namespace Steady

theorem mem_visible (hs : w.Steady h) :
    phaseOf h ∈ [.parsed, .activating, .active, .redundant] := by
  obtain ⟨hinstalling, hwaiting⟩ := hs.visible
  cases hphase : phaseOf h with
  | installing => exact absurd hphase hinstalling
  | waiting => exact absurd hphase hwaiting
  | _ => simp

theorem deeds_of_parsed (hs : w.Steady h) (hparsed : phaseOf h = .parsed) {j : Nat}
    (hj : h.causes[j]? = some .install) : h.deeds j = [] := by
  obtain ⟨p, hp⟩ := hs.proper.exists_task hj
  have hstands := hs.stands j .install p hj hp
  rw [hparsed] at hstands
  exact hstands.fresh_of_parsed

theorem parsed_of_first (hs : w.Steady h) (hfirst : FirstInstall h i) : phaseOf h = .parsed := by
  by_contra hnot
  obtain ⟨j, hj, hmem⟩ := hs.begun hnot
  rw [hfirst.2 j hj] at hmem
  cases hmem

theorem not_parsed_of_later (hs : w.Steady h) (hlater : LaterInstall h i) :
    phaseOf h ≠ .parsed := by
  intro hparsed
  obtain ⟨-, -, j, hj, hdeeds⟩ := hlater
  exact hdeeds (hs.deeds_of_parsed hparsed hj)

theorem task_of_nil (hs : w.Steady h) (hevent : h.causes[i]? = some event)
    (hdeeds : h.deeds i = []) : h.task? i = some (w.handle event) := by
  obtain ⟨p, hp⟩ := hs.proper.exists_task hevent
  have hpath := hs.proper.path i event p hevent hp
  rw [hdeeds] at hpath
  rw [hp, hpath.of_nil]

/-- What the first turn of the first installation comes to. -/
theorem first (hs : w.Steady h) (hfirst : FirstInstall h i) (env : Surroundings) :
    h.Goes (h.step w.handle (env, .settle i)) i ((w.handle .install).acts env i h.world)
        ((w.handle .install).settle env h.world).1 ((w.handle .install).settle env h.world).2 ∧
      h.entries w.handle (env, .settle i) = (w.handle .install).acts env i h.world := by
  have htask := hs.task_of_nil hfirst.1 (hfirst.2 i hfirst.1)
  have hgoes := History.goes_settle w.handle htask env
  exact ⟨hgoes, List.append_cancel_left hgoes.log⟩

/-- In a turn either a handler goes on, or no more is done than that a wait ends. -/
theorem waits_or_settles (hs : w.Steady h) (env : Surroundings) (turn : Turn Event) :
    (phaseOf (h.step w.handle (env, turn)) = phaseOf h ∧
      ∀ e ∈ h.entries w.handle (env, turn), ∃ t reply, e.deed = .wait t reply) ∨
    ∃ i event p q, turn = .settle i ∧ h.causes[i]? = some event ∧ h.task? i = some p ∧
      h.entries w.handle (env, turn) = p.acts env i h.world ∧
      w.Progress h.world (h.step w.handle (env, turn)).world (h.entries w.handle (env, turn)) q
        event (h.deeds i) := by
  cases turn with
  | arrive cause => exact .inl ⟨rfl, fun e he => by cases he⟩
  | wake i ticket =>
    left
    cases hp : h.task? i with
    | none =>
      rw [History.step_of_none hp (.inr ⟨ticket, rfl⟩),
        History.entries_of_none w.handle hp (.inr ⟨ticket, rfl⟩)]
      exact ⟨rfl, fun e he => by cases he⟩
    | some p =>
      have hgoes := History.goes_wake w.handle hp env ticket
      rw [phaseOf, phaseOf, hgoes.world, (p.wake_lifecycle env ticket h.world).1,
        List.append_cancel_left hgoes.log]
      exact ⟨rfl, fun e he => Program.exists_wait_of_mem_wakes he⟩
  | settle i =>
    cases hp : h.task? i with
    | none =>
      left
      rw [History.step_of_none hp (.inl rfl), History.entries_of_none w.handle hp (.inl rfl)]
      exact ⟨rfl, fun e he => by cases he⟩
    | some p =>
      right
      obtain ⟨event, hevent⟩ := hs.exists_event hp
      have hgoes := History.goes_settle w.handle hp env
      have hentries := List.append_cancel_left hgoes.log
      have hprogress := hs.progress hp hevent env
      rw [← hgoes.world, ← hentries] at hprogress
      exact ⟨i, event, p, _, rfl, hevent, hp, hentries, hprogress⟩

/-- The phase advances in every turn. -/
theorem advances (hs : w.Steady h) (x : Surroundings × Turn Event) :
    (phaseOf h).Advances (phaseOf (h.step w.handle x)) := by
  rcases hs.waits_or_settles x.1 x.2 with ⟨heq, -⟩ | ⟨i, event, p, q, -, -, -, -, hprogress⟩
  · exact heq ▸ .stays _
  · exact hprogress.advances

/-- Caches are deleted only in the first turn of the first installation. -/
theorem first_of_delete (hs : w.Steady h) {env : Surroundings} {turn : Turn Event} {e : Entry}
    (he : e ∈ h.entries w.handle (env, turn)) {name : String}
    {reply : Except Cache.Store.Failure (Cache.Store.Call.delete name).Reply}
    (hdeed : e.deed = .act (.store (.delete name)) reply) :
    phaseOf h = .parsed ∧ ∃ i, turn = .settle i ∧ FirstInstall h i := by
  rcases hs.waits_or_settles env turn with ⟨-, hwaits⟩ | ⟨i, event, p, q, rfl, hevent, hp,
    hentries, hprogress⟩
  · obtain ⟨t, reply', hwait⟩ := hwaits e he
    rw [hwait] at hdeed
    cases hdeed
  · have hinstall : event = .install := by
      rw [hentries] at he
      obtain ⟨l, m, hacts⟩ := List.append_of_mem he
      have hkeeps := hs.proper.keeps hevent hp (w.handle_keeps event)
      have hallowed := Program.allowed_acts hkeeps hacts
      rw [hdeed] at hallowed
      exact install_of_delete hallowed
    subst hinstall
    have hparsed := hprogress.parsed_of_delete he hdeed
    exact ⟨hparsed, i, rfl, hevent, fun j hj => hs.deeds_of_parsed hparsed hj⟩

/-- In its first turn an installation lists and deletes caches, and makes no other call. -/
theorem call_of_first {e : Entry} (he : e ∈ (w.handle .install).acts env i world)
    {call : Cache.Store.Call} {reply : Except Cache.Store.Failure call.Reply}
    (hdeed : e.deed = .act (.store call) reply) :
    call = .names ∨ ∃ name, call = .delete name := by
  obtain ⟨l, m, hacts⟩ := List.append_of_mem he
  have hrule := Program.allowed_acts (w.handle_keeps .install) hacts
  rw [hdeed, List.nil_append] at hrule
  rcases hrule with ⟨_, _, heq⟩ | ⟨_, heq⟩ | ⟨_, heq⟩ | hflush | hwarm
  · cases heq
  · cases heq
  · cases heq
  · cases call with
    | names => exact .inl rfl
    | delete name => exact .inr ⟨name, rfl⟩
    | _ => exact hflush.elim
  · cases call with
    | put name key response =>
      -- An answer would have been awaited before.
      obtain ⟨-, -, r, -, -, ticket, tickets, -, hwait⟩ := hwarm
      obtain ⟨e', he', hdeed'⟩ := List.mem_map.mp hwait
      have hmem : e' ∈ (w.handle .install).acts env i world := by
        rw [hacts]
        exact List.mem_append_left _ he'
      obtain ⟨a', reply', hact⟩ := Program.exists_act_of_mem_acts hmem
      rw [hact] at hdeed'
      cases hdeed'
    | _ => exact hwarm.elim

/-- The first turn of the first installation, if no call fails. -/
theorem installs_first (hs : w.Steady h) (hfirst : FirstInstall h i)
    (hall : ∀ e ∈ h.entries w.handle (env, .settle i), e.deed.fails = false) :
    phaseOf (h.step w.handle (env, .settle i)) = .activating ∧
      (h.step w.handle (env, .settle i)).world.store =
        h.world.store.names.foldl Cache.Store.delete h.world.store := by
  have hparsed := hs.parsed_of_first hfirst
  obtain ⟨hgoes, hentries⟩ := hs.first hfirst env
  rw [hentries] at hall
  rcases w.install_first env i hparsed with hinstalled | hspoilt
  · constructor
    · exact (congrArg (·.lifecycle.phase) hgoes.world).trans hinstalled.phase
    · exact (congrArg (·.store) hgoes.world).trans hinstalled.store
  · obtain ⟨e, he, hfails⟩ := hspoilt.fails
    rw [hall e he] at hfails
    cases hfails

/-- The first turn of the first installation, if a call fails. -/
theorem spoils_first (hs : w.Steady h) (hfirst : FirstInstall h i)
    (hany : ∃ e ∈ h.entries w.handle (env, .settle i), e.deed.fails = true) :
    phaseOf (h.step w.handle (env, .settle i)) = .redundant ∧
      ∃ failure, (h.step w.handle (env, .settle i)).result? i =
        some (.error (.flush failure)) := by
  have hparsed := hs.parsed_of_first hfirst
  obtain ⟨hgoes, hentries⟩ := hs.first hfirst env
  rw [hentries] at hany
  rcases w.install_first env i hparsed with hinstalled | hspoilt
  · obtain ⟨e, he, hfails⟩ := hany
    rw [hinstalled.succeeds e he] at hfails
    cases hfails
  · obtain ⟨failure, hfailure⟩ := hspoilt.ended
    refine ⟨?_, failure, ?_⟩
    · exact (congrArg (·.lifecycle.phase) hgoes.world).trans hspoilt.phase
    · rw [History.result?, hgoes.task, hfailure]
      rfl

/-- What the first turn of an activation comes to. -/
theorem activation_begins (hs : w.Steady h) (hevent : h.causes[i]? = some .activate)
    (hdeeds : h.deeds i = []) (env : Surroundings) :
    (h.step w.handle (env, .settle i)).world = h.world ∧
      (h.step w.handle (env, .settle i)).task? i =
        some (if phaseOf h = .activating then claiming else .done (.ok .done)) := by
  have hgoes := History.goes_settle w.handle (hs.task_of_nil hevent hdeeds) env
  rw [w.settle_activate hs.visible env] at hgoes
  exact ⟨hgoes.world, hgoes.task⟩

/-- Windows are claimed only while the worker is activating or active. -/
theorem phase_of_claim (hs : w.Steady h) {turn : Turn Event} {e : Entry}
    (he : e ∈ h.entries w.handle (env, turn)) {reply : Wait.Reply (.platform .claim)}
    (hdeed : e.deed = .wait (.platform .claim) reply) :
    phaseOf h = .activating ∨ phaseOf h = .active := by
  cases turn with
  | arrive cause => cases he
  | wake i ticket =>
    cases hp : h.task? i with
    | none =>
      rw [History.entries_of_none w.handle hp (.inr ⟨ticket, rfl⟩)] at he
      cases he
    | some p =>
      obtain ⟨event, hevent⟩ := hs.exists_event hp
      have hgoes := History.goes_wake w.handle hp env ticket
      rw [List.append_cancel_left hgoes.log] at he
      exact ((hs.stands i event p hevent hp).wake env ticket i h.world).2 e he reply hdeed
  | settle i =>
    cases hp : h.task? i with
    | none =>
      rw [History.entries_of_none w.handle hp (.inl rfl)] at he
      cases he
    | some p =>
      -- A handler that goes on ends no wait.
      have hgoes := History.goes_settle w.handle hp env
      rw [List.append_cancel_left hgoes.log] at he
      obtain ⟨a, areply, hact⟩ := Program.exists_act_of_mem_acts he
      rw [hact] at hdeed
      cases hdeed

/-- **Every turn of a steady life keeps to the law.** -/
theorem law (hs : w.Steady h) (env : Surroundings) (turn : Turn Event) :
    w.LifecycleStep h env turn where
  visible := hs.mem_visible
  leaves_parsed hparsed hnot := by
    rcases hs.waits_or_settles env turn with ⟨heq, -⟩ | ⟨i, event, p, q, rfl, hevent, -, -,
      hprogress⟩
    · exact absurd (heq.trans hparsed) hnot
    · obtain ⟨rfl, -⟩ := hprogress.begun hparsed hnot
      exact ⟨i, rfl, hevent, fun j hj => hs.deeds_of_parsed hparsed hj⟩
  installs i hturn hfirst hall := by
    subst hturn
    exact ⟨hs.parsed_of_first hfirst, hs.installs_first hfirst hall⟩
  spoils i hturn hfirst hany := by
    subst hturn
    exact ⟨hs.parsed_of_first hfirst, hs.spoils_first hfirst hany⟩
  calls i hturn hfirst e he call reply hdeed := by
    subst hturn
    rw [(hs.first hfirst env).2] at he
    exact call_of_first he hdeed
  refuses i hturn hlater := by
    subst hturn
    have htask := hs.task_of_nil hlater.1 hlater.2.1
    have hgoes := History.goes_settle w.handle htask env
    have hagain := (w.install_again env i (hs.not_parsed_of_later hlater)).1
    rw [hagain] at hgoes
    rw [hgoes.world, History.result?, hgoes.task]
    exact ⟨rfl, rfl⟩
  leaves_other hnot hchange := by
    rcases hs.waits_or_settles env turn with ⟨heq, -⟩ | ⟨i, event, p, q, rfl, hevent, -, -,
      hprogress⟩
    · exact absurd heq hchange
    · obtain ⟨hactivating, hactive, rfl, hclaimed⟩ := hprogress.activated_of_change hnot hchange
      exact ⟨hactivating, hactive, i, rfl, hevent, hclaimed⟩
  begins i hturn hevent hdeeds hphase := by
    subst hturn
    obtain ⟨hworld, htask⟩ := hs.activation_begins hevent hdeeds env
    rw [if_pos hphase] at htask
    exact ⟨hworld, _, htask⟩
  ignores i hturn hevent hdeeds hphase := by
    subst hturn
    obtain ⟨hworld, htask⟩ := hs.activation_begins hevent hdeeds env
    rw [if_neg hphase] at htask
    rw [History.result?, htask]
    exact ⟨hworld, rfl⟩
  activates i reply hturn hevent hmem := by
    subst hturn
    obtain ⟨p, hp⟩ := hs.proper.exists_task hevent
    rw [phaseOf, (History.goes_settle w.handle hp env).world]
    exact (hs.stands i .activate p hevent hp).settle_claimed hmem env
  claims e he reply hdeed := hs.phase_of_claim he hdeed
  awaits i next hp := by
    obtain ⟨event, hevent⟩ := hs.exists_event hp
    exact (hs.stands i event _ hevent hp).awaits

end Steady

/-- Only an installation ends with an error: the first one, after a call to the store has failed,
and every one that begins after another. -/
theorem Steady.error_of_install {failure : Failure} (hs : w.Steady h)
    (hresult : h.result? i = some (.error failure)) :
    h.causes[i]? = some .install ∧
      ((∃ f, failure = .flush f ∧ phaseOf h = .redundant ∧ ∃ d ∈ h.deeds i, d.fails = true) ∨
        ∃ source j, failure = .transition ⟨source, .installing⟩ ∧ j ≠ i ∧
          h.causes[j]? = some .install ∧
          h.deeds i = [.act (.moveTo .installing) (.error ⟨source, .installing⟩)] ∧
          .act (.moveTo .installing) (.ok ()) ∈ h.deeds j) := by
  have hp := History.task_of_result hresult
  obtain ⟨event, hevent⟩ := hs.exists_event hp
  obtain ⟨rfl, hflush | ⟨source, rfl, hnot, hdeeds⟩⟩ := (hs.stands i event _ hevent hp).of_error
  · exact ⟨hevent, .inl hflush⟩
  · -- The worker has left its first phase, so another installation has begun.
    obtain ⟨j, hj, hmem⟩ := hs.begun hnot
    refine ⟨hevent, .inr ⟨source, j, rfl, ?_, hj, hdeeds, hmem⟩⟩
    rintro rfl
    rw [hdeeds] at hmem
    simp at hmem

/-- The phases along a run begin with the phase before it. -/
theorem exists_phases (w : Worker) (h : Life) (turns : Turns Event) :
    ∃ l, (turns.scanl (History.step w.handle) h).map phaseOf = phaseOf h :: l := by
  cases turns with
  | nil => exact ⟨[], rfl⟩
  | cons x turns =>
    rw [List.scanl_cons, List.map_cons]
    exact ⟨_, rfl⟩

/-- The phases along a run advance from one to the next. -/
theorem isChain_phases (hs : w.Steady h) (turns : Turns Event) :
    ((turns.scanl (History.step w.handle) h).map phaseOf).IsChain Phase.Advances := by
  induction turns generalizing h with
  | nil => exact List.isChain_singleton _
  | cons x turns ih =>
    have hrest := ih (hs.step x)
    obtain ⟨l, hl⟩ := exists_phases w (h.step w.handle x) turns
    rw [List.scanl_cons, List.map_cons]
    rw [hl] at hrest ⊢
    exact List.isChain_cons_cons.mpr ⟨hs.advances x, hrest⟩

/-- **The law of the lifecycle**: whatever events come in whatever order, however their handlers
take turns and whatever fails, a worker is seen to go through its phases in order, and only
installation and activation lead it on. -/
theorem lifecycle_law (w : Worker) (store : Cache.Store) (platform : Platform)
    (turns : Turns Event) : w.LifecycleLaw (World.young store platform) turns where
  order := by
    have hchain := isChain_phases (w.steady_fresh store platform) turns
    obtain ⟨l, hl⟩ := exists_phases w (.fresh (World.young store platform)) turns
    rw [hl] at hchain
    -- The first phase is parsed, so there are two lines along which the others can follow.
    have hvisible : Phase.parsed ≠ .installing ∧ Phase.parsed ≠ .waiting := ⟨nofun, nofun⟩
    obtain ⟨line, hline, hprefix⟩ := Phase.lines_of_advances hvisible hchain
    rw [phases, hl]
    rcases List.mem_cons.mp hline with rfl | hline
    · exact .inl hprefix
    · obtain rfl := List.mem_singleton.mp hline
      exact .inr hprefix
  step before env turn after _ := (w.steady_life store platform before).law env turn
  errors _ _ hresult := (w.steady_life store platform turns).error_of_install hresult

end Worker

end ServiceWorker
