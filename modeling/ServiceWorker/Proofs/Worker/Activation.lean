import ServiceWorker.Proofs.Worker.LifecycleLaw

/-!
# How often a worker is activated

An activation that begins claims the open windows, and the worker is active only when that has been
done. Until then another activation may begin as well, and then both claim the windows. Once one has
ended, no other begins any more: it does nothing but look at the phase.

## Main definitions

* `Worker.Activation`: how far an activation can have come, and by which deeds
* `Worker.Began`, `Worker.UnderWay`: an activation that has begun, and one that has not ended yet
* `Worker.ActivationLaw`: what activations do in a life

## Main results

* `Worker.Steady.began_step`: an activation begins only while the worker is activating
* `Worker.Steady.active_of_ended`: when an activation that has begun has ended the worker is active
* `Worker.activation_law`: every life keeps to the law
-/

namespace ServiceWorker

namespace Worker

variable {w : Worker} {h : Life} {i j : Nat} {ds : List Deed}
  {p : Program (Except Failure Outcome)}

/-! ## How far an activation has come -/

/-- How far an activation can have come, and by which deeds. -/
inductive Activation (w : Worker) : List Deed → Program (Except Failure Outcome) → Prop
  | fresh : Activation w [] (w.handle .activate)
  | looked (phase : Phase) : Activation w [.act .phase phase] begin
  | superfluous : Activation w [.act .phase .active] (.done (.ok .done))
  | refused (phase : Phase) (error : BadTransition) :
      Activation w [.act .phase phase, .act .beginActivation (.error error)] (.done (.ok .done))
  | claiming (phase : Phase) :
      Activation w [.act .phase phase, .act .beginActivation (.ok ())] claiming
  | claimed (phase : Phase) (reply : Wait.Reply (.platform .claim)) :
      Activation w [.act .phase phase, .act .beginActivation (.ok ()),
        .wait (.platform .claim) reply] claimed
  | ended (phase : Phase) (reply : Wait.Reply (.platform .claim))
      (moved : Act.Reply (.moveTo .active)) :
      Activation w [.act .phase phase, .act .beginActivation (.ok ()),
        .wait (.platform .claim) reply, .act (.moveTo .active) moved] (.done (.ok .done))

/-- What is left of an activation when it claims the windows. -/
theorem activation_of_claiming {phase : Phase} {ds : List Deed}
    (h : claiming.Path ds p) :
    Activation w (.act .phase phase :: .act .beginActivation (.ok ()) :: ds) p := by
  cases h with
  | stay => exact .claiming phase
  | wait fits rest =>
    cases rest with
    | stay => exact .claimed phase _
    | act rest =>
      cases rest with
      | stay => exact .ended phase _ _

/-- **How far an activation has come** is told by its deeds. -/
theorem activation_of_path (h : (w.handle .activate).Path ds p) : Activation w ds p := by
  rw [handle_activate] at h
  cases h with
  | stay => exact w.handle_activate ▸ .fresh
  | @act _ _ phase _ _ rest =>
    by_cases hactive : phase = .active
    · subst hactive
      cases rest with
      | stay => exact .superfluous
    · rename_i ds
      have hbegin : begin.Path ds p := by
        cases phase with
        | active => exact absurd rfl hactive
        | _ => exact rest
      cases hbegin with
      | stay => exact .looked phase
      | @act _ _ reply _ _ rest =>
        rcases reply with error | _
        · cases rest with
          | stay => exact .refused phase error
        · exact activation_of_claiming rest

/-! ## Statement -/

/-- An activation has begun. -/
def Began (h : Life) (i : Nat) : Prop :=
  .act .beginActivation (.ok ()) ∈ h.deeds i

/-- An activation has begun and not ended. -/
def UnderWay (h : Life) (i : Nat) : Prop :=
  Began h i ∧ h.result? i = none

/-- A task has called for the windows to be claimed, be it that it still waits for it. -/
def CallsClaim (h : Life) (i : Nat) : Prop :=
  (∃ reply, .wait (.platform .claim) reply ∈ h.deeds i) ∨
    ∃ next, h.task? i = some (.wait (.platform .claim) next)

/-- What activations do in a life. -/
structure ActivationLaw (w : Worker) (start : World) (turns : Turns Event) : Prop where
  /-- Only activations that have begun claim the windows, -/
  calls : ∀ i, CallsClaim (w.life start turns) i →
    (w.life start turns).causes[i]? = some .activate ∧ Began (w.life start turns) i
  /-- and each of them does so once. -/
  once : ∀ past e future, (w.life start turns).log = past ++ e :: future →
    ∀ reply, e.deed = .wait (.platform .claim) reply →
      ∀ e' ∈ past, e'.task = e.task → ∀ reply', e'.deed ≠ .wait (.platform .claim) reply'
  /-- An activation that has not begun calls nothing, and leaves the world as it is. -/
  idle : ∀ i, (w.life start turns).causes[i]? = some .activate → ¬Began (w.life start turns) i →
    ∀ e ∈ (w.life start turns).log, e.task = i →
      (∃ a reply, e.deed = .act a reply) ∧ e.after = e.before
  /-- Once an activation has begun and ended, no other begins. -/
  settled : ∀ before after, turns = before ++ after →
    (∃ j, Began (w.life start before) j ∧ (w.life start before).result? j ≠ none) →
    ∀ i, Began (w.life start turns) i → Began (w.life start before) i
  /-- If two activations have begun, they were under way at the same time. -/
  surplus : (∃ i j, i ≠ j ∧ Began (w.life start turns) i ∧ Began (w.life start turns) j) ↔
    ∃ before after, turns = before ++ after ∧ ∃ i j, i ≠ j ∧
      UnderWay (w.life start before) i ∧ UnderWay (w.life start before) j

/-! ## Proof -/

/-- An activation that has claimed the windows, or is about to, has begun. -/
theorem Activation.began_of_claim (ha : Activation w ds p)
    (hclaim : (∃ reply, .wait (.platform .claim) reply ∈ ds) ∨
      ∃ next, p = .wait (.platform .claim) next) : .act .beginActivation (.ok ()) ∈ ds := by
  cases ha with
  | fresh =>
    rw [handle_activate] at hclaim
    simp at hclaim
  | looked phase => simp [begin] at hclaim
  | superfluous => simp at hclaim
  | refused phase error => simp at hclaim
  | claiming phase => simp
  | claimed phase reply => simp
  | ended phase reply moved => simp

/-- An activation that has begun and ended has claimed the windows. -/
theorem Activation.claim_of_ended {result : Except Failure Outcome}
    (ha : Activation w ds (.done result)) (hbegan : .act .beginActivation (.ok ()) ∈ ds) :
    ∃ reply, .wait (.platform .claim) reply ∈ ds := by
  generalize hp : (Program.done result : Program (Except Failure Outcome)) = p at ha
  cases ha with
  | fresh => cases hbegan
  | looked phase => simp at hbegan
  | superfluous => simp at hbegan
  | refused phase error => simp at hbegan
  | claiming phase => cases hp
  | claimed phase reply => cases hp
  | ended phase reply moved => exact ⟨reply, by simp⟩

/-- An activation that has not begun has looked at the phase at most, and been refused. -/
theorem Activation.deeds_of_not_began (ha : Activation w ds p)
    (hnot : .act .beginActivation (.ok ()) ∉ ds) {d : Deed} (hd : d ∈ ds) :
    (∃ phase, d = .act .phase phase) ∨ ∃ error, d = .act .beginActivation (.error error) := by
  cases ha with
  | fresh => cases hd
  | looked phase => exact .inl ⟨phase, List.mem_singleton.mp hd⟩
  | superfluous => exact .inl ⟨.active, List.mem_singleton.mp hd⟩
  | refused phase error =>
    rcases List.mem_cons.mp hd with rfl | hd
    · exact .inl ⟨phase, rfl⟩
    · exact .inr ⟨error, List.mem_singleton.mp hd⟩
  | claiming phase => exact absurd (by simp) hnot
  | claimed phase reply => exact absurd (by simp) hnot
  | ended phase reply moved => exact absurd (by simp) hnot

theorem activation_of_task (hproper : h.Proper w.handle) (hevent : h.causes[i]? = some .activate)
    (hp : h.task? i = some p) : Activation w (h.deeds i) p :=
  activation_of_path (hproper.path i _ p hevent hp)

theorem activate_of_began (hproper : h.Proper w.handle) (hbegan : Began h i) :
    h.causes[i]? = some .activate := by
  obtain ⟨event, past, hevent, hallows⟩ := hproper.exists_cause_of_mem w.handle_keeps hbegan
  rw [hevent, activate_of_begin hallows]

/-- What has begun stays so. -/
theorem Began.step (hbegan : Began h i) (x : Surroundings × Turn Event) :
    Began (h.step w.handle x) i := by
  rw [Began, History.deeds, History.step_log, deedsOf_append]
  exact List.mem_append_left _ hbegan

namespace Steady

/-- **When an activation that has begun has ended, the worker is active.** -/
theorem active_of_ended (hs : w.Steady h) (hbegan : Began h i) (hended : h.result? i ≠ none) :
    phaseOf h = .active := by
  have hevent := activate_of_began hs.proper hbegan
  obtain ⟨result, hresult⟩ := Option.ne_none_iff_exists'.mp hended
  have hp := History.task_of_result hresult
  -- It has claimed the windows on its way, and no task that has done so can end before it has moved
  -- the worker on.
  obtain ⟨reply, hclaim⟩ := (activation_of_task hs.proper hevent hp).claim_of_ended hbegan
  have hstands := hs.stands i _ _ hevent hp
  generalize hq : (Program.done result : Program (Except Failure Outcome)) = q at hstands
  generalize h.deeds i = ds at hclaim hstands
  cases hstands with
  | fresh => cases hclaim
  | claiming hphase hnot => cases hq
  | claimed hphase hclaimed => cases hq
  | quiet hevent hactive hquiet => exact hactive reply hclaim

/-- **An activation begins only while the worker is activating**, and then it is under way. -/
theorem began_step (hs : w.Steady h) {x : Surroundings × Turn Event}
    (hbegan : Began (h.step w.handle x) i) (hnot : ¬Began h i) :
    phaseOf h = .activating ∧ x.2 = .settle i ∧ UnderWay (h.step w.handle x) i := by
  have hevent' := activate_of_began (hs.proper.step x) hbegan
  obtain ⟨env, turn⟩ := x
  have hnew : .act .beginActivation (.ok ()) ∈ deedsOf i (h.entries w.handle (env, turn)) := by
    rw [Began, History.deeds, History.step_log, deedsOf_append] at hbegan
    exact (List.mem_append.mp hbegan).resolve_left hnot
  obtain ⟨e, he, htask, hdeed⟩ := mem_deedsOf.mp hnew
  -- To begin is an act, so it is neither done on arrival nor at the end of a wait.
  cases turn with
  | arrive cause => cases he
  | wake j ticket =>
    exfalso
    cases hp : h.task? j with
    | none =>
      rw [History.entries_of_none w.handle hp (.inr ⟨ticket, rfl⟩)] at he
      cases he
    | some p =>
      have hgoes := History.goes_wake w.handle hp env ticket
      rw [List.append_cancel_left hgoes.log] at he
      obtain ⟨t, reply, hwait⟩ := Program.exists_wait_of_mem_wakes he
      rw [hwait] at hdeed
      cases hdeed
  | settle j =>
    cases hp : h.task? j with
    | none =>
      rw [History.entries_of_none w.handle hp (.inl rfl)] at he
      cases he
    | some p =>
      have hgoes := History.goes_settle w.handle hp env
      rw [List.append_cancel_left hgoes.log] at he
      obtain rfl : j = i := (Program.task_of_mem_acts he).symm.trans htask
      have hevent : h.causes[j]? = some .activate := hgoes.causes ▸ hevent'
      have hmem : .act .beginActivation (.ok ()) ∈ (p.acts env j h.world).map Entry.deed :=
        List.mem_map.mpr ⟨e, he, hdeed⟩
      have hafter := activation_of_task (hs.proper.step _) hevent' hgoes.task
      have hprogress := hs.progress hp hevent env
      generalize hq : (p.settle env h.world).1 = q at hprogress hafter hgoes
      generalize hds : h.deeds j = ds at hprogress
      cases hprogress with
      | began hlifecycle hphase hclaim hclaiming =>
        refine ⟨hphase, rfl, hbegan, ?_⟩
        rw [History.result?, hgoes.task, hclaiming]
        rfl
      | ignored hlifecycle hclaim hdone =>
        -- It would have claimed the windows on the way.
        exfalso
        rw [hdone] at hafter
        obtain ⟨reply, hreply⟩ := hafter.claim_of_ended hbegan
        rw [hgoes.deeds, hds] at hreply
        exact hclaim reply hreply
      | activated hphase hclaimed hactive hclaim hdone =>
        have hcourse := activation_of_task hs.proper hevent hp
        exact absurd (hcourse.began_of_claim (.inl (hds ▸ hclaimed))) hnot
      | quiet hlifecycle hquiet hstands =>
        have hno := hquiet e he
        rw [hdeed] at hno
        exact hno.elim

/-- An activation that begins after another finds that one under way: the worker is activating, so
the earlier one has not ended. -/
theorem underWay_step (hs : w.Steady h) {x : Surroundings × Turn Event} (hij : i ≠ j)
    (hi : Began (h.step w.handle x) i) (hnot : ¬Began h i) (hj : Began h j) :
    UnderWay (h.step w.handle x) i ∧ UnderWay (h.step w.handle x) j := by
  obtain ⟨hactivating, hsettle, hunder⟩ := hs.began_step hi hnot
  refine ⟨hunder, hj.step x, ?_⟩
  have hevent := activate_of_began (hs.proper.step x) hi
  obtain ⟨env, turn⟩ := x
  obtain rfl : turn = .settle i := hsettle
  have hcauses : h.causes ++ (Turn.settle i : Turn Event).causes = h.causes := List.append_nil _
  rw [History.step_causes, hcauses] at hevent
  obtain ⟨p, hp⟩ := hs.proper.exists_task hevent
  have hsame : (h.step w.handle (env, .settle i)).result? j = h.result? j := by
    rw [History.result?, ((History.goes_settle w.handle hp env).others j (Ne.symm hij)).1,
      History.result?]
  rw [hsame]
  by_contra hended
  rw [hs.active_of_ended hj hended] at hactivating
  cases hactivating

end Steady

/-- Only activations that have begun claim the windows. -/
theorem began_of_callsClaim (hproper : h.Proper w.handle) (hcalls : CallsClaim h i) :
    h.causes[i]? = some .activate ∧ Began h i := by
  have hallowed : ∃ event past reply, h.causes[i]? = some event ∧
      w.Allows event past (.wait (.platform .claim) reply) := by
    rcases hcalls with ⟨reply, hmem⟩ | ⟨next, hp⟩
    · obtain ⟨event, past, hevent, hallows⟩ := hproper.exists_cause_of_mem w.handle_keeps hmem
      exact ⟨event, past, reply, hevent, hallows⟩
    · have fits : Wait.Fits (.platform .claim) (.error .unavailable) := trivial
      obtain ⟨event, hevent, hallows⟩ := hproper.exists_cause_of_wait w.handle_keeps hp fits
      exact ⟨event, _, _, hevent, hallows⟩
  have hevent : h.causes[i]? = some .activate := by
    obtain ⟨event, past, reply, hevent, hallows⟩ := hallowed
    obtain ⟨rfl, -⟩ | ⟨hne, -⟩ := caller_of_allows hallows
    · exact hevent
    · exact absurd rfl hne
  obtain ⟨p, hp⟩ := hproper.exists_task hevent
  refine ⟨hevent, (activation_of_task hproper hevent hp).began_of_claim ?_⟩
  refine hcalls.imp_right fun ⟨next, hnext⟩ => ⟨next, Option.some.inj (hp.symm.trans hnext)⟩

/-- A look at the phase, or the refusal to begin, leaves the world as it is. -/
theorem after_eq_before {e : Entry} (happens : e.Happens)
    (hdeed : (∃ phase, e.deed = .act .phase phase) ∨
      ∃ error, e.deed = .act .beginActivation (.error error)) : e.after = e.before := by
  obtain ⟨env, happens⟩ := happens
  obtain ⟨phase, hdeed⟩ | ⟨error, hdeed⟩ := hdeed
  · rw [hdeed] at happens
    exact (congrArg Prod.snd happens).symm
  · rw [hdeed] at happens
    have hchange : e.before.change e.before.lifecycle.beginActivation = (.error error, e.after) :=
      happens
    cases hattempt : e.before.lifecycle.beginActivation with
    | ok l =>
      rw [hattempt] at hchange
      cases (congrArg Prod.fst hchange)
    | error error' =>
      rw [hattempt] at hchange
      exact (congrArg Prod.snd hchange).symm

variable (w) (store : Cache.Store) (platform : Platform)

/-- Once an activation has begun and ended, the worker stays active, and no other begins. -/
theorem began_of_over {before : Turns Event} (hover : ∃ j,
      Began (w.life (World.young store platform) before) j ∧
      (w.life (World.young store platform) before).result? j ≠ none) (after : Turns Event) :
    phaseOf (w.life (World.young store platform) (before ++ after)) = .active ∧
      ∀ i, Began (w.life (World.young store platform) (before ++ after)) i →
        Began (w.life (World.young store platform) before) i := by
  -- From its last phase on a worker advances no more, and to begin it would have to be activating.
  induction after using List.reverseRecOn with
  | nil =>
    rw [List.append_nil]
    obtain ⟨j, hbegan, hended⟩ := hover
    exact ⟨(w.steady_life store platform before).active_of_ended hbegan hended, fun _ h => h⟩
  | append_singleton after x ih =>
    obtain ⟨hactive, hold⟩ := ih
    have hs := w.steady_life store platform (before ++ after)
    rw [← List.append_assoc, life_append]
    constructor
    · have hadvances := hs.advances x
      rw [hactive] at hadvances
      generalize hphase : phaseOf ((w.life (World.young store platform) (before ++ after)).step
        w.handle x) = phase at hadvances
      cases hadvances with
      | stays => exact hphase
    · intro i hbegan
      by_contra hnot
      obtain ⟨hactivating, -⟩ := hs.began_step hbegan fun h => hnot (hold i h)
      rw [hactive] at hactivating
      cases hactivating

/-- If two activations have begun, both were under way when the later one had begun. -/
theorem underWay_of_began (turns : Turns Event) {i j : Nat} (hij : i ≠ j)
    (hi : Began (w.life (World.young store platform) turns) i)
    (hj : Began (w.life (World.young store platform) turns) j) :
    ∃ before after, turns = before ++ after ∧ ∃ i j, i ≠ j ∧
      UnderWay (w.life (World.young store platform) before) i ∧
      UnderWay (w.life (World.young store platform) before) j := by
  induction turns using List.reverseRecOn with
  | nil => cases hi
  | append_singleton turns x ih =>
    have hs := w.steady_life store platform turns
    have hlast : w.life (World.young store platform) (turns ++ [x]) =
        (w.life (World.young store platform) turns).step w.handle x := life_append _ _ _ _
    rw [hlast] at hi hj
    have hnow : turns ++ [x] = (turns ++ [x]) ++ [] := (List.append_nil _).symm
    -- Either both had begun before, or the one that begins last meets the other.
    by_cases hiold : Began (w.life (World.young store platform) turns) i
    · by_cases hjold : Began (w.life (World.young store platform) turns) j
      · obtain ⟨before, after, rfl, htwo⟩ := ih hiold hjold
        exact ⟨before, after ++ [x], List.append_assoc _ _ _, htwo⟩
      · have hji := Ne.symm hij
        exact ⟨_, [], hnow, j, i, hji, hlast ▸ hs.underWay_step hji hj hjold hiold⟩
    · by_cases hjold : Began (w.life (World.young store platform) turns) j
      · exact ⟨_, [], hnow, i, j, hij, hlast ▸ hs.underWay_step hij hi hiold hjold⟩
      · -- Only one task goes on in a turn.
        have hi := (hs.began_step hi hiold).2.1
        have hj := (hs.began_step hj hjold).2.1
        exact absurd (Turn.settle.inj (hi.symm.trans hj)) hij

/-- **Every life keeps to the law of activation.** -/
theorem activation_law (turns : Turns Event) :
    w.ActivationLaw (World.young store platform) turns where
  calls i hcalls := began_of_callsClaim (w.proper_life _ turns) hcalls
  once past e future hlog reply hdeed e' he' htask reply' hdeed' := by
    have hcalls : CallsClaim (w.life (World.young store platform) turns) e.task :=
      .inl ⟨reply, mem_deedsOf.mpr ⟨e, by rw [hlog]; simp, rfl, hdeed⟩⟩
    obtain ⟨hevent, -⟩ := began_of_callsClaim (w.proper_life _ turns) hcalls
    have hallows := allows_of_log hlog hevent
    rw [hdeed] at hallows
    obtain ⟨-, phase, hpast⟩ := hallows
    have hmem : e'.deed ∈ deedsOf e.task past := mem_deedsOf.mpr ⟨e', he', htask, rfl⟩
    rw [hpast, hdeed'] at hmem
    simp at hmem
  idle i hevent hnot e he htask := by
    subst htask
    obtain ⟨p, hp⟩ := (w.proper_life _ turns).exists_task hevent
    have hdeed := (activation_of_task (w.proper_life _ turns) hevent hp).deeds_of_not_began hnot
      (mem_deedsOf.mpr ⟨e, he, rfl, rfl⟩)
    refine ⟨?_, after_eq_before ((w.linked_life _ turns).happens he) hdeed⟩
    obtain ⟨phase, hphase⟩ | ⟨error, herror⟩ := hdeed
    · exact ⟨_, phase, hphase⟩
    · exact ⟨_, _, herror⟩
  settled before after hturns hover i hbegan := by
    subst hturns
    exact (began_of_over w store platform hover after).2 i hbegan
  surplus := by
    constructor
    · rintro ⟨i, j, hij, hi, hj⟩
      exact underWay_of_began w store platform turns hij hi hj
    · rintro ⟨before, after, rfl, i, j, hij, hi, hj⟩
      refine ⟨i, j, hij, ?_, ?_⟩
      · exact (w.deeds_prefix _ before after i).subset hi.1
      · exact (w.deeds_prefix _ before after j).subset hj.1

/-- On the local machine, two activations that are handled side by side claim the windows twice. -/
theorem loopback_claims_twice :
    let turns := Turns.under (fun _ => .calm)
      [.arrive .install, .settle 0, .arrive .activate, .arrive .activate, .settle 1, .settle 2,
        .wake 1 0, .wake 2 0]
    let h := loopback.life (World.young .empty .empty) turns
    h.world.platform.effects = [.claimed, .claimed] ∧
      ¬∀ i j, CallsClaim h i → CallsClaim h j → i = j := by
  intro turns h
  refine ⟨rfl, fun hone => ?_⟩
  have hfirst : CallsClaim h 1 := .inl ⟨_, List.mem_of_getElem? (i := 2) rfl⟩
  have hsecond : CallsClaim h 2 := .inl ⟨_, List.mem_of_getElem? (i := 2) rfl⟩
  exact absurd (hone 1 2 hfirst hsecond) (by decide)

end Worker

end ServiceWorker
