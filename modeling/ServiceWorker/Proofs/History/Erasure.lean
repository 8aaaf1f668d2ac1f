import ServiceWorker.Proofs.History.Recording
import ServiceWorker.Proofs.History.Sequel

/-!
# Leaving out some of the causes

Some causes of a history can be left out, together with all turns of their tasks. If the programs
for the others see no more than a part of the world, and those that are left out do not change it,
the others do in that part just what they did before.

## Main definitions

* `Moment`, `History.pass`: a turn or something from outside, and what a history comes to by them
* `place`, `Moment.only`, `only`: what is left when some causes are left out, and the number that a
  task has then
* `Deed.Through`, `Deed.PassesBy`: deeds that see no more than a part of the world, and deeds that
  do not change it
* `Separates`: a part of the world is all that some programs see, and the others do not change it
* `History.Echoes`: a history is what is left of another

## Main results

* `History.pass_induct`: what every deed keeps, and all that happens from outside, holds throughout
* `Separates.echoes_pass`: what is left of a history is a history of what is left
-/

namespace ServiceWorker

open Platform (Operation)

variable {ι α : Type}

/-! ## Moments -/

/-- What happens next: a turn in its surroundings, or something that happens to the platform from
outside. -/
inductive Moment (ι : Type) where
  | turn (env : Surroundings) (turn : Turn ι)
  | outside (op : Operation)

/-- The causes that a moment brings. -/
def Moment.causes : Moment ι → List ι
  | turn _ t => t.causes
  | outside _ => []

/-- The surroundings of a moment are of a kind. -/
def Moment.In (kind : Surroundings → Prop) : Moment ι → Prop
  | turn env _ => kind env
  | outside _ => True

/-- The world after something has happened to the platform from outside. -/
def World.outside (w : World) (op : Operation) : World :=
  { w with platform := w.platform.apply op }

namespace History

variable (serve : ι → Program α)

/-- The history after a moment. -/
def advance (h : History ι α) : Moment ι → History ι α
  | .turn env t => h.step serve (env, t)
  | .outside op => h.outside op

/-- The history after several moments. -/
def pass (h : History ι α) (xs : List (Moment ι)) : History ι α :=
  xs.foldl (advance serve) h

@[simp] theorem pass_nil (h : History ι α) : h.pass serve [] = h := rfl

@[simp] theorem pass_cons (h : History ι α) (x : Moment ι) (xs : List (Moment ι)) :
    h.pass serve (x :: xs) = (h.advance serve x).pass serve xs := rfl

theorem pass_append (h : History ι α) (xs more : List (Moment ι)) :
    h.pass serve (xs ++ more) = (h.pass serve xs).pass serve more :=
  List.foldl_append

theorem advance_causes (h : History ι α) (x : Moment ι) :
    (h.advance serve x).causes = h.causes ++ x.causes := by
  cases x with
  | turn env t => rfl
  | outside op => exact (List.append_nil _).symm

variable {serve}

theorem Proper.advance {h : History ι α} (hh : h.Proper serve) (x : Moment ι) :
    (h.advance serve x).Proper serve := by
  cases x with
  | turn env t => exact hh.step (env, t)
  | outside op => exact ⟨hh.count, hh.path, hh.known⟩

theorem Proper.pass {h : History ι α} (hh : h.Proper serve) (xs : List (Moment ι)) :
    (h.pass serve xs).Proper serve := by
  induction xs generalizing h with
  | nil => exact hh
  | cons x xs ih => exact ih (hh.advance x)

theorem log_advance (h : History ι α) (x : Moment ι) : h.log <+: (h.advance serve x).log := by
  cases x with
  | turn env t => exact List.prefix_append _ _
  | outside op => exact List.prefix_rfl

theorem log_pass (h : History ι α) (xs : List (Moment ι)) : h.log <+: (h.pass serve xs).log := by
  induction xs generalizing h with
  | nil => exact List.prefix_rfl
  | cons x xs ih => exact (h.log_advance x).trans (ih (h.advance serve x))

section

variable {kind : Surroundings → Prop} {P : List Entry → World → Prop} {xs : List (Moment ι)}

/-- What is kept by every deed that is recorded of a history, and by all that happens from outside,
holds after further moments, where it may speak of the record so far. -/
theorem pass_induct {h : History ι α} (hxs : ∀ x ∈ xs, x.In kind) (start : P h.log h.world)
    (deed : ∀ past e, past ++ [e] <+: (h.pass serve xs).log → e.Under kind → P past e.before →
      P (past ++ [e]) e.after)
    (outside : ∀ past w op, P past w → P past (w.outside op)) :
    P (h.pass serve xs).log (h.pass serve xs).world := by
  induction xs generalizing h with
  | nil => exact start
  | cons x xs ih =>
    refine ih (fun y hy => hxs y (List.mem_cons_of_mem _ hy)) ?_ deed
    have hlater : (h.advance serve x).log <+: (h.pass serve (x :: xs)).log :=
      (h.advance serve x).log_pass xs
    cases x with
    | outside op => exact outside _ _ op start
    | turn env t =>
      refine (h.linked_step serve (env, t)).induct (P := fun new w => P (h.log ++ new) w)
        ((List.append_nil h.log).symm ▸ start) fun past e hpast _ hP => ?_
      have henv : kind env := hxs (.turn env t) List.mem_cons_self
      have hmem := hpast.subset (List.mem_append_right past (List.mem_singleton_self e))
      have hpre : h.log ++ past ++ [e] <+: (h.pass serve (.turn env t :: xs)).log := by
        rw [List.append_assoc]
        exact ((List.prefix_append_right_inj h.log).mpr hpast).trans hlater
      rw [← List.append_assoc]
      exact deed _ e hpre ⟨env, henv, happens_of_mem_entries serve hmem⟩ hP

/-- The deeds of a history have happened in the surroundings of its moments. -/
theorem under_pass (start : World) (hxs : ∀ x ∈ xs, x.In kind) :
    ∀ e ∈ ((fresh start : History ι α).pass serve xs).log, e.Under kind := by
  refine pass_induct (P := fun past _ => ∀ e ∈ past, e.Under kind) hxs
    (fun _ he => absurd he List.not_mem_nil) ?_ fun _ _ _ h => h
  intro past e _ hunder hpast f hf
  rcases List.mem_append.mp hf with hf | hf
  · exact hpast f hf
  · exact List.mem_singleton.mp hf ▸ hunder

end

end History

/-! ## What is left -/

section Only

variable (kind : ι → Bool)

/-- The number that a task has when the causes that are not of a kind are left out. -/
def place (causes : List ι) (i : Nat) : Nat :=
  (causes.take i).countP kind

/-- What is left of a moment after some causes, if anything is. -/
def Moment.only (causes : List ι) : Moment ι → Option (Moment ι)
  | turn env (.arrive cause) => if kind cause then some (turn env (.arrive cause)) else none
  | turn env (.wake i ticket) =>
    if (causes[i]?).any kind then some (turn env (.wake (place kind causes i) ticket)) else none
  | turn env (.settle i) =>
    if (causes[i]?).any kind then some (turn env (.settle (place kind causes i))) else none
  | outside op => some (outside op)

/-- What is left of moments after some causes. -/
def only (causes : List ι) : List (Moment ι) → List (Moment ι)
  | [] => []
  | x :: xs => (x.only kind causes).toList ++ only (causes ++ x.causes) xs

variable {kind} {causes : List ι} {i j : Nat} {cause : ι}

theorem place_append (hi : i ≤ causes.length) (more : List ι) :
    place kind (causes ++ more) i = place kind causes i := by
  rw [place, List.take_append_of_le_length hi, place]

theorem place_length : place kind causes causes.length = (causes.filter kind).length := by
  rw [place, List.take_length, List.countP_eq_length_filter]

theorem place_lt (hi : causes[i]? = some cause) (hkind : kind cause = true) (hij : i < j) :
    place kind causes i < place kind causes j := by
  have hsucc : place kind causes (i + 1) = place kind causes i + 1 := by
    rw [place, List.take_add_one, hi, List.countP_append, place]
    simp [hkind]
  calc place kind causes i < place kind causes (i + 1) := hsucc ▸ Nat.lt_succ_self _
    _ ≤ place kind causes j := (List.take_prefix_take_left hij).sublist.countP_le

theorem place_inj {cause' : ι} (hi : causes[i]? = some cause) (hkind : kind cause = true)
    (hj : causes[j]? = some cause') (hkind' : kind cause' = true)
    (h : place kind causes i = place kind causes j) : i = j := by
  rcases Nat.lt_trichotomy i j with hij | hij | hij
  · exact absurd h (Nat.ne_of_lt (place_lt hi hkind hij))
  · exact hij
  · exact absurd h (Nat.ne_of_gt (place_lt hj hkind' hij))

end Only

/-! ## Parts of the world -/

section Part

variable (good : Surroundings → Prop) (part : World → World)

/-- A deed sees no more than a part of the world: in worlds that agree in it, the reply is the same,
and the worlds agree afterwards. -/
def Deed.Through : Deed → Prop
  | .act a _ => ∀ env w w', part w' = part w →
    (w'.act env a).1 = (w.act env a).1 ∧ part (w'.act env a).2 = part (w.act env a).2
  | .wait t _ => ∀ env ticket w w', good env → part w' = part w →
    (w'.wake env ticket t).map (Prod.map id part) = (w.wake env ticket t).map (Prod.map id part)

/-- A deed does not change a part of the world. -/
def Deed.PassesBy : Deed → Prop
  | .act a _ => ∀ env w, part (w.act env a).2 = part w
  | .wait t _ => ∀ env ticket w, ∀ r ∈ w.wake env ticket t, part r.2 = part w

/-- An entry as it is seen in a part of the world, for a task with another number. -/
def Entry.seen (i : Nat) (e : Entry) : Entry :=
  ⟨i, e.deed, part e.before, part e.after⟩

variable {good part} {goal : List Deed → α → Prop} {past : List Deed} {p : Program α}
  {env : Surroundings} {i j : Nat} {w w' : World}

/-- A program that sees no more than a part of the world does the same in worlds that agree in
it. -/
theorem Program.settle_through (hp : p.Keeps (fun _ d => d.Through good part) goal past)
    (hpart : part w' = part w) :
    (p.settle env w').1 = (p.settle env w).1 ∧
      part (p.settle env w').2 = part (p.settle env w).2 ∧
      (p.acts env j w').map (Entry.seen part j) = (p.acts env i w).map (Entry.seen part j) := by
  induction p generalizing past w w' with
  | done a => exact ⟨rfl, hpart, rfl⟩
  | act a next ih =>
    obtain ⟨hthrough, hnext⟩ := keeps_act.mp hp (w.act env a).1
    obtain ⟨hreply, hafter⟩ := hthrough env w w' hpart
    obtain ⟨hprogram, hworld, hacts⟩ := ih (w.act env a).1 hnext hafter
    simp only [settle, acts, hreply, List.map_cons, Entry.seen, hpart, hafter]
    exact ⟨hprogram, hworld, congrArg _ hacts⟩
  | wait t next => exact ⟨rfl, hpart, rfl⟩

theorem Program.wake_through (hp : p.Keeps (fun _ d => d.Through good part) goal past)
    (henv : good env) (hpart : part w' = part w) (ticket : Ticket) :
    (p.wake env ticket w').1 = (p.wake env ticket w).1 ∧
      part (p.wake env ticket w').2 = part (p.wake env ticket w).2 ∧
      (p.wakes env ticket j w').map (Entry.seen part j) =
        (p.wakes env ticket i w).map (Entry.seen part j) := by
  cases p with
  | done a => exact ⟨rfl, hpart, rfl⟩
  | act a next => exact ⟨rfl, hpart, rfl⟩
  | wait t next =>
    -- What is known of a wait is known by each reply that fits, so one of the waits has to end.
    have hsame : (w'.wake env ticket t).map (Prod.map id part) =
        (w.wake env ticket t).map (Prod.map id part) := by
      cases ht : w.wake env ticket t with
      | some r =>
        exact ht ▸ (keeps_wait.mp hp r.1 (World.fits_of_wake ht)).1 env ticket w w' henv hpart
      | none =>
        cases ht' : w'.wake env ticket t with
        | some r =>
          rw [← ht, ← ht']
          exact (keeps_wait.mp hp r.1 (World.fits_of_wake ht')).1 env ticket w w' henv hpart
        | none => rfl
    cases ht : w.wake env ticket t with
    | none =>
      rw [ht, Option.map_none, Option.map_eq_none_iff] at hsame
      simp only [wake, wakes, ht, hsame, hpart, List.map_nil, and_self]
    | some r =>
      rw [ht, Option.map_some, Option.map_eq_some_iff] at hsame
      obtain ⟨r', ht', hr⟩ := hsame
      obtain ⟨hreply, hafter⟩ := Prod.ext_iff.mp hr
      simp only [Prod.map_fst, Prod.map_snd, id] at hreply hafter
      simp only [wake, wakes, ht, ht', hreply, hafter, hpart, Entry.seen, List.map_cons,
        List.map_nil, and_self]

/-- What a program that does not change a part of the world does in its turn does not change it. -/
theorem Program.settle_passesBy (hp : p.Keeps (fun _ d => d.PassesBy part) goal past) :
    part (p.settle env w).2 = part w ∧ ∀ e ∈ p.acts env i w, part e.after = part e.before := by
  induction p generalizing past w with
  | done a => exact ⟨rfl, fun e he => absurd he List.not_mem_nil⟩
  | act a next ih =>
    obtain ⟨hpasses, hnext⟩ := keeps_act.mp hp (w.act env a).1
    obtain ⟨hworld, hacts⟩ := ih (w.act env a).1 hnext (w := (w.act env a).2)
    exact ⟨hworld.trans (hpasses env w), List.forall_mem_cons.mpr ⟨hpasses env w, hacts⟩⟩
  | wait t next => exact ⟨rfl, fun e he => absurd he List.not_mem_nil⟩

theorem Program.wake_passesBy (hp : p.Keeps (fun _ d => d.PassesBy part) goal past)
    (ticket : Ticket) : part (p.wake env ticket w).2 = part w ∧
      ∀ e ∈ p.wakes env ticket i w, part e.after = part e.before := by
  rcases p.wakes_cases env ticket i w with hnone | ⟨t, next, reply, w', rfl, ht, hwakes, hwake⟩
  · rw [hnone, wake_of_wakes_eq_nil hnone]
    exact ⟨rfl, fun e he => absurd he List.not_mem_nil⟩
  · have hpasses := (keeps_wait.mp hp reply (World.fits_of_wake ht)).1 env ticket w _ ht
    rw [hwakes, hwake]
    exact ⟨hpasses, List.forall_mem_singleton.mpr hpasses⟩

end Part

/-! ## Echoes -/

/-- A part of the world is all that the programs for causes of a kind see, and those for all others
do not change it. What happens to the platform from outside is seen in it as far as it goes. -/
structure Separates (serve : ι → Program α) (kind : ι → Bool) (good : Surroundings → Prop)
    (part : World → World) : Prop where
  kept : ∀ cause, kind cause = true →
    (serve cause).Keeps (fun _ d => d.Through good part) (fun _ _ => True) []
  others : ∀ cause, kind cause = false →
    (serve cause).Keeps (fun _ d => d.PassesBy part) (fun _ _ => True) []
  outside : ∀ op w w', part w' = part w → part (w'.outside op) = part (w.outside op)

namespace History

/-- The entries of tasks of a kind. -/
def logOf (kind : ι → Bool) (h : History ι α) : List Entry :=
  h.log.filter fun e => (h.causes[e.task]?).any kind

/-- A history is what is left of another when the causes that are not of a kind are left out: the
tasks are the same, and so is all that is seen of their deeds in a part of the world. The others
have not changed it. -/
structure Echoes (kind : ι → Bool) (part : World → World) (h h' : History ι α) : Prop where
  causes : h'.causes = h.causes.filter kind
  task : ∀ i cause, h.causes[i]? = some cause → kind cause = true →
    h'.task? (place kind h.causes i) = h.task? i
  world : part h'.world = part h.world
  log : h'.log.map (fun e => e.seen part e.task) =
    (h.logOf kind).map fun e => e.seen part (place kind h.causes e.task)
  others : ∀ e ∈ h.log, (h.causes[e.task]?).any kind = false → part e.after = part e.before

variable {serve : ι → Program α} {kind : ι → Bool} {good : Surroundings → Prop}
  {part : World → World} {h h' k k' : History ι α} {i : Nat} {cause : ι}

theorem echoes_fresh (kind : ι → Bool) (part : World → World) (w : World) :
    (fresh w : History ι α).Echoes kind part (fresh w) where
  causes := rfl
  task i cause hi := by cases hi
  world := rfl
  log := rfl
  others e he := absurd he List.not_mem_nil

/-- When a task of the kind goes on in both histories, they stay alike. -/
theorem Echoes.goes (hh : h.Echoes kind part h') (hcause : h.causes[i]? = some cause)
    (hkind : kind cause = true) {new new' : List Entry} {q q' : Program α} {w w' : World}
    (hgoes : h.Goes k i new q w) (hgoes' : h'.Goes k' (place kind h.causes i) new' q' w')
    (hown : ∀ e ∈ new, e.task = i) (hown' : ∀ e ∈ new', e.task = place kind h.causes i)
    (hprogram : q' = q) (hworld : part w' = part w)
    (hlog : new'.map (Entry.seen part (place kind h.causes i)) =
      new.map (Entry.seen part (place kind h.causes i))) : k.Echoes kind part k' where
  causes := by rw [hgoes.causes, hgoes'.causes, hh.causes]
  task j c hc hk := by
    rw [hgoes.causes] at hc ⊢
    by_cases hji : j = i
    · subst hji
      rw [hgoes.task, hgoes'.task, hprogram]
    · have hplace : place kind h.causes j ≠ place kind h.causes i := fun heq =>
        hji (place_inj hc hk hcause hkind heq)
      rw [(hgoes.others j hji).1, (hgoes'.others _ hplace).1, hh.task j c hc hk]
  world := by rw [hgoes.world, hgoes'.world, hworld]
  log := by
    have hkept : new.filter (fun e => (h.causes[e.task]?).any kind) = new :=
      List.filter_eq_self.mpr fun e he => by rw [hown e he, hcause]; exact hkind
    rw [logOf, hgoes.causes, hgoes.log, hgoes'.log, List.filter_append, List.map_append,
      List.map_append, hkept, hh.log, logOf]
    congr 1
    rw [List.map_congr_left fun e he => by rw [hown' e he], hlog]
    exact List.map_congr_left fun e he => by rw [hown e he]
  others e he hother := by
    rw [hgoes.causes] at hother
    rcases List.mem_append.mp (hgoes.log ▸ he) with he | he
    · exact hh.others e he hother
    · rw [hown e he, hcause, Option.any_some, hkind] at hother
      cases hother

/-- When a task that is left out goes on, nothing is seen of it. -/
theorem Echoes.goes_other (hh : h.Echoes kind part h') (hcause : h.causes[i]? = some cause)
    (hkind : kind cause = false) {new : List Entry} {q : Program α} {w : World}
    (hgoes : h.Goes k i new q w) (hown : ∀ e ∈ new, e.task = i) (hworld : part w = part h.world)
    (hnew : ∀ e ∈ new, part e.after = part e.before) : k.Echoes kind part h' where
  causes := by rw [hgoes.causes, hh.causes]
  task j c hc hk := by
    rw [hgoes.causes] at hc ⊢
    have hji : j ≠ i := by
      rintro rfl
      rw [hcause] at hc
      cases hc
      rw [hkind] at hk
      cases hk
    rw [(hgoes.others j hji).1, hh.task j c hc hk]
  world := by rw [hgoes.world, hworld, hh.world]
  log := by
    have hnone : new.filter (fun e => (h.causes[e.task]?).any kind) = [] :=
      List.filter_eq_nil_iff.mpr fun e he => by
        rw [hown e he, hcause, Option.any_some, hkind]
        exact Bool.false_ne_true
    rw [logOf, hgoes.causes, hgoes.log, List.filter_append, hnone, List.append_nil, hh.log, logOf]
  others e he hother := by
    rw [hgoes.causes] at hother
    rcases List.mem_append.mp (hgoes.log ▸ he) with he | he
    · exact hh.others e he hother
    · exact hnew e he

/-! ### One moment -/

/-- Another cause does not change what is left of the record, -/
theorem Proper.log_arrive (hh : h.Proper serve) (env : Surroundings) (cause : ι) :
    ((h.step serve (env, .arrive cause)).logOf kind).map
        (fun e => e.seen part (place kind (h.causes ++ [cause]) e.task)) =
      (h.logOf kind).map fun e => e.seen part (place kind h.causes e.task) := by
  have hlogOf : (h.step serve (env, .arrive cause)).logOf kind = h.logOf kind := by
    rw [History.step, entries_arrive, List.append_nil]
    exact List.filter_congr fun e he => by rw [List.getElem?_append_left (hh.known e he)]
  rw [hlogOf]
  refine List.map_congr_left fun e he => ?_
  rw [place_append (Nat.le_of_lt (hh.known e (List.mem_filter.mp he).1))]

/-- nor what is not left of it. -/
theorem Echoes.others_arrive (hh : h.Echoes kind part h') (hproper : h.Proper serve)
    (env : Surroundings) (cause : ι) : ∀ e ∈ (h.step serve (env, .arrive cause)).log,
      ((h.causes ++ [cause])[e.task]?).any kind = false → part e.after = part e.before := by
  intro e he hother
  rw [step_log, entries_arrive, List.append_nil] at he
  rw [List.getElem?_append_left (hproper.known e he)] at hother
  exact hh.others e he hother

theorem Echoes.arrive (hh : h.Echoes kind part h') (hproper : h.Proper serve)
    (hproper' : h'.Proper serve) (env : Surroundings) (hkind : kind cause = true) :
    (h.step serve (env, .arrive cause)).Echoes kind part
      (h'.step serve (env, .arrive cause)) where
  causes := by
    rw [step_causes, step_causes, hh.causes, List.filter_append, Turn.causes,
      List.filter_cons_of_pos hkind, List.filter_nil]
  task j c hc hk := by
    have htask : ∀ (k : History ι α) l, (k.step serve (env, .arrive cause)).task? l =
        (k.system.tasks ++ [serve cause])[l]? := fun _ _ => rfl
    have hlast : place kind h.causes h.causes.length = h'.system.tasks.length := by
      rw [place_length, ← hh.causes, hproper'.count]
    rw [step_causes] at hc ⊢
    rw [htask, htask]
    rcases Nat.lt_or_ge j h.causes.length with hj | hj
    · rw [List.getElem?_append_left hj] at hc
      have hlt : place kind h.causes j < h'.system.tasks.length := hlast ▸ place_lt hc hk hj
      show (h'.system.tasks ++ _)[place kind (h.causes ++ [cause]) j]? = _
      rw [place_append (Nat.le_of_lt hj), List.getElem?_append_left hlt,
        List.getElem?_append_left (hproper.count ▸ hj)]
      exact hh.task j c hc hk
    · -- The new task is the last one in both histories.
      have hlt := (List.getElem?_eq_some_iff.mp hc).1
      rw [List.length_append] at hlt
      obtain rfl : j = h.causes.length := Nat.le_antisymm (Nat.le_of_lt_succ hlt) hj
      show (h'.system.tasks ++ _)[place kind (h.causes ++ [cause]) h.causes.length]? = _
      rw [place_append (Nat.le_refl _), hlast, List.getElem?_concat_length, ← hproper.count,
        List.getElem?_concat_length]
  world := hh.world
  log := by
    rw [step_log, entries_arrive, List.append_nil, hh.log]
    exact (hproper.log_arrive env cause).symm
  others := hh.others_arrive hproper env cause

theorem Echoes.arrive_other (hh : h.Echoes kind part h') (hproper : h.Proper serve)
    (env : Surroundings) (hkind : kind cause = false) :
    (h.step serve (env, .arrive cause)).Echoes kind part h' where
  causes := by
    rw [step_causes, hh.causes, List.filter_append, Turn.causes,
      List.filter_cons_of_neg (by simp [hkind]), List.filter_nil, List.append_nil]
  task j c hc hk := by
    obtain ⟨q, hq⟩ := (hproper.step (env, .arrive cause)).exists_task hc
    rcases task_arrive hproper hc hq with ⟨hc', hq'⟩ | ⟨rfl, -, -⟩
    · rw [step_causes]
      show h'.task? (place kind (h.causes ++ [cause]) j) = _
      rw [place_append (Nat.le_of_lt (List.getElem?_eq_some_iff.mp hc').1), hq, ← hq']
      exact hh.task j c hc' hk
    · rw [hkind] at hk
      cases hk
  world := hh.world
  log := hh.log.trans (hproper.log_arrive env cause).symm
  others := hh.others_arrive hproper env cause

theorem Echoes.outside (hh : h.Echoes kind part h') (hs : Separates serve kind good part)
    (op : Operation) : (h.outside op).Echoes kind part (h'.outside op) where
  causes := hh.causes
  task := hh.task
  world := hs.outside op _ _ hh.world
  log := hh.log
  others := hh.others

end History

open History

section

variable {serve : ι → Program α} {kind : ι → Bool} {good : Surroundings → Prop}
  {part : World → World} {h h' : History ι α}

/-- The end of a wait keeps histories alike, -/
theorem Separates.echoes_wake (hs : Separates serve kind good part) (hh : h.Echoes kind part h')
    (hproper : h.Proper serve) {env : Surroundings} (henv : good env) (i : Nat) (ticket : Ticket) :
    (h.step serve (env, .wake i ticket)).Echoes kind part
      (h'.pass serve ((Moment.turn env (.wake i ticket)).only kind h.causes).toList) := by
  cases hp : h.task? i with
  | none =>
    have hnone : h.causes[i]? = none :=
      List.getElem?_eq_none (hproper.count ▸ List.getElem?_eq_none_iff.mp hp)
    rw [step_of_none hp (.inr ⟨ticket, rfl⟩), Moment.only, hnone]
    exact hh
  | some p =>
    obtain ⟨cause, hcause⟩ := hproper.cause_of_task hp
    cases hkind : kind cause with
    | true =>
      rw [Moment.only, hcause, Option.any_some, if_pos hkind]
      have hp' := (hh.task i cause hcause hkind).trans hp
      obtain ⟨hprogram, hworld, hlog⟩ := Program.wake_through (i := i)
        (j := place kind h.causes i) (hproper.keeps hcause hp (hs.kept cause hkind)) henv hh.world
        ticket
      exact hh.goes hcause hkind (goes_wake serve hp env ticket) (goes_wake serve hp' env ticket)
        (fun _ => Program.task_of_mem_wakes) (fun _ => Program.task_of_mem_wakes) hprogram hworld
        hlog
    | false =>
      rw [Moment.only, hcause, Option.any_some, if_neg (by simp [hkind])]
      obtain ⟨hworld, hnew⟩ := Program.wake_passesBy (i := i)
        (hproper.keeps hcause hp (hs.others cause hkind)) ticket
      exact hh.goes_other hcause hkind (goes_wake serve hp env ticket)
        (fun _ => Program.task_of_mem_wakes) hworld hnew

/-- and so does the going on of a task. -/
theorem Separates.echoes_settle (hs : Separates serve kind good part) (hh : h.Echoes kind part h')
    (hproper : h.Proper serve) (env : Surroundings) (i : Nat) :
    (h.step serve (env, .settle i)).Echoes kind part
      (h'.pass serve ((Moment.turn env (.settle i)).only kind h.causes).toList) := by
  cases hp : h.task? i with
  | none =>
    have hnone : h.causes[i]? = none :=
      List.getElem?_eq_none (hproper.count ▸ List.getElem?_eq_none_iff.mp hp)
    rw [step_of_none hp (.inl rfl), Moment.only, hnone]
    exact hh
  | some p =>
    obtain ⟨cause, hcause⟩ := hproper.cause_of_task hp
    cases hkind : kind cause with
    | true =>
      rw [Moment.only, hcause, Option.any_some, if_pos hkind]
      have hp' := (hh.task i cause hcause hkind).trans hp
      obtain ⟨hprogram, hworld, hlog⟩ := Program.settle_through (i := i)
        (j := place kind h.causes i) (hproper.keeps hcause hp (hs.kept cause hkind)) hh.world
      exact hh.goes hcause hkind (goes_settle serve hp env) (goes_settle serve hp' env)
        (fun _ => Program.task_of_mem_acts) (fun _ => Program.task_of_mem_acts) hprogram hworld hlog
    | false =>
      rw [Moment.only, hcause, Option.any_some, if_neg (by simp [hkind])]
      obtain ⟨hworld, hnew⟩ := Program.settle_passesBy (i := i)
        (hproper.keeps hcause hp (hs.others cause hkind))
      exact hh.goes_other hcause hkind (goes_settle serve hp env)
        (fun _ => Program.task_of_mem_acts) hworld hnew

/-- What is left of a moment keeps histories alike. -/
theorem Separates.echoes_advance (hs : Separates serve kind good part)
    (hh : h.Echoes kind part h') (hproper : h.Proper serve) (hproper' : h'.Proper serve)
    {x : Moment ι} (hx : x.In good) :
    (h.advance serve x).Echoes kind part (h'.pass serve (x.only kind h.causes).toList) := by
  cases x with
  | outside op => exact hh.outside hs op
  | turn env t =>
    cases t with
    | arrive cause =>
      cases hkind : kind cause with
      | true =>
        rw [Moment.only, if_pos hkind]
        exact hh.arrive hproper hproper' env hkind
      | false =>
        rw [Moment.only, if_neg (by simp [hkind])]
        exact hh.arrive_other hproper env hkind
    | wake i ticket => exact hs.echoes_wake hh hproper hx i ticket
    | settle i => exact hs.echoes_settle hh hproper env i

/-- **What is left of a history is a history of what is left.** -/
theorem Separates.echoes_pass (hs : Separates serve kind good part) (start : World)
    {xs : List (Moment ι)} (hxs : ∀ x ∈ xs, x.In good) :
    ((fresh start).pass serve xs).Echoes kind part
      ((fresh start).pass serve (only kind [] xs)) := by
  suffices general : ∀ h h' : History ι α, h.Echoes kind part h' → h.Proper serve →
      h'.Proper serve → (h.pass serve xs).Echoes kind part
        (h'.pass serve (only kind h.causes xs)) from
    general _ _ (echoes_fresh kind part start) (proper_fresh serve start)
      (proper_fresh serve start)
  induction xs with
  | nil => exact fun h h' hh _ _ => hh
  | cons x xs ih =>
    obtain ⟨hx, hrest⟩ := List.forall_mem_cons.mp hxs
    intro h h' hh hproper hproper'
    have hnext := hs.echoes_advance hh hproper hproper' hx
    have := ih hrest _ _ hnext (hproper.advance x) (hproper'.pass _)
    rw [advance_causes] at this
    rw [pass_cons, only, pass_append]
    exact this

end

end ServiceWorker
