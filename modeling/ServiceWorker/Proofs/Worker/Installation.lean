import ServiceWorker.Proofs.History.Turning
import ServiceWorker.Proofs.Worker.Life

/-!
# The first turn of an installation

An installation deletes every cache in its first turn, without a chance for anything to come in
between. If that fails the worker is redundant, and else it is activating; the loading that follows
is quiet and cannot fail.

## Main definitions

* `Deed.fails`: a call to the store that fails
* `Deed.Quiet`, `Program.Quiet`: what neither touches the lifecycle nor deletes nor claims windows
* `Worker.Installed`, `Worker.Spoilt`: what the first turn of an installation comes to

## Main results

* `Worker.install_first`: the first installation comes to one of the two
* `Worker.install_again`: every later one does nothing
-/

namespace ServiceWorker

open Cache (Store)

/-! ## Deeds -/

/-- A call to the store that fails. -/
def Deed.fails : Deed → Bool
  | .act (.store _) (.error _) => true
  | _ => false

/-- What neither touches the lifecycle nor deletes nor claims windows. -/
def Deed.Quiet : Deed → Prop
  | .act (.moveTo _) _ => False
  | .act .skipWaiting _ => False
  | .act .installed _ => False
  | .act .beginActivation _ => False
  | .act (.store .names) _ => False
  | .act (.store (.delete _)) _ => False
  | .wait (.platform call) _ => call ≠ .claim
  | _ => True

theorem Deed.Quiet.lifecycle_eq {d : Deed} (h : d.Quiet) {l l' : Lifecycle}
    (hl : d.OnLifecycle l l') : l' = l := by
  unfold Deed.OnLifecycle at hl
  split at hl
  · exact hl.2
  · exact h.elim
  · exact h.elim
  · exact h.elim
  · exact h.elim
  · exact hl

/-- A program that stays quiet, and whose result meets a condition. -/
def Program.Quiet {α : Type} (p : Program α) (result : α → Prop) : Prop :=
  ∃ past, p.Keeps (fun _ => Deed.Quiet) (fun _ => result) past

namespace Program

variable {α : Type} {p : Program α} {result : α → Prop} {env : Surroundings} {i : Nat}
  {world : World}

theorem Quiet.mem_acts (h : p.Quiet result) {e : Entry} (he : e ∈ p.acts env i world) :
    e.deed.Quiet := by
  obtain ⟨past, hkeeps⟩ := h
  exact forall_acts hkeeps e he

theorem Quiet.mem_wakes (h : p.Quiet result) {ticket : Ticket} {e : Entry}
    (he : e ∈ p.wakes env ticket i world) : e.deed.Quiet := by
  obtain ⟨past, hkeeps⟩ := h
  obtain ⟨l, m, hwakes⟩ := List.append_of_mem he
  have hpath := path_wakes env ticket i p world
  rw [hwakes, List.map_append, List.map_cons] at hpath
  exact hpath.allowed hkeeps

theorem Quiet.settle (h : p.Quiet result) (env : Surroundings) (world : World) :
    (p.settle env world).1.Quiet result := by
  obtain ⟨past, hkeeps⟩ := h
  exact ⟨_, keeps_settle hkeeps env 0 world⟩

theorem Quiet.wake (h : p.Quiet result) (env : Surroundings) (ticket : Ticket) (world : World) :
    (p.wake env ticket world).1.Quiet result := by
  obtain ⟨past, hkeeps⟩ := h
  exact ⟨_, keeps_wake hkeeps env ticket 0 world⟩

/-- A quiet program leaves the lifecycle as it is. -/
theorem Quiet.lifecycle_settle (h : p.Quiet result) (env : Surroundings) (world : World) :
    (p.settle env world).2.lifecycle = world.lifecycle :=
  (linked_acts env 0 p world).invariant (P := fun w => w.lifecycle = world.lifecycle) rfl
    fun e he happens hbefore => by
      rw [← hbefore]
      exact (h.mem_acts he).lifecycle_eq happens.onLifecycle

end Program

/-! ## Deleting every cache -/

namespace Cache

variable {env : Surroundings} {i : Nat} {world : World}

/-- What the deletion of caches comes to: either no call fails and all of them are deleted, or a
call fails. -/
def Deletes (names : List String) (entries : List Entry) (s s' : Store) :
    Except Store.Failure Nat → Prop
  | .ok _ => (∀ e ∈ entries, e.deed.fails = false) ∧ s' = names.foldl Store.delete s
  | .error _ => ∃ e ∈ entries, e.deed.fails = true

theorem Deletes.cons {names : List String} {entries : List Entry} {s s' : Store}
    {result : Except Store.Failure Nat} (h : Deletes names entries s s' result) {e : Entry}
    (he : e.deed.fails = false) : Deletes names (e :: entries) s s' result := by
  cases result with
  | error f =>
    obtain ⟨e', he', hfails⟩ := h
    exact ⟨e', List.mem_cons_of_mem _ he', hfails⟩
  | ok n => exact ⟨List.forall_mem_cons.mpr ⟨he, h.1⟩, h.2⟩

theorem Deletes.cons_delete {name : String} {names : List String} {entries : List Entry}
    {s s' : Store} {result : Except Store.Failure Nat}
    (h : Deletes names entries (s.delete name) s' result) {e : Entry} (he : e.deed.fails = false) :
    Deletes (name :: names) (e :: entries) s s' result := by
  have hmore := h.cons he
  cases result with
  | error f => exact hmore
  | ok n => exact hmore

theorem flushNames_cons (name : String) (names : List String) (count : Nat) :
    flushNames (name :: names) count = .act (.store (.delete name)) fun
      | .error failure => .done (.error failure)
      | .ok existed => flushNames names (if existed then count + 1 else count) := rfl

theorem settle_flushNames (env : Surroundings) (i : Nat) (names : List String) (count : Nat)
    (world : World) : ∃ result world', (flushNames names count).settle env world =
      (.done result, world') ∧ world'.lifecycle = world.lifecycle ∧
      Deletes names ((flushNames names count).acts env i world) world.store world'.store
        result := by
  induction names generalizing count world with
  | nil => exact ⟨_, world, rfl, rfl, by simp [flushNames, Program.acts, pure], rfl⟩
  | cons name names ih =>
    have hlifecycle := World.callStore_lifecycle env world (.delete name)
    have hcomes := (World.callStore_comes env world (.delete name)).delete
    rw [flushNames_cons]
    rcases hcall : world.callStore env (.delete name) with ⟨failure | existed, world₁⟩
    · rw [hcall] at hlifecycle
      refine ⟨.error failure, world₁, ?_, hlifecycle, ?_⟩
      · simp only [Program.settle, World.act, hcall]
      · simp [Deletes, Program.acts, World.act, hcall, Deed.fails]
    · rw [hcall] at hlifecycle hcomes
      obtain ⟨f, hf, -⟩ | ⟨-, hstore⟩ := hcomes
      · cases hf
      obtain ⟨result, world', hsettle, hlifecycle', hdeletes⟩ :=
        ih (if existed then count + 1 else count) world₁
      refine ⟨result, world', ?_, hlifecycle'.trans hlifecycle, ?_⟩
      · simp only [Program.settle, World.act, hcall]
        exact hsettle
      · simp only [Program.acts, World.act, hcall]
        rw [hstore] at hdeletes
        exact hdeletes.cons_delete rfl

/-- A flush ends in the turn in which it begins, and deletes all caches unless a call fails. -/
theorem settle_flush (env : Surroundings) (i : Nat) (world : World) :
    ∃ result world', flush.settle env world = (.done result, world') ∧
      world'.lifecycle = world.lifecycle ∧
      Deletes world.store.names (flush.acts env i world) world.store world'.store result := by
  have hlifecycle := World.callStore_lifecycle env world .names
  have hcomes := (World.callStore_comes env world .names).names
  have hflush : flush = .act (.store .names) fun
      | .error failure => .done (.error failure)
      | .ok names => flushNames names 0 := rfl
  rw [hflush]
  rcases hcall : world.callStore env .names with ⟨failure | names, world₁⟩
  · rw [hcall] at hlifecycle
    refine ⟨.error failure, world₁, ?_, hlifecycle, ?_⟩
    · simp only [Program.settle, World.act, hcall]
    · simp [Deletes, Program.acts, World.act, hcall, Deed.fails]
  · rw [hcall] at hlifecycle hcomes
    obtain ⟨hstore, ⟨f, hf⟩ | hnames⟩ := hcomes
    · cases hf
    obtain ⟨result, world', hsettle, hlifecycle', hdeletes⟩ :=
      settle_flushNames env i names 0 world₁
    refine ⟨result, world', ?_, hlifecycle'.trans hlifecycle, ?_⟩
    · simp only [Program.settle, World.act, hcall]
      exact hsettle
    · simp only [Program.acts, World.act, hcall]
      rw [hstore, Except.ok.inj hnames] at hdeletes
      rw [Except.ok.inj hnames]
      exact hdeletes.cons rfl

/-- In the turn in which it begins, the loading of URLs does nothing but to send requests. -/
theorem send_of_mem_warm {name : String} {urls : List Url} {e : Entry}
    (he : e ∈ (warm name urls).acts env i world) : ∃ r ticket, e.deed = .act (.send r) ticket := by
  obtain ⟨l, m, hacts⟩ := List.append_of_mem he
  have hkeeps : (warm name urls).Keeps (Warming name (urls.map fun u => Http.Request.get u.text))
      (fun _ _ => True) [] := warm_keeps name urls
  have hrule := Program.allowed_acts hkeeps hacts
  obtain ⟨a, reply, hdeed⟩ := Program.exists_act_of_mem_acts he
  rw [hdeed, List.nil_append] at hrule
  unfold Warming at hrule
  split at hrule
  next r ticket heq => exact ⟨r, ticket, hdeed.trans heq⟩
  next heq => cases heq
  · -- An answer would have been awaited before.
    obtain ⟨-, -, r, -, -, ticket, tickets, -, hwait⟩ := hrule
    obtain ⟨e', he', hdeed'⟩ := List.mem_map.mp hwait
    have hmem : e' ∈ (warm name urls).acts env i world := by
      rw [hacts]
      exact List.mem_append_left _ he'
    obtain ⟨a', reply', hact⟩ := Program.exists_act_of_mem_acts hmem
    rw [hact] at hdeed'
    cases hdeed'
  · exact hrule.elim

end Cache

/-! ## The first turn -/

namespace Worker

variable {w : Worker} {env : Surroundings} {i : Nat} {world : World}

/-- What an installation does once every cache has been deleted, or once one could not be. -/
def finish (w : Worker) : Except Store.Failure Nat → Program (Except Failure Outcome)
  | .error failure => .act (.moveTo .redundant) fun _ => .done (.error (.flush failure))
  | .ok _ => .act .installed fun
    | .error e => .done (.error (.transition e))
    | .ok _ => (Cache.warm w.cacheName w.prewarmUrls).bind fun _ => .done (.ok .done)

theorem handle_install (w : Worker) : w.handle .install = .act (.moveTo .installing) fun
    | .error e => .done (.error (.transition e))
    | .ok _ => .act .skipWaiting fun _ => Cache.flush.bind w.finish := by
  -- The parts agree act by act; only the sequence after the flush is put together differently.
  refine congrArg (Program.act (.moveTo .installing)) (funext fun reply => ?_)
  rcases reply with e | _
  · rfl
  refine congrArg (Program.act .skipWaiting) (funext fun _ => ?_)
  refine (Program.bind_assoc Cache.flush _ _).trans (congrArg _ (funext fun flushed => ?_))
  cases flushed with
  | error failure => rfl
  | ok count =>
    refine congrArg (Program.act .installed) (funext fun reply => ?_)
    rcases reply with e | _
    · rfl
    exact (Program.bind_assoc (discard (Cache.warm w.cacheName w.prewarmUrls)) _ _).trans
      (Program.bind_assoc (Cache.warm w.cacheName w.prewarmUrls) _ _)

/-- An installation that has deleted every cache: no call has failed, and the rest is quiet. -/
structure Installed (world world' : World) (entries : List Entry)
    (p : Program (Except Failure Outcome)) : Prop where
  begun : .act (.moveTo .installing) (.ok ()) ∈ entries.map Entry.deed
  phase : world'.lifecycle.phase = .activating
  succeeds : ∀ e ∈ entries, e.deed.fails = false
  store : world'.store = world.store.names.foldl Store.delete world.store
  quiet : p.Quiet fun result => result = .ok .done

/-- An installation that could not delete every cache. -/
structure Spoilt (world' : World) (entries : List Entry)
    (p : Program (Except Failure Outcome)) : Prop where
  begun : .act (.moveTo .installing) (.ok ()) ∈ entries.map Entry.deed
  phase : world'.lifecycle.phase = .redundant
  fails : ∃ e ∈ entries, e.deed.fails = true
  ended : ∃ failure, p = .done (.error (.flush failure))

theorem quiet_warm (w : Worker) : ((Cache.warm w.cacheName w.prewarmUrls).bind fun _ =>
    (.done (.ok .done) : Program (Except Failure Outcome))).Quiet
      fun result => result = .ok .done := by
  refine ⟨[], Program.keeps_bind.mpr ?_⟩
  refine (Cache.warm_keeps _ _).mono (fun past d h => ?_) fun _ _ _ => Program.keeps_done.mpr rfl
  unfold Cache.Warming at h
  split at h
  · trivial
  · trivial
  · trivial
  · exact h.elim

/-- The rest of an installation sends requests, and changes nothing else in its first turn. -/
theorem settle_warm (w : Worker) (env : Surroundings) (i : Nat) (world : World) :
    let rest := (Cache.warm w.cacheName w.prewarmUrls).bind fun _ =>
      (.done (.ok .done) : Program (Except Failure Outcome))
    (rest.settle env world).2.store = world.store ∧
      ∀ e ∈ rest.acts env i world, e.deed.fails = false := by
  intro rest
  have hsend : ∀ e ∈ rest.acts env i world, ∃ r ticket, e.deed = .act (.send r) ticket := by
    intro e he
    rw [Program.acts_bind] at he
    rcases List.mem_append.mp he with he | he
    · exact Cache.send_of_mem_warm he
    · split at he <;> cases he
  constructor
  · refine (Program.linked_acts env i rest world).invariant
      (P := fun x => x.store = world.store) rfl fun e he happens hbefore => ?_
    obtain ⟨r, ticket, hdeed⟩ := hsend e he
    have hstore := happens.onStore
    rw [hdeed] at hstore
    exact hstore.trans hbefore
  · intro e he
    obtain ⟨r, ticket, hdeed⟩ := hsend e he
    rw [hdeed]
    rfl

/-- Up to the flush the first installation changes nothing but the lifecycle, -/
theorem settle_install (hphase : world.lifecycle.phase = .parsed)
    {flushed : Except Store.Failure Nat} {world' : World}
    (hflush : Cache.flush.settle env { world with lifecycle := ⟨.installing, true⟩ } =
      (.done flushed, world')) :
    (w.handle .install).settle env world = (w.finish flushed).settle env world' := by
  have hmove : world.act env (.moveTo .installing) =
      (.ok (), { world with lifecycle := { world.lifecycle with phase := .installing } }) := by
    simp [World.act, World.change, Lifecycle.moveTo, hphase, Phase.leadsTo]
  rw [handle_install, Program.settle_act hmove]
  exact Program.settle_bind_done _ hflush

/-- and this by two acts. -/
theorem acts_install (hphase : world.lifecycle.phase = .parsed) (i : Nat)
    {flushed : Except Store.Failure Nat} {world' : World}
    (hflush : Cache.flush.settle env { world with lifecycle := ⟨.installing, true⟩ } =
      (.done flushed, world')) :
    (w.handle .install).acts env i world =
      [⟨i, .act (.moveTo .installing) (.ok ()), world,
          { world with lifecycle := { world.lifecycle with phase := .installing } }⟩,
        ⟨i, .act .skipWaiting (), { world with
            lifecycle := { world.lifecycle with phase := .installing } },
          { world with lifecycle := ⟨.installing, true⟩ }⟩] ++
      (Cache.flush.acts env i { world with lifecycle := ⟨.installing, true⟩ } ++
        (w.finish flushed).acts env i world') := by
  have hmove : world.act env (.moveTo .installing) =
      (.ok (), { world with lifecycle := { world.lifecycle with phase := .installing } }) := by
    simp [World.act, World.change, Lifecycle.moveTo, hphase, Phase.leadsTo]
  rw [handle_install, Program.acts_act hmove, ← Program.acts_bind_done _ hflush]
  rfl

/-- **The first installation** either deletes every cache and leaves the worker activating, or it
fails and leaves the worker redundant. -/
theorem install_first (w : Worker) (env : Surroundings) (i : Nat)
    (hphase : world.lifecycle.phase = .parsed) :
    Installed world ((w.handle .install).settle env world).2
        ((w.handle .install).acts env i world) ((w.handle .install).settle env world).1 ∨
      Spoilt ((w.handle .install).settle env world).2
        ((w.handle .install).acts env i world) ((w.handle .install).settle env world).1 := by
  obtain ⟨flushed, world₁, hflush, hlifecycle, hdeletes⟩ :=
    Cache.settle_flush env i { world with lifecycle := ⟨.installing, true⟩ }
  rw [settle_install hphase hflush, acts_install hphase i hflush]
  cases flushed with
  | error failure =>
    right
    -- From installing, the worker may become redundant,
    have hredundant : world₁.act env (.moveTo .redundant) =
        (.ok (), { world₁ with lifecycle := ⟨.redundant, true⟩ }) := by
      simp [World.act, World.change, Lifecycle.moveTo, hlifecycle, Phase.leadsTo]
    obtain ⟨e, he, hfails⟩ := hdeletes
    rw [finish, Program.settle_act hredundant]
    refine ⟨List.mem_cons_self, rfl, ⟨e, ?_, hfails⟩, failure, rfl⟩
    exact List.mem_append_right _ (List.mem_append_left _ he)
  | ok count =>
    left
    -- or activating, as it has asked not to wait.
    have hinstalled : world₁.act env .installed =
        (.ok (), { world₁ with lifecycle := ⟨.activating, true⟩ }) := by
      simp [World.act, World.change, Lifecycle.installed, Lifecycle.moveTo, hlifecycle,
        Phase.leadsTo]
    obtain ⟨hall, hstore⟩ := hdeletes
    have hwarm := w.settle_warm env i { world₁ with lifecycle := ⟨.activating, true⟩ }
    have hquiet := w.quiet_warm
    rw [finish, Program.settle_act hinstalled, Program.acts_act hinstalled]
    refine ⟨List.mem_cons_self, ?_, ?_, hwarm.1.trans hstore, hquiet.settle _ _⟩
    · rw [hquiet.lifecycle_settle]
    · intro e he
      simp only [List.mem_cons, List.mem_append, List.not_mem_nil, or_false] at he
      rcases he with (rfl | rfl) | he | rfl | he
      · rfl
      · rfl
      · exact hall e he
      · rfl
      · exact hwarm.2 e he

/-- **A later installation** ends at once and does nothing. -/
theorem install_again (w : Worker) (env : Surroundings) (i : Nat)
    (hphase : world.lifecycle.phase ≠ .parsed) :
    (w.handle .install).settle env world =
        (.done (.error (.transition ⟨world.lifecycle.phase, .installing⟩)), world) ∧
      (w.handle .install).acts env i world = [⟨i, .act (.moveTo .installing)
        (.error ⟨world.lifecycle.phase, .installing⟩), world, world⟩] := by
  have hmove : world.act env (.moveTo .installing) =
      (.error ⟨world.lifecycle.phase, .installing⟩, world) := by
    have hno : world.lifecycle.phase.leadsTo .installing = false := by
      cases hp : world.lifecycle.phase with
      | parsed => exact absurd hp hphase
      | _ => rfl
    simp [World.act, World.change, Lifecycle.moveTo, hno]
  rw [handle_install, Program.settle_act hmove, Program.acts_act hmove]
  exact ⟨rfl, rfl⟩

end Worker

end ServiceWorker
