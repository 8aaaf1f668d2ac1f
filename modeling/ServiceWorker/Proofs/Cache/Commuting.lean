import ServiceWorker.Proofs.Cache.Underway
import ServiceWorker.Proofs.History.Sequel
import ServiceWorker.Proofs.Worker.Life

/-!
# Loads commute

Independent loads come to the same in whatever order they go on and their answers come, and when all
of them have ended every key is looked up alike. A load that is answered otherwise makes a
difference to itself, and to what is stored for its own requests.

## Main definitions

* `History.OneByOne`: programs that begin only when those before them have ended
* `Cache.Commutes`: what loads come to does not depend on what happens when

## Main results

* `Cache.loads_commute`: independent loads commute
-/

namespace ServiceWorker

open Cache (Key Store last?)
open Http (Request Response)

/-! ## One after another -/

namespace History

variable {ι α : Type} {serve : ι → Program α} {start : World} {turns : Turns ι}

/-- Programs begin only when all those before them have ended. -/
def OneByOne (serve : ι → Program α) (start : World) (turns : Turns ι) : Prop :=
  ∀ past x rest, turns = past ++ x :: rest → x.2.causes ≠ [] →
    ((fresh start).run serve past).Idle

theorem OneByOne.nil : OneByOne serve start [] := fun past x rest hsplit => by
  simp at hsplit

/-- A program can begin when all have ended, and go on for itself. -/
theorem OneByOne.next (h : OneByOne serve start turns)
    (hidle : ((fresh start).run serve turns).Idle) (x : Surroundings × Turn ι) {more : Turns ι}
    (hmore : ∀ y ∈ more, y.2.causes = []) : OneByOne serve start (turns ++ x :: more) := by
  intro past y rest hsplit hy
  rcases List.append_eq_append_iff.mp hsplit with ⟨mid, rfl, hmid⟩ | ⟨mid, rfl, hmid⟩
  · cases mid with
    | nil => rwa [List.append_nil]
    | cons z mid =>
      obtain ⟨-, rfl⟩ := List.cons_eq_cons.mp hmid
      exact absurd (hmore y (List.mem_append_right _ List.mem_cons_self)) hy
  · cases mid with
    | nil => rwa [List.append_nil] at hidle
    | cons z mid =>
      obtain ⟨rfl, -⟩ := List.cons_eq_cons.mp hmid
      exact h past y mid rfl hy

/-- When a program that was begun last has ended, all have. -/
theorem Idle.next {h : History ι α} (hidle : h.Idle) {cause : ι} {env : Surroundings}
    {more : Turns ι} (hmore : ∀ x ∈ more, x.1.Reliable ∧ x.2.causes = []) {a : α}
    (ha : ((h.step serve (env, .arrive cause)).run serve more).result? h.system.tasks.length =
      some a) : ((h.step serve (env, .arrive cause)).run serve more).Idle := by
  have hleaves := Program.leaves_of_forall (P := fun _ => True) (fun _ _ _ _ => trivial)
    (serve cause) (p := h.world.platform) trivial
  exact (((hidle.arrive hleaves env).run hmore).ended ha).1

end History

namespace Cache

section Begun

variable {name : String} {start : World} {answers : Request → Except Http.Failure Response}

/-- Surroundings in which no call fails and every request is answered at once. -/
def prompt (answers : Request → Except Http.Failure Response) : Surroundings :=
  { Surroundings.calm with answer := fun _ r => (answers r, 0) }

theorem answering_prompt (answers : Request → Except Http.Failure Response) :
    (prompt answers).Answering answers :=
  ⟨fun _ _ => rfl, fun _ _ => rfl⟩

theorem reliable_prompt (answers : Request → Except Http.Failure Response) :
    (prompt answers).Reliable :=
  ⟨fun _ _ => rfl, fun _ => rfl, rfl⟩

/-- **Independent loads can be begun one after another**, in any order. -/
theorem exists_oneByOne (hlisted : start.store.Listed) {loads : List Load}
    (hind : Independent loads) :
    ∃ turns : Turns Load, (∀ x ∈ turns, x.1.Answering answers) ∧
      History.OneByOne (Load.serve name) start turns ∧
      ((History.fresh start).run (Load.serve name) turns).causes = loads ∧
      ((History.fresh start).run (Load.serve name) turns).Idle := by
  induction loads using List.reverseRecOn with
  | nil =>
    refine ⟨[], nofun, .nil, rfl, fun i p hp => ?_⟩
    cases hp
  | append_singleton loads l ih =>
    have hbefore : Independent loads := hind.of_sublist (List.sublist_append_left _ _)
    obtain ⟨turns, hturns, hone, hcauses, hidle⟩ := ih hbefore
    have hunderway : Underway name start answers
        ((History.fresh start).run (Load.serve name) turns) :=
      underway_run hlisted hturns (hcauses.symm ▸ hbefore)
    generalize hh : (History.fresh start).run (Load.serve name) turns = h at hcauses hidle hunderway
    -- The load arrives, and goes on by turns of its own until it has ended.
    have henv := answering_prompt answers
    have hbegun : (h.step (Load.serve name) (prompt answers, .arrive l)).causes = loads ++ [l] := by
      rw [History.step_causes, hcauses]
      rfl
    have hlast : (h.step (Load.serve name) (prompt answers, .arrive l)).causes[
        h.system.tasks.length]? = some l := by
      rw [hunderway.proper.count, hbegun, hcauses]
      exact List.getElem?_concat_length
    have hlater := hbegun.symm ▸ hind
    have hnext := hunderway.step hlisted (x := (prompt answers, .arrive l)) henv hlater
    obtain ⟨more, hmore, a, ha⟩ := hnext.can_end hlisted hlater hlast fun _ => henv
    have hquiet := Turns.reliable_under (reliable_prompt answers) hmore
    refine ⟨turns ++ (prompt answers, .arrive l) :: Turns.under (fun _ => prompt answers) more,
      ?_, hone.next (hh ▸ hidle) _ fun x hx => (hquiet x hx).2, ?_, ?_⟩
    · rw [List.forall_mem_append]
      exact ⟨hturns, List.forall_mem_cons.mpr
        ⟨henv, fun x hx => (Turns.mem_under hx).1 ▸ henv⟩⟩
    · rw [History.run_append, hh, History.run_cons,
        History.causes_run_of_nil _ fun x hx => (hquiet x hx).2, hbegun]
    · rw [History.run_append, hh]
      exact hidle.next hquiet ha

end Begun

/-! ## What is stored in the end -/

/-- What is last does not depend on the order if there is only one. -/
theorem last?_eq_of_mem {p : Key → Bool} {ws ws' : List (Key × Response)}
    (hmem : ∀ x, p x.1 = true → (x ∈ ws ↔ x ∈ ws'))
    (hone : ∀ x ∈ ws, ∀ y ∈ ws, p x.1 = true → p y.1 = true → x = y) :
    last? p ws = last? p ws' := by
  cases hlast : last? p ws with
  | none =>
    cases hlast' : last? p ws' with
    | none => rfl
    | some x =>
      obtain ⟨hx, hp⟩ := mem_of_last? hlast'
      have hsome := last?_isSome ((hmem x hp).mpr hx) hp
      rw [hlast] at hsome
      cases hsome
  | some x =>
    obtain ⟨hx, hp⟩ := mem_of_last? hlast
    obtain ⟨y, hy⟩ := Option.isSome_iff_exists.mp (last?_isSome ((hmem x hp).mp hx) hp)
    obtain ⟨hy', hpy⟩ := mem_of_last? hy
    rw [hy, hone x hx y ((hmem y hpy).mpr hy') hp hpy]

/-- Requests whose keys have a digest, and all that are stored together with them, are answered
alike. -/
def AnsweredAlike (answers answers' : Request → Except Http.Failure Response) (loads : List Load)
    (hash : String) : Prop :=
  ∀ l ∈ loads, ∀ r ∈ l.requests, ∀ key, Key.of r = .ok key → key.hash = hash →
    ∀ r' ∈ l.fellows r, answers r' = answers' r'

namespace Underway

variable {name : String} {start : World} {answers answers' : Request → Except Http.Failure Response}
  {h h' : History Load LoadResult}

/-- Nothing is stored twice for a digest. -/
theorem eq_of_written (hh : Underway name start answers h) (hidle : h.Idle)
    (hind : Independent h.causes) {x y : Key × Response}
    (hx : x ∈ (h.log.map Entry.deed).flatMap Deed.written)
    (hy : y ∈ (h.log.map Entry.deed).flatMap Deed.written) (hhash : x.1.hash = y.1.hash) :
    x = y := by
  obtain ⟨l, hl, hx⟩ := (hh.mem_written hidle).mp hx
  obtain ⟨l', hl', hy⟩ := (hh.mem_written hidle).mp hy
  obtain ⟨r, hr, hkey, hanswer⟩ := Load.exists_of_mem_writes hx
  obtain ⟨r', hr', hkey', hanswer'⟩ := Load.exists_of_mem_writes hy
  have hsame : x.1 = y.1 := hind.key_eq hl hl' (Load.mem_keys.mpr ⟨r, hr, hkey⟩)
    (Load.mem_keys.mpr ⟨r', hr', hkey'⟩) hhash
  obtain rfl := hind.request_eq hl hl' hr hr' (by rw [hkey, hkey', hsame])
  exact Prod.ext hsame (Except.ok.inj (hanswer.symm.trans hanswer'))

/-- What is stored last for a digest is settled by the answers to its requests. -/
theorem last?_written (hh : Underway name start answers h) (hh' : Underway name start answers' h')
    (hidle : h.Idle) (hidle' : h'.Idle) (hsame : h'.causes.Perm h.causes)
    (hind : Independent h.causes) {hash : String}
    (halike : AnsweredAlike answers answers' h.causes hash) :
    last? (·.hash = hash) ((h.log.map Entry.deed).flatMap Deed.written) =
      last? (·.hash = hash) ((h'.log.map Entry.deed).flatMap Deed.written) := by
  refine last?_eq_of_mem (fun x hx => ?_) fun x hx y hy hpx hpy =>
    hh.eq_of_written hidle hind hx hy ((of_decide_eq_true hpx).trans (of_decide_eq_true hpy).symm)
  have hhash : x.1.hash = hash := of_decide_eq_true hx
  rw [hh.mem_written hidle, hh'.mem_written hidle']
  constructor
  · rintro ⟨l, hl, hwrites⟩
    exact ⟨l, hsame.mem_iff.mpr hl, Load.mem_writes_congr (fun r hr hkey =>
      halike l hl r hr x.1 hkey hhash) hwrites⟩
  · rintro ⟨l, hl, hwrites⟩
    have hl := hsame.mem_iff.mp hl
    exact ⟨l, hl, Load.mem_writes_congr (fun r hr hkey r' hr' =>
      (halike l hl r hr x.1 hkey hhash r' hr').symm) hwrites⟩

end Underway

/-! ## Main result -/

/-- The history of loads that begin in a given world. -/
def course (name : String) (start : World) (turns : Turns Load) : History Load LoadResult :=
  (History.fresh start).run (Load.serve name) turns

/-- What loads come to does not depend on what happens when. Each can end by itself however it
stands, and they can be begun one after another in any order. Compared with any other history of the
same loads, whose requests may have other answers, each comes to the same if its own requests are
answered alike; when all have ended, a key is looked up alike if its requests and their fellows are
answered alike; and if all are, the stores differ in order and times only. -/
structure Commutes (name : String) (start : World)
    (answers : Request → Except Http.Failure Response) (turns : Turns Load) : Prop where
  ends : ∀ i l, (course name start turns).causes[i]? = some l →
    ∀ envs : Nat → Surroundings, (∀ n, (envs n).Answering answers) →
      ∃ more : List (Turn Load), (∀ x ∈ more, x.concerns i) ∧
        ∃ a, (course name start (turns ++ Turns.under envs more)).result? i = some a
  inOrder : ∀ order : List Load, order.Perm (course name start turns).causes →
    ∃ turns' : Turns Load, (∀ x ∈ turns', x.1.Answering answers) ∧
      History.OneByOne (Load.serve name) start turns' ∧
      (course name start turns').causes = order ∧ (course name start turns').Idle
  results : ∀ answers' turns', (∀ x ∈ turns', x.1.Answering answers') →
    (course name start turns').causes.Perm (course name start turns).causes →
      ∀ i j l a a', (course name start turns).causes[i]? = some l →
        (course name start turns').causes[j]? = some l →
        (course name start turns).result? i = some a →
        (course name start turns').result? j = some a' →
          (∀ r ∈ l.requests, answers r = answers' r) → a = a'
  lookUps : ∀ answers' turns', (∀ x ∈ turns', x.1.Answering answers') →
    (course name start turns').causes.Perm (course name start turns).causes →
      (course name start turns).Idle → (course name start turns').Idle →
        ∀ key : Key, AnsweredAlike answers answers' (course name start turns).causes key.hash →
          (course name start turns).world.store.lookUp key =
            (course name start turns').world.store.lookUp key
  stores : ∀ turns', (∀ x ∈ turns', x.1.Answering answers) →
    (course name start turns').causes.Perm (course name start turns).causes →
      (course name start turns).Idle → (course name start turns').Idle →
        (course name start turns).world.store.names =
            (course name start turns').world.store.names ∧
          ∀ n hash, Option.Rel Row.Alike ((course name start turns).world.store.at? n hash)
            ((course name start turns').world.store.at? n hash)

/-- **Independent loads commute**, whatever the store holds when they begin, and whatever is
answered to their requests at whatever time. That every row belongs to a cache is so in every store
that has been used: `Store.Used.listed`. -/
theorem loads_commute (name : String) (start : World)
    {answers : Request → Except Http.Failure Response} {turns : Turns Load}
    (hlisted : start.store.Listed) (hturns : ∀ x ∈ turns, x.1.Answering answers)
    (hind : Independent (course name start turns).causes) :
    Commutes name start answers turns := by
  have hh : Underway name start answers (course name start turns) :=
    underway_run hlisted hturns hind
  -- Any other history of these loads is one of independent loads as well.
  have other : ∀ {answers' turns'}, (∀ x ∈ turns', x.1.Answering answers') →
      (course name start turns').causes.Perm (course name start turns).causes →
        Underway name start answers' (course name start turns') :=
    fun hturns' hsame => underway_run hlisted hturns' (hind.of_perm hsame)
  refine ⟨fun i l hl envs henvs => ?_, fun order horder => ?_, ?_, ?_, ?_⟩
  · obtain ⟨more, hmore, a, ha⟩ := hh.can_end hlisted hind hl henvs
    refine ⟨more, hmore, a, ?_⟩
    rwa [course, History.run_append]
  · exact exists_oneByOne hlisted (hind.of_perm horder)
  · intro answers' turns' hturns' hsame i j l a a' hl hl' ha ha' halike
    rw [(hh.settled hl ha).1, ((other hturns' hsame).settled hl' ha').1, Load.outcome_congr halike]
  · intro answers' turns' hturns' hsame hidle hidle' key halike
    exact Store.Overlay.lookUp_congr hh.store (other hturns' hsame).store hlisted
      (hh.last?_written (other hturns' hsame) hidle hidle' hsame hind halike)
  · intro turns' hturns' hsame hidle hidle'
    have hh' := other hturns' hsame
    have halike : ∀ hash, AnsweredAlike answers answers (course name start turns).causes hash :=
      fun _ _ _ _ _ _ _ _ _ _ => rfl
    constructor
    · refine Store.Overlay.names_congr hh.store hh'.store ?_ ?_
      · rw [hh.made_iff hidle (History.under_fresh _ start hturns),
          hh'.made_iff hidle' (History.under_fresh _ start hturns')]
        exact exists_congr fun l => and_congr_left' hsame.mem_iff.symm
      · simp only [List.eq_nil_iff_forall_not_mem, hh.mem_written hidle, hh'.mem_written hidle',
          hsame.mem_iff]
    · exact fun n hash => Store.Overlay.alike_congr hh.store hh'.store
        (hh.last?_written hh' hidle hidle' hsame hind (halike hash)) n

/-- Three loads whose answers come in the opposite order; one of them has none. -/
theorem loopback_loads_commute :
    let url (c : Char) : Url := { Url.loopback with query := some [c] }
    let answers (r : Request) : Except Http.Failure Response :=
      if r.url = (url 'b').text then .error (.unreachable r.url) else .ok (.of 200 [])
    let start := World.fresh .empty
    let turns := Turns.under (fun _ => prompt answers) [.arrive (.respond (.get (url 'a').text)),
      .arrive (.warm [url 'b']), .arrive (.addAll [url 'c']), .settle 0, .settle 1, .settle 2,
      .wake 2 2, .settle 2, .wake 1 1, .settle 1, .wake 0 0, .settle 0]
    start.store.Listed ∧ (∀ x ∈ turns, x.1.Answering answers) ∧
      Independent (course "FDX cache" start turns).causes ∧
      Commutes "FDX cache" start answers turns ∧
      (course "FDX cache" start turns).world.store.keysOf "FDX cache" =
        [⟨"GET", "http://[::1]/?c"⟩, ⟨"GET", "http://[::1]/?a"⟩] := by
  intro url answers start turns
  have hlisted : start.store.Listed := .empty
  have hturns : ∀ x ∈ turns, x.1.Answering answers := fun x hx =>
    (Turns.mem_under hx).1 ▸ answering_prompt answers
  have hind : Independent (course "FDX cache" start turns).causes := by
    have hcauses : (course "FDX cache" start turns).causes =
        [.respond (.get (url 'a').text), .warm [url 'b'], .addAll [url 'c']] := rfl
    have ha : (url 'a').text = "http://[::1]/?a" := by decide +kernel
    have hb : (url 'b').text = "http://[::1]/?b" := by decide +kernel
    have hc : (url 'c').text = "http://[::1]/?c" := by decide +kernel
    have hka : Key.of (.get "http://[::1]/?a") = .ok ⟨"GET", "http://[::1]/?a"⟩ := by rfl
    have hkb : Key.of (.get "http://[::1]/?b") = .ok ⟨"GET", "http://[::1]/?b"⟩ := by rfl
    have hkc : Key.of (.get "http://[::1]/?c") = .ok ⟨"GET", "http://[::1]/?c"⟩ := by rfl
    have hkeys : ([.respond (.get (url 'a').text), .warm [url 'b'], .addAll [url 'c']] :
        List Load).flatMap Load.keys = [⟨"GET", "http://[::1]/?a"⟩, ⟨"GET", "http://[::1]/?b"⟩,
          ⟨"GET", "http://[::1]/?c"⟩] := by
      simp [Load.keys, Load.requests, ha, hb, hc, hka, hkb, hkc, Except.toOption]
    rw [hcauses]
    refine ⟨?_, ?_, ?_⟩
    · simp [Load.requests, ha, hb, hc, hka, hkb, hkc]
    · simp [Load.requests, ha, hb, hc, hka, hkb, hkc]
    · rw [hkeys]
      have hnodup : ([⟨"GET", "http://[::1]/?a"⟩, ⟨"GET", "http://[::1]/?b"⟩,
          ⟨"GET", "http://[::1]/?c"⟩].map fun k : Key => Digest.Sha256.hex k.preimage).Nodup := by
        decide +kernel
      exact fun k hk k' hk' hsame =>
        congrArg Key.preimage (List.inj_on_of_nodup_map hnodup hk hk' hsame)
  exact ⟨hlisted, hturns, hind, loads_commute "FDX cache" start hlisted hturns hind,
    by decide +kernel⟩

end Cache

end ServiceWorker
