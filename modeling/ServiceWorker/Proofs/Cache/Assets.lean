import ServiceWorker.Proofs.Cache.Batch
import ServiceWorker.Proofs.Cache.Loads

/-!
# Assets

URLs that are stored one by one are answered in some order. Each answer is stored by itself, if
there is something to store, and whether that succeeds is of no concern to the others.

## Main definitions

* `Cache.Asset`: a request with its answer, and what has come of storing it
* `Cache.Asset.stored?`: what has been stored
* `Cache.Loaded`: deeds by which assets have been loaded, one after another

## Main results

* `Cache.settle_sendAll`: requests are sent in their order
* `Cache.loaded_of_path`: for all requests that have been sent assets are loaded
* `Cache.Loaded.lookUp`: what is found then in a store that has been empty
-/

namespace ServiceWorker.Cache

open Http (Request Response)
open Program (Path)

/-! ## Single assets -/

/-- A request that has been sent under a number, its answer, and the outcome of the call by which
the response is stored if there is one to store. -/
structure Asset where
  ticket : Ticket
  request : Request
  answer : Except Http.Failure Response
  outcome : Except Store.Failure Unit

namespace Asset

/-- What there is to store for an asset. -/
def pair? (a : Asset) : Option (Key × Response) :=
  Load.kept? (fun _ => a.answer) a.request

/-- What has been stored for an asset. -/
def stored? (a : Asset) : Option (Key × Response) :=
  match a.outcome with
  | .ok _ => a.pair?
  | .error _ => none

/-- The storing of an asset. -/
def deeds (name : String) (a : Asset) : List Deed :=
  a.pair?.toList.map fun x => .act (.store (.put name x.1 x.2)) a.outcome

variable {a : Asset} {key : Key} {response : Response}

/-- A response is stored for an asset if its status is 200, there is a key for it, and the call
succeeds. -/
theorem stored?_eq_some : a.stored? = some (key, response) ↔
    Key.of a.request = .ok key ∧ a.answer = .ok response ∧ response.status = 200 ∧
      a.outcome = .ok () := by
  have hpair : a.pair? = some (key, response) ↔
      Key.of a.request = .ok key ∧ a.answer = .ok response ∧ response.status = 200 := by
    constructor
    · intro h
      obtain ⟨hkey, hanswer⟩ := Load.of_kept? h
      simp only [pair?, Load.kept?, hanswer, hkey] at h
      split at h
      next hstatus => exact ⟨hkey, hanswer, hstatus⟩
      next => cases h
    · rintro ⟨hkey, hanswer, hstatus⟩
      simp only [pair?, Load.kept?, hanswer, hkey, if_pos hstatus]
  unfold stored?
  split
  next houtcome => rw [hpair, houtcome, and_iff_left rfl]
  next houtcome => simp [houtcome]

/-- Something has been stored for a key if that holds of one of several assets with this key. -/
theorem isSome_last?_stored {assets : List Asset} :
    (last? (· = key) (assets.filterMap stored?)).isSome ↔
      ∃ a ∈ assets, Key.of a.request = .ok key ∧ a.outcome = .ok () ∧
        ∃ response, a.answer = .ok response ∧ response.status = 200 := by
  constructor
  · intro hsome
    obtain ⟨x, hx⟩ := Option.isSome_iff_exists.mp hsome
    obtain ⟨hmem, hkey⟩ := mem_of_last? hx
    obtain rfl : x.1 = key := of_decide_eq_true hkey
    obtain ⟨a, ha, hstored⟩ := List.mem_filterMap.mp hmem
    obtain ⟨hof, hanswer, hstatus, houtcome⟩ := stored?_eq_some.mp hstored
    exact ⟨a, ha, hof, houtcome, x.2, hanswer, hstatus⟩
  · rintro ⟨a, ha, hof, houtcome, response, hanswer, hstatus⟩
    have hstored := stored?_eq_some.mpr ⟨hof, hanswer, hstatus, houtcome⟩
    exact last?_isSome (List.mem_filterMap.mpr ⟨a, ha, hstored⟩) (decide_eq_true rfl)

theorem written_deeds (name : String) (a : Asset) :
    (a.deeds name).flatMap Deed.written = a.stored?.toList := by
  obtain ⟨ticket, request, answer, outcome⟩ := a
  cases hpair : pair? ⟨ticket, request, answer, outcome⟩ with
  | none => cases outcome <;> simp [deeds, stored?, hpair]
  | some x => cases outcome <;> simp [deeds, stored?, hpair, Deed.written]

end Asset

/-! ## One after another -/

/-- Deeds by which assets have been loaded in their order: for each of them its answer is awaited,
and then stored if there is something to store. -/
inductive Loaded (name : String) : List Asset → List Deed → Prop
  | nil : Loaded name [] []
  | cons {a : Asset} {assets : List Asset} {ds : List Deed} (tickets : List Ticket)
      (rest : Loaded name assets ds) : Loaded name (a :: assets)
        (.wait (.answer tickets) (a.ticket, a.answer) :: (a.deeds name ++ ds))

namespace Loaded

variable {name : String} {assets : List Asset} {ds : List Deed}

theorem written (h : Loaded name assets ds) :
    ds.flatMap Deed.written = assets.filterMap Asset.stored? := by
  induction h with
  | nil => rfl
  | @cons a assets ds tickets _ ih =>
    have hwait : Deed.written (.wait (.answer tickets) (a.ticket, a.answer)) = [] := rfl
    rw [List.flatMap_cons, List.flatMap_append, Asset.written_deeds, ih, hwait, List.nil_append]
    cases hstored : a.stored? <;> simp [hstored]

theorem not_delete (h : Loaded name assets ds) (other : String)
    (reply : Except Store.Failure (Store.Call.delete other).Reply) :
    .act (.store (.delete other)) reply ∉ ds := by
  induction h with
  | nil => exact List.not_mem_nil
  | @cons a assets ds tickets _ ih =>
    intro hmem
    rcases List.mem_cons.mp hmem with hwait | hmem
    · cases hwait
    rcases List.mem_append.mp hmem with hmem | hmem
    · obtain ⟨x, -, hdeed⟩ := List.mem_map.mp hmem
      cases hdeed
    · exact ih hmem

theorem awaited (h : Loaded name assets ds) {a : Asset} (ha : a ∈ assets) :
    ∃ tickets, .wait (.answer tickets) (a.ticket, a.answer) ∈ ds := by
  induction h with
  | nil => cases ha
  | cons tickets _ ih =>
    rcases List.mem_cons.mp ha with rfl | ha
    · exact ⟨tickets, List.mem_cons_self⟩
    · obtain ⟨tickets', hmem⟩ := ih ha
      exact ⟨tickets', List.mem_cons_of_mem _ (List.mem_append_right _ hmem)⟩

/-- **What is found after assets have been loaded** into an empty store is the last response that
has been stored for the key. -/
theorem lookUp {world world' : World} {log : List Entry} (hlinked : Linked world log world')
    (hempty : world.store = .empty) (hwithin : ∀ e ∈ log, e.deed.Within name)
    (h : Loaded name assets (log.map Entry.deed)) {key : Key} (hof : key.OfRequest)
    (hfree : CollisionFree (key :: (assets.filterMap Asset.stored?).map Prod.fst)) :
    world'.store.lookUp key =
      .ok ((last? (· = key) (assets.filterMap Asset.stored?)).map Prod.snd) := by
  have hdelete : ∀ e ∈ log, ∀ other reply, e.deed ≠ .act (.store (.delete other)) reply :=
    fun e he other reply hdeed => h.not_delete other reply (hdeed ▸ List.mem_map_of_mem he)
  have hholds := (hempty ▸ Store.Holds.empty name : Store.Holds name world.store []).linked
    hlinked hwithin
  rw [leftOf_eq hdelete, List.nil_append, h.written] at hholds
  rw [hholds.lookUp key, Store.last?_of_hash hof ?_ hfree]
  -- What has been stored has been stored for requests.
  intro x hx
  obtain ⟨a, -, ha⟩ := List.mem_filterMap.mp hx
  exact ⟨a.request, (Asset.stored?_eq_some.mp ha).1⟩

end Loaded

/-! ## The course of a load -/

section Course

variable {name : String} {ds : List Deed} {env : Surroundings} {world : World}

theorem deeds_of_warmOne {r : Request} {answer : Except Http.Failure Response} {stored : Bool}
    (h : (warmOne name r answer).Path ds (.done stored)) (ticket : Ticket) :
    ∃ outcome, ds = Asset.deeds name ⟨ticket, r, answer, outcome⟩ := by
  -- What is not stored has no pair.
  have nothing : Load.kept? (fun _ => answer) r = none → ds = [] →
      ∃ outcome, ds = Asset.deeds name ⟨ticket, r, answer, outcome⟩ := by
    rintro hnone rfl
    refine ⟨.ok (), ?_⟩
    rw [Asset.deeds, Asset.pair?, hnone]
    rfl
  unfold warmOne at h
  split at h
  next response key hkey =>
    split at h
    next hstatus =>
      cases h with
      | @act _ _ reply _ _ rest =>
        refine ⟨reply, ?_⟩
        have hpair : Asset.pair? ⟨ticket, r, .ok response, reply⟩ = some (key, response) := by
          simp only [Asset.pair?, Load.kept?, hkey, if_pos hstatus]
        rw [Asset.deeds, hpair]
        cases reply <;> cases rest <;> rfl
    next hstatus =>
      cases h
      refine nothing ?_ rfl
      simp only [Load.kept?, hkey, if_neg hstatus]
  next hnone =>
    cases h
    refine nothing ?_ rfl
    unfold Load.kept?
    split
    next response key hanswer hkey => exact absurd hkey (hnone response key hanswer)
    next => rfl

/-- **Assets are loaded for all requests that have been sent**, in the order in which they are
answered. -/
theorem loaded_of_path (n : Nat) {waiting : List (Ticket × Request)} {count total : Nat}
    (hlength : waiting.length = n) (hnodup : (waiting.map Prod.fst).Nodup)
    (h : (warmRest name n waiting count).Path ds (.done total)) :
    ∃ assets : List Asset, Loaded name assets ds ∧
      (assets.map fun a => (a.ticket, a.request)).Perm waiting := by
  induction n generalizing waiting count ds with
  | zero =>
    obtain rfl := List.length_eq_zero_iff.mp hlength
    cases h
    exact ⟨[], .nil, .nil⟩
  | succ n ih =>
    cases h with
    | @wait _ _ reply ds _ fits rest =>
      obtain ⟨ticket, answer⟩ := reply
      obtain ⟨x, hx, rfl⟩ := List.mem_map.mp fits
      have hperm := perm_cons_filter hnodup hx
      have hrest : (waiting.filter (·.1 ≠ x.1)).length = n := by
        have hcount := hperm.length_eq
        rw [hlength, List.length_cons] at hcount
        omega
      dsimp only [Program.bind_done] at rest
      rw [find?_of_nodup hnodup hx] at rest
      obtain ⟨first, last, stored, rfl, hone, hmore⟩ := rest.of_bind
      obtain ⟨outcome, rfl⟩ := deeds_of_warmOne hone x.1
      obtain ⟨assets, hloaded, hassets⟩ :=
        ih hrest (hnodup.sublist (List.filter_sublist.map Prod.fst)) hmore
      exact ⟨⟨x.1, x.2, answer, outcome⟩ :: assets, .cons _ hloaded,
        (hassets.cons x).trans hperm.symm⟩

/-- Requests are sent in their order, under the next numbers. -/
theorem settle_sendAll (env : Surroundings) (requests : List Request) (world : World) :
    ∃ sent : List Sent, sent.map (·.request) = requests ∧
      (sendAll requests).settle env world =
        (.done ((List.range' world.sent.length requests.length).zip requests),
          { world with sent := world.sent ++ sent }) := by
  induction requests generalizing world with
  | nil => exact ⟨[], rfl, by simp [sendAll, pure, Program.settle]⟩
  | cons r requests ih =>
    obtain ⟨x, rfl, hact⟩ : ∃ x : Sent, x.request = r ∧ world.act env (.send r) =
      (world.sent.length, { world with sent := world.sent ++ [x] }) := ⟨⟨r, _, _⟩, rfl, rfl⟩
    obtain ⟨sent, hsent, hsettle⟩ := ih { world with sent := world.sent ++ [x] }
    refine ⟨x :: sent, by rw [List.map_cons, hsent], (Program.settle_act hact).trans ?_⟩
    refine (Program.settle_bind_done _ hsettle).trans ?_
    rw [List.length_append, List.append_assoc]
    rfl

end Course

end ServiceWorker.Cache
