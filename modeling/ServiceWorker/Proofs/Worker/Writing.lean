import ServiceWorker.Proofs.Cache.Contents
import ServiceWorker.Proofs.Worker.Life

/-!
# What handlers write

Every handler writes to the cache of its worker only, for keys of `GET` requests, and only what the
network has answered with a status that its event admits.

## Main definitions

* `Worker.Admits`: the responses that the handler of an event may store
* `Worker.Writes`: a deed writes only what the network has provided

## Main results

* `Worker.writes_of_allows`: so does every handler
-/

namespace ServiceWorker

open Cache (Key Store)
open Http (Request Response)

/-! ## What may be written -/

/-- Only `GET` requests are covered by a scope. -/
theorem Cache.Scope.method_of_covers {s : Scope} {r : Request} (h : s.covers r = true) :
    r.method = "GET" := by
  unfold covers at h
  split at h
  · exact eq_of_beq (Bool.and_eq_true_iff.mp h).1
  · cases h

namespace Worker

variable {w : Worker} {event : Event} {past : List Deed} {d : Deed}

/-- The responses that the handler of an event may store. -/
def Admits : Event → Response → Prop
  | .install, response => response.status = 200
  | .fetch _, response => response.status = 200
  | .message _, response => 200 ≤ response.status.toNat ∧ response.status.toNat ≤ 299
  | _, _ => False

/-- Only responses that report success are stored. -/
theorem Admits.isOk {response : Response} (h : Admits event response) : response.isOk = true := by
  have hexact : response.status = 200 → response.isOk = true := by
    intro hstatus
    rw [Response.isOk, hstatus]
    decide
  cases event with
  | install => exact hexact h
  | fetch r => exact hexact h
  | message data => exact Response.isOk_iff.mpr h
  | activate => exact h.elim
  | push body => exact h.elim
  | click n => exact h.elim

/-- The page that tells of a failure is never stored. -/
theorem not_admits_errorPage : ¬Admits event Response.errorPage := by
  intro h
  have hok := h.isOk
  rw [Response.isOk, show Response.errorPage.status = 503 from rfl] at hok
  exact absurd hok (by decide)

theorem get_of_mem_prewarm {r : Request} (h : r ∈ w.prewarmRequests) : r.method = "GET" := by
  obtain ⟨u, -, rfl⟩ := List.mem_map.mp h
  rfl

/-- A message asks for `GET` requests only. -/
theorem get_of_mem_requests {data : Json} {requests : List Request} {r : Request}
    (hrequests : w.requests? data = some requests) (h : r ∈ requests) : r.method = "GET" := by
  unfold requests? at hrequests
  split at hrequests
  · obtain ⟨urls, -, rfl⟩ := Option.map_eq_some_iff.mp hrequests
    obtain ⟨u, -, rfl⟩ := List.mem_map.mp h
    rfl
  · cases hrequests

/-! ## The rules of loading -/

section Rules

variable {name : String} {requests : List Request} {past : List Deed} {d : Deed}

/-- A deed writes to one cache only, what has been provided for `GET` requests with these keys and
is admitted. -/
structure Writes (name : String) (admits : Response → Prop) (past : List Deed) (d : Deed) :
    Prop where
  within : d.Within name
  provided : ∀ x ∈ d.written, ∃ r, r.method = "GET" ∧ Key.of r = .ok x.1 ∧ Provided past r x.2 ∧
    admits x.2

/-- A flush writes nothing. -/
theorem writes_of_flushing {admits : Response → Prop} (h : Cache.Flushing past d) :
    Writes name admits past d := by
  unfold Cache.Flushing at h
  split at h
  · exact ⟨trivial, nofun⟩
  · exact ⟨trivial, fun x hx => by cases hx⟩
  · exact h.elim

/-- An installation writes what has been answered to its own requests with status 200. -/
theorem writes_of_warming (hget : ∀ r ∈ requests, r.method = "GET")
    (h : Cache.Warming name requests past d) : Writes name (·.status = 200) past d := by
  unfold Cache.Warming at h
  split at h
  · exact ⟨trivial, nofun⟩
  · exact ⟨trivial, nofun⟩
  next other key response reply =>
    obtain ⟨rfl, hstatus, r, hr, hkey, hprovided⟩ := h
    refine ⟨⟨rfl, Key.method_of (hget r hr) hkey⟩, fun x hx => ?_⟩
    cases reply with
    | error f => cases hx
    | ok _ =>
      obtain rfl := List.mem_singleton.mp hx
      exact ⟨r, hget r hr, hkey, hprovided, hstatus⟩
  · exact h.elim

/-- A fetch writes what has been answered to its request with status 200. -/
theorem writes_of_responding {r : Request} (hget : r.method = "GET")
    (h : Cache.Responding name r past d) : Writes name (·.status = 200) past d := by
  unfold Cache.Responding at h
  split at h
  · exact ⟨Key.method_of hget h.2, nofun⟩
  · exact ⟨trivial, nofun⟩
  · exact ⟨trivial, nofun⟩
  next other key response reply =>
    obtain ⟨rfl, hkey, hstatus, missed, ticket, -, rfl⟩ := h
    refine ⟨⟨rfl, Key.method_of hget hkey⟩, fun x hx => ?_⟩
    cases reply with
    | error f => cases hx
    | ok _ =>
      obtain rfl := List.mem_singleton.mp hx
      exact ⟨r, hget, hkey, ⟨ticket, [ticket], by simp, by simp⟩, hstatus⟩
  · exact h.elim

/-- Answers that are stored together are those to requests, one by one. -/
theorem exists_of_admitted {entries : List (Key × Response)}
    {got : List (Ticket × Request × Except Http.Failure Response)}
    (hgathered : Cache.Gathered name requests past got) (hadmitted : Cache.Admitted got entries)
    {x : Key × Response} (hx : x ∈ entries) :
    ∃ r ∈ requests, Key.of r = .ok x.1 ∧ Provided past r x.2 ∧ x.2.isOk = true := by
  obtain ⟨n, hn, rfl⟩ := List.getElem_of_mem hx
  obtain ⟨hlength, hall⟩ := List.forall₂_iff_get.mp hadmitted
  have hn' : n < got.length := hlength ▸ hn
  obtain ⟨hanswer, hok, hkey⟩ := hall n hn' hn
  refine ⟨got[n].2.1, ?_, hkey, hgathered.provided (List.getElem_mem hn') hanswer, hok⟩
  rw [← hgathered.1, Cache.asked, List.map_map]
  exact List.mem_map.mpr ⟨got[n], List.getElem_mem hn', rfl⟩

/-- A message writes what has been answered to the requests that it asks for, with any status that
reports success. -/
theorem writes_of_adding (hget : ∀ r ∈ requests, r.method = "GET")
    (h : Cache.Adding name requests past d) :
    Writes name (fun r => 200 ≤ r.status.toNat ∧ r.status.toNat ≤ 299) past d := by
  unfold Cache.Adding at h
  split at h
  · exact ⟨h.2, nofun⟩
  · exact ⟨trivial, nofun⟩
  · exact ⟨trivial, nofun⟩
  next other entries reply =>
    obtain ⟨rfl, got, hgathered, hadmitted⟩ := h
    -- Each entry comes from the answer to one of the requests.
    have hentries : ∀ x ∈ entries, ∃ r, r.method = "GET" ∧ Key.of r = .ok x.1 ∧
        Provided past r x.2 ∧ 200 ≤ x.2.status.toNat ∧ x.2.status.toNat ≤ 299 := by
      intro x hx
      obtain ⟨r, hr, hkey, hprovided, hok⟩ := exists_of_admitted hgathered hadmitted hx
      exact ⟨r, hget r hr, hkey, hprovided, Response.isOk_iff.mp hok⟩
    refine ⟨⟨rfl, fun x hx => ?_⟩, fun x hx => ?_⟩
    · obtain ⟨r, hr, hkey, -⟩ := hentries x hx
      exact Key.method_of hr hkey
    · cases reply with
      | error f => cases hx
      | ok _ => exact hentries x hx
  · exact h.elim

end Rules

/-! ## All handlers -/

/-- **Every handler** writes to the cache of its worker only, what the network has provided for
`GET` requests and its event admits. -/
theorem writes_of_allows (h : w.Allows event past d) :
    Writes w.cacheName (Admits event) past d := by
  cases event with
  | install =>
    rcases h with ⟨target, reply, rfl⟩ | ⟨reply, rfl⟩ | ⟨reply, rfl⟩ | hflush | hwarm
    · exact ⟨trivial, nofun⟩
    · exact ⟨trivial, nofun⟩
    · exact ⟨trivial, nofun⟩
    · exact writes_of_flushing hflush
    · exact writes_of_warming (fun r hr => get_of_mem_prewarm hr) hwarm
  | fetch r => exact writes_of_responding (Cache.Scope.method_of_covers h.1) h.2
  | message data =>
    obtain ⟨requests, hrequests, hadding⟩ := h
    exact writes_of_adding (fun r hr => get_of_mem_requests hrequests hr) hadding
  | activate =>
    have hactivating : Activating past d := h
    unfold Activating at hactivating
    split at hactivating
    · exact ⟨trivial, nofun⟩
    · exact ⟨trivial, nofun⟩
    · exact ⟨trivial, nofun⟩
    · exact ⟨trivial, nofun⟩
    · exact hactivating.elim
  | push body =>
    obtain ⟨call, reply, rfl, -⟩ := h
    exact ⟨trivial, nofun⟩
  | click n =>
    obtain ⟨call, reply, rfl, -⟩ := h
    exact ⟨trivial, nofun⟩

/-- All that is done in a life keeps to the cache of the worker. -/
theorem within_of_log {start : World} {turns : Turns Event} {e : Entry}
    (he : e ∈ (w.life start turns).log) : e.deed.Within w.cacheName := by
  obtain ⟨event, hevent⟩ := exists_event he
  obtain ⟨past, future, hlog⟩ := List.append_of_mem he
  exact (writes_of_allows (allows_of_log hlog hevent)).within

end Worker

end ServiceWorker
