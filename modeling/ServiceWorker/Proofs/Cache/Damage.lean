import ServiceWorker.Proofs.Cache.Batch
import ServiceWorker.Proofs.Json.Reading

/-!
# Damaged rows

Whatever stands in the columns of a row, it is read as a response only if every column can be read,
and then nothing is read but what stands there. The row that is looked up for a key is settled by
its digest and the ages of the caches; it is the one that is reported if it cannot be read, though
another cache may have one that can.

## Main definitions

* `Cache.Row.Reads`: what stands in the columns of a row that can be read
* `Cache.Row.Damaged`: rows that cannot be read
* `Cache.Store.Selects`: the row that is looked up for a key
* `Cache.Store.Reading`: what is read from a store for a key

## Main results

* `Cache.Row.read_eq_ok_iff`: a row is read if and only if each of its columns can be
* `Cache.Store.find?_eq_some_iff`: the row that is looked up is that of the oldest cache that has
  one
* `Cache.Store.reading`: what is read from a store, whatever stands in its columns
-/

namespace ServiceWorker.Cache

open Http (Response)
open Json (stringMembers)
open Text (Dictionary Symbol)

/-! ## Columns -/

section Columns

variable {url : String} {place : Column.Place} {column : Column}

theorem readString_eq_ok_iff {s : String} :
    column.readString url place = .ok s ↔ column = .ofString s := by
  cases column with
  | text t => simp [Column.readString, Column.ofString, Text.readString_eq_ok]
  | _ => simp [Column.readString, Column.ofString]

theorem readStatus_eq_ok_iff {n : UInt16} :
    column.readStatus url place = .ok n ↔ column = .integer n.toNat := by
  cases column with
  | integer m =>
    have hn := n.toNat_lt
    rw [Column.readStatus, Column.integer.injEq]
    split
    next hrange =>
      obtain ⟨k, rfl⟩ := Int.eq_ofNat_of_zero_le hrange.1
      have hk : k < UInt16.size := Int.ofNat_lt.mp hrange.2
      rw [Except.ok.injEq, Int.toNat_natCast, Int.ofNat_inj, ← UInt16.toNat_inj,
        UInt16.toNat_ofNat_of_lt' hk]
    next hrange =>
      constructor
      · intro h
        cases h
      · intro hm
        exact absurd (by omega) hrange
  | _ => simp [Column.readStatus]

/-- The headers are read from a text that is an object of strings, of which the last one for a name
prevails. -/
theorem readHeaders_eq_ok_iff {text : String} {headers : Http.Headers} :
    readHeaders text = .ok headers ↔ ∃ entries,
      Json.readText Json.Reader.value (Symbol.ofString text) =
        .ok (.object (stringMembers entries)) ∧ Dictionary.ofList entries = headers := by
  rw [readHeaders, mapError_eq_ok, Json.readText_dictionary_eq_ok]

theorem readTime_eq_ok_iff {text : String} {time : Time.Instant} :
    readTime text = .ok time ↔ Time.Instant.readPlain text = .ok time := by
  rw [readTime, mapError_eq_ok]

end Columns

/-! ## Rows -/

namespace Row

/-- What stands in the columns of a row from which something is read: a status in the range of
statuses, a text that is an object of strings, which are the headers, and a text that is a time. -/
structure Reads (row : Row) (stored : Stored) : Prop where
  status : row.status = .integer stored.response.status.toNat
  headers : ∃ text entries, row.headers = .ofString text ∧
    Json.readText Json.Reader.value (Symbol.ofString text) =
      .ok (.object (stringMembers entries)) ∧
    stored.response.headers = Dictionary.ofList entries
  storedAt : ∃ text, row.storedAt = .ofString text ∧
    Time.Instant.readPlain text = .ok stored.storedAt
  body : stored.response.body = row.body

/-- Nothing can be read from a row. -/
def Damaged (row : Row) : Prop :=
  ∀ stored, ¬row.Reads stored

variable {row : Row} {url : String} {stored : Stored}

/-- **A row is read if and only if each of its columns can be**, and then what stands there is
read. -/
theorem read_eq_ok_iff : row.read url = .ok stored ↔ row.Reads stored := by
  simp only [read, bind_eq_ok, readStatus_eq_ok_iff, readString_eq_ok_iff, readHeaders_eq_ok_iff,
    readTime_eq_ok_iff]
  constructor
  · rintro ⟨status, hstatus, text, hheaders, timeText, hstored, headers, ⟨entries, hread, rfl⟩,
      time, htime, hwhole⟩
    obtain rfl := Except.ok.inj hwhole
    exact ⟨hstatus, ⟨text, entries, hheaders, hread, rfl⟩, ⟨timeText, hstored, htime⟩, rfl⟩
  · rintro ⟨hstatus, ⟨text, entries, hheaders, hread, hentries⟩, ⟨timeText, hstored, htime⟩, hbody⟩
    refine ⟨_, hstatus, text, hheaders, timeText, hstored, _, ⟨entries, hread, hentries.symm⟩, _,
      htime, ?_⟩
    rw [← hbody]

/-- From a damaged row nothing but its damage can be told. -/
theorem Damaged.exists_read (h : row.Damaged) (url : String) :
    ∃ damage, row.read url = .error damage := by
  cases hread : row.read url with
  | error damage => exact ⟨damage, rfl⟩
  | ok stored => exact absurd (read_eq_ok_iff.mp hread) (h stored)

end Row

/-! ## Stores -/

namespace Store

/-- A store has a row for the digest of a key, and no cache that is older than that of the row
has one. -/
structure Selects (s : Store) (key : Key) (row : Row) : Prop where
  listed : row.cache ∈ s.names
  has : s.at? row.cache key.hash = some row
  oldest : ∀ name ∈ s.names.takeWhile (· ≠ row.cache), s.at? name key.hash = none

variable {s : Store} {key : Key} {row : Row}

theorem of_at? {name hash : String} (h : s.at? name hash = some row) :
    row ∈ s.rows ∧ row.cache = name ∧ row.hash = hash :=
  ⟨List.mem_of_find?_eq_some h, by simpa using List.find?_some h⟩

/-- **The row that is looked up is that of the oldest cache** that has one for the key. -/
theorem find?_eq_some_iff : s.find? key = some row ↔ s.Selects key row := by
  constructor
  · intro h
    obtain ⟨older, name, younger, hnames, hrow, hnone⟩ := List.findSome?_eq_some_iff.mp h
    obtain ⟨-, rfl, -⟩ := of_at? hrow
    -- The cache is not among those without a row, so these are the ones before it.
    have hfresh : row.cache ∉ older := fun hmem => by
      have hhas : s.at? row.cache key.hash = some row := hrow
      rw [show s.at? row.cache key.hash = none from hnone _ hmem] at hhas
      cases hhas
    refine ⟨hnames ▸ List.mem_append_right _ List.mem_cons_self, hrow, fun n hn => hnone n ?_⟩
    rwa [hnames, takeWhile_ne_append hfresh] at hn
  · exact fun h => find?_of_older h.listed h.oldest h.has

/-- What is read from a store for a key. -/
structure Reading (s : Store) (key : Key) : Prop where
  /-- Something is read if the row of the oldest cache that has the key can be read, and then it is
  what stands in its columns. -/
  found : ∀ stored, s.stored? key = .ok (some stored) ↔
    ∃ row, s.Selects key row ∧ row.Reads stored
  /-- Nothing is found if no listed cache has the key. -/
  missing : s.stored? key = .ok none ↔ ∀ name ∈ s.names, s.at? name key.hash = none
  /-- A damaged row is reported, whatever else there is for the key. -/
  damaged : ∀ row, s.Selects key row → row.Damaged →
    ∃ damage, s.stored? key = .error damage ∧ s.answer (.find key) = .error (.damaged damage)
  /-- A look-up answers with the response alone. -/
  answer : s.answer (.find key) =
    ((s.stored? key).map (Option.map Stored.response)).mapError .damaged

theorem find?_eq_none_iff : s.find? key = none ↔ ∀ name ∈ s.names, s.at? name key.hash = none :=
  List.findSome?_eq_none_iff

theorem stored?_eq_some_iff {stored : Stored} :
    s.stored? key = .ok (some stored) ↔ ∃ row, s.Selects key row ∧ row.Reads stored := by
  simp only [← find?_eq_some_iff]
  unfold stored?
  cases s.find? key with
  | none => simp
  | some row => simp [map_eq_ok, Row.read_eq_ok_iff]

theorem stored?_eq_none_iff :
    s.stored? key = .ok none ↔ ∀ name ∈ s.names, s.at? name key.hash = none := by
  rw [← find?_eq_none_iff, stored?]
  cases s.find? key with
  | none => simp
  | some row => simp [map_eq_ok]

theorem Selects.exists_damage (h : s.Selects key row) (hdamaged : row.Damaged) :
    ∃ damage, s.stored? key = .error damage := by
  obtain ⟨damage, hread⟩ := hdamaged.exists_read key.url
  exact ⟨damage, by rw [stored?, find?_eq_some_iff.mpr h]; simp only [hread]; rfl⟩

/-- **What is read from a store for a key**, whatever stands in its columns. -/
theorem reading (s : Store) (key : Key) : s.Reading key where
  found _ := stored?_eq_some_iff
  missing := stored?_eq_none_iff
  damaged row hselects hdamaged := by
    obtain ⟨damage, hstored⟩ := hselects.exists_damage hdamaged
    refine ⟨damage, hstored, ?_⟩
    rw [answer, lookUp, hstored]
    rfl
  answer := rfl

end Store

end ServiceWorker.Cache
