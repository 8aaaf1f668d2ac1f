import ServiceWorker.Cache.Row
import ServiceWorker.Proofs.Json.Restoring

/-!
# Keys and rows

A response is read back from its row as it was stored. Keys of requests are told apart by their
digests, as long as no two texts with the same digest are met.

## Main definitions

* `Cache.CollisionFree`: no two of the keys have different texts with the same digest

## Main results

* `Cache.CollisionFree.eq_of_hash_eq`: keys of `GET` requests are told apart by their digests
* `Cache.Row.response_of`: a response is read back from its row
-/

namespace ServiceWorker

open Http (Response)

/-- Strings are told apart by their encodings. -/
theorem Text.utf8_inj {s t : String} (h : utf8 s = utf8 t) : s = t := by
  have hencode : s.toList.utf8Encode = t.toList.utf8Encode := congrArg List.toByteArray h
  rw [String.utf8Encode_toList, String.utf8Encode_toList] at hencode
  exact String.toByteArray_inj.mp hencode

namespace Cache

/-! ## Keys -/

/-- Keys with the same method are told apart by their texts. -/
theorem Key.eq_of_preimage_eq {k k' : Key} (hmethod : k.method = k'.method)
    (h : k.preimage = k'.preimage) : k = k' := by
  have htext := congrArg String.toList (Text.utf8_inj h)
  simp only [String.toList_append, hmethod] at htext
  -- Behind the same method, what is left of the texts are the URLs.
  have hurl : k.url = k'.url := String.toList_injective (List.append_cancel_left htext)
  cases k
  cases k'
  cases hmethod
  cases hurl
  rfl

/-- No two of the keys have different texts with the same digest. -/
def CollisionFree (keys : List Key) : Prop :=
  ∀ k ∈ keys, ∀ k' ∈ keys,
    Digest.Sha256.hex k.preimage = Digest.Sha256.hex k'.preimage → k.preimage = k'.preimage

/-- Keys of `GET` requests are told apart by their digests. -/
theorem CollisionFree.eq_of_hash_eq {keys : List Key} (h : CollisionFree keys) {k k' : Key}
    (hk : k ∈ keys) (hk' : k' ∈ keys) (hget : k.method = "GET") (hget' : k'.method = "GET")
    (hhash : k.hash = k'.hash) : k = k' := by
  refine Key.eq_of_preimage_eq (hget.trans hget'.symm) (h k hk k' hk' ?_)
  exact String.ofList_injective hhash

/-- The key of a `GET` request is one for this method. -/
theorem Key.method_of {r : Http.Request} {key : Key} (hget : r.method = "GET")
    (hkey : Key.of r = .ok key) : key.method = "GET" := by
  unfold Key.of at hkey
  split at hkey
  next url _ =>
    have hupper : Http.asciiUpper "GET" = "GET" := by decide
    cases hkey
    rw [hget]
    exact hupper
  next => cases hkey

/-! ## Columns -/

/-- A string is read back from its column. -/
@[simp] theorem Column.readString_ofString (url : String) (place : Column.Place) (s : String) :
    (Column.ofString s).readString url place = .ok s := by
  rw [Column.ofString, Column.readString, Text.readString_ofString]
  rfl

/-! ## Rows -/

namespace Row

variable (stamp : Stamp) (name : String) (key : Key) (r : Response)

@[simp] theorem of_cache : (Row.of stamp name key r).cache = name := rfl

@[simp] theorem of_hash : (Row.of stamp name key r).hash = key.hash := rfl

@[simp] theorem of_key : (Row.of stamp name key r).key = key := rfl

/-- The status is read back. -/
theorem readStatus_of (url : String) (place : Column.Place) :
    (Row.of stamp name key r).status.readStatus url place = .ok r.status := by
  have hlow : (0 : Int) ≤ r.status.toNat := Int.natCast_nonneg _
  have hhigh : (r.status.toNat : Int) < 65536 := by
    have := r.status.toNat_lt
    omega
  have hcolumn : (Row.of stamp name key r).status = .integer r.status.toNat := rfl
  -- A status always fits into its column, so it is never refused when it is read.
  rw [hcolumn, Column.readStatus, if_pos ⟨hlow, hhigh⟩, Int.toNat_natCast, UInt16.ofNat_toNat]

/-- The headers are read back. -/
theorem readHeaders_of : readHeaders (Http.headersJson r.headers).text = .ok r.headers := by
  have hread : Json.readText (Json.Reader.dictionary Json.Reader.string)
      (Text.Symbol.ofString (Http.headersJson r.headers).text) = .ok r.headers :=
    Json.readText_dictionary r.headers
  rw [readHeaders, hread]
  rfl

/-- The time can be read. -/
theorem readTime_of : ∃ time, readTime stamp.text = .ok time := by
  have hreads := stamp.reads
  unfold readTime
  cases htime : Time.Instant.readPlain stamp.text with
  | ok time => exact ⟨time, rfl⟩
  | error e =>
    rw [htime] at hreads
    cases hreads

/-- So the row can be read, with the response that it was made for. -/
theorem read_of (url : String) : ∃ time, (Row.of stamp name key r).read url = .ok ⟨r, time⟩ := by
  have hheaders (place : Column.Place) : (Row.of stamp name key r).headers.readString url place =
      .ok (Http.headersJson r.headers).text := Column.readString_ofString url place _
  have hstored (place : Column.Place) : (Row.of stamp name key r).storedAt.readString url place =
      .ok stamp.text := Column.readString_ofString url place _
  obtain ⟨time, htime⟩ := readTime_of stamp
  refine ⟨time, ?_⟩
  rw [read, readStatus_of, hheaders, hstored]
  show (readHeaders _ >>= fun headers => readTime stamp.text >>= fun time => _) = _
  rw [readHeaders_of, htime]
  rfl

/-- **A response is read back from its row** as it was stored, with every header and its body. -/
theorem response_of (url : String) : (Row.of stamp name key r).response url = .ok r := by
  obtain ⟨time, hread⟩ := read_of stamp name key r url
  rw [response, hread]
  rfl

end Row

end Cache

end ServiceWorker
