import ServiceWorker.Proofs.Cache.Damage
import ServiceWorker.Proofs.Cache.Key

/-!
# Requests that share an entry

A stored response is addressed by the digest of a text, in which the method and the URL of its key
are only parted by a blank. Nevertheless no two keys of requests have the same text, so two requests
share what is stored just if their methods agree in upper case and their URLs agree but for their
fragments. Two requests that do not share an entry have nothing to do with each other.

## Main definitions

* `Cache.Key.Shares`: in every cache, what is stored for one key is what is stored for another
* `Cache.Key.Apart`: what is stored for one key makes no difference to another

## Main results

* `Cache.Key.OfRequest.preimage_eq_iff`: the digested text tells method and URL
* `Cache.sharing_of_requests`: which requests share an entry
-/

namespace ServiceWorker.Cache

open Http (Request Response)

namespace Key

variable {k k' : Key}

/-- In every cache of every store, what is stored for one key is what is stored for the other, and
a response that is stored for one is from then on the one for the other. -/
structure Shares (k k' : Key) : Prop where
  same : ∀ (s : Store) name, s.at? name k.hash = s.at? name k'.hash
  found : ∀ s : Store, s.find? k = s.find? k'
  stored : ∀ (s : Store) stamp name r,
    (s.put stamp name k r).at? name k'.hash = some (Row.of stamp name k r)

/-- What is stored for one key is never what is stored for the other, and a response that is stored
for one of them leaves what is stored for the other as it is, in whatever cache. -/
structure Apart (k k' : Key) : Prop where
  different : ∀ (s : Store) name row, s.at? name k.hash = some row → s.at? name k'.hash ≠ some row
  kept : ∀ (s : Store) stamp name r other,
    (s.put stamp name k r).at? other k'.hash = s.at? other k'.hash

theorem at?_put (s : Store) (stamp : Stamp) (name : String) (k : Key) (r : Response)
    (other hash : String) : (s.put stamp name k r).at? other hash =
      if name = other ∧ k.hash = hash then some (Row.of stamp name k r) else s.at? other hash := by
  rw [Store.put, Store.at?_write, Store.at?_create, Row.of_cache, Row.of_hash]

theorem shares_iff : k.Shares k' ↔ k.hash = k'.hash := by
  constructor
  · intro h
    -- What has just been stored for the one is found for the other.
    have hstored := h.stored .empty .epoch "" (.of 200 [])
    rw [at?_put] at hstored
    split at hstored
    next hsame => exact hsame.2
    next => cases hstored
  · intro h
    refine ⟨fun s name => by rw [h], fun s => ?_, fun s stamp name r => ?_⟩
    · rw [Store.find?, Store.find?, h]
    · rw [at?_put, if_pos ⟨rfl, h⟩]

theorem apart_iff : k.Apart k' ↔ k.hash ≠ k'.hash := by
  constructor
  · intro h hsame
    have hkept := h.kept .empty .epoch "" (.of 200 []) ""
    rw [at?_put, if_pos ⟨rfl, hsame⟩] at hkept
    cases hkept
  · intro h
    refine ⟨fun s name row hrow hrow' => ?_, fun s stamp name r other => ?_⟩
    · obtain ⟨-, -, hhash⟩ := Store.of_at? hrow
      obtain ⟨-, -, hhash'⟩ := Store.of_at? hrow'
      exact h (hhash.symm.trans hhash')
    · rw [at?_put, if_neg fun hsame => h hsame.2]

/-- **The digested text tells method and URL**, though there may be blanks in both. -/
theorem OfRequest.preimage_eq_iff (h : k.OfRequest) (h' : k'.OfRequest) :
    k.preimage = k'.preimage ↔ k.method = k'.method ∧ k.url = k'.url := by
  constructor
  · intro hpre
    obtain rfl := h.eq_of_preimage_eq h' hpre
    exact ⟨rfl, rfl⟩
  · rintro ⟨hmethod, hurl⟩
    rw [preimage, preimage, hmethod, hurl]

/-- Keys of requests have the same digest only if they are the same. -/
theorem OfRequest.hash_eq_iff (h : k.OfRequest) (h' : k'.OfRequest)
    (hfree : CollisionFree [k, k']) :
    k.hash = k'.hash ↔ k.method = k'.method ∧ k.url = k'.url := by
  constructor
  · intro hhash
    obtain rfl := hfree.eq_of_requests (by simp) (by simp) h h' hhash
    exact ⟨rfl, rfl⟩
  · intro hsame
    rw [hash, hash, (h.preimage_eq_iff h').mpr hsame]

end Key

/-- **Two requests share an entry just if their methods agree in upper case and their URLs agree but
for their fragments**, as long as the digests tell their texts apart; otherwise they have nothing to
do with each other. Their texts always tell them apart, whatever stands in them. -/
theorem sharing_of_requests {r r' : Request} {url url' : Url} (h : Url.parse r.url = .ok url)
    (h' : Url.parse r'.url = .ok url') :
    ∃ k k', Key.of r = .ok k ∧ Key.of r' = .ok k' ∧
      (k.preimage = k'.preimage ↔ k.method = k'.method ∧ k.url = k'.url) ∧
      (CollisionFree [k, k'] →
        (k.Shares k' ↔ Http.asciiUpper r.method = Http.asciiUpper r'.method ∧
          url.withoutFragment.text = url'.withoutFragment.text) ∧
        (k.Apart k' ↔ ¬(Http.asciiUpper r.method = Http.asciiUpper r'.method ∧
          url.withoutFragment.text = url'.withoutFragment.text))) := by
  have hkey : Key.of r = .ok (.ofUrl r.method url) := by rw [Key.of, h]
  have hkey' : Key.of r' = .ok (.ofUrl r'.method url') := by rw [Key.of, h']
  have hof : (Key.ofUrl r.method url).OfRequest := ⟨r, hkey⟩
  have hof' : (Key.ofUrl r'.method url').OfRequest := ⟨r', hkey'⟩
  refine ⟨_, _, hkey, hkey', hof.preimage_eq_iff hof', fun hfree => ⟨?_, ?_⟩⟩
  · exact Key.shares_iff.trans (hof.hash_eq_iff hof' hfree)
  · exact Key.apart_iff.trans (not_congr (hof.hash_eq_iff hof' hfree))

/-- A blank in the method of one request and in the URL of the other: but for the case of a few
letters the texts of their keys are the same, and still they have nothing to do with each other. -/
theorem apart_of_blanks :
    let r : Request := ⟨"get", "foo:a foo:b#c", .empty⟩
    let r' : Request := ⟨"get foo:a", "FOO:b", .empty⟩
    let k : Key := ⟨"GET", "foo:a foo:b"⟩
    let k' : Key := ⟨"GET FOO:A", "foo:b"⟩
    (∃ url, Url.parse r.url = .ok url) ∧ (∃ url, Url.parse r'.url = .ok url) ∧
      Key.of r = .ok k ∧ Key.of r' = .ok k' ∧ CollisionFree [k, k'] ∧
      k.preimage = Text.utf8 "GET foo:a foo:b" ∧ k'.preimage = Text.utf8 "GET FOO:A foo:b" ∧
      k.Apart k' := by
  intro r r' k k'
  have h : Url.parse r.url = .ok ⟨⟨'f', ['o', 'o'], by decide⟩, .bare "a foo:b".toList, none,
      some ['c']⟩ := by decide +kernel
  have h' : Url.parse r'.url = .ok ⟨⟨'f', ['o', 'o'], by decide⟩, .bare ['b'], none, none⟩ := by
    decide +kernel
  have hkey : Key.of r = .ok k := by decide +kernel
  have hkey' : Key.of r' = .ok k' := by decide +kernel
  have hfree : CollisionFree [k, k'] := by
    have hne : Digest.Sha256.hex k.preimage ≠ Digest.Sha256.hex k'.preimage := by decide +kernel
    simp [CollisionFree, hne, hne.symm]
  obtain ⟨x, x', hx, hx', -, hshare⟩ := sharing_of_requests h h'
  obtain rfl : x = k := Except.ok.inj (hx.symm.trans hkey)
  obtain rfl : x' = k' := Except.ok.inj (hx'.symm.trans hkey')
  have hmethods : Http.asciiUpper r.method ≠ Http.asciiUpper r'.method := by decide +kernel
  exact ⟨⟨_, h⟩, ⟨_, h'⟩, hkey, hkey', hfree, rfl, rfl,
    (hshare hfree).2.mpr fun hsame => hmethods hsame.1⟩

end ServiceWorker.Cache
