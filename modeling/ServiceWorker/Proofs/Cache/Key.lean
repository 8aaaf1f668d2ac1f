import ServiceWorker.Proofs.Cache.Row

/-!
# Keys of requests

A key is written as its method, a blank and its URL, and neither of them is free of blanks. Yet the
text of a key of a request can be read in one way only: its method has no letter in lower case, and
its URL begins with one.

## Main definitions

* `Cache.Key.OfRequest`: a key is that of a request

## Main results

* `Cache.Key.OfRequest.eq_of_preimage_eq`: keys of requests are told apart by their texts
* `Cache.CollisionFree.eq_of_requests`: and by their digests
-/

namespace ServiceWorker

/-- A letter in lower case. -/
def IsLower (c : Char) : Prop :=
  'a' ≤ c ∧ c ≤ 'z'

theorem not_isLower_toUpper (c : Char) : ¬IsLower c.toUpper := by
  rintro ⟨hlow, hhigh⟩
  rw [Char.le_def] at hlow hhigh
  unfold Char.toUpper at hlow hhigh
  split at hlow
  next h =>
    -- What was in lower case has been moved down by the distance of the two alphabets.
    rw [dif_pos h] at hhigh
    have hbound : c.val.toNat ≤ 122 := UInt32.le_iff_toNat_le.mp h.2
    have hletter : 97 ≤ c.val.toNat := UInt32.le_iff_toNat_le.mp h.1
    have hmoved : 97 ≤ (c.val + ('A'.val - 'a'.val)).toNat := UInt32.le_iff_toNat_le.mp hlow
    have hsum : (c.val + ('A'.val - 'a'.val)).toNat = (c.val.toNat + (2 ^ 32 - 32)) % 2 ^ 32 :=
      UInt32.toNat_add _ _
    omega
  next h =>
    rw [dif_neg h] at hhigh
    exact h ⟨hlow, hhigh⟩

namespace Cache

namespace Key

/-- A key is that of a request. -/
def OfRequest (k : Key) : Prop :=
  ∃ r, Key.of r = .ok k

namespace OfRequest

variable {k k' : Key}

theorem exists_parts (h : k.OfRequest) :
    ∃ method url, k = ⟨Http.asciiUpper method, Url.text url⟩ := by
  obtain ⟨r, hr⟩ := h
  unfold Key.of at hr
  split at hr
  next url _ => exact ⟨r.method, url.withoutFragment, (Except.ok.inj hr).symm⟩
  next => cases hr

/-- The method of a key has no letter in lower case. -/
theorem not_isLower (h : k.OfRequest) {c : Char} (hc : c ∈ k.method.toList) : ¬IsLower c := by
  obtain ⟨method, url, rfl⟩ := h.exists_parts
  rw [Http.asciiUpper, String.toList_ofList] at hc
  obtain ⟨d, -, rfl⟩ := List.mem_map.mp hc
  exact not_isLower_toUpper d

/-- The URL of a key begins with a letter in lower case. -/
theorem url_eq_cons (h : k.OfRequest) : ∃ c rest, k.url.toList = c :: rest ∧ IsLower c := by
  obtain ⟨method, url, rfl⟩ := h.exists_parts
  obtain ⟨rest, hrest⟩ := List.head?_eq_some_iff.mp url.letters_head?
  refine ⟨url.scheme.first, rest, ?_, url.scheme.isLetter⟩
  rw [Url.text, String.toList_ofList, hrest]

/-- A method and a blank cannot be continued to a longer method by the beginning of a URL. -/
theorem eq_nil_of_append (h : k.OfRequest) (h' : k'.OfRequest) {mid : List Char}
    (hmethod : k'.method.toList = k.method.toList ++ mid)
    (hurl : ' ' :: k.url.toList = mid ++ ' ' :: k'.url.toList) : mid = [] := by
  cases mid with
  | nil => rfl
  | cons blank mid =>
    exfalso
    obtain ⟨c, rest, hc, hlower⟩ := h.url_eq_cons
    obtain ⟨-, hrest⟩ := List.cons_eq_cons.mp hurl
    rw [hc] at hrest
    cases mid with
    | nil =>
      obtain ⟨rfl, -⟩ := List.cons_eq_cons.mp hrest
      exact absurd hlower (by unfold IsLower; decide)
    | cons d mid =>
      -- The first letter of the URL would be one of the longer method.
      obtain ⟨rfl, -⟩ := List.cons_eq_cons.mp hrest
      exact h'.not_isLower (hmethod ▸ by simp) hlower

/-- **Keys of requests are told apart by their texts.** -/
theorem eq_of_preimage_eq (h : k.OfRequest) (h' : k'.OfRequest)
    (hpre : k.preimage = k'.preimage) : k = k' := by
  have htext := congrArg String.toList (Text.utf8_inj hpre)
  have hblank : " ".toList = [' '] := rfl
  simp only [String.toList_append, hblank, List.append_assoc, List.singleton_append] at htext
  have hmethod : k.method = k'.method := by
    rcases List.append_eq_append_iff.mp htext with ⟨mid, hlong, hurl⟩ | ⟨mid, hlong, hurl⟩
    · obtain rfl := h.eq_nil_of_append h' hlong hurl
      exact (String.toList_injective (by simpa using hlong)).symm
    · obtain rfl := h'.eq_nil_of_append h hlong hurl
      exact String.toList_injective (by simpa using hlong)
  exact Key.eq_of_preimage_eq hmethod hpre

end OfRequest

end Key

/-- Keys of requests are told apart by their digests. -/
theorem CollisionFree.eq_of_requests {keys : List Key} (h : CollisionFree keys) {k k' : Key}
    (hk : k ∈ keys) (hk' : k' ∈ keys) (hof : k.OfRequest) (hof' : k'.OfRequest)
    (hhash : k.hash = k'.hash) : k = k' :=
  hof.eq_of_preimage_eq hof' (h k hk k' hk' (String.ofList_injective hhash))

end Cache

end ServiceWorker
