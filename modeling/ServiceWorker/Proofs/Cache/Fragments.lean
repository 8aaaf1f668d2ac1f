import ServiceWorker.Cache.Scope
import ServiceWorker.Proofs.Cache.Key
import ServiceWorker.Proofs.Url.Fragment

/-!
# Fragments do not count

Neither whether a request may be answered from the cache nor its key depends on the fragment of its
URL, where the URL is read as the URL standard has it. So pages that ask for one asset under
different fragments share one stored response. Where it is not, a lone at sign has a key without a
fragment and none with one.

## Main results

* `Cache.Scope.covers_marked`, `Cache.key_marked`: what does not depend on the fragment
* `Cache.fragments_of_requests`: when a fragment makes a difference
* `Cache.fragment_makes_no_difference`: it makes none where URLs are read as the standard has it
* `Cache.key_of_loneAt`: a URL that has a key only as long as no fragment follows it
-/

namespace ServiceWorker

namespace Url

variable (u : Url) (fragment : Option (List Char))

theorem withoutFragment_marked : { u with fragment }.withoutFragment = u.withoutFragment := by
  obtain ⟨scheme, place, query, other⟩ := u
  cases place <;> cases query <;> rfl

theorem origin_marked : { u with fragment }.origin = u.origin := by
  simp only [origin, originWithin, path, serverOrigin]

/-- Without a network protocol and without a path no URL is of an origin that another can be of. -/
theorem origin_of_bare {scheme : Scheme} (h : scheme.isSpecial = false) (authority : Authority)
    (query : Option (List Char)) :
    Url.origin ⟨scheme, .rooted (some authority) [], query, fragment⟩ = .unique := by
  have hport : scheme.defaultPort = none := by
    simpa using (Bool.or_eq_false_iff.mp h).2
  show originWithin 1 _ = _
  rw [originWithin]
  split
  · rfl
  · rw [serverOrigin, hport]

end Url

namespace Cache

open Http (Headers Request)

theorem Scope.contains_marked (s : Scope) (u : Url) (fragment : Option (List Char)) :
    s.contains { u with fragment } = s.contains u := by
  simp only [contains, Url.origin_marked, Url.path]

section Requests

variable {u : String} (hmark : '#' ∉ u.toList)
  (hlast : ∀ c ∈ u.toList.getLast?, Url.isEdge c = false)

include hmark hlast

/-- **Whether a request may be answered from the cache does not depend on its fragment.** -/
theorem Scope.covers_marked (s : Scope) (method f : String) (headers : Headers) :
    s.covers ⟨method, u ++ "#" ++ f, headers⟩ = s.covers ⟨method, u, headers⟩ := by
  unfold covers
  by_cases hlone : Url.LoneAt u
  · -- It may not in either case: it cannot be read, or is of no origin.
    obtain ⟨⟨scheme, hspecial, hread⟩, herror⟩ := hlone.parse hmark hlast f
    simp only [hread, herror]
    rw [contains, Url.origin_of_bare _ hspecial]
    simp [Origin.agrees]
  · obtain ⟨g, hg⟩ := Url.parse_append hmark hlast hlone f
    simp only [hg]
    cases Url.parse u with
    | error problem => rfl
    | ok url =>
      show (method == "GET" && s.contains { url with fragment := some g }) = _
      rw [s.contains_marked]

/-- **The key of a request does not depend on its fragment**, unless the URL is a lone at sign. -/
theorem key_marked (hlone : ¬Url.LoneAt u) (method f : String) (headers : Headers) :
    (Key.of ⟨method, u ++ "#" ++ f, headers⟩).toOption =
      (Key.of ⟨method, u, headers⟩).toOption := by
  obtain ⟨g, hg⟩ := Url.parse_append hmark hlast hlone f
  unfold Key.of
  simp only [hg]
  cases Url.parse u with
  | error problem => rfl
  | ok url =>
    show some (Key.ofUrl method { url with fragment := some g }) = _
    rw [Key.ofUrl, Url.withoutFragment_marked]
    rfl

/-- A URL with a lone at sign has a key. With a fragment behind it, it cannot be read. -/
theorem key_of_loneAt (hlone : Url.LoneAt u) (method f : String) (headers : Headers) :
    (∃ k, Key.of ⟨method, u, headers⟩ = .ok k) ∧
      Key.of ⟨method, u ++ "#" ++ f, headers⟩ = .error ⟨u ++ "#" ++ f, .emptyHost⟩ := by
  obtain ⟨⟨scheme, -, hread⟩, herror⟩ := hlone.parse hmark hlast f
  constructor
  · exact ⟨.ofUrl method _, by rw [Key.of, hread]⟩
  · rw [Key.of, herror]

example : Key.of (.get "foo://@") = .ok ⟨"GET", "foo://"⟩ ∧
    Key.of (.get "foo://@#x") = .error ⟨"foo://@#x", .emptyHost⟩ := ⟨rfl, rfl⟩

end Requests

/-- **A fragment makes no difference**: to the scope never, and to whether the URL can be read and
what key the request has just as long as the URL in front of it is no lone at sign. Different
fragments make no difference even then. -/
theorem fragments_of_requests (s : Scope) (method : String) (headers : Headers) (u f : String)
    (hmark : '#' ∉ u.toList) (hlast : ∀ c ∈ u.toList.getLast?, Url.isEdge c = false) :
    let r : Request := ⟨method, u, headers⟩
    let marked (f : String) : Request := ⟨method, u ++ "#" ++ f, headers⟩
    s.covers (marked f) = s.covers r ∧
      ((Url.parse (marked f).url).isOk = (Url.parse r.url).isOk ∧
        (Key.of (marked f)).toOption = (Key.of r).toOption ↔ ¬Url.LoneAt u) ∧
      ∀ f', (Key.of (marked f')).toOption = (Key.of (marked f)).toOption := by
  intro r marked
  refine ⟨s.covers_marked hmark hlast method f headers, ⟨?_, fun hlone => ⟨?_, ?_⟩⟩, fun f' => ?_⟩
  · rintro ⟨-, hkey⟩ hlone
    obtain ⟨⟨k, hk⟩, herror⟩ := key_of_loneAt hmark hlast hlone method f headers
    rw [hk, herror] at hkey
    cases hkey
  · obtain ⟨g, hg⟩ := Url.parse_append hmark hlast hlone f
    show (Url.parse (u ++ "#" ++ f)).isOk = (Url.parse u).isOk
    rw [hg]
    cases Url.parse u <;> rfl
  · exact key_marked hmark hlast hlone method f headers
  · by_cases hlone : Url.LoneAt u
    · rw [(key_of_loneAt hmark hlast hlone method f headers).2,
        (key_of_loneAt hmark hlast hlone method f' headers).2]
      rfl
    · exact (key_marked hmark hlast hlone method f' headers).trans
        (key_marked hmark hlast hlone method f headers).symm

/-- **Fragments do not count.** Where a URL is read as the URL standard has it, what follows it as a
fragment makes no difference: the URL can be read or not, the request may be answered from the cache
or not, and it has the same key or none. So requests with different fragments share one key. -/
theorem fragment_makes_no_difference (s : Scope) (method : String) (headers : Headers)
    (u f : String) (hmark : '#' ∉ u.toList)
    (hlast : ∀ c ∈ u.toList.getLast?, Url.isEdge c = false) (hstandard : Url.ReadAsStandard u) :
    let r : Request := ⟨method, u, headers⟩
    let marked (f : String) : Request := ⟨method, u ++ "#" ++ f, headers⟩
    (Url.parse (marked f).url).isOk = (Url.parse r.url).isOk ∧
      s.covers (marked f) = s.covers r ∧
      (Key.of (marked f)).toOption = (Key.of r).toOption ∧
      ∀ f', (Key.of (marked f')).toOption = (Key.of (marked f)).toOption := by
  intro r marked
  have hlone := (Url.readAsStandard_iff hmark hlast).mp hstandard
  obtain ⟨hcovers, hsame, hothers⟩ := fragments_of_requests s method headers u f hmark hlast
  obtain ⟨hread, hkey⟩ := hsame.mpr hlone
  exact ⟨hread, hcovers, hkey, hothers⟩

/-- Whatever stands behind the mark, the request may be answered from the cache, with the key of the
asset. -/
theorem fragments_of_asset :
    let s : Scope := ⟨.server ⟨'h', ['t', 't', 'p'], by decide⟩
      (.inet6 ⟨[0, 0, 0, 0, 0, 0, 0, 1]⟩) 80, "/static", true⟩
    let u := " HTTP://[::1]:80/static/a/../b\t.css?x"
    let f := "sec#tion \n"
    '#' ∉ u.toList ∧ (∀ c ∈ u.toList.getLast?, Url.isEdge c = false) ∧ Url.ReadAsStandard u ∧
      (Url.parse (u ++ "#" ++ f)).isOk = true ∧ s.covers (.get (u ++ "#" ++ f)) = true ∧
      (Key.of (.get (u ++ "#" ++ f))).toOption = some ⟨"GET", "http://[::1]/static/b.css?x"⟩ := by
  intro s u f
  have hmark : '#' ∉ u.toList := by decide
  have hend : u.toList.getLast? = some 'x' := by decide
  have hlast : ∀ c ∈ u.toList.getLast?, Url.isEdge c = false := by
    rw [hend]
    rintro _ ⟨⟩
    decide
  -- There is a query, so nothing is alone.
  have hstandard : Url.ReadAsStandard u := by
    rintro ⟨hquery, -⟩
    have hsome : (Url.Reference.of u).query.isSome := by decide +kernel
    rw [hquery] at hsome
    cases hsome
  have hread : (Url.parse u).isOk = true := by decide +kernel
  have hcovers : s.covers (.get u) = true := by decide +kernel
  have hkey : (Key.of (.get u)).toOption = some ⟨"GET", "http://[::1]/static/b.css?x"⟩ := by
    decide +kernel
  obtain ⟨hread', hcovers', hkey', -⟩ :=
    fragment_makes_no_difference s "GET" .empty u f hmark hlast hstandard
  exact ⟨hmark, hlast, hstandard, hread'.trans hread, hcovers'.trans hcovers, hkey'.trans hkey⟩

end Cache

end ServiceWorker
