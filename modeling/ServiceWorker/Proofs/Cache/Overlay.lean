import ServiceWorker.Proofs.Cache.Loading
import ServiceWorker.Proofs.Worker.Clearing

/-!
# What is stored on top of a store

Responses that are stored in one cache lie on top of what a store held before. What is looked up
then depends on that store and on the responses alone, and not on when they were stored nor on when
the cache was created.

## Main definitions

* `Cache.Store.Overlay`: a store with responses on top of what another holds
* `Cache.Row.Alike`: rows that differ in their times only
* `Cache.OnTop`: what deeds have stored lies on top of what was there

## Main results

* `Cache.Store.Overlay.put`, `Cache.Store.Overlay.putAll`: what is stored lies on top
* `Cache.Store.Overlay.lookUp_congr`: stores with the same on top of the same answer alike
* `Cache.Store.Overlay.names_congr`, `Cache.Store.Overlay.alike_congr`: and hold the same
-/

namespace ServiceWorker.Cache

open Http (Response)

/-- Rows that differ in the times at which they were written, if at all. -/
def Row.Alike (row row' : Row) : Prop :=
  { row with storedAt := row'.storedAt } = row'

namespace Store

variable {s₀ s s' : Store} {name : String} {made made' : Prop} {ws ws' : List (Key × Response)}

/-- A store holds what another does, and on top of it given responses in one cache. The cache has
been made by itself, or it is made for the first of them. -/
structure Overlay (s₀ : Store) (name : String) (made : Prop) (ws : List (Key × Response))
    (s : Store) : Prop where
  opened : made ∨ ws ≠ [] → s.names = (s₀.create name).names
  unopened : ¬made → ws = [] → s.names = s₀.names
  old : ∀ n hash, (n = name → last? (·.hash = hash) ws = none) → s.at? n hash = s₀.at? n hash
  new : ∀ hash x, last? (·.hash = hash) ws = some x →
    ∃ row, s.at? name hash = some row ∧ IsRow name x row

namespace Overlay

theorem refl (s₀ : Store) (name : String) : s₀.Overlay name False [] s₀ where
  opened h := (h.elim id fun h => h rfl).elim
  unopened _ _ := rfl
  old _ _ _ := rfl
  new _ _ h := by cases h

theorem names_create_congr (h : s.names = s'.names) (name : String) :
    (s.create name).names = (s'.create name).names := by
  unfold Store.create
  rw [h]
  split
  · exact h
  · rfl

theorem names_create_create (s : Store) (name : String) :
    ((s.create name).create name).names = (s.create name).names := by
  rw [Store.create, if_pos (mem_create s name)]

/-- When the cache is made, the same responses lie on top. -/
theorem create (h : s₀.Overlay name made ws s) : s₀.Overlay name True ws (s.create name) where
  opened _ := by
    by_cases hopened : made ∨ ws ≠ []
    · exact (names_create_congr (h.opened hopened) name).trans (names_create_create s₀ name)
    · obtain ⟨hmade, hws⟩ := not_or.mp hopened
      exact names_create_congr (h.unopened hmade (not_ne_iff.mp hws)) name
  unopened hmade := (hmade trivial).elim
  old n hash hnone := by rw [at?_create, h.old n hash hnone]
  new hash x hlast := by
    rw [at?_create]
    exact h.new hash x hlast

/-- A response that is stored lies on top of the others. -/
theorem put (h : s₀.Overlay name made ws s) (stamp : Stamp) (key : Key) (r : Response) :
    s₀.Overlay name made (ws ++ [(key, r)]) (s.put stamp name key r) where
  opened _ := h.create.opened (.inl trivial)
  unopened _ hws := absurd hws (List.append_ne_nil_of_right_ne_nil _ (List.cons_ne_nil _ _))
  old n hash hnone := by
    have hother : ¬(name = n ∧ key.hash = hash) := by
      rintro ⟨rfl, rfl⟩
      have hlast := hnone rfl
      rw [last?_concat, if_pos (by simp)] at hlast
      cases hlast
    rw [Store.put, at?_write, Row.of_cache, Row.of_hash, if_neg hother, at?_create]
    refine h.old n hash fun hn => ?_
    have hlast := hnone hn
    rwa [last?_concat, if_neg (by simpa using fun hhash => hother ⟨hn.symm, hhash⟩)] at hlast
  new hash x hlast := by
    rw [Store.put, at?_write, Row.of_cache, Row.of_hash, at?_create]
    rw [last?_concat] at hlast
    -- For this digest the new response prevails, and for all others nothing has changed.
    by_cases hhash : key.hash = hash
    · rw [if_pos (by simpa using hhash)] at hlast
      rw [if_pos ⟨rfl, hhash⟩]
      exact ⟨_, rfl, stamp, Option.some.inj hlast ▸ rfl⟩
    · rw [if_neg (by simpa using hhash)] at hlast
      rw [if_neg fun hboth => hhash hboth.2]
      exact h.new hash x hlast

/-- So do several, in their order. -/
theorem putAll (h : s₀.Overlay name made ws s) (stamp : Stamp)
    (entries : List (Key × Response)) :
    s₀.Overlay name made (ws ++ entries) (s.putAll stamp name entries) := by
  induction entries generalizing s ws with
  | nil => simpa [Store.putAll] using h
  | cons x entries ih =>
    have hrest := ih (h.put stamp x.1 x.2)
    rwa [List.append_assoc, List.singleton_append] at hrest

/-! ## The caches -/

/-- Stores with the same on top of the same have the same caches, -/
theorem names_congr (h : s₀.Overlay name made ws s) (h' : s₀.Overlay name made' ws' s')
    (hmade : made ↔ made') (hws : ws = [] ↔ ws' = []) : s.names = s'.names := by
  by_cases hopened : made ∨ ws ≠ []
  · rw [h.opened hopened, h'.opened (hopened.imp hmade.mp (mt hws.mpr))]
  · obtain ⟨hmade', hws'⟩ := not_or.mp hopened
    have hws' := not_ne_iff.mp hws'
    rw [h.unopened hmade' hws', h'.unopened (mt hmade.mpr hmade') (hws.mp hws')]

/-- and the same rows in them, or such for the same responses. -/
theorem at?_congr (h : s₀.Overlay name made ws s) (h' : s₀.Overlay name made' ws' s')
    {hash : String} (hlast : last? (·.hash = hash) ws = last? (·.hash = hash) ws') (n : String) :
    Option.Rel (fun row row' => row = row' ∨ ∃ x, IsRow name x row ∧ IsRow name x row')
      (s.at? n hash) (s'.at? n hash) := by
  by_cases hnone : n = name → last? (·.hash = hash) ws = none
  · rw [h.old n hash hnone, h'.old n hash fun hn => hlast ▸ hnone hn]
    cases s₀.at? n hash with
    | none => exact .none
    | some row => exact .some (.inl rfl)
  · obtain ⟨rfl, hsome⟩ := Classical.not_imp.mp hnone
    obtain ⟨x, hx⟩ := Option.ne_none_iff_exists'.mp hsome
    obtain ⟨row, hrow, hx₁⟩ := h.new hash x hx
    obtain ⟨row', hrow', hx₂⟩ := h'.new hash x (hlast ▸ hx)
    rw [hrow, hrow']
    exact .some (.inr ⟨x, hx₁, hx₂⟩)

/-- Rows for the same response are alike. -/
theorem alike_of_isRow {x : Key × Response} {row row' : Row} (h : IsRow name x row)
    (h' : IsRow name x row') : row.Alike row' := by
  obtain ⟨stamp, rfl⟩ := h
  obtain ⟨stamp', rfl⟩ := h'
  rfl

/-- In each cache they differ in times only. -/
theorem alike_congr (h : s₀.Overlay name made ws s) (h' : s₀.Overlay name made' ws' s')
    {hash : String} (hlast : last? (·.hash = hash) ws = last? (·.hash = hash) ws') (n : String) :
    Option.Rel Row.Alike (s.at? n hash) (s'.at? n hash) := by
  have hrows := h.at?_congr h' hlast n
  revert hrows
  cases s.at? n hash <;> cases s'.at? n hash <;> intro hrows
  · exact .none
  · cases hrows
  · cases hrows
  · cases hrows with
    | some hsame =>
      rcases hsame with rfl | ⟨x, hx, hx'⟩
      · exact .some rfl
      · exact .some (alike_of_isRow hx hx')

/-! ## Looking up -/

/-- What is found does not depend on whether the cache has been created without being written
to. -/
theorem find?_eq (h : s₀.Overlay name made ws s) (howned : s₀.Owned name) (key : Key) :
    s.find? key = (s₀.create name).names.findSome? fun n => s.at? n key.hash := by
  show (s.names.findSome? fun n => s.at? n key.hash) = _
  by_cases hopened : made ∨ ws ≠ []
  · rw [h.opened hopened]
  · obtain ⟨hmade, hws⟩ := not_or.mp hopened
    have hws := not_ne_iff.mp hws
    rw [h.unopened hmade hws, Store.create]
    split
    · rfl
    next hnew =>
      -- No row belongs to a cache that is not listed.
      have hnone : s.at? name key.hash = none := by
        rw [h.old name key.hash fun _ => hws ▸ rfl, at?, List.find?_eq_none]
        rintro row hrow hsame
        rw [decide_eq_true_eq] at hsame
        exact hnew (howned row hrow hsame.1)
      rw [List.findSome?_append, List.findSome?_singleton, hnone, Option.or_none]

/-- What is found in one of several caches, for related contents of each. -/
theorem findSome?_rel {α β γ : Type} {R : β → γ → Prop} {f : α → Option β} {g : α → Option γ}
    {l : List α} (h : ∀ a ∈ l, Option.Rel R (f a) (g a)) :
    Option.Rel R (l.findSome? f) (l.findSome? g) := by
  induction l with
  | nil => exact .none
  | cons a l ih =>
    have ha := h a List.mem_cons_self
    rw [List.findSome?_cons, List.findSome?_cons]
    revert ha
    cases f a <;> cases g a <;> intro ha
    · exact ih fun b hb => h b (List.mem_cons_of_mem _ hb)
    · cases ha
    · cases ha
    · exact ha

/-- A look-up depends only on what was written last for its key. -/
theorem lookUp_congr_of_owned (h : s₀.Overlay name made ws s) (h' : s₀.Overlay name made' ws' s')
    (howned : s₀.Owned name) {key : Key}
    (hlast : last? (·.hash = key.hash) ws = last? (·.hash = key.hash) ws') :
    s.lookUp key = s'.lookUp key := by
  have hfind := findSome?_rel (l := (s₀.create name).names) fun n _ => h.at?_congr h' hlast n
  rw [← h.find?_eq howned, ← h'.find?_eq howned] at hfind
  rw [Store.lookUp_eq, Store.lookUp_eq]
  revert hfind
  cases s.find? key <;> cases s'.find? key <;> intro hfind
  · rfl
  · cases hfind
  · cases hfind
  · cases hfind with
    | some hsame =>
      rcases hsame with rfl | ⟨x, ⟨stamp, rfl⟩, stamp', rfl⟩
      · rfl
      · dsimp only
        rw [Row.response_of, Row.response_of]

/-- **Stores with the same on top of the same answer alike**, whenever it was stored. -/
theorem lookUp_congr (h : s₀.Overlay name made ws s) (h' : s₀.Overlay name made' ws' s')
    (hlisted : s₀.Listed) {key : Key}
    (hlast : last? (·.hash = key.hash) ws = last? (·.hash = key.hash) ws') :
    s.lookUp key = s'.lookUp key :=
  h.lookUp_congr_of_owned h' (Listed.iff_owned.mp hlisted name) hlast

end Overlay

end Store

/-! ## What deeds have stored -/

section OnTop

variable {s₀ s : Store} {name : String} {all : List Deed}

/-- What deeds have stored lies on top of what was there. -/
def OnTop (s₀ : Store) (name : String) (all : List Deed) (s : Store) : Prop :=
  s₀.Overlay name (created name ∈ all) (all.flatMap Deed.written) s

namespace OnTop

theorem next (h : OnTop s₀ name all s) {d : Deed} {s' : Store}
    (hnext : ∀ made, s₀.Overlay name made (all.flatMap Deed.written) s →
      s₀.Overlay name (made ∨ created name = d) (all.flatMap Deed.written ++ d.written) s') :
    OnTop s₀ name (all ++ [d]) s' := by
  rw [OnTop, List.flatMap_append, List.flatMap_singleton, List.mem_append, List.mem_singleton]
  exact hnext _ h

/-- A deed that writes nothing and makes no cache leaves all as it was. -/
theorem skip (h : OnTop s₀ name all s) {d : Deed} (hwritten : d.written = [])
    (hd : created name ≠ d) : OnTop s₀ name (all ++ [d]) s :=
  h.next fun made h => by rwa [hwritten, List.append_nil, or_iff_left hd]

theorem create (h : OnTop s₀ name all s) : OnTop s₀ name (all ++ [created name]) (s.create name) :=
  h.next fun made h => by
    rw [show (created name).written = [] from rfl, List.append_nil, eq_true (Or.inr rfl)]
    exact h.create

theorem put (h : OnTop s₀ name all s) (stamp : Stamp) (key : Key) (r : Response) :
    OnTop s₀ name (all ++ [.act (.store (.put name key r)) (.ok ())]) (s.put stamp name key r) :=
  h.next fun made h => by
    rw [or_iff_left nofun]
    exact h.put stamp key r

theorem putAll (h : OnTop s₀ name all s) (stamp : Stamp) (entries : List (Key × Response)) :
    OnTop s₀ name (all ++ [.act (.store (.putAll name entries)) (.ok ())])
      (s.putAll stamp name entries) :=
  h.next fun made h => by
    rw [or_iff_left nofun]
    exact h.putAll stamp entries

end OnTop

end OnTop

end ServiceWorker.Cache
