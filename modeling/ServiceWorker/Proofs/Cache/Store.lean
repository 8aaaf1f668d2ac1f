import ServiceWorker.Proofs.History.Effect

/-!
# What calls do to the store

## Main results

* `Cache.Store.Comes.create`, `Cache.Store.Comes.putAll`: what calls come to, whether they fail or
  not
-/

namespace ServiceWorker

open Cache (Key)
open Http (Response)

/-- A deed that adds, replaces or removes stored responses: a call to the store that writes or
deletes and does not fail. -/
def Deed.Touches : Deed → Prop
  | .act (.store (.put _ _ _)) (.ok _) => True
  | .act (.store (.putAll _ _)) (.ok _) => True
  | .act (.store (.delete _)) (.ok _) => True
  | _ => False

namespace Cache.Store

variable {s s' : Store} {name : String}

/-- Making a cache changes no row. -/
theorem rows_create (s : Store) (name : String) : (s.create name).rows = s.rows := by
  unfold create
  split <;> rfl

/-- Listing the caches changes nothing; it tells the names or fails. -/
theorem Comes.names {reply : Except Failure Call.names.Reply} (h : s.Comes .names reply s') :
    s' = s ∧ ((∃ f, reply = .error f) ∨ reply = .ok s.names) := by
  cases h with
  | fails => exact ⟨rfl, .inl ⟨.unavailable, rfl⟩⟩
  | stops => exact ⟨rfl, .inl ⟨.unavailable, rfl⟩⟩
  | succeeds stamp => exact ⟨rfl, .inr rfl⟩

/-- A cache is deleted, or nothing has happened. -/
theorem Comes.delete {reply : Except Failure (Call.delete name).Reply}
    (h : s.Comes (.delete name) reply s') :
    (∃ f, reply = .error f ∧ s' = s) ∨
      reply = .ok (decide (name ∈ s.names)) ∧ s' = s.delete name := by
  cases h with
  | fails => exact .inl ⟨.unavailable, rfl, rfl⟩
  | stops => exact .inl ⟨.unavailable, rfl, rfl⟩
  | succeeds stamp => exact .inr ⟨rfl, rfl⟩

/-- Looking up a key changes nothing; it tells what is found or fails. -/
theorem Comes.find {key : Key} {reply : Except Failure (Call.find key).Reply}
    (h : s.Comes (.find key) reply s') :
    s' = s ∧ (reply = .error .unavailable ∨ reply = (s.lookUp key).mapError .damaged) := by
  cases h with
  | fails => exact ⟨rfl, .inl rfl⟩
  | stops => exact ⟨rfl, .inl rfl⟩
  | succeeds stamp => exact ⟨rfl, .inr rfl⟩

/-- A response is stored, or the call fails; then it may have made the cache, and no more. -/
theorem Comes.put {key : Key} {r : Response} {reply : Except Failure (Call.put name key r).Reply}
    (h : s.Comes (.put name key r) reply s') :
    (∃ f, reply = .error f ∧ (s' = s ∨ s' = s.create name)) ∨
      ∃ stamp, reply = .ok () ∧ s' = s.put stamp name key r := by
  cases h with
  | fails => exact .inl ⟨.unavailable, rfl, .inl rfl⟩
  | stops => exact .inl ⟨.unavailable, rfl, .inr rfl⟩
  | succeeds stamp => exact .inr ⟨stamp, rfl, rfl⟩

/-- A cache is made, or nothing has happened. -/
theorem Comes.create {reply : Except Failure (Call.create name).Reply}
    (h : s.Comes (.create name) reply s') :
    s' = s ∨ s' = s.create name := by
  cases h with
  | fails => exact .inl rfl
  | stops => exact .inl rfl
  | succeeds stamp => exact .inr rfl

theorem Comes.create_ok {reply : (Call.create name).Reply}
    (h : s.Comes (.create name) (.ok reply) s') : s' = s.create name := by
  cases h
  rfl

/-- Several responses are stored all together, or none of them is. -/
theorem Comes.putAll {entries : List (Key × Response)}
    {reply : Except Failure (Call.putAll name entries).Reply}
    (h : s.Comes (.putAll name entries) reply s') :
    (∃ f, reply = .error f ∧ s' = s) ∨
      ∃ stamp, reply = .ok () ∧ s' = s.putAll stamp name entries := by
  cases h with
  | fails => exact .inl ⟨.unavailable, rfl, rfl⟩
  | stops => exact .inl ⟨.unavailable, rfl, rfl⟩
  | succeeds stamp => exact .inr ⟨stamp, rfl, rfl⟩

end Cache.Store

end ServiceWorker
