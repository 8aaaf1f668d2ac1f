import ServiceWorker.Json.Basic

/-!
# Dictionaries of strings

An object whose values are strings is written member by member in key order. Its reader takes the
members one by one and inserts them into a dictionary, which is the one that was written.

## Main definitions

* `Json.stringMembers`: the members of an object of strings

## Main results

* `Text.Dictionary.ofList_entries`: a dictionary is made of its entries
-/

namespace ServiceWorker

open Text (Dictionary Ordered insertSorted)

/-! ## Dictionaries -/

namespace Text

variable {β : Type}

theorem insertSorted_last {key : String} {value : β} {entries : List (String × β)}
    (h : ∀ e ∈ entries, e.1 < key) :
    insertSorted key value entries = entries ++ [(key, value)] := by
  induction entries with
  | nil => rfl
  | cons entry rest ih =>
    obtain ⟨k, v⟩ := entry
    have hk : k < key := h (k, v) List.mem_cons_self
    rw [insertSorted, if_neg (String.lt_asymm hk), if_neg (String.ne_of_lt hk).symm,
      ih fun e he => h e (List.mem_cons_of_mem _ he), List.cons_append]

theorem Dictionary.entries_foldl_insert (d : Dictionary β) {rest : List (String × β)}
    (h : Ordered (d.entries ++ rest)) :
    (rest.foldl (fun d e => d.insert e.1 e.2) d).entries = d.entries ++ rest := by
  induction rest generalizing d with
  | nil => exact (List.append_nil _).symm
  | cons e rest ih =>
    -- The entry is greater than all before it, so it is put at the end.
    have hlast : (d.insert e.1 e.2).entries = d.entries ++ [e] := by
      refine insertSorted_last fun a ha => ?_
      exact (List.pairwise_append.mp h).2.2 a ha e List.mem_cons_self
    have hsplit : d.entries ++ e :: rest = (d.insert e.1 e.2).entries ++ rest := by
      rw [hlast, List.append_assoc, List.singleton_append]
    rw [List.foldl_cons, ih (d.insert e.1 e.2) (hsplit ▸ h), hsplit]

/-- A dictionary is made of its entries. -/
theorem Dictionary.ofList_entries (d : Dictionary β) : Dictionary.ofList d.entries = d := by
  have hentries : (Dictionary.ofList d.entries).entries = d.entries :=
    Dictionary.entries_foldl_insert .empty d.ordered
  rcases hd : Dictionary.ofList d.entries with ⟨entries, ordered⟩
  rw [hd] at hentries
  cases d
  cases hentries
  rfl

end Text

/-! ## Members -/

namespace Json

/-- The members of an object of strings. -/
def stringMembers (entries : List (String × String)) : List (String × Json) :=
  entries.map fun e => (e.1, .string e.2)

end Json

end ServiceWorker
