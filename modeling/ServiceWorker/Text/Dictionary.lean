/-!
# Dictionaries in key order

A dictionary lists its entries with strictly increasing keys, so that two dictionaries with the
same entries are equal and are written the same way.

## Main definitions

* `insertSorted`: an entry put where its key belongs, in place of one with the same key
* `Dictionary`: a list of entries in strictly increasing key order
* `Dictionary.insert`, `Dictionary.get?`, `Dictionary.ofList`

## Main results

* `pairwise_insertSorted`: insertion keeps the order
-/

namespace ServiceWorker.Text

variable {β : Type}

/-- The entries with one more, put where its key belongs; an equal key gives way. -/
def insertSorted (key : String) (value : β) : List (String × β) → List (String × β)
  | [] => [(key, value)]
  | (k, v) :: rest =>
    if key < k then (key, value) :: (k, v) :: rest
    else if key = k then (key, value) :: rest
    else (k, v) :: insertSorted key value rest

/-- Keys strictly increase along the entries. -/
def Ordered (entries : List (String × β)) : Prop :=
  entries.Pairwise fun a b => a.1 < b.1

theorem forall_lt_insertSorted {low key : String} {value : β} {entries : List (String × β)}
    (h : ∀ e ∈ entries, low < e.1) (hkey : low < key) :
    ∀ e ∈ insertSorted key value entries, low < e.1 := by
  induction entries with
  | nil => simpa [insertSorted] using hkey
  | cons entry rest ih =>
    obtain ⟨k, v⟩ := entry
    have hrest : ∀ e ∈ rest, low < e.1 := fun e he => h e (List.mem_cons_of_mem _ he)
    unfold insertSorted
    split
    · intro e he
      rcases List.mem_cons.mp he with rfl | he
      · exact hkey
      · exact h e he
    · split
      · intro e he
        rcases List.mem_cons.mp he with rfl | he
        · exact hkey
        · exact hrest e he
      · intro e he
        rcases List.mem_cons.mp he with rfl | he
        · exact h (k, v) List.mem_cons_self
        · exact ih hrest e he

/-- Insertion keeps the order. -/
theorem pairwise_insertSorted {key : String} {value : β} {entries : List (String × β)}
    (h : Ordered entries) : Ordered (insertSorted key value entries) := by
  induction entries with
  | nil => simp [insertSorted, Ordered]
  | cons entry rest ih =>
    obtain ⟨k, v⟩ := entry
    obtain ⟨hk, hrest⟩ := List.pairwise_cons.mp h
    unfold insertSorted
    split
    next hlt =>
      refine List.pairwise_cons.mpr ⟨?_, h⟩
      intro e he
      rcases List.mem_cons.mp he with rfl | he
      · exact hlt
      · exact String.lt_trans hlt (hk e he)
    · split
      next heq => exact List.pairwise_cons.mpr ⟨fun e he => heq ▸ hk e he, hrest⟩
      next hne =>
        have hgt : k < key := Std.lt_of_le_of_ne (Std.not_lt.mp ‹_›) (Ne.symm hne)
        exact List.pairwise_cons.mpr ⟨forall_lt_insertSorted hk hgt, ih hrest⟩

/-- Entries with strictly increasing keys. -/
structure Dictionary (β : Type) where
  entries : List (String × β)
  ordered : Ordered entries

namespace Dictionary

instance [DecidableEq β] : DecidableEq (Dictionary β) := fun a b =>
  if h : a.entries = b.entries then
    isTrue (by cases a; cases b; cases h; rfl)
  else
    isFalse fun e => h (congrArg entries e)

/-- The dictionary without entries. -/
def empty : Dictionary β := ⟨[], List.Pairwise.nil⟩

instance : Inhabited (Dictionary β) := ⟨empty⟩

/-- The dictionary with one entry more, or with a new value for a key. -/
def insert (d : Dictionary β) (key : String) (value : β) : Dictionary β :=
  ⟨insertSorted key value d.entries, pairwise_insertSorted d.ordered⟩

/-- The value at a key. -/
def get? (d : Dictionary β) (key : String) : Option β :=
  d.entries.lookup key

/-- The entries inserted one after another, the last one for a key prevailing. -/
def ofList (entries : List (String × β)) : Dictionary β :=
  entries.foldl (fun d e => d.insert e.1 e.2) empty

end Dictionary

end ServiceWorker.Text
