import ServiceWorker.Proofs.Json.Printing
import ServiceWorker.Proofs.Json.Typed

/-!
# Restoring what was written

A plain value is the value of its text. So what a typed reader makes of the value it makes of the
text as well, and a record is restored from its text if each of its fields is.

## Main definitions

* `Json.Restores`: a value that can be written, and of which a reader makes what it was written for

## Main results

* `Json.Shape.restores`: a record is restored from its members
* `Json.Restores.readText`: what is restored from a value is restored from its text
* `Json.readText_dictionary`: every dictionary of strings is read back from its text
-/

namespace ServiceWorker.Json

open Text (Dictionary Symbol)

variable {α σ : Type} {limit inner : Limit}

/-- A value that can be written, and of which a reader makes what it was written for. -/
structure Restores (limit : Limit) (reader : Reader α) (v : Json) (a : α) : Prop where
  plain : v.Plain limit
  takes : reader.Takes v a

theorem Restores.readText {reader : Reader α} {v : Json} {a : α}
    (h : Restores Limit.ofText reader v a) :
    Json.readText reader (Symbol.ofString v.text) = .ok a :=
  h.takes.readText h.plain.readText

theorem restores_string (limit : Limit) (s : String) : Restores limit Reader.string (.string s) s :=
  ⟨.string s, Reader.takes_string s⟩

/-- What is there is restored as such, unless it is null. -/
theorem Restores.option {reader : Reader α} {v : Json} {a : α} (h : Restores limit reader v a)
    (hnull : v ≠ .null) : Restores limit (Reader.option reader) v (some a) :=
  ⟨h.plain, h.takes.option hnull⟩

/-- A member that can be written and enters the state of a record. -/
structure Restored (limit : Limit) (fields : List (Field σ)) (m : String × Json) (step : σ → σ) :
    Prop where
  plain : m.2.Plain limit
  enters : Enters fields m step

theorem Restores.restored {reader : Reader α} {v : Json} {a : α} (h : Restores limit reader v a)
    {fields : List (Field σ)} {name : String} {store : α → σ → σ} {optional : Bool}
    (hfield : fields.find? (fun f => f.name == name) = some (.of name reader store optional)) :
    Restored limit fields (name, v) (store a) :=
  ⟨h.plain, h.takes.enters hfield⟩

/-- **A record is restored from its members**, each of which enters its state. -/
theorem Shape.restores {shape : Shape σ α} (hlimit : limit.enter = some inner)
    {vs : List (String × Json)} {steps : List (σ → σ)}
    (hsteps : List.Forall₂ (Restored inner shape.fields) vs steps)
    (hkeys : (vs.map Prod.fst).Nodup) {a : α}
    (hfinish : shape.finish (steps.foldl (fun s step => step s) shape.start) = .ok a) :
    Restores limit shape.read (.object vs) a where
  plain := by
    refine .object hlimit hkeys fun m hm => ?_
    obtain ⟨i, hi, rfl⟩ := List.getElem_of_mem hm
    exact (hsteps.get hi (hsteps.length_eq ▸ hi)).plain
  takes := Shape.takes (hsteps.imp fun _ _ h => h.enters) hkeys hfinish

/-! ## Dictionaries of strings -/

theorem restores_dictionary (d : Dictionary String) (hlimit : limit.enter = some inner) :
    Restores limit (Reader.dictionary Reader.string) (.object (stringMembers d.entries)) d where
  plain := by
    refine .object hlimit ?_ fun m hm => ?_
    · rw [stringMembers, List.map_map]
      -- The entries are in key order, so no key is repeated.
      exact List.pairwise_map.mpr (d.ordered.imp fun hlt => String.ne_of_lt hlt)
    · obtain ⟨e, -, rfl⟩ := List.mem_map.mp hm
      exact .string e.2
  takes _ _ hread := Reader.dictionary_eq_ok.mpr ⟨d.entries, hread, Dictionary.ofList_entries d⟩

/-- **Every dictionary of strings is read back** from its text. -/
theorem readText_dictionary (d : Dictionary String) :
    Json.readText (Reader.dictionary Reader.string)
      (Symbol.ofString (object (stringMembers d.entries)).text) = .ok d :=
  (restores_dictionary d rfl).readText

end ServiceWorker.Json
