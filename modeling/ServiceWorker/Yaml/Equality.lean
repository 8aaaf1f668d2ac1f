import ServiceWorker.Yaml.Node

/-!
# Equality of YAML values

Equality is decided part by part, so closed statements about documents can be run.

## Main definitions

* `Node.decEq`, and the instances of `DecidableEq` for nodes and documents
-/

namespace ServiceWorker.Yaml

namespace Node

mutual

/-- Equality of two values. -/
def decEq : (a b : Node) → Decidable (a = b)
  | .scalar text style tag, .scalar text' style' tag' =>
    if h : text = text' ∧ style = style' ∧ tag = tag' then
      isTrue (by rw [h.1, h.2.1, h.2.2])
    else isFalse (by simpa using h)
  | .sequence a, .sequence b =>
    match decEqItems a b with
    | isTrue h => isTrue (h ▸ rfl)
    | isFalse h => isFalse (by simp [h])
  | .mapping a, .mapping b =>
    match decEqEntries a b with
    | isTrue h => isTrue (h ▸ rfl)
    | isFalse h => isFalse (by simp [h])
  | .alias a, .alias b => if h : a = b then isTrue (h ▸ rfl) else isFalse (by simp [h])
  | .scalar .., .sequence _ | .scalar .., .mapping _ | .scalar .., .alias _
  | .sequence _, .scalar .. | .sequence _, .mapping _ | .sequence _, .alias _
  | .mapping _, .scalar .. | .mapping _, .sequence _ | .mapping _, .alias _
  | .alias _, .scalar .. | .alias _, .sequence _ | .alias _, .mapping _ => isFalse (by simp)
termination_by structural a => a

/-- Equality of two lists of items. -/
def decEqItems : (a b : List Node) → Decidable (a = b)
  | [], [] => isTrue rfl
  | [], _ :: _ | _ :: _, [] => isFalse (by simp)
  | a :: as, b :: bs =>
    match decEq a b, decEqItems as bs with
    | isTrue h, isTrue hs => isTrue (by rw [h, hs])
    | isFalse h, _ => isFalse (by simp [h])
    | _, isFalse h => isFalse (by simp [h])
termination_by structural as => as

/-- Equality of two lists of entries. -/
def decEqEntries : (a b : List (Node × Node)) → Decidable (a = b)
  | [], [] => isTrue rfl
  | [], _ :: _ | _ :: _, [] => isFalse (by simp)
  | a :: as, b :: bs =>
    match decEqEntry a b, decEqEntries as bs with
    | isTrue h, isTrue hs => isTrue (by rw [h, hs])
    | isFalse h, _ => isFalse (by simp [h])
    | _, isFalse h => isFalse (by simp [h])
termination_by structural as => as

/-- Equality of two entries. -/
def decEqEntry : (a b : Node × Node) → Decidable (a = b)
  | (k, a), (l, b) =>
    match decEq k l, decEq a b with
    | isTrue hk, isTrue h => isTrue (by rw [hk, h])
    | isFalse hk, _ => isFalse (by simp [hk])
    | _, isFalse h => isFalse (by simp [h])
termination_by structural a => a

end

end Node

instance : DecidableEq Node := Node.decEq

deriving instance DecidableEq for Document

end ServiceWorker.Yaml
