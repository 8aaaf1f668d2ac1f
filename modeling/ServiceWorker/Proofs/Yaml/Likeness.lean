import Mathlib.Data.List.Forall2
import ServiceWorker.Yaml.Node

/-!
# Documents that say the same

Two values of two documents say the same if they are written alike with parts that say the same. A
name counts as the value that has it, so the names and their numbers may differ; and as values may
refer to those around them, this is not an induction but a bisimulation.

## Main definitions

* `Node.Alike`: two values are written alike
* `Document.Agree`: a relation that holds of values that say the same

## Main results

* `Document.agree_eq`: a value says the same wherever its names stand for the same
-/

namespace ServiceWorker.Yaml

variable {R : Node → Node → Prop}

/-- Two values are written alike, with related parts. Names are not parts: that of a name stands for
nothing, whichever it is. -/
inductive Node.Alike (R : Node → Node → Prop) : Node → Node → Prop
  | scalar (text : String) (style : Style) (tag : Option String) :
    Alike R (.scalar text style tag) (.scalar text style tag)
  | sequence {items items' : List Node} (h : items.Forall₂ R items') :
    Alike R (.sequence items) (.sequence items')
  | mapping {entries entries' : List (Node × Node)}
    (h : entries.Forall₂ (fun e e' => R e.1 e'.1 ∧ R e.2 e'.2) entries') :
    Alike R (.mapping entries) (.mapping entries')
  | name (a b : Nat) : Alike R (.alias a) (.alias b)

theorem Node.Alike.of_refl (hR : ∀ node, R node node) (node : Node) : Alike R node node := by
  cases node with
  | scalar text style tag => exact .scalar text style tag
  | sequence items => exact .sequence (List.forall₂_same.mpr fun item _ => hR item)
  | mapping entries => exact .mapping (List.forall₂_same.mpr fun e _ => ⟨hR e.1, hR e.2⟩)
  | «alias» a => exact .name a a

namespace Document

/-- Values that are related in two documents stand for values that are written alike, or for none in
either document. -/
def Agree (d d' : Document) (R : Node → Node → Prop) : Prop :=
  ∀ ⦃node node'⦄, R node node' → Option.Rel (Node.Alike R) (d.resolve node) (d'.resolve node')

variable {d d' : Document}

/-- What is made alike of values that are written alike is made alike of related values. -/
theorem Agree.bind_rel {α β : Type} {S : α → β → Prop} {f : Node → Option α} {g : Node → Option β}
    {node node' : Node} (agree : d.Agree d' R) (h : R node node')
    (hfg : ∀ ⦃value value'⦄, Node.Alike R value value' → Option.Rel S (f value) (g value')) :
    Option.Rel S ((d.resolve node).bind f) ((d'.resolve node').bind g) := by
  have hsame := agree h
  generalize d.resolve node = value, d'.resolve node' = value' at hsame ⊢
  cases hsame with
  | none => exact .none
  | some hvalue => exact hfg hvalue

theorem Agree.bind_eq {α : Type} {f g : Node → Option α} {node node' : Node}
    (agree : d.Agree d' R) (h : R node node')
    (hfg : ∀ ⦃value value'⦄, Node.Alike R value value' → f value = g value') :
    (d.resolve node).bind f = (d'.resolve node').bind g := by
  have hsame := agree h
  generalize d.resolve node = value, d'.resolve node' = value' at hsame ⊢
  cases hsame with
  | none => rfl
  | some hvalue => exact hfg hvalue

/-- **A value says the same wherever its names stand for the same.** -/
theorem agree_eq (h : d.named = d'.named) : d.Agree d' Eq := by
  rintro node _ rfl
  have hresolve : d'.resolve node = d.resolve node := by
    cases node with
    | «alias» a => exact congrArg (List.lookup a) h.symm
    | _ => rfl
  rw [hresolve]
  cases d.resolve node with
  | none => exact .none
  | some value => exact .some (.of_refl (fun _ => rfl) value)

end Document

end ServiceWorker.Yaml
