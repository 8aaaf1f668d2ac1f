import ServiceWorker.Config.Reading
import ServiceWorker.Proofs.Lists
import ServiceWorker.Proofs.Yaml.Likeness

/-!
# Settings in documents that agree

Values that say the same in two documents are read as the same text, truth value or list, and as
fields that say the same. So a setting depends on nothing but the values under its name.

## Main definitions

* `Config.SameField`: two fields have the same name and say the same

## Main results

* `Config.fields?_rel`: values that say the same are read as fields that say the same
* `Config.setting?_eq`, `Config.setting?_filter_ne`: on what a setting depends
* `Config.caching?_eq`, `Config.notices?_eq`: sections that say the same are read as the same
-/

namespace ServiceWorker.Config

open Yaml (Document Node)

/-- Two fields have the same name and related values. -/
def SameField (R : Node → Node → Prop) (field field' : String × Node) : Prop :=
  field.1 = field'.1 ∧ R field.2 field'.2

/-! ## Values -/

section Values

variable {d d' : Document} {R : Node → Node → Prop} (agree : d.Agree d' R) {node node' : Node}
  (h : R node node')

include agree h

/-- Values that say the same are read as the same text. -/
theorem text?_eq : text? d node = text? d' node' :=
  agree.bind_eq h fun _ _ hsame => by cases hsame <;> rfl

/-- They are read as the same truth value. -/
theorem flag?_eq : flag? d node = flag? d' node' :=
  agree.bind_eq h fun _ _ hsame => by cases hsame <;> rfl

/-- They are read as the same text, or none. -/
theorem textOrNone?_eq : textOrNone? d node = textOrNone? d' node' :=
  agree.bind_eq h fun _ _ hsame => by cases hsame <;> rfl

/-- They are read as the same list of texts. -/
theorem texts?_eq : texts? d node = texts? d' node' := by
  refine agree.bind_eq h fun _ _ hsame => ?_
  cases hsame with
  | scalar text style tag =>
    split
    next heq => cases heq
    next => rfl
    next => rfl
  | sequence hitems =>
    show List.mapM (text? d) _ = List.mapM (text? d') _
    induction hitems with
    | nil => rfl
    | cons hitem _ ih => rw [List.mapM_cons, List.mapM_cons, text?_eq agree hitem, ih]
  | _ => rfl

/-- They are read as fields that say the same. -/
theorem fields?_rel :
    Option.Rel (List.Forall₂ (SameField R)) (fields? d node) (fields? d' node') := by
  refine agree.bind_rel h fun _ _ hsame => ?_
  cases hsame with
  | scalar text style tag =>
    dsimp only
    split
    next heq => cases heq
    next => exact .some .nil
    next => exact .none
  | sequence _ => exact .none
  | mapping hentries =>
    refine forall₂_mapM hentries fun e e' he => ?_
    obtain ⟨key, value⟩ := e
    dsimp only
    rw [text?_eq agree he.1]
    cases text? d' e'.1 with
    | none => exact .none
    | some name => exact .some ⟨rfl, he.2⟩
  | name _ _ => exact .none

end Values

/-! ## Settings -/

section Settings

variable {α : Type} {fields fields' : List (String × Node)} {name : String} {standard : α}

/-- A setting is the same if the fields are and their values are read as the same. -/
theorem setting?_eq {R : Node → Node → Prop} {read read' : Node → Option α}
    (h : fields.Forall₂ (SameField R) fields')
    (hread : ∀ ⦃node node'⦄, R node node' → read node = read' node') :
    setting? fields name standard read = setting? fields' name standard read' := by
  have hnamed : (fields.filter (·.1 = name)).Forall₂ (SameField R) (fields'.filter (·.1 = name)) :=
    List.rel_filter (fun field field' hfield => by simp [hfield.1]) h
  -- The fields with the name are none, one or several in both mappings.
  unfold setting?
  generalize fields.filter (·.1 = name) = named, fields'.filter (·.1 = name) = named' at hnamed ⊢
  cases hnamed with
  | nil => rfl
  | cons hfield hrest =>
    cases hrest with
    | nil => exact hread hfield.2
    | cons _ _ => rfl

/-- Fields with other names make no difference to a setting. -/
theorem setting?_filter_ne {other : String} (hne : name ≠ other) (read : Node → Option α) :
    setting? (fields.filter (·.1 ≠ other)) name standard read =
      setting? fields name standard read := by
  have hfilter : (fields.filter (·.1 ≠ other)).filter (·.1 = name) =
      fields.filter (·.1 = name) := by
    rw [List.filter_filter]
    refine List.filter_congr fun field _ => ?_
    by_cases hname : field.1 = name <;> simp [hname, hne]
  unfold setting?
  rw [hfilter]

end Settings

section Sections

variable {d d' : Document} {R : Node → Node → Prop} (agree : d.Agree d' R) {node node' : Node}
  (h : R node node')

include agree h

/-- Sections on caching that say the same are read as the same. -/
theorem caching?_eq : caching? d node = caching? d' node' := by
  have hfields := fields?_rel agree h
  unfold caching?
  generalize fields? d node = fields, fields? d' node' = fields' at hfields ⊢
  cases hfields with
  | none => rfl
  | some hfields =>
    simp only [Option.bind_eq_bind, Option.bind_some]
    rw [setting?_eq hfields fun _ _ => text?_eq agree,
      setting?_eq hfields fun _ _ => text?_eq agree,
      setting?_eq hfields fun _ _ => flag?_eq agree,
      setting?_eq hfields fun _ _ => texts?_eq agree,
      setting?_eq hfields fun _ _ => textOrNone?_eq agree,
      setting?_eq hfields fun _ _ => flag?_eq agree]

/-- So are sections on notices. -/
theorem notices?_eq : notices? d node = notices? d' node' := by
  have hfields := fields?_rel agree h
  unfold notices?
  generalize fields? d node = fields, fields? d' node' = fields' at hfields ⊢
  cases hfields with
  | none => rfl
  | some hfields =>
    simp only [Option.bind_eq_bind, Option.bind_some]
    rw [setting?_eq hfields fun _ _ => text?_eq agree,
      setting?_eq hfields fun _ _ => text?_eq agree,
      setting?_eq hfields fun _ _ => text?_eq agree,
      setting?_eq hfields fun _ _ => text?_eq agree]

end Sections

end ServiceWorker.Config
