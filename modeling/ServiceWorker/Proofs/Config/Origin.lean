import Mathlib.Logic.Function.Basic
import ServiceWorker.Config.Load
import ServiceWorker.Proofs.Config.Agreement
import ServiceWorker.Proofs.Config.Telling
import ServiceWorker.Yaml.Equality

/-!
# An origin that is given

An origin that is given stands for the one of the file, and the rest of the configuration is as if
it had been written there. It cannot be given in place of one that is missing from the file, which
is read as a whole first.

## Main definitions

* `Config.SetsOrigin`: a document has an origin, and the rest of another document
* `Config.Holds`: what stands in a file

## Main results

* `Config.Tells.of_setsOrigin`: a document with another origin tells the same apart from it
* `Config.load_of_tells`: what comes of a file
* `Config.load_with_origin`: giving an origin is writing it into the file, if the file has one
-/

namespace ServiceWorker.Config

open Yaml (Document Node)

/-! ## Another origin -/

/-- A document is another one with its origin set: it says that origin, and its other fields have
the same names and say the same, one after the other. The document in which it is set may say
another origin, or none, and what is named in either may be named in its own way. -/
def SetsOrigin (o : Url) (d d' : Document) : Prop :=
  d'.isLast = d.isLast ∧ ∃ R fields fields', d.Agree d' R ∧
    fields? d (d.root.getD .empty) = some fields ∧
    fields? d' (d'.root.getD .empty) = some fields' ∧ SaysOrigin d' fields' (some o) ∧
    (fields.filter (·.1 ≠ "origin")).Forall₂ (SameField R) (fields'.filter (·.1 ≠ "origin"))

variable {d d' : Document} {said : Option Url} {rest : Rest} {o : Url}

/-- It is enough that names stand for the same and that the fields are the same as they stand. -/
theorem SetsOrigin.of_eq {fields fields' : List (String × Node)} (hlast : d'.isLast = d.isLast)
    (hnamed : d.named = d'.named) (hfields : fields? d (d.root.getD .empty) = some fields)
    (hfields' : fields? d' (d'.root.getD .empty) = some fields')
    (horigin : SaysOrigin d' fields' (some o))
    (hothers : fields.filter (·.1 ≠ "origin") = fields'.filter (·.1 ≠ "origin")) :
    SetsOrigin o d d' :=
  ⟨hlast, Eq, fields, fields', Document.agree_eq hnamed, hfields, hfields', horigin,
    hothers ▸ List.forall₂_same.mpr fun _ _ => ⟨rfl, rfl⟩⟩

/-- **A document that says another origin tells the same apart from it.** -/
theorem Tells.of_setsOrigin (h : Tells d said rest) (hset : SetsOrigin o d d') :
    Tells d' (some o) rest := by
  obtain ⟨hlast, fields, hfields, h⟩ := h
  obtain ⟨hsame, R, _, fields', agree, hfields₀, hfields', horigin, hothers⟩ := hset
  obtain rfl := Option.some.inj (hfields.symm.trans hfields₀)
  -- All settings but the origin depend on the other fields alone.
  have hsetting {α : Type} {name : String} {standard value : α} {read read' : Node → Option α}
      (hne : name ≠ "origin") (hread : ∀ ⦃node node'⦄, R node node' → read node = read' node')
      (hstated : Says fields name standard (read · = some ·) value) :
      Says fields' name standard (read' · = some ·) value := by
    rw [← setting?_eq_some_iff, ← setting?_filter_ne hne] at hstated ⊢
    rw [← hstated, setting?_eq hothers hread]
  refine ⟨hsame.trans hlast, fields', hfields', horigin, ?_, ?_, ?_⟩
  · exact hsetting (by decide) (fun _ _ => text?_eq agree) h.productName
  · have hcaching := h.caching
    simp only [← caching?_eq_some_iff] at hcaching ⊢
    exact hsetting (by decide) (fun _ _ => caching?_eq agree) hcaching
  · have hnotices := h.notices
    simp only [← notices?_eq_some_iff] at hnotices ⊢
    exact hsetting (by decide) (fun _ _ => notices?_eq agree) hnotices

/-! ## Loading -/

variable {look : String → Option Files.Entry} {folder explicit : Option String} {path : String}
  {entry entry' : Files.Entry}

theorem parse_of_tells {text : String} (hdoc : Document.ofText text = some d)
    (h : Tells d said rest) :
    parse text =
      match said with
      | some own => .ok (rest.at own)
      | none => .error .missingOrigin := by
  obtain ⟨hlast, hsettings⟩ := tells_iff.mp h
  unfold parse
  rw [hdoc]
  simp only [hsettings, hlast]
  cases said <;> rfl

/-- The text of a file has a first document. -/
def Holds (entry : Files.Entry) (d : Document) : Prop :=
  ∃ text, entry.text = .ok text ∧ Document.ofText text = some d

/-- **What comes of a file**: the configuration it tells, with the origin that is given if there is
one; but nothing if it does not say the origin itself, whether or not one is given. -/
theorem load_of_tells (hfile : file? look folder explicit = .ok (some (path, entry)))
    (hholds : Holds entry d) (h : Tells d said rest) (given : Option Url) :
    load look folder explicit given =
      match said with
      | some own => .ok (rest.at (given.getD own))
      | none => .error (.flawed path .missingOrigin) := by
  obtain ⟨text, htext, hdoc⟩ := hholds
  have hentry : ofEntry path entry = (parse text).mapError (.flawed path) := by
    rw [ofEntry, htext]
    rfl
  unfold load
  rw [hfile]
  show (ofEntry path entry >>= fun c => Except.ok (c.withOrigin given)) = _
  rw [hentry, parse_of_tells hdoc h]
  cases said <;> rfl

/-- What is found first is found first at the same place if something else stands there. -/
theorem findSome?_update {places : List String}
    (h : (places.findSome? fun place => (look place).map (place, ·)) = some (path, entry)) :
    (places.findSome? fun place => (Function.update look path (some entry') place).map (place, ·)) =
      some (path, entry') := by
  induction places with
  | nil => cases h
  | cons place places ih =>
    rw [List.findSome?_cons] at h ⊢
    cases hlook : look place with
    | none =>
      rw [hlook] at h
      -- Nothing is at this place, so the file that is read stands at a later one.
      have hne : place ≠ path := by
        rintro rfl
        obtain ⟨place', -, hfound⟩ := List.exists_of_findSome?_eq_some h
        obtain ⟨e, hlook', heq⟩ := Option.map_eq_some_iff.mp hfound
        cases heq
        rw [hlook] at hlook'
        cases hlook'
      rw [Function.update_of_ne hne, hlook]
      exact ih h
    | some e =>
      rw [hlook] at h
      cases h
      rw [Function.update_self]
      rfl

/-- The file that is read is still the one if something else stands in it. -/
theorem file?_update (hfile : file? look folder explicit = .ok (some (path, entry))) :
    file? (Function.update look path (some entry')) folder explicit =
      .ok (some (path, entry')) := by
  cases explicit with
  | some named =>
    unfold file? at hfile ⊢
    dsimp only at hfile ⊢
    split at hfile
    next found hlook =>
      cases hfile
      rw [Function.update_self]
    next => cases hfile
  | none => exact congrArg Except.ok (findSome?_update (Except.ok.inj hfile))

/-- **Giving an origin is writing it into the file**, wherever the file is found: the configuration
is the same, with that origin and the rest as the file tells it or leaves it. But a file that does
not say its origin itself is refused before the given one is looked at, although it needs nothing
but that origin. -/
theorem load_with_origin (hfile : file? look folder explicit = .ok (some (path, entry)))
    (hholds : Holds entry d) (htells : Tells d said rest) (o : Url) :
    load look folder explicit (some o) =
        (match said with
        | some _ => .ok (rest.at o)
        | none => .error (.flawed path .missingOrigin)) ∧
      ∀ ⦃entry' d'⦄, Holds entry' d' → SetsOrigin o d d' →
        load (Function.update look path (some entry')) folder explicit none = .ok (rest.at o) := by
  constructor
  · rw [load_of_tells hfile hholds htells]
    cases said <;> rfl
  · intro entry' d' hholds' hset
    exact load_of_tells (file?_update hfile) hholds' (htells.of_setsOrigin hset) none

/-- A file at one of the usual places, in which one value stands for another. -/
theorem loopback_with_origin :
    let host (port : Option Nat) : Url :=
      ⟨⟨'h', ['t', 't', 'p'], by decide⟩,
        .rooted (some ⟨[], [], .inet6 ⟨[0, 0, 0, 0, 0, 0, 0, 1]⟩, port⟩) ['/'], none, none⟩
    let text (origin : String) :=
      "product_name: &name Chat\norigin: " ++ origin ++ "\ncache: \x7bname: *name, path: ~\x7d\n"
    let plain (text : String) : Node := .scalar text .plain none
    let document (origin : String) : Document :=
      ⟨some (.mapping [(plain "product_name", plain "Chat"), (plain "origin", plain origin),
        (plain "cache", .mapping [(plain "name", .alias 0), (plain "path", plain "~")])]),
        [(0, plain "Chat")], true⟩
    let file (origin : String) : Files.Entry := .file (Text.utf8 (text origin))
    let look (path : String) :=
      if path = "conf/remotalk-sw/config.yaml" then some (file "http://[::1]/") else none
    let rest : Rest := ⟨"Chat", { Caching.standard with name := "Chat" }, .standard⟩
    file? look (some "conf") none =
        .ok (some ("conf/remotalk-sw/config.yaml", file "http://[::1]/")) ∧
      Holds (file "http://[::1]/") (document "http://[::1]/") ∧
      Tells (document "http://[::1]/") (some (host none)) rest ∧
      Holds (file "http://[::1]:81") (document "http://[::1]:81") ∧
      SetsOrigin (host (some 81)) (document "http://[::1]/") (document "http://[::1]:81") ∧
      load look (some "conf") none (some (host (some 81))) = .ok (rest.at (host (some 81))) ∧
      load (Function.update look "conf/remotalk-sw/config.yaml" (some (file "http://[::1]:81")))
        (some "conf") none none = .ok (rest.at (host (some 81))) := by
  intro host text plain document file look rest
  have hfile : file? look (some "conf") none =
      .ok (some ("conf/remotalk-sw/config.yaml", file "http://[::1]/")) := by decide +kernel
  have hholds : Holds (file "http://[::1]/") (document "http://[::1]/") :=
    ⟨text "http://[::1]/", by decide +kernel, by decide +kernel⟩
  have hholds' : Holds (file "http://[::1]:81") (document "http://[::1]:81") :=
    ⟨text "http://[::1]:81", by decide +kernel, by decide +kernel⟩
  have htells : Tells (document "http://[::1]/") (some (host none)) rest :=
    tells_iff.mpr ⟨rfl, by decide +kernel⟩
  have hset : SetsOrigin (host (some 81)) (document "http://[::1]/") (document "http://[::1]:81") :=
    .of_eq rfl rfl rfl rfl (saysOrigin_iff.mpr (by decide +kernel)) (by decide +kernel)
  obtain ⟨hgiven, hwritten⟩ := load_with_origin hfile hholds htells (host (some 81))
  exact ⟨hfile, hholds, htells, hholds', hset, hgiven, hwritten hholds' hset⟩

/-- A file that leaves everything but the title as it is has no origin. It is refused though one is
given, and read if the same one is written into it. -/
theorem given_origin_refused :
    ¬∀ (look : String → Option Files.Entry) (folder explicit : Option String) (path : String)
        (entry entry' : Files.Entry) (d d' : Document) (said : Option Url) (rest : Rest) (o : Url),
      file? look folder explicit = .ok (some (path, entry)) → Holds entry d → Tells d said rest →
        Holds entry' d' → SetsOrigin o d d' →
          load look folder explicit (some o) =
            load (Function.update look path (some entry')) folder explicit none := by
  intro hall
  let plain (text : String) : Node := .scalar text .plain none
  let title : Node × Node := (plain "product_name", plain "Chat")
  let d : Document := ⟨some (.mapping [title]), [], true⟩
  let d' : Document :=
    ⟨some (.mapping [(plain "origin", plain "http://[::1]/"), title]), [], true⟩
  let file (text : String) : Files.Entry := .file (Text.utf8 text)
  let entry := file "product_name: Chat\n"
  let entry' := file "origin: http://[::1]/\nproduct_name: Chat\n"
  let rest : Rest := ⟨"Chat", .standard, .standard⟩
  obtain ⟨o, ho⟩ : ∃ o, url? d' (plain "http://[::1]/") = some o :=
    Option.isSome_iff_exists.mp (by decide +kernel)
  have hfile : file? (fun _ => some entry) none none = .ok (some ("remotalk-sw.yaml", entry)) := rfl
  have hholds : Holds entry d := ⟨"product_name: Chat\n", by decide +kernel, by decide +kernel⟩
  have htells : Tells d none rest := tells_iff.mpr ⟨rfl, by decide +kernel⟩
  have hholds' : Holds entry' d' :=
    ⟨"origin: http://[::1]/\nproduct_name: Chat\n", by decide +kernel, by decide +kernel⟩
  have hset : SetsOrigin o d d' :=
    .of_eq rfl rfl rfl rfl (saysOrigin_iff.mpr (congrArg (Option.map some) ho)) (by decide +kernel)
  -- The one is an error for the missing origin, the other a configuration.
  have hsame := hall _ none none _ _ _ _ _ _ _ _ hfile hholds htells hholds' hset
  rw [load_of_tells hfile hholds htells,
    load_of_tells (file?_update hfile) hholds' (htells.of_setsOrigin hset)] at hsame
  cases hsame

end ServiceWorker.Config
