import ServiceWorker.Json.Printer
import ServiceWorker.Proofs.Json.Parsing
import ServiceWorker.Proofs.Lists

/-!
# Values are read back

A text of items or of members is put together from texts of their own, with blanks around them and
commas in between. So a value is read back from its text if its numbers are integers and it does
not nest too deeply.

## Main definitions

* `Json.Stands`: a text has a value
* `Json.Holds`: a text has a member
* `Json.Plain`: a value whose numbers are integers and whose objects repeat no key

## Main results

* `Json.Plain.stands`, `Json.Plain.readText`: a plain value is read back from its text
-/

namespace ServiceWorker.Json

open Text (Symbol)

/-! ## Plain values -/

/-- A value that a text can hold as it is: its numbers are integers, no key is repeated in an
object, and it keeps to a limit of nesting. -/
inductive Plain : Limit → Json → Prop
  | null {limit} : Plain limit .null
  | bool {limit} (b : Bool) : Plain limit (.bool b)
  | number {limit n} (hn : n.Integral) : Plain limit (.number n)
  | string {limit} (s : String) : Plain limit (.string s)
  | array {limit inner items} (hlimit : limit.enter = some inner)
      (hitems : ∀ v ∈ items, Plain inner v) : Plain limit (.array items)
  | object {limit inner members} (hlimit : limit.enter = some inner)
      (hkeys : (members.map Prod.fst).Nodup) (hvalues : ∀ m ∈ members, Plain inner m.2) :
      Plain limit (.object members)

variable {limit : Limit} {text suffix : Source}

/-! ## Texts in texts -/

/-- A text has a value, with nothing but blanks around it. -/
def Stands (limit : Limit) (text : Source) (v : Json) : Prop :=
  ∃ left, Spells limit text (.value v) left ∧ skipSpaces left = []

/-- A text has a member, with nothing but blanks around it. -/
inductive Holds (limit : Limit) (text : Source) : String × Json → Prop
  | intro {key behind start : Source} {k : String} {v : Json}
      (hquote : skipSpaces text = .char '"' :: key) (hkey : Quoted.read key = .ok (k, behind))
      (hcolon : skipSpaces behind = .char ':' :: start) (hvalue : Stands limit start v) :
      Holds limit text (k, v)

/-- A text that has a value has it in front of other text. -/
theorem Stands.append {v : Json} (h : Stands limit text v) (hends : Ends suffix) :
    ∃ left, Spells limit (text ++ suffix) (.value v) left ∧
      skipSpaces left = skipSpaces suffix := by
  obtain ⟨left, hspells, hleft⟩ := h
  exact ⟨left ++ suffix, hspells.append hends, skipSpaces_append_of_nil hleft suffix⟩

/-- A text keeps its value without a limit of nesting, -/
theorem Stands.unlimited {v : Json} (h : Stands limit text v) : Stands none text v := by
  obtain ⟨left, hspells, hleft⟩ := h
  exact ⟨left, hspells.unlimited, hleft⟩

theorem skipSpaces_blanks {gap : Source} (hgap : ∀ s ∈ gap, isSpace s) (text : Source) :
    skipSpaces (gap ++ text) = skipSpaces text :=
  List.dropWhile_append_of_pos hgap

/-- A blank makes no numeral longer. -/
theorem ends_blanks {gap : Source} (hgap : ∀ s ∈ gap, isSpace s) : Ends gap := by
  intro s hs
  have hspace := hgap s (List.mem_of_mem_head? hs)
  cases s with
  | stray b => cases hspace
  | char c =>
    simp only [isSpace, Bool.or_eq_true, decide_eq_true_eq] at hspace
    rcases hspace with ((rfl | rfl) | rfl) | rfl <;> decide

/-- and with more blanks around it. -/
theorem Stands.surround {v : Json} (h : Stands limit text v) {front back : Source}
    (hfront : ∀ s ∈ front, isSpace s) (hback : ∀ s ∈ back, isSpace s) :
    Stands limit (front ++ (text ++ back)) v := by
  obtain ⟨left, hspells, hleft⟩ := h.append (ends_blanks hback)
  have hend : skipSpaces back = [] := by simpa [skipSpaces] using hback
  exact ⟨left, hspells.of_skipSpaces (skipSpaces_blanks hfront _), hleft.trans hend⟩

/-- What stands behind an item or a member makes no numeral longer. -/
theorem ends_flatMap (ts : List Source) (s : Symbol) (hs : lengthens s = false) (suffix : Source) :
    Ends (ts.flatMap ([.char ','] ++ ·) ++ s :: suffix) := by
  cases ts with
  | nil => exact .cons hs suffix
  | cons t ts => exact .cons rfl _

/-! ### Items -/

section Items

variable {ts : List Source} {vs : List Json}

/-- Texts of values are the items of an array, behind another item -/
theorem spells_more (h : List.Forall₂ (Stands limit) ts vs) {left : Source}
    (hleft : skipSpaces left =
      skipSpaces (ts.flatMap ([.char ','] ++ ·) ++ .char ']' :: suffix)) :
    Spells limit left (.items false vs) suffix := by
  induction h generalizing left with
  | nil => exact .itemsEnd hleft
  | @cons t v ts vs ht _ ih =>
    obtain ⟨left', hspells, hleft'⟩ := ht.append (ends_flatMap ts (.char ']') rfl suffix)
    refine .item (.comma ?_) hspells (ih hleft')
    rw [hleft, List.flatMap_cons, List.append_assoc, List.append_assoc]
    rfl

/-- or from the first one on. -/
theorem spells_items (h : List.Forall₂ (Stands limit) ts vs) :
    Spells limit ([.char ','].intercalate ts ++ .char ']' :: suffix) (.items true vs) suffix := by
  cases h with
  | nil => exact .itemsEnd rfl
  | @cons t v ts vs ht hts =>
    obtain ⟨left, hspells, hleft⟩ := ht.append (ends_flatMap ts (.char ']') rfl suffix)
    rw [intercalate_cons, List.append_assoc]
    exact .item (.first _) hspells (spells_more hts hleft)

end Items

/-! ### Members -/

section Members

variable {ts : List Source} {ms : List (String × Json)}

/-- A text that has a member has it in front of other text. -/
theorem Holds.member {m : String × Json} (h : Holds limit text m) (hends : Ends suffix)
    {first : Bool} {start : Source} (hbehind : Behind first start (text ++ suffix))
    {rest : Source} (hmembers : ∀ left, skipSpaces left = skipSpaces suffix →
      Spells limit left (.members false ms) rest) :
    Spells limit start (.members first (m :: ms)) rest := by
  obtain ⟨hquote, hkey, hcolon, hvalue⟩ := h
  obtain ⟨left, hspells, hleft⟩ := hvalue.append hends
  exact .member hbehind (skipSpaces_append hquote suffix) (Quoted.local_read.append hkey suffix)
    (skipSpaces_append hcolon suffix) hspells (hmembers left hleft)

/-- Texts of members are the members of an object, behind another member -/
theorem spells_moreMembers (h : List.Forall₂ (Holds limit) ts ms) {left : Source}
    (hleft : skipSpaces left =
      skipSpaces (ts.flatMap ([.char ','] ++ ·) ++ .char '\x7d' :: suffix)) :
    Spells limit left (.members false ms) suffix := by
  induction h generalizing left with
  | nil => exact .membersEnd hleft
  | @cons t m ts ms ht _ ih =>
    refine ht.member (ends_flatMap ts (.char '\x7d') rfl suffix) (.comma ?_) fun left => ih
    rw [hleft, List.flatMap_cons, List.append_assoc, List.append_assoc]
    rfl

/-- or from the first one on. -/
theorem spells_members (h : List.Forall₂ (Holds limit) ts ms) :
    Spells limit ([.char ','].intercalate ts ++ .char '\x7d' :: suffix) (.members true ms)
      suffix := by
  cases h with
  | nil => exact .membersEnd rfl
  | @cons t m ts ms ht hts =>
    rw [intercalate_cons, List.append_assoc]
    have hends := ends_flatMap ts (.char '\x7d') rfl suffix
    exact ht.member hends (.first _) fun left => spells_moreMembers hts

end Members

/-! ## Plain values are read back -/

theorem printMoreItems_eq (items : List Json) :
    printMoreItems items = (items.map print).flatMap ([','] ++ ·) ++ [']'] := by
  induction items with
  | nil => rfl
  | cons v items ih => simp [printMoreItems, ih]

theorem printItems_eq (items : List Json) :
    printItems items = [','].intercalate (items.map print) ++ [']'] := by
  cases items with
  | nil => rfl
  | cons v items => rw [printItems, printMoreItems_eq, List.map_cons, intercalate_cons,
      List.append_assoc]

theorem printMoreMembers_eq (members : List (String × Json)) :
    printMoreMembers members = (members.map printMember).flatMap ([','] ++ ·) ++ ['\x7d'] := by
  induction members with
  | nil => rfl
  | cons m members ih => simp [printMoreMembers, ih]

theorem printMembers_eq (members : List (String × Json)) :
    printMembers members = [','].intercalate (members.map printMember) ++ ['\x7d'] := by
  cases members with
  | nil => rfl
  | cons m members => rw [printMembers, printMoreMembers_eq, List.map_cons, intercalate_cons,
      List.append_assoc]

/-- A string stands between its quotes, -/
theorem read_encode (s : String) (rest : Source) :
    Quoted.read ((Quoted.encode s).map Symbol.char ++ .char '"' :: rest) = .ok (s, rest) :=
  Quoted.scan_eq_whole_ok.mp (Quoted.scan_encode s rest)

theorem map_quote (s : String) :
    (Quoted.quote s).map Symbol.char =
      .char '"' :: ((Quoted.encode s).map Symbol.char ++ [.char '"']) := by
  simp [Quoted.quote]

/-- and so does a key, in front of a colon and of the text of its value. -/
theorem holds_printMember {m : String × Json} (h : Stands limit (m.2.print.map .char) m.2) :
    Holds limit ((printMember m).map .char) m := by
  obtain ⟨k, v⟩ := m
  have htext : (printMember (k, v)).map Symbol.char = .char '"' ::
      ((Quoted.encode k).map Symbol.char ++ .char '"' :: .char ':' :: v.print.map .char) := by
    simp [printMember, map_quote]
  rw [htext]
  exact .intro rfl (read_encode k _) rfl h

theorem skipSpaces_numeral {c : Char} (hc : c = '-' ∨ Decimal.isDigit c) (start : Source) :
    skipSpaces (.char c :: start) = .char c :: start := by
  have hblank : isSpace (.char c) = false := by
    rcases hc with rfl | hc
    · rfl
    · simp only [isSpace, Bool.or_eq_false_iff, decide_eq_false_iff_not]
      refine ⟨⟨⟨?_, ?_⟩, ?_⟩, ?_⟩ <;>
      · rintro rfl
        exact absurd hc (by decide)
  rw [skipSpaces, List.dropWhile_cons, hblank]
  rfl

/-- **A plain value is read back from its text.** -/
theorem Plain.stands {v : Json} (h : v.Plain limit) : Stands limit (v.print.map .char) v := by
  induction h with
  | null => exact ⟨[], .null rfl rfl, rfl⟩
  | bool b =>
    cases b with
    | true => exact ⟨[], .yes rfl rfl, rfl⟩
    | false => exact ⟨[], .no rfl rfl, rfl⟩
  | number hn =>
    obtain ⟨c, start, numeral, htext, hc, hscan, hrest, hvalue⟩ := hn.scan
    refine ⟨numeral.rest, ?_, by rw [hrest]; rfl⟩
    rw [print, htext]
    exact .number (skipSpaces_numeral hc start) hc hscan hvalue
  | string s =>
    refine ⟨[], ?_, rfl⟩
    rw [print, map_quote]
    exact .string rfl (read_encode s [])
  | @array limit inner items hlimit _ ih =>
    have hitems : List.Forall₂ (Stands inner) (items.map fun v => v.print.map .char) items := by
      rw [List.forall₂_map_left_iff, List.forall₂_same]
      exact ih
    have htext : (Json.array items).print.map Symbol.char = .char '[' ::
        ([Symbol.char ','].intercalate (items.map fun v => v.print.map .char) ++ [.char ']']) := by
      rw [print, printItems_eq, List.map_cons, List.map_append, map_intercalate, List.map_map]
      rfl
    rw [htext]
    exact ⟨[], .array rfl hlimit (spells_items hitems), rfl⟩
  | @object limit inner members hlimit _ _ ih =>
    have hmembers : List.Forall₂ (Holds inner) (members.map fun m => (printMember m).map .char)
        members := by
      rw [List.forall₂_map_left_iff, List.forall₂_same]
      exact fun m hm => holds_printMember (ih m hm)
    have htext : (Json.object members).print.map Symbol.char = .char '\x7b' ::
        ([Symbol.char ','].intercalate (members.map fun m => (printMember m).map .char) ++
          [.char '\x7d']) := by
      rw [print, printMembers_eq, List.map_cons, List.map_append, map_intercalate, List.map_map]
      rfl
    rw [htext]
    exact ⟨[], .object rfl hlimit (spells_members hmembers), rfl⟩

/-- What is in a phrase is plain. -/
def Phrase.Plain (limit : Limit) : Phrase → Prop
  | .value v => v.Plain limit
  | .items _ vs => ∀ v ∈ vs, v.Plain limit
  | .members _ ms => ∀ m ∈ ms, m.2.Plain limit

/-- What a text spells keeps to the limit of the text. -/
theorem Spells.plain {phrase : Phrase} {rest : Source} (h : Spells limit text phrase rest)
    (hplain : phrase.Plain none) : phrase.Plain limit := by
  induction h with
  | null => exact .null
  | yes => exact .bool true
  | no => exact .bool false
  | string => exact .string _
  | number =>
    cases hplain with
    | number hn => exact .number hn
  | array _ hlimit _ ih =>
    cases hplain with
    | array hnone hitems =>
      cases hnone
      exact .array hlimit (ih hitems)
  | object _ hlimit _ ih =>
    cases hplain with
    | object hnone hkeys hvalues =>
      cases hnone
      exact .object hlimit hkeys (ih hvalues)
  | itemsEnd => exact nofun
  | item _ _ _ ihvalue ihitems =>
    obtain ⟨hv, hvs⟩ := List.forall_mem_cons.mp hplain
    exact List.forall_mem_cons.mpr ⟨ihvalue hv, ihitems hvs⟩
  | membersEnd => exact nofun
  | member _ _ _ _ _ _ ihvalue ihmembers =>
    obtain ⟨hv, hvs⟩ := List.forall_mem_cons.mp hplain
    exact List.forall_mem_cons.mpr ⟨ihvalue hv, ihmembers hvs⟩

/-- **A plain value is the value of its text.** -/
theorem Plain.readText {v : Json} (h : v.Plain Limit.ofText) :
    Json.readText Reader.value (Symbol.ofString v.text) = .ok v := by
  rw [Symbol.ofString, Json.text, String.toList_ofList]
  exact readText_value_eq_ok.mpr h.stands

end ServiceWorker.Json
