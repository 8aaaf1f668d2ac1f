import ServiceWorker.Proofs.Json.Memory
import ServiceWorker.Proofs.Push.Decoding

/-!
# The order of members makes no difference to a push

A push is decoded from the text of its body in the order in which the members stand. What it is
decoded to is told by the normal form of its value, in which they are sorted. So bodies whose values
have the same normal form do the same, and a value may be written anew on its way.

## Main results

* `Push.told_envelope`: the envelope is told by the normal form
* `Push.decodeText_congr`: texts whose values have the same normal form are decoded alike
-/

namespace ServiceWorker.Push

open Json (Field Limit Members Plain Reader Setting Source Tree normalMembers readText readValue)

/-! ## Tags -/

/-- The only key of an object with the value null. -/
def soleKey : List (String × Json) → Option String
  | [(key, .null)] => some key
  | _ => none

theorem soleKey_eq_none {vs : List (String × Json)} (h : 2 ≤ vs.length) : soleKey vs = none := by
  match vs with
  | [] => rfl
  | [_] => simp at h
  | _ :: _ :: _ => simp [soleKey]

theorem soleKey_normalMembers {vs : List (String × Json)} (hkeys : (vs.map Prod.fst).Nodup) :
    soleKey (normalMembers [] vs) = soleKey vs := by
  match vs with
  | [] => rfl
  | [(key, v)] => cases v <;> rfl
  | m :: n :: rest =>
    -- Several members stay several.
    have hlength : (normalMembers [] (m :: n :: rest)).length = (m :: n :: rest).length := by
      rw [(Json.perm_normalMembers hkeys).length_eq, List.length_map]
    rw [soleKey_eq_none (hlength ▸ Nat.le_add_left 2 _), soleKey_eq_none (Nat.le_add_left 2 _)]

/-- A tag in an object is its sole key. -/
theorem toOption_tag {setting : Setting} {inner : Limit} (hlimit : setting.limit.enter = some inner)
    (start : Source) {members : Members} {vs : List (String × Json)}
    (hread : members.read inner = .ok vs) :
    (tag setting (.object start members)).toOption = soleKey vs := by
  cases vs with
  | nil =>
    obtain ⟨rest, rfl⟩ := Members.read_eq_nil hread
    rfl
  | cons m us =>
    obtain ⟨key, v⟩ := m
    obtain ⟨next, value, tail, rfl, hvalue, htail⟩ := Members.read_eq_cons hread
    cases us with
    | nil =>
      obtain ⟨rest, rfl⟩ := Members.read_eq_nil htail
      unfold tag
      rw [hlimit]
      cases Tree.reads_of_read hvalue <;> rfl
    | cons n us =>
      obtain ⟨next', value', tail', rfl, -, -⟩ := Members.read_eq_cons htail
      rw [soleKey_eq_none (by simp)]
      unfold tag
      rw [hlimit]
      cases value <;> rfl

theorem told_tag : Reader.Told tag := by
  intro setting tree v hread hplain
  cases Tree.reads_of_read hread with
  | null | bool | number | string | array => rfl
  | @object inner members vs start hlimit hmembers =>
    cases hplain with
    | @object _ inner' _ hnone hkeys _ =>
      obtain rfl : none = inner' := Option.some.inj hnone
      show _ = (tag .memory (.object [] (Members.of (normalMembers [] vs)))).toOption
      rw [toOption_tag hlimit start hmembers, toOption_tag hnone [] (Members.read_of _),
        soleKey_normalMembers hkeys]

/-! ## Payloads -/

theorem told_lenientText : Reader.Told lenientText :=
  .of_takes (fun _ _ _ h => lenientText_of_read h) fun v _ => by rw [textOf_normal]

theorem told_anyValue : Reader.Told anyValue :=
  .of_takes (fun _ _ _ h => anyValue_of_read h) fun v hplain => by rw [hplain.normal_normal]

/-- A payload is told by the normal form. -/
theorem told_payload : Reader.Told payloadShape.read := by
  refine Json.Shape.told (fun f hf => ?_) ?_
  · simp only [payloadShape, List.mem_cons, List.not_mem_nil, or_false] at hf
    rcases hf with rfl | rfl | rfl | rfl | rfl | rfl
    · exact (told_tag.map Kind.ofTag).field
    · exact told_lenientText.field
    · exact told_lenientText.field
    · exact told_lenientText.field
    · exact told_anyValue.field
    · exact told_lenientText.field
  · -- Every field is stored in a place of its own.
    simp only [payloadShape, List.pairwise_cons, List.forall_mem_cons, List.not_mem_nil,
      false_imp_iff, implies_true, and_true, List.Pairwise.nil]
    refine ⟨⟨?_, ?_, ?_, ?_, ?_⟩, ⟨?_, ?_, ?_, ?_⟩, ⟨?_, ?_, ?_⟩, ⟨?_, ?_⟩, ?_⟩ <;>
      exact Field.commutes_of fun _ _ _ => rfl

/-- So is the envelope around it. -/
theorem told_envelope : Reader.Told envelopeShape.read := by
  refine Json.Shape.told (fun f hf => ?_) (List.pairwise_singleton _ _)
  obtain rfl := List.mem_singleton.mp hf
  exact told_payload.option.field

/-- **Texts whose values have the same normal form are decoded alike.** -/
theorem decodeText_congr {text text' : Source} {v v' : Json}
    (hvalue : readText Reader.value text = .ok v) (hvalue' : readText Reader.value text' = .ok v')
    (hplain : v.Plain none) (hplain' : v'.Plain none) (hnormal : v.normal = v'.normal) :
    decodeText text = decodeText text' := by
  have hjoin (text : Source) :
      decodeText text = (readText envelopeShape.read text).toOption.join := by
    unfold decodeText
    cases readText envelopeShape.read text <;> rfl
  rw [hjoin, hjoin, told_envelope.readText hvalue hplain, told_envelope.readText hvalue' hplain',
    hnormal]

end ServiceWorker.Push
