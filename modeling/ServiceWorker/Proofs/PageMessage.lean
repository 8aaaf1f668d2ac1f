import ServiceWorker.PageMessage

/-!
# Which messages ask for URLs

A page asks for URLs with an object that has a type and a payload, or with an array of just these
two. Whatever else it sends is an unknown message as a whole; in particular a payload is never cut
down to those of its items that are strings.

## Main definitions

* `PageMessage.Asks`: a value asks for a list of URLs
* `PageMessage.Brings`: a value has a payload
* `PageMessage.Grammar`: which values are decoded to what

## Main results

* `PageMessage.ofJson_eq_cacheUrls_iff`: a list of URLs is decoded from the values that ask for it
* `PageMessage.ofJson_grammar`: every value is decoded by the grammar
-/

namespace ServiceWorker.PageMessage

/-! ## Texts -/

theorem string?_eq_some_iff {v : Json} {s : String} : v.string? = some s ↔ v = .string s := by
  cases v <;> simp [Json.string?]

theorem mapM_string? {items : List Json} {texts : List String} :
    items.mapM Json.string? = some texts ↔ items = texts.map .string := by
  induction items generalizing texts with
  | nil =>
    rw [List.mapM_nil, List.nil_eq, List.map_eq_nil_iff]
    exact ⟨fun h => (Option.some.inj h).symm, fun h => congrArg some h.symm⟩
  | cons item items ih =>
    rw [List.mapM_cons]
    constructor
    · intro h
      obtain ⟨text, htext, h⟩ := Option.bind_eq_some_iff.mp h
      obtain ⟨rest, hrest, h⟩ := Option.bind_eq_some_iff.mp h
      obtain rfl := Option.some.inj h
      rw [string?_eq_some_iff.mp htext, ih.mp hrest, List.map_cons]
    · intro h
      cases texts with
      | nil => cases h
      | cons text rest =>
        obtain ⟨rfl, hrest⟩ := List.cons.inj h
        rw [ih.mpr hrest]
        rfl

theorem strings?_eq_some_iff {v : Json} {texts : List String} :
    strings? v = some texts ↔ v = .array (texts.map .string) := by
  cases v with
  | array items => rw [strings?, mapM_string?, Json.array.injEq]
  | _ => simp [strings?]

theorem ofTag_eq_cacheUrls_iff {tag payload : Option Json} {urls : List String} :
    ofTag tag payload = .cacheUrls urls ↔
      tag = some (.string "CACHE_URLS") ∧ payload = some (.array (urls.map .string)) := by
  -- Both parts are what is read of them, so only one pair of readings is left to look at.
  have htag : tag = some (.string "CACHE_URLS") ↔ tag.bind Json.string? = some "CACHE_URLS" := by
    simp [Option.bind_eq_some_iff, string?_eq_some_iff]
  have hpayload : payload = some (.array (urls.map .string)) ↔
      payload.bind strings? = some urls := by
    simp [Option.bind_eq_some_iff, strings?_eq_some_iff]
  rw [htag, hpayload, ofTag]
  split
  next texts h h' => simp [h, h']
  next hno =>
    constructor
    · intro h
      cases h
    · exact fun ⟨h, h'⟩ => absurd h' (hno urls h)

/-! ## Messages -/

/-- A value asks for a list of URLs: an object with the type `CACHE_URLS` and the URLs as its
payload, whatever other members it has, or an array of type and payload. -/
inductive Asks (urls : List String) : Json → Prop
  | object {v : Json} (type : v.member? "type" = some (.string "CACHE_URLS"))
      (payload : v.member? "payload" = some (.array (urls.map .string))) : Asks urls v
  | array : Asks urls (.array [.string "CACHE_URLS", .array (urls.map .string)])

variable {v : Json} {urls : List String}

/-- **A list of URLs is decoded from the values that ask for it**, in its order and with its
repetitions. -/
theorem ofJson_eq_cacheUrls_iff : ofJson v = .cacheUrls urls ↔ Asks urls v := by
  constructor
  · intro h
    unfold ofJson at h
    split at h
    next members =>
      obtain ⟨htype, hpayload⟩ := ofTag_eq_cacheUrls_iff.mp h
      exact .object htype hpayload
    next tag payload =>
      obtain ⟨htype, hpayload⟩ := ofTag_eq_cacheUrls_iff.mp h
      cases htype
      cases hpayload
      exact .array
    next => cases h
  · intro h
    cases h with
    | object htype hpayload =>
      cases v with
      | object members => exact ofTag_eq_cacheUrls_iff.mpr ⟨htype, hpayload⟩
      | _ => cases htype
    | array => exact ofTag_eq_cacheUrls_iff.mpr ⟨rfl, rfl⟩

theorem ofJson_eq_unknown_iff : ofJson v = .unknown ↔ ∀ urls, ¬Asks urls v := by
  simp only [← ofJson_eq_cacheUrls_iff]
  cases ofJson v <;> simp

/-- What holds the payload of a message, in either of its forms. -/
def Brings (v payload : Json) : Prop :=
  v.member? "payload" = some payload ∨ ∃ tag, v = .array [tag, payload]

/-- The payload of a value that asks for URLs is the list of these. -/
theorem Asks.brings_iff {payload : Json} (h : Asks urls v) :
    Brings v payload ↔ payload = .array (urls.map .string) := by
  cases h with
  | object type hpayload =>
    constructor
    · rintro (h | ⟨tag, rfl⟩)
      · exact Option.some.inj (h.symm.trans hpayload)
      · cases type
    · exact fun h => .inl (h ▸ hpayload)
  | array =>
    constructor
    · rintro (h | ⟨tag, h⟩)
      · cases h
      · simp only [Json.array.injEq, List.cons.injEq, and_true] at h
        exact h.2.symm
    · rintro rfl
      exact .inr ⟨_, rfl⟩

/-- Which messages a value is decoded to. -/
structure Grammar (v : Json) : Prop where
  /-- It is decoded to the list of URLs that it asks for, -/
  asks : ∀ urls, ofJson v = .cacheUrls urls ↔ Asks urls v
  /-- and is an unknown message if it asks for none. -/
  unknown : ofJson v = .unknown ↔ ∀ urls, ¬Asks urls v
  /-- It asks for none if it brings no payload, -/
  missing : (∀ payload, ¬Brings v payload) → ofJson v = .unknown
  /-- or if a single item of its payload is no string. -/
  mixed : ∀ items, Brings v (.array items) → (∃ item ∈ items, ∀ s, item ≠ .string s) →
    ofJson v = .unknown

/-- **Every value is decoded by the grammar of messages**, whatever it is. -/
theorem ofJson_grammar (v : Json) : Grammar v where
  asks urls := ofJson_eq_cacheUrls_iff
  unknown := ofJson_eq_unknown_iff
  missing hno := ofJson_eq_unknown_iff.mpr fun _ h => hno _ (h.brings_iff.mpr rfl)
  mixed items hitems hother := by
    refine ofJson_eq_unknown_iff.mpr fun urls h => ?_
    obtain ⟨item, hitem, hno⟩ := hother
    rw [Json.array.inj (h.brings_iff.mp hitems)] at hitem
    obtain ⟨s, -, rfl⟩ := List.mem_map.mp hitem
    exact hno s rfl

end ServiceWorker.PageMessage
