import ServiceWorker.Notification.Format
import ServiceWorker.Proofs.Json.Restoring

/-!
# Wire values are read back

Requests, responses and shown notifications are written as objects, whose members are named in one
place and read in another. Whatever texts, headers and bytes they hold, a reader makes of the text
the value that was written.

## Main results

* `Http.Request.restores`, `Http.Response.restores`, `Notification.restores`: a record is restored
  from the object that it is written as
* `wire_values_read_back`: every request, response and shown notification is read back
-/

namespace ServiceWorker

open Json (Limit Reader Restores Shape readText)
open Text (Symbol)

/-! ## Requests and responses -/

namespace Http

variable {limit inner : Limit}

/-- A number that fits into so many bits is restored. -/
theorem restores_natJson (limit : Limit) {bits n : Nat} (hn : n < 1 <<< bits) (hbits : bits ≤ 64) :
    Restores limit (Reader.unsigned bits) (natJson n) n where
  plain := by
    have hpow : 2 ^ bits ≤ 2 ^ 64 := Nat.pow_le_pow_right (by decide) hbits
    rw [Nat.one_shiftLeft] at hn
    refine .number ⟨by omega, ?_⟩
    exact_mod_cast Nat.lt_of_lt_of_le hn hpow
  takes := Reader.takes_unsigned hn

/-- A request is restored from its object. -/
theorem Request.restores (r : Request) (hlimit : limit.enter = some inner) {deep : Limit}
    (hinner : inner.enter = some deep) : Restores limit Request.reader r.toJson r :=
  Shape.restores hlimit
    (.cons ((Json.restores_string inner r.method).restored rfl)
      (.cons ((Json.restores_string inner r.url).restored rfl)
        (.cons ((Json.restores_dictionary r.headers hinner).restored rfl) .nil)))
    (by simp) rfl

/-- A body is restored from the numbers of its bytes. -/
theorem restores_body (bytes : Bytes) (hlimit : limit.enter = some inner) :
    Restores limit (Reader.list (Reader.unsigned 8)) (.array (bytes.map fun b => natJson b.toNat))
      (bytes.map UInt8.toNat) := by
  have hbyte : ∀ b : UInt8, Restores inner (Reader.unsigned 8) (natJson b.toNat) b.toNat :=
    fun b => restores_natJson inner b.toNat_lt (by decide)
  exact {
    plain := .array hlimit fun v hv => by
      obtain ⟨b, -, rfl⟩ := List.mem_map.mp hv
      exact (hbyte b).plain
    takes := Reader.takes_list <| by
      rw [List.forall₂_map_left_iff, List.forall₂_map_right_iff, List.forall₂_same]
      exact fun b _ => (hbyte b).takes }

/-- A response is restored from its object. -/
theorem Response.restores (r : Response) (hlimit : limit.enter = some inner) {deep : Limit}
    (hinner : inner.enter = some deep) : Restores limit Response.reader r.toJson r := by
  refine Shape.restores hlimit
    (.cons ((restores_natJson inner r.status.toNat_lt (by decide)).restored rfl)
      (.cons ((Json.restores_dictionary r.headers hinner).restored rfl)
        (.cons ((restores_body r.body hinner).restored rfl) .nil))) (by simp) ?_
  show Except.ok (Response.mk (UInt16.ofNat r.status.toNat) r.headers
    ((r.body.map UInt8.toNat).map UInt8.ofNat)) = _
  simp [Function.comp_def]

end Http

/-! ## Shown notifications -/

namespace Notification

variable {limit inner : Limit}

/-- Where a click leads is restored, whichever of its parts are absent. -/
theorem Target.restores (t : Target) (hlimit : limit.enter = some inner) :
    Restores limit Target.shape.read t.toJson t := by
  obtain ⟨redirectTo, teamId, channelId⟩ := t
  have hredirect := (Json.restores_string inner redirectTo)
  have htext (s : String) : Restores inner (Reader.option Reader.string) (.string s) (some s) :=
    (Json.restores_string inner s).option nofun
  -- A text that is not there has no member, and the field keeps what it begins with.
  cases teamId with
  | none =>
    cases channelId with
    | none => exact Shape.restores hlimit (.cons (hredirect.restored rfl) .nil) (by simp) rfl
    | some channel =>
      exact Shape.restores hlimit
        (.cons (hredirect.restored rfl) (.cons ((htext channel).restored rfl) .nil)) (by simp) rfl
  | some team =>
    cases channelId with
    | none =>
      exact Shape.restores hlimit
        (.cons (hredirect.restored rfl) (.cons ((htext team).restored rfl) .nil)) (by simp) rfl
    | some channel =>
      exact Shape.restores hlimit (.cons (hredirect.restored rfl) (.cons ((htext team).restored rfl)
        (.cons ((htext channel).restored rfl) .nil))) (by simp) rfl

theorem Options.restores (o : Options) (hlimit : limit.enter = some inner) {deep : Limit}
    (hinner : inner.enter = some deep) : Restores limit Options.shape.read o.toJson o :=
  Shape.restores hlimit
    (.cons ((Json.restores_string inner o.icon).restored rfl)
      (.cons ((Json.restores_string inner o.tag).restored rfl)
        (.cons ((Json.restores_string inner o.body).restored rfl)
          (.cons ((o.target.restores hinner).restored rfl) .nil)))) (by simp) rfl

/-- An instant is restored if its text reads back as the same instant. -/
theorem restores_instant (limit : Limit) {t : Time.Instant}
    (h : Time.Instant.read t.rfc3339 = .ok t) :
    Restores limit instant (.string t.rfc3339) t where
  plain := .string _
  takes setting tree hread := by
    obtain ⟨rest, rfl⟩ := Json.Tree.eq_string_of_read hread
    simp only [instant, h]

/-- A shown notification is restored, if its id has 64 bits and its time reads back as the same. -/
theorem restores (n : Notification) (hid : n.id < 2 ^ 64)
    (hshown : Time.Instant.read n.shownAt.rfc3339 = .ok n.shownAt) :
    Restores Limit.ofText reader n.toJson n :=
  Shape.restores rfl
    (.cons ((Http.restores_natJson _ (by rwa [Nat.one_shiftLeft]) (Nat.le_refl 64)).restored rfl)
      (.cons ((Json.restores_string _ n.title).restored rfl)
        (.cons ((n.options.restores rfl rfl).restored rfl)
          (.cons ((restores_instant _ hshown).restored rfl) .nil)))) (by simp) rfl

end Notification

/-- **Wire values are read back unchanged**: every request and every response, and every shown
notification with an id of 64 bits, of whose time the text reads back as the same time. -/
theorem wire_values_read_back (n : Notification) (r : Http.Request) (a : Http.Response)
    (hid : n.id < 2 ^ 64) (hshown : Time.Instant.read n.shownAt.rfc3339 = .ok n.shownAt) :
    readText Notification.reader (Symbol.ofString n.toJson.text) = .ok n ∧
      readText Http.Request.reader (Symbol.ofString r.toJson.text) = .ok r ∧
      readText Http.Response.reader (Symbol.ofString a.toJson.text) = .ok a :=
  ⟨(n.restores hid hshown).readText, (r.restores rfl rfl).readText, (a.restores rfl rfl).readText⟩

/-- The largest id, texts that need escapes, an absent member and a leap second are read back. -/
theorem wire_values_read_back_escaped :
    let n : Notification := ⟨2 ^ 64 - 1, "\"\\\n\u0001", ⟨"", "é", "</>", ⟨"/", none, some ""⟩⟩,
      ⟨1483228799, 1000000000⟩⟩
    let r : Http.Request := .get "https://chat.example/\t?q=\u2028"
    let a : Http.Response := (Http.Response.of 65535 [0, 255, 10]).withHeader "X-\"" "\u007f"
    (n.id < 2 ^ 64 ∧ Time.Instant.read n.shownAt.rfc3339 = .ok n.shownAt) ∧
      readText Notification.reader (Symbol.ofString n.toJson.text) = .ok n ∧
      readText Http.Request.reader (Symbol.ofString r.toJson.text) = .ok r ∧
      readText Http.Response.reader (Symbol.ofString a.toJson.text) = .ok a := by
  intro n r a
  have hid : n.id < 2 ^ 64 := by decide
  have hshown : Time.Instant.read n.shownAt.rfc3339 = .ok n.shownAt := by decide +kernel
  exact ⟨⟨hid, hshown⟩, wire_values_read_back n r a hid hshown⟩

end ServiceWorker
