import ServiceWorker.Proofs.Lists
import ServiceWorker.Url.Parse

/-!
# Fragments of URLs

The first `#` of a text ends the URL proper, wherever it stands: nothing in front of it is read in
another way because something follows. There is one exception. Where hosts may be empty, an at sign
behind the two slashes is passed over at the end of a text, and is an error in front of anything
else.

## Main definitions

* `Url.Reference.LoneAt`, `Url.LoneAt`: nothing but an at sign stands behind the two slashes
* `Url.ReadAsStandard`: a lone at sign is refused, as the URL standard has it

## Main results

* `Url.readAuthority_at`: what an at sign alone is read as
* `Url.parse_append`: a text with a fragment names the URL that the text names
* `Url.LoneAt.parse`: but for a lone at sign, which names none
* `Url.readAsStandard_iff`: which texts are read as the standard has it
-/

namespace ServiceWorker.Url

/-! ## Texts -/

section Texts

/-- What is left of a text with a mark behind it begins with what is left of the text and the mark,
if the text does not end in a blank. -/
theorem stripped_append {u : List Char} (hlast : ∀ c ∈ u.getLast?, isEdge c = false)
    (f : List Char) : ∃ g, stripped (u ++ '#' :: f) = stripped u ++ '#' :: g := by
  have hmark : isEdge '#' = false := by decide
  -- Nothing is left out at the end of the text itself.
  have hend : ((u.dropWhile isEdge).reverse.dropWhile isEdge).reverse = u.dropWhile isEdge := by
    rw [List.reverse_eq_iff]
    cases hrev : (u.dropWhile isEdge).reverse with
    | nil => rfl
    | cons c rest =>
      have hc : c ∈ u.getLast? := by
        rw [List.reverse_eq_cons_iff] at hrev
        rw [← List.takeWhile_append_dropWhile (p := isEdge) (l := u), hrev, ← List.append_assoc]
        simp
      exact List.dropWhile_cons_of_neg (by simp [hlast c hc])
  refine ⟨(f.reverse.dropWhile isEdge).reverse.filter (!isBreak ·), ?_⟩
  unfold stripped
  rw [dropWhile_append_cons hmark, List.reverse_append, List.reverse_cons, List.append_assoc,
    List.singleton_append, dropWhile_append_cons hmark, List.reverse_append, List.reverse_cons,
    List.reverse_reverse, hend, List.append_assoc, List.singleton_append, List.filter_append,
    List.filter_cons_of_pos (by decide)]

variable {sign : Char} {cs : List Char}

theorem cut_of_not_mem (h : sign ∉ cs) : cut sign cs = (cs, none) := by
  induction cs with
  | nil => rfl
  | cons c cs ih =>
    rw [List.mem_cons, not_or] at h
    rw [cut, if_neg (Ne.symm h.1), ih h.2]

theorem cut_append (h : sign ∉ cs) (back : List Char) :
    cut sign (cs ++ sign :: back) = (cs, some back) := by
  induction cs with
  | nil => exact if_pos rfl
  | cons c cs ih =>
    rw [List.mem_cons, not_or] at h
    rw [List.cons_append, cut, if_neg (Ne.symm h.1), ih h.2]

/-- What follows the first mark of a text is its fragment, and its other parts are those of the text
in front of it. -/
theorem of_append {u : String} (hmark : '#' ∉ u.toList)
    (hlast : ∀ c ∈ u.toList.getLast?, isEdge c = false) (f : String) :
    (Reference.of u).fragment = none ∧ ∃ g, Reference.of (u ++ "#" ++ f) =
      { Reference.of u with fragment := some g } := by
  have hclean : '#' ∉ stripped u.toList := by
    intro h
    unfold stripped at h
    have h := List.mem_reverse.mp (List.mem_filter.mp h).1
    have h := List.mem_reverse.mp ((List.dropWhile_sublist _).subset h)
    exact hmark ((List.dropWhile_sublist _).subset h)
  obtain ⟨g, hg⟩ := stripped_append hlast f.toList
  have htext : (u ++ "#" ++ f).toList = u.toList ++ '#' :: f.toList := by
    simp
  refine ⟨?_, g, ?_⟩
  · rw [Reference.of, cut_of_not_mem hclean]
  · rw [Reference.of, htext, hg, cut_append hclean, Reference.of, cut_of_not_mem hclean]

end Texts

/-! ## Authorities -/

section Authorities

variable {r : Reference} {scheme : Scheme} {cs g : List Char}

/-- What has nothing on either side of its last at sign is an at sign alone. -/
theorem eq_at_of_cutUser {site : List Char} (h : cutUser site = some ([], [])) : site = ['@'] := by
  unfold cutUser at h
  extract_lets host at h
  split at h
  next => cases h
  next hlen =>
    obtain ⟨hlogin, hhost⟩ := Prod.mk.inj (Option.some.inj h)
    rw [hhost, List.length_nil] at hlen hlogin
    -- The at sign is the last character, and it is the first one as well.
    have htake : site.reverse.takeWhile (· ≠ '@') = [] := List.reverse_eq_nil_iff.mp hhost
    have hone : site.length = 1 := by
      have htaken := congrArg List.length hlogin
      rw [List.length_take, List.length_nil] at htaken
      omega
    obtain ⟨c, rfl⟩ := List.length_eq_one_iff.mp hone
    by_cases hc : c = '@'
    · rw [hc]
    · simp [hc] at htake

/-- An at sign alone leaves the host out. Only where hosts may be empty it is accepted, and only if
nothing follows it. -/
theorem readAuthority_at : readAuthority r scheme ['@'] =
    if r.goesOn || scheme.isSpecial then .error .emptyHost
    else .ok (r.at scheme (.rooted (some ⟨[], [], .none, none⟩) [])) := by
  have hparts : scheme.layout.parts '@' = false := by
    simp [Path.Layout.parts]
  have huser : cutUser ['@'] = some ([], []) := rfl
  have hhost : readHost scheme [] false =
      if scheme.isSpecial then .error .emptyHost else .ok .none := by
    unfold readHost
    split <;> rfl
  unfold readAuthority
  extract_lets parts site rest
  have hsite : site = ['@'] := List.takeWhile_cons_of_pos (by simp [parts, hparts])
  have hrest : rest = [] := List.dropWhile_cons_of_pos (by simp [parts, hparts])
  rw [hsite, hrest, huser]
  cases hgo : r.goesOn with
  | true => rfl
  | false =>
    cases hspecial : scheme.isSpecial with
    | true => simp [cutHost, hhost, hspecial, bind, Except.bind]
    | false => simp [cut, cutHost, readPort, percentEncode, hhost, hspecial, bind, Except.bind]

theorem readAuthority_marked (h : cs ≠ ['@']) :
    readAuthority { r with fragment := some g } scheme cs = readAuthority r scheme cs := by
  unfold readAuthority
  extract_lets parts site rest
  cases hp : (cutUser site).getD ([], site) with
  | mk login place =>
    have hsame : (login.isEmpty && place.isEmpty && !site.isEmpty &&
          (!rest.isEmpty || Reference.goesOn { r with fragment := some g })) =
        (login.isEmpty && place.isEmpty && !site.isEmpty && (!rest.isEmpty || r.goesOn)) := by
      -- The two differ only in front of what follows an at sign alone.
      have hnot : (login.isEmpty && place.isEmpty && !site.isEmpty && rest.isEmpty) = false := by
        rw [Bool.eq_false_iff]
        intro hall
        simp only [Bool.and_eq_true, Bool.not_eq_true', List.isEmpty_iff] at hall
        obtain ⟨⟨⟨rfl, rfl⟩, hsite⟩, hrest⟩ := hall
        cases huser : cutUser site with
        | none =>
          rw [huser] at hp
          rw [show site = [] from congrArg Prod.snd hp] at hsite
          cases hsite
        | some parts =>
          rw [huser] at hp
          obtain rfl : parts = ([], []) := hp
          have hcs : site ++ rest = cs := List.takeWhile_append_dropWhile
          rw [eq_at_of_cutUser huser, hrest] at hcs
          exact h hcs.symm
      revert hnot
      cases login.isEmpty <;> cases place.isEmpty <;> cases site.isEmpty <;>
        cases rest.isEmpty <;> simp
    dsimp only
    rw [hsame]
    rfl

end Authorities

/-! ## Fragments -/

/-- Behind a scheme that is neither that of files nor has a network protocol there is nothing but
two slashes and an at sign. -/
def Reference.LoneAt (r : Reference) : Prop :=
  r.query = none ∧ ∃ scheme, Scheme.read r.front = some (scheme, ['/', '/', '@']) ∧
    scheme.isSpecial = false

section Fragments

variable {r : Reference} {scheme : Scheme} {cs g : List Char}

theorem readSchemed_marked (h : cs ≠ ['/', '/', '@'] ∨ r.goesOn = true ∨ scheme.isSpecial = true) :
    readSchemed { r with fragment := some g } none scheme cs = readSchemed r none scheme cs := by
  have hauthority : ∀ site, site ≠ ['@'] ∨ r.goesOn = true ∨ scheme.isSpecial = true →
      readAuthority { r with fragment := some g } scheme site = readAuthority r scheme site := by
    intro site hsite
    by_cases hat : site = ['@']
    · rw [hat, readAuthority_at, readAuthority_at, if_pos (by simp [Reference.goesOn]), if_pos]
      simpa using hsite.resolve_left (not_not_intro hat)
    · exact readAuthority_marked hat
  unfold readSchemed
  split
  next => rfl
  next =>
    split
    next hspecial => exact hauthority _ (.inr (.inr hspecial))
    next =>
      unfold readOther
      split
      next site => exact hauthority site (h.imp_left fun hne heq => hne (heq ▸ rfl))
      next => rfl
      next => rfl

/-- **A fragment changes nothing in front of it**, unless it keeps a lone at sign from standing at
the end. -/
theorem Reference.resolve_marked (h : ¬r.LoneAt) :
    Reference.resolve { r with fragment := some g } none = r.resolve none := by
  unfold Reference.resolve
  dsimp only
  cases hread : Scheme.read r.front with
  | none => rfl
  | some parts =>
    obtain ⟨scheme, rest⟩ := parts
    refine readSchemed_marked ?_
    by_contra hno
    simp only [not_or, ne_eq, not_not, Bool.not_eq_true] at hno
    obtain ⟨rfl, hgo, hspecial⟩ := hno
    rw [Reference.goesOn, Bool.or_eq_false_iff] at hgo
    exact h ⟨Option.isSome_eq_false_iff.mp hgo.1 |> Option.isNone_iff_eq_none.mp, scheme, hread,
      hspecial⟩

/-- A lone at sign at the end names no host, which is accepted; with a fragment behind it it is
not. -/
theorem Reference.LoneAt.resolve (h : r.LoneAt) (hnone : r.fragment = none) :
    (∃ scheme, scheme.isSpecial = false ∧ r.resolve none =
      .ok ⟨scheme, .rooted (some ⟨[], [], .none, none⟩) [], none, none⟩) ∧
    Reference.resolve { r with fragment := some g } none = .error .emptyHost := by
  obtain ⟨hquery, scheme, hread, hspecial⟩ := h
  have hfile : scheme.isFile = false := (Bool.or_eq_false_iff.mp hspecial).1
  have hgo : r.goesOn = false := by rw [Reference.goesOn, hquery, hnone]; rfl
  have hresolve : ∀ r' : Reference, r'.front = r.front →
      r'.resolve none = readAuthority r' scheme ['@'] := by
    intro r' hfront
    unfold Reference.resolve
    rw [hfront, hread]
    show readSchemed r' none scheme ['/', '/', '@'] = _
    rw [readSchemed, hfile, hspecial]
    rfl
  constructor
  · refine ⟨scheme, hspecial, ?_⟩
    rw [hresolve r rfl, readAuthority_at, hgo, hspecial, Reference.at, Reference.queryText, hquery]
    rfl
  · rw [hresolve { r with fragment := some g } rfl, readAuthority_at,
      if_pos (by simp [Reference.goesOn])]

end Fragments

/-- Behind its scheme, which is neither that of files nor has a network protocol, a text has nothing
but two slashes and an at sign. -/
def LoneAt (text : String) : Prop :=
  (Reference.of text).LoneAt

/-- The URL standard refuses an at sign that no host follows, wherever the text ends. A text is read
so if it is refused when it has a lone at sign. -/
def ReadAsStandard (text : String) : Prop :=
  LoneAt text → ∃ problem, parse text = .error problem

section Texts

variable {u : String} (hmark : '#' ∉ u.toList) (hlast : ∀ c ∈ u.toList.getLast?, isEdge c = false)

include hmark hlast

/-- **A text with a fragment behind it names the URL that the text names**, but for the fragment. -/
theorem parse_append (h : ¬LoneAt u) (f : String) :
    ∃ g, parse (u ++ "#" ++ f) = (parse u).map fun v => { v with fragment := some g } := by
  obtain ⟨hnone, g, hg⟩ := of_append hmark hlast f
  refine ⟨percentEncode .fragment g, ?_⟩
  unfold parse resolve
  rw [hg]
  dsimp only
  rw [Reference.resolve_marked h]
  cases (Reference.of u).resolve none <;> rfl

/-- A lone at sign is accepted at the end of a text, and not in front of a fragment. -/
theorem LoneAt.parse (h : LoneAt u) (f : String) :
    (∃ scheme, scheme.isSpecial = false ∧
      parse u = .ok ⟨scheme, .rooted (some ⟨[], [], .none, none⟩) [], none, none⟩) ∧
    parse (u ++ "#" ++ f) = .error .emptyHost := by
  obtain ⟨hnone, g, hg⟩ := of_append hmark hlast f
  obtain ⟨⟨scheme, hspecial, hread⟩, herror⟩ := Reference.LoneAt.resolve (g := g) h hnone
  unfold Url.parse resolve
  rw [hg]
  dsimp only
  rw [hread, herror, hnone]
  exact ⟨⟨scheme, hspecial, rfl⟩, rfl⟩

/-- **A text without a fragment is read as the standard has it** unless it has a lone at sign. -/
theorem readAsStandard_iff : ReadAsStandard u ↔ ¬LoneAt u := by
  constructor
  · intro hstandard hlone
    obtain ⟨problem, herror⟩ := hstandard hlone
    obtain ⟨⟨scheme, -, hread⟩, -⟩ := hlone.parse hmark hlast ""
    rw [hread] at herror
    cases herror
  · exact fun hnot hlone => absurd hlone hnot

end Texts

end ServiceWorker.Url
