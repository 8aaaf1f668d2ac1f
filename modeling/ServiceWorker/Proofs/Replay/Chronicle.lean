import ServiceWorker.Proofs.Replay.Passage

/-!
# The chronicle of a replay

What happens in all turns of a replay tells everything that is printed: every report once, every
effect once, and each with the turn in which it happened. If no handler ever waits, this is one
event after another.

## Main definitions

* `Replay.play`, `Replay.chronicle`: a replay after several turns, and what happens in them
* `Replay.Accounts`: a chronicle accounts for what has become of a replay
* `Replay.Prompt`: no handler ever waits
* `Replay.linesFor`: what is printed for an event

## Main results

* `Replay.accounts_play`: the chronicle of a replay accounts for it
* `Replay.inOrder_play`: if no handler waits, what is printed is in the order of the events
-/

namespace ServiceWorker.Replay

open Platform (Effect)

/-- Turns of a replay: the surroundings of each, and the handlers that go on in it. -/
abbrev Polls := List (Surroundings × List (Nat × Ticket))

/-- A replay after several turns. -/
def play (r : Replay) (turns : Polls) : Replay :=
  turns.foldl (fun r x => r.turn x.1 x.2) r

/-- What happens in several turns. -/
def chronicle (r : Replay) : Polls → List Passage
  | [] => []
  | x :: turns => passage x.1 x.2 r :: chronicle (r.turn x.1 x.2) turns

/-- The events that are taken. -/
def takens (ps : List Passage) : List Taken :=
  ps.filterMap Passage.taken

/-- The reports of the handlers that end. -/
def reports (ps : List Passage) : List Report :=
  ps.filterMap Passage.report

/-- What the handlers do. -/
def deeds (ps : List Passage) : List Entry :=
  ps.flatMap Passage.deeds

theorem play_append (r : Replay) (turns more : Polls) :
    r.play (turns ++ more) = (r.play turns).play more :=
  List.foldl_append

theorem chronicle_append (r : Replay) (turns more : Polls) :
    r.chronicle (turns ++ more) = r.chronicle turns ++ (r.play turns).chronicle more := by
  induction turns generalizing r with
  | nil => rfl
  | cons x turns ih => rw [List.cons_append, chronicle, chronicle, ih, List.cons_append]; rfl

/-! ## Everything is accounted for -/

section Accounts

variable {r r' : Replay} {p : Passage} {ps : List Passage}

theorem Taken.fst_of_job? {t : Taken} {x : Nat × Event} (h : t.job? = some x) : x.1 = t.seq := by
  obtain ⟨event, -, rfl⟩ := Option.map_eq_some_iff.mp h
  rfl

/-- A turn leaves a replay tidy. -/
theorem Passes.tidy (h : Passes r p r') (hr : r.Tidy) : r'.Tidy := by
  have hseqs : (r.jobs.map Job.seq ++ (p.taken.toList.filterMap Taken.job?).map Prod.fst).Perm
      (p.report.toList.map Report.seq ++ r'.jobs.map Job.seq) := by
    simpa [Function.comp_def, Job.tag, Report.tag] using h.tags.map Prod.fst
  -- At most one handler is begun, and its number is new.
  have hnew : ∀ n ∈ (p.taken.toList.filterMap Taken.job?).map Prod.fst, n = r.taken + 1 := by
    intro n hn
    obtain ⟨x, hx, rfl⟩ := List.mem_map.mp hn
    obtain ⟨t, ht, hjob⟩ := List.mem_filterMap.mp hx
    rw [Taken.fst_of_job? hjob, h.number t (Option.mem_toList.mp ht)]
  have hold : ∀ n ∈ r.jobs.map Job.seq, n ≤ r.taken := fun n hn => by
    obtain ⟨j, hj, rfl⟩ := List.mem_map.mp hn
    exact hr.known j hj
  have hdistinct : (r.jobs.map Job.seq ++
      (p.taken.toList.filterMap Taken.job?).map Prod.fst).Nodup := by
    rw [List.nodup_append]
    refine ⟨hr.distinct, ?_, fun n hn m hm hsame => ?_⟩
    · cases p.taken with
      | none => exact List.nodup_nil
      | some t => cases hjob : t.job? <;> simp [hjob]
    · have hlt := hold n hn
      have heq := hnew m hm
      omega
  refine ⟨?_, fun j hj => ?_, h.drained⟩
  · exact (List.nodup_append.mp (hseqs.nodup_iff.mp hdistinct)).2.1
  · have hmem := hseqs.mem_iff.mpr (List.mem_append_right _ (List.mem_map_of_mem hj))
    rw [h.counted]
    rcases List.mem_append.mp hmem with hmem | hmem
    · exact Nat.le_add_right_of_le (hold _ hmem)
    · rw [hnew _ hmem]
      cases htaken : p.taken with
      | none =>
        rw [htaken] at hmem
        cases hmem
      | some t => exact Nat.le_refl _

/-- A chronicle accounts for what has become of a replay: what has been printed is what happened,
what was recorded is what handlers did, the events have been taken in their order and numbered, and
each handler that was there or has been begun has ended with its report or is still there. -/
structure Accounts (r : Replay) (ps : List Passage) (r' : Replay) : Prop where
  tidy : r'.Tidy
  recorded : ps.flatMap Passage.effects = (deeds ps).flatMap Entry.effects
  printed : r'.lines = r.lines ++ ps.flatMap Passage.lines
  pending : r.pending = (takens ps).map Taken.event ++ r'.pending
  counted : r'.taken = r.taken + (takens ps).length
  numbers : (takens ps).map Taken.seq = List.range' (r.taken + 1) (takens ps).length
  tags : (r.jobs.map Job.tag ++ (takens ps).filterMap Taken.job?).Perm
    ((reports ps).map Report.tag ++ r'.jobs.map Job.tag)

theorem takens_cons (p : Passage) (ps : List Passage) :
    takens (p :: ps) = p.taken.toList ++ takens ps := by
  cases h : p.taken <;> simp [takens, h]

theorem reports_cons (p : Passage) (ps : List Passage) :
    reports (p :: ps) = p.report.toList ++ reports ps := by
  cases h : p.report <;> simp [reports, h]

theorem Accounts.cons {r₁ : Replay} (h : Passes r p r₁) (h' : Accounts r₁ ps r') :
    Accounts r (p :: ps) r' where
  tidy := h'.tidy
  recorded := by
    have hdeeds : deeds (p :: ps) = p.deeds ++ deeds ps := List.flatMap_cons
    rw [List.flatMap_cons, h.recorded, h'.recorded, hdeeds, List.flatMap_append]
  printed := by rw [h'.printed, h.printed, List.flatMap_cons, List.append_assoc]
  pending := by rw [h.pending, h'.pending, takens_cons, List.map_append, List.append_assoc]
  counted := by rw [h'.counted, h.counted, takens_cons, List.length_append, Nat.add_assoc]
  numbers := by
    rw [takens_cons, List.map_append, h'.numbers, h.counted, List.length_append]
    cases htaken : p.taken with
    | none => simp
    | some t =>
      have hnumber := h.number t htaken
      simp [hnumber, List.range'_succ, Nat.add_comm 1]
  tags := by
    rw [takens_cons, reports_cons, List.filterMap_append, List.map_append, ← List.append_assoc,
      List.append_assoc _ _ (r'.jobs.map Job.tag)]
    refine (h.tags.append_right _).trans ?_
    rw [List.append_assoc]
    exact h'.tags.append_left _

/-- **The chronicle of a replay accounts for it.** -/
theorem accounts_play (h : r.Tidy) (turns : Polls) :
    Accounts r (r.chronicle turns) (r.play turns) := by
  induction turns generalizing r with
  | nil => exact ⟨h, rfl, by simp [play, chronicle], by simp [play, chronicle, takens], rfl, rfl,
      by simp [play, chronicle, takens, reports]⟩
  | cons x turns ih =>
    have hpasses := passes_turn h x.1 x.2
    exact .cons hpasses (ih (hpasses.tidy h))

end Accounts

/-! ## One event after another -/

section InOrder

variable {r r' : Replay} {p : Passage} {ps : List Passage}

/-- No handler ever waits: whenever there are handlers, one of them ends. -/
def Prompt (r : Replay) (turns : Polls) : Prop :=
  ∀ past x rest, turns = past ++ x :: rest → (r.play past).jobs ≠ [] →
    (passage x.1 x.2 (r.play past)).report.isSome

/-- What is printed for the event with a number: its report, and then what its handler has
recorded. -/
def linesFor (ps : List Passage) (seq : Nat) : List Line :=
  ((reports ps).filter (·.seq = seq)).map .report ++
    (((deeds ps).filter (·.task = seq)).flatMap Entry.effects).map .effect

/-- What has been printed is printed for one event after another. At most one handler is there: that
of the last event, for which nothing has been printed yet. -/
structure InOrder (ps : List Passage) (r : Replay) : Prop where
  printed : r.lines = (takens ps).flatMap fun t => linesFor ps t.seq
  known : ∀ seq, r.taken < seq → linesFor ps seq = []
  last : ∀ j ∈ r.jobs, r.jobs = [j] ∧ j.seq = r.taken ∧ linesFor ps j.seq = []

theorem takens_concat (ps : List Passage) (p : Passage) :
    takens (ps ++ [p]) = takens ps ++ p.taken.toList := by
  cases h : p.taken <;> simp [takens, h]

theorem linesFor_concat (ps : List Passage) (p : Passage) (seq : Nat) :
    linesFor (ps ++ [p]) seq =
      (((reports ps).filter (·.seq = seq)) ++ p.report.toList.filter (·.seq = seq)).map .report ++
        ((((deeds ps).filter (·.task = seq)).flatMap Entry.effects) ++
          (p.deeds.filter (·.task = seq)).flatMap Entry.effects).map .effect := by
  have hreports : reports (ps ++ [p]) = reports ps ++ p.report.toList := by
    cases h : p.report <;> simp [reports, h]
  have hdeeds : deeds (ps ++ [p]) = deeds ps ++ p.deeds := by simp [deeds]
  rw [linesFor, hreports, hdeeds, List.filter_append, List.filter_append, List.flatMap_append]

/-- Nothing is printed for an event in a turn of which neither the report nor any deed is its
own. -/
theorem linesFor_concat_of_ne {seq : Nat} (hreport : ∀ rep ∈ p.report, rep.seq ≠ seq)
    (hdeeds : ∀ e ∈ p.deeds, e.task ≠ seq) : linesFor (ps ++ [p]) seq = linesFor ps seq := by
  have hnone : p.report.toList.filter (·.seq = seq) = [] := List.filter_eq_nil_iff.mpr
    fun rep hrep => by simpa using hreport rep (Option.mem_toList.mp hrep)
  have hnothing : p.deeds.filter (·.task = seq) = [] := List.filter_eq_nil_iff.mpr
    fun e he => by simpa using hdeeds e he
  rw [linesFor_concat, hnone, hnothing, List.append_nil, List.flatMap_nil, List.append_nil,
    linesFor]

/-- If nothing has been printed for an event, what is printed in a turn of its own is all. -/
theorem linesFor_concat_of_nil {seq : Nat} (hnil : linesFor ps seq = [])
    (hrecorded : p.effects = p.deeds.flatMap Entry.effects)
    (hreport : ∀ rep ∈ p.report, rep.seq = seq) (hdeeds : ∀ e ∈ p.deeds, e.task = seq) :
    linesFor (ps ++ [p]) seq = p.lines := by
  obtain ⟨hnone, hnothing⟩ := List.append_eq_nil_iff.mp hnil
  have hall : p.report.toList.filter (·.seq = seq) = p.report.toList := List.filter_eq_self.mpr
    fun rep hrep => by simpa using hreport rep (Option.mem_toList.mp hrep)
  have hown : p.deeds.filter (·.task = seq) = p.deeds := List.filter_eq_self.mpr
    fun e he => by simpa using hdeeds e he
  rw [linesFor_concat, List.map_eq_nil_iff.mp hnone, List.map_eq_nil_iff.mp hnothing, hall, hown,
    List.nil_append, List.nil_append, Passage.lines, hrecorded]

/-- While there is no handler, the next event is taken. -/
theorem InOrder.concat_of_idle (h : InOrder ps r) (hpasses : Passes r p r') (hjobs : r.jobs = []) :
    InOrder (ps ++ [p]) r' := by
  have hdeeds : p.deeds = [] := List.eq_nil_iff_forall_not_mem.mpr fun e he => by
    simpa [hjobs] using hpasses.tasks e he
  have htags := hpasses.tags
  rw [hjobs, List.map_nil, List.nil_append] at htags
  have hreport : p.report = none := by
    rcases hpasses.either with hnone | hnone
    · exact hnone
    · rw [hnone] at htags
      have hnil := List.append_eq_nil_iff.mp (List.nil_perm.mp htags)
      simpa using hnil.1
  have hsame : ∀ seq, linesFor (ps ++ [p]) seq = linesFor ps seq := fun seq =>
    linesFor_concat_of_ne (by simp [hreport]) (by simp [hdeeds])
  refine ⟨?_, fun seq hseq => ?_, fun j hj => ?_⟩
  · have hlines : p.lines = [] := by
      simp [Passage.lines, hpasses.recorded, hreport, hdeeds]
    have hnew : (p.taken.toList.flatMap fun t => linesFor ps t.seq) = [] :=
      List.flatMap_eq_nil_iff.mpr fun t ht => h.known _ <| by
        rw [hpasses.number t (Option.mem_toList.mp ht)]
        exact Nat.lt_succ_self _
    simp only [hsame, takens_concat, List.flatMap_append, hnew, List.append_nil]
    rw [hpasses.printed, hlines, List.append_nil, h.printed]
  · rw [hpasses.counted] at hseq
    rw [hsame]
    exact h.known seq (Nat.lt_of_le_of_lt (Nat.le_add_right _ _) hseq)
  · rw [hreport, Option.toList_none, List.map_nil, List.nil_append] at htags
    cases htaken : p.taken with
    | none =>
      rw [htaken] at htags
      have hnil := List.map_eq_nil_iff.mp (List.nil_perm.mp htags)
      rw [hnil] at hj
      cases hj
    | some t =>
      -- The only handler is that of the event which has just been taken.
      rw [htaken] at htags
      have hnumber := hpasses.number t htaken
      have hcounted : r'.taken = r.taken + 1 := by rw [hpasses.counted, htaken]; rfl
      cases hjob : t.job? with
      | none =>
        rw [Option.toList_some, List.filterMap_cons_none hjob] at htags
        have hnil := List.map_eq_nil_iff.mp (List.nil_perm.mp htags)
        rw [hnil] at hj
        cases hj
      | some x =>
        rw [Option.toList_some, List.filterMap_cons_some hjob] at htags
        have hone := List.singleton_perm.mp htags
        obtain ⟨j', hj', htag⟩ := List.map_eq_singleton_iff.mp hone.symm
        rw [hj', List.mem_singleton] at hj
        subst hj
        have hseq : j.seq = r'.taken := by
          rw [hcounted, ← hnumber, ← Taken.fst_of_job? hjob, ← htag]
          rfl
        refine ⟨hj', hseq, ?_⟩
        rw [hsame, hseq, hcounted]
        exact h.known _ (Nat.lt_succ_self _)

/-- While there is a handler, the events before its own have smaller numbers. -/
theorem Accounts.takens_eq {start : Replay} (hstart : start.jobs = [] ∧ start.taken = 0)
    (h : Accounts start ps r) {j : Job} (hj : j ∈ r.jobs) :
    ∃ before t, takens ps = before ++ [t] ∧ t.seq = r.taken ∧
      ∀ t' ∈ before, t'.seq < r.taken := by
  have htags := h.tags
  rw [hstart.1, List.map_nil, List.nil_append] at htags
  have hmem := htags.mem_iff.mpr (List.mem_append_right _ (List.mem_map_of_mem hj))
  obtain ⟨t, ht, -⟩ := List.mem_filterMap.mp hmem
  obtain ⟨before, last, hsplit⟩ :=
    (List.eq_nil_or_concat' (takens ps)).resolve_left (List.ne_nil_of_mem ht)
  have hcounted := h.counted
  have hnumbers := h.numbers
  rw [hstart.2, Nat.zero_add, hsplit, List.length_append, List.length_singleton] at hcounted
  rw [hstart.2, hsplit, List.map_append, List.map_singleton, List.length_append,
    List.length_singleton, List.range'_concat] at hnumbers
  obtain ⟨hbefore, hlast⟩ := List.append_inj' hnumbers rfl
  refine ⟨before, last, hsplit, ?_, fun t' ht' => ?_⟩
  · have heq := List.singleton_inj.mp hlast
    omega
  · have hmem' := hbefore ▸ List.mem_map_of_mem (f := Taken.seq) ht'
    rw [List.mem_range'_1] at hmem'
    omega

/-- If the only handler ends, no other is begun. -/
theorem Passes.ended (h : Passes r p r') {j : Job} (hjobs : r.jobs = [j]) {report : Report}
    (hreport : p.report = some report) :
    p.taken = none ∧ report.tag = j.tag ∧ r'.jobs = [] := by
  have htaken : p.taken = none := h.either.resolve_left (by simp [hreport])
  have htags := h.tags
  rw [hjobs, htaken, hreport, Option.toList_none, List.filterMap_nil, List.append_nil] at htags
  obtain ⟨htag, hended⟩ := List.cons_eq_cons.mp (List.singleton_perm.mp htags)
  exact ⟨htaken, htag.symm, List.map_eq_nil_iff.mp hended.symm⟩

/-- While there is a handler, it ends. -/
theorem InOrder.concat_of_busy {start : Replay} (hstart : start.jobs = [] ∧ start.taken = 0)
    (haccounts : Accounts start ps r) (h : InOrder ps r) (hpasses : Passes r p r') {j : Job}
    (hj : j ∈ r.jobs) (hprompt : p.report.isSome) : InOrder (ps ++ [p]) r' := by
  obtain ⟨hjobs, hseq, hnil⟩ := h.last j hj
  obtain ⟨rep, hreport⟩ := Option.isSome_iff_exists.mp hprompt
  obtain ⟨htaken, htag, hended⟩ := hpasses.ended hjobs hreport
  have hrep : ∀ rep ∈ p.report, rep.seq = j.seq := fun rep' hrep' => by
    rw [← Option.some.inj (hreport.symm.trans hrep')]
    exact congrArg Prod.fst htag
  have hdeeds : ∀ e ∈ p.deeds, e.task = j.seq := fun e he => by
    simpa [hjobs] using hpasses.tasks e he
  have hother : ∀ seq, seq ≠ j.seq → linesFor (ps ++ [p]) seq = linesFor ps seq := fun seq hne =>
    linesFor_concat_of_ne (fun rep' hrep' hsame => hne (hsame.symm.trans (hrep rep' hrep')))
      fun e he hsame => hne (hsame.symm.trans (hdeeds e he))
  have hcounted : r'.taken = r.taken := by rw [hpasses.counted, htaken]; rfl
  refine ⟨?_, fun seq hlt => ?_, fun j' hj' => ?_⟩
  · obtain ⟨before, t, hsplit, hlast, hbefore⟩ := haccounts.takens_eq hstart hj
    have hold : (before.flatMap fun t => linesFor (ps ++ [p]) t.seq) =
        before.flatMap fun t => linesFor ps t.seq := List.flatMap_congr fun t' ht' =>
      hother _ (hseq ▸ Nat.ne_of_lt (hbefore t' ht'))
    rw [takens_concat, htaken, Option.toList_none, List.append_nil, hpasses.printed, h.printed,
      hsplit, List.flatMap_append, List.flatMap_append, List.flatMap_singleton,
      List.flatMap_singleton, hold, hlast, ← hseq, hnil, List.append_nil,
      linesFor_concat_of_nil hnil hpasses.recorded hrep hdeeds]
  · rw [hcounted] at hlt
    rw [hother seq (by omega), h.known seq hlt]
  · rw [hended] at hj'
    cases hj'

/-- **If no handler waits, what is printed is in the order of the events.** -/
theorem inOrder_play (hr : r.Tidy) (hstart : r.jobs = [] ∧ r.taken = 0 ∧ r.lines = [])
    {turns : Polls} (hprompt : r.Prompt turns) : InOrder (r.chronicle turns) (r.play turns) := by
  induction turns using List.reverseRecOn with
  | nil =>
    refine ⟨hstart.2.2, fun seq _ => rfl, fun j hj => ?_⟩
    rw [show (r.play []).jobs = r.jobs from rfl, hstart.1] at hj
    cases hj
  | append_singleton turns x ih =>
    have hbefore : r.Prompt turns := fun past y rest hsplit =>
      hprompt past y (rest ++ [x]) (by rw [hsplit, List.append_assoc, List.cons_append])
    have haccounts := accounts_play hr turns
    rw [chronicle_append, play_append]
    have hpasses := passes_turn haccounts.tidy x.1 x.2
    cases hjobs : (r.play turns).jobs with
    | nil => exact (ih hbefore).concat_of_idle hpasses hjobs
    | cons j jobs =>
      have hj : j ∈ (r.play turns).jobs := hjobs ▸ List.mem_cons_self
      exact (ih hbefore).concat_of_busy ⟨hstart.1, hstart.2.1⟩ haccounts hpasses hj
        (hprompt turns x [] rfl (List.ne_nil_of_mem hj))

end InOrder

end ServiceWorker.Replay
