import ServiceWorker.Proofs.Replay.Ending
import ServiceWorker.Proofs.Script.Lines

/-!
# What a script prints

The output of a script tells everything that happens while it is replayed, however long its handlers
take: each handler once with what it came to, and each thing done to the platform once. Nothing is
left when the replay is over, and if no handler waits the output is one event after another.

## Main definitions

* `Script.Event.kind`: the kind of an event of a script
* `Replay.Taken.isPassedOver`: no handler is begun for an event
* `Replay.ofText`: a text that is replayed as a script
* `Replay.Told`, `Replay.Faithful`: what the output of a script tells

## Main results

* `Replay.eventFor_cases`: for which events handlers are begun
* `Replay.output_faithful`: the output of every script is faithful
-/

namespace ServiceWorker

open Platform (Effect)

/-! ## Which events have handlers -/

/-- The name of the kind of an event of a script. -/
def Script.Event.kind : Script.Event → String
  | install => "install"
  | activate => "activate"
  | fetch _ => "fetch"
  | push _ _ => "push"
  | click _ => "notificationclick"
  | message _ => "message"
  | openClient _ => "open_client"

/-- A line without an event: it is blank, a comment, or cannot be read. -/
def Script.Eventless (line : String) : Prop :=
  Text.trim line.toList = [] ∨ (∃ rest, Text.trim line.toList = '#' :: rest) ∨
    ∃ e, Script.parseLine line.toList = some (.error e)

namespace Replay

/-- The number and the kind of the event that has been taken. -/
def Taken.label (t : Taken) : Nat × String :=
  (t.seq, t.event.kind)

/-- The number and the kind of the event of a handler. -/
def Job.label (j : Job) : Nat × String :=
  (j.seq, j.event.kind)

/-- The number and the kind of the event that are printed in a report. -/
def Report.label (r : Report) : Nat × String :=
  (r.seq, r.event.kind)

/-- Whether no handler is begun for an event: a window is opened without the worker, or no
notification with the tag of a click was shown when it was taken. -/
def Taken.isPassedOver (t : Taken) : Bool :=
  match t.event with
  | .openClient _ => true
  | .click tag => !t.platform.notifications.any (·.options.tag = tag)
  | _ => false

/-- A handler is begun for each event that is not passed over, of the same kind. -/
theorem eventFor_cases (t : Taken) :
    (t.isPassedOver = true ∧ t.job? = none) ∨
      t.isPassedOver = false ∧ ∃ event : Event, t.job? = some (t.seq, event) ∧
        event.kind = t.event.kind := by
  obtain ⟨seq, event, p⟩ := t
  cases event with
  | openClient url => exact .inl ⟨rfl, rfl⟩
  | click tag =>
    cases hfind : p.notificationTagged tag with
    | none =>
      refine .inl ⟨?_, by simp [Taken.job?, eventFor, hfind]⟩
      simpa [Taken.isPassedOver, Platform.notificationTagged] using hfind
    | some n =>
      refine .inr ⟨?_, .click n, by simp [Taken.job?, eventFor, hfind], rfl⟩
      have hmem := List.mem_of_find?_eq_some hfind
      have htag := List.find?_some hfind
      simpa [Taken.isPassedOver] using ⟨n, hmem, by simpa using htag⟩
  | _ => exact .inr ⟨rfl, _, rfl, rfl⟩

theorem label_job? (ts : List Taken) :
    (ts.filterMap Taken.job?).map (fun x => (x.1, x.2.kind)) =
      (ts.filter (!·.isPassedOver)).map Taken.label := by
  induction ts with
  | nil => rfl
  | cons t ts ih =>
    rcases eventFor_cases t with ⟨hpassed, hnone⟩ | ⟨hpassed, event, hsome, hkind⟩
    · rw [List.filterMap_cons_none hnone, List.filter_cons_of_neg (by simp [hpassed]), ih]
    · rw [List.filterMap_cons_some hsome, List.filter_cons_of_pos (by simp [hpassed]),
        List.map_cons, List.map_cons, ih, Taken.label, hkind]

/-! ## What has been printed -/

/-- The report on a line. -/
def Line.report? : Line → Option Report
  | report r => some r
  | effect _ => none

/-- The effect on a line. -/
def Line.effect? : Line → Option Effect
  | report _ => none
  | effect e => some e

theorem filterMap_report (ps : List Passage) :
    (ps.flatMap Passage.lines).filterMap Line.report? = reports ps := by
  induction ps with
  | nil => rfl
  | cons p ps ih =>
    have hlines : p.lines.filterMap Line.report? = p.report.toList := by
      cases h : p.report <;> simp [Passage.lines, h, Line.report?, Function.comp_def]
    rw [List.flatMap_cons, List.filterMap_append, ih, hlines, reports_cons]

theorem filterMap_effect (ps : List Passage) :
    (ps.flatMap Passage.lines).filterMap Line.effect? = ps.flatMap Passage.effects := by
  induction ps with
  | nil => rfl
  | cons p ps ih =>
    have hlines : p.lines.filterMap Line.effect? = p.effects := by
      cases h : p.report <;>
        simp [Passage.lines, h, Line.effect?, List.filterMap_cons, Function.comp_def]
    rw [List.flatMap_cons, List.filterMap_append, ih, hlines, List.flatMap_cons]

/-- Nothing happens any more in a replay that is over. -/
theorem Tidy.turn_of_over {r : Replay} (h : r.Tidy) (hover : r.isOver) (env : Surroundings)
    (polls : List (Nat × Ticket)) : r.turn env polls = r := by
  obtain ⟨hpending, hjobs⟩ : r.pending = [] ∧ r.jobs = [] := by simpa [isOver] using hover
  have hpoll : ∀ polls : List (Nat × Ticket), poll env polls r = (none, r) := by
    intro polls
    induction polls with
    | nil => rfl
    | cons x polls ih => simpa [poll, hjobs] using ih
  have hpolls : pollAll env polls r = (none, r) := by
    rw [pollAll, hpoll]
    exact hpoll _
  have htake : r.take = r := by rw [take, hpending]
  have hdrain : r.world.platform.drain = ([], r.world.platform) := by
    rw [Platform.drain, h.drained, ← h.drained]
  rw [turn, hpolls]
  dsimp only
  rw [htake, drain, hdrain]
  exact congrArg (fun lines => { r with lines }) (List.append_nil r.lines)

/-! ## The output of a script -/

/-- A text that is replayed as a script. -/
def ofText (worker : Worker) (store : Cache.Store) (text : String) : Replay :=
  start worker store (Script.events (Text.utf8 text))

/-- What has been printed tells what has happened. The events of the lines of the text are taken in
their order and numbered from 1. Each of them that is not passed over has a report with its number
and its kind, once its handler has ended. Everything on the record of the platform is printed after
the report of its turn, and nothing is left on it. Once the replay is over, nothing else happens. -/
structure Told (text : String) (ps : List Passage) (r : Replay) : Prop where
  events : (Text.lines text).filterMap Script.eventOf = (takens ps).map Taken.event ++ r.pending
  numbers : (takens ps).map Taken.seq = List.range' 1 (takens ps).length
  handled : (((takens ps).filter (!·.isPassedOver)).map Taken.label).Perm
    ((reports ps).map Report.label ++ r.jobs.map Job.label)
  lines : r.lines = ps.flatMap Passage.lines
  reported : r.lines.filterMap Line.report? = reports ps
  effects : r.lines.filterMap Line.effect? = ps.flatMap Passage.effects
  recorded : ps.flatMap Passage.effects = (deeds ps).flatMap Entry.effects
  drained : r.world.platform.effects = []
  finished : r.isOver → r.pending = [] ∧ r.jobs = [] ∧ ∀ env polls, r.turn env polls = r

/-- The output of a script is faithful: after any turns, it tells what has happened. If no handler
waits, it is one event after another, the report of each followed by what its handler has recorded.
A line has no event just if it is blank, a comment, or cannot be read, and such lines make no
difference, wherever they are inserted. If every handler goes on until it ends, no handler waits,
and the replay comes to its end. -/
structure Faithful (worker : Worker) (store : Cache.Store) (text : String) : Prop where
  told : ∀ turns, Told text ((ofText worker store text).chronicle turns)
    ((ofText worker store text).play turns)
  inOrder : ∀ turns, (ofText worker store text).Prompt turns →
    ((ofText worker store text).play turns).lines =
      (takens ((ofText worker store text).chronicle turns)).flatMap fun t =>
        linesFor ((ofText worker store text).chronicle turns) t.seq
  eventless : ∀ line, Script.eventOf line = none ↔ Script.Eventless line
  inserted : ∀ above line below, Text.lines text = above ++ below → '\n' ∉ line.toList →
    Script.Eventless line →
      ofText worker store ("\n".intercalate (above ++ line :: below)) = ofText worker store text
  ends : ∀ env, ∃ turns,
    (ofText worker store text).run env = (ofText worker store text).play turns ∧
      (ofText worker store text).Prompt turns ∧ ((ofText worker store text).run env).isOver

theorem told_play (worker : Worker) (store : Cache.Store) (text : String) (turns : Polls) :
    Told text ((ofText worker store text).chronicle turns)
      ((ofText worker store text).play turns) := by
  have h := accounts_play (tidy_start worker store (Script.events (Text.utf8 text))) turns
  have hlines := h.printed
  rw [show (start worker store _).lines = [] from rfl, List.nil_append] at hlines
  refine ⟨?_, h.numbers, ?_, hlines, ?_, ?_, h.recorded, h.tidy.drained, fun hover => ?_⟩
  · rw [← Script.events_utf8]
    exact h.pending
  · have htags := h.tags.map fun x => (x.1, x.2.kind)
    rw [show (start worker store _).jobs = [] from rfl, List.map_nil, List.nil_append,
      label_job?, List.map_append, List.map_map, List.map_map] at htags
    exact htags
  · rw [ofText, hlines, filterMap_report]
  · rw [ofText, hlines, filterMap_effect]
  · have hover' := hover
    simp only [isOver, Bool.and_eq_true, List.isEmpty_iff] at hover'
    exact ⟨hover'.1, hover'.2, h.tidy.turn_of_over hover⟩

/-- **The output of every script is faithful**, whatever the store holds when it begins. -/
theorem output_faithful (worker : Worker) (store : Cache.Store) (text : String) :
    Faithful worker store text where
  told := told_play worker store text
  inOrder turns hprompt :=
    (inOrder_play (tidy_start worker store _) ⟨rfl, rfl, rfl⟩ hprompt).printed
  eventless _ := Script.eventOf_eq_none_iff
  inserted above line below hlines hline heventless := by
    have hnone : Script.eventOf line = none := Script.eventOf_eq_none_iff.mpr heventless
    have hbreaks : ∀ l ∈ above ++ line :: below, '\n' ∉ l.toList := by
      intro l hl
      rcases List.mem_append.mp hl with hl | hl
      · exact Script.lineEnd_not_mem_lines (hlines ▸ List.mem_append_left _ hl)
      · rcases List.mem_cons.mp hl with rfl | hl
        · exact hline
        · exact Script.lineEnd_not_mem_lines (hlines ▸ List.mem_append_right _ hl)
    rw [ofText, Script.events_insert hbreaks hnone, ← hlines, Script.intercalate_lines, ofText]
  ends env := run_ends worker store _ env

end Replay

end ServiceWorker
