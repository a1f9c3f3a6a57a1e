import QueryGate.Log.Event
import QueryGate.Proofs.Log.Line
import QueryGate.Proofs.Log.Setup
/-! Programs that log. However contexts are nested and wherever errors are caught, each event is written by the handler
that the last call set up, under the id of the innermost context around it. -/

namespace QueryGate

/-! What a script comes to. -/

/-- The events that are logged, each with the id of the innermost context around it, and how the script ends. -/
structure LogCourse where
  events : List (Option String × LogEvent)
  ending : Except Raised Unit

/-- What follows an error is not reached. -/
def LogCourse.andThen : LogCourse → LogCourse → LogCourse
  | ⟨events, .ok ()⟩, next => ⟨events ++ next.events, next.ending⟩
  | ⟨events, .error r⟩, _ => ⟨events, .error r⟩

/-- An event that is to be written needs a record. -/
def LogEvent.course (logs : LogEvent → Bool) (trace : Option String) (e : LogEvent) : LogCourse :=
  match logs e, e.record with
  | true, .error f => ⟨[], .error (.fault f)⟩
  | _, _ => ⟨[(trace, e)], .ok ()⟩

def LogScript.course (logs : LogEvent → Bool) : Option String → LogScript → LogCourse
  | _, .done => ⟨[], .ok ()⟩
  | trace, .event e rest => (e.course logs trace).andThen (rest.course logs trace)
  | trace, .context id inner rest => (inner.course logs (some id)).andThen (rest.course logs trace)
  | trace, .guarded inner rest => LogCourse.andThen ⟨(inner.course logs trace).events, .ok ()⟩ (rest.course logs trace)

/-! What is written. -/

/-- The line of an event. -/
def LogEvent.line (e : LogEvent) (layout : LogLayout) (trace : Option String) : Except Fault String := do
  let r ← e.record
  layout.line (r.stamped trace)

theorem LogEvent.course_of_line {e : LogEvent} {layout : LogLayout} {trace : Option String} {line : String}
    (h : e.line layout trace = .ok line) (logs : LogEvent → Bool) : e.course logs trace = ⟨[(trace, e)], .ok ()⟩ := by
  obtain ⟨r, hr, -⟩ := bind_eq_ok h
  rw [course, hr]
  cases logs e <;> rfl

/-- The lines that the handlers write for an event. -/
def LogSetup.lines (s : LogSetup) (e : Option String × LogEvent) : List String :=
  if s.logs e.2 then s.handlers.filterMap fun layout => (e.2.line layout e.1).toOption else []

/-- A session after some lines have been written. -/
def Session.wrote (s : Session LogSetup) (lines : List String) : Session LogSetup :=
  { s with outside := { s.outside with output := s.outside.output ++ lines } }

theorem wrote_nil (s : Session LogSetup) : s.wrote [] = s := by
  rw [Session.wrote, List.append_nil]

theorem wrote_wrote (s : Session LogSetup) (lines more : List String) : (s.wrote lines).wrote more = s.wrote (lines ++ more) := by
  simp only [Session.wrote, List.append_assoc]

theorem outcome_pure_wrote (s : Session LogSetup) : (pure () : Act LogSetup Unit).outcome s = (.ok (), s.wrote []) := by
  rw [wrote_nil]
  rfl

/-- An act does what a course says. -/
def LogCourse.Describes (c : LogCourse) (s : Session LogSetup) (act : Act LogSetup Unit) : Prop :=
  act.outcome s = (c.ending, s.wrote (c.events.flatMap s.outside.lines))

theorem LogCourse.Describes.andThen {first next : LogCourse} {s : Session LogSetup} {act more : Act LogSetup Unit}
    (hfirst : first.Describes s act) (hnext : ∀ lines, next.Describes (s.wrote lines) more) :
    (first.andThen next).Describes s (do act; more) := by
  unfold Describes at *
  rw [Act.outcome_bind, hfirst]
  obtain ⟨events, r | _⟩ := first
  · rfl
  · dsimp only
    rw [hnext, wrote_wrote]
    exact congrArg (fun lines => (next.ending, s.wrote lines)) List.flatMap_append.symm

theorem outcome_write (r : LogRecord) (layout : LogLayout) (s : Session LogSetup) :
    (layout.write r).outcome s = (.ok (), s.wrote (layout.line (r.stamped s.trace)).toOption.toList) := by
  have hget : (get : Act LogSetup (Session LogSetup)).outcome s = (.ok s, s) := rfl
  rw [LogLayout.write, Act.outcome_bind, hget]
  dsimp only
  cases layout.line (r.stamped s.trace) with
  | ok line => rfl
  | error f => exact outcome_pure_wrote s

theorem foldl_wrote {α : Type} (lines : Option String → α → List String) (xs : List α) (s : Session LogSetup) :
    xs.foldl (fun s x => s.wrote (lines s.trace x)) s = s.wrote (xs.flatMap (lines s.trace)) := by
  induction xs generalizing s with
  | nil => exact (wrote_nil s).symm
  | cons x xs ih =>
    rw [List.foldl_cons, ih, wrote_wrote]
    rfl

theorem outcome_forM_write (r : LogRecord) (layouts : List LogLayout) (s : Session LogSetup) :
    (layouts.forM (·.write r)).outcome s =
      (.ok (), s.wrote (layouts.filterMap fun layout => (layout.line (r.stamped s.trace)).toOption)) := by
  rw [Act.outcome_forM (outcome_write r), List.filterMap_eq_flatMap_toList]
  exact congrArg (Prod.mk _) (foldl_wrote (fun trace layout => (layout.line (r.stamped trace)).toOption.toList) layouts s)

theorem LogEvent.course_describes (e : LogEvent) (s : Session LogSetup) :
    (e.course s.outside.logs s.trace).Describes s e.log := by
  unfold LogCourse.Describes LogEvent.log LogEvent.course
  rw [Act.outcome_bind, Act.outcome_outside]
  dsimp only
  cases hlogs : s.outside.logs e with
  | false =>
    have hlines : s.outside.lines (s.trace, e) = [] := by simp [LogSetup.lines, hlogs]
    rw [if_neg Bool.false_ne_true, List.flatMap_singleton, hlines]
    exact outcome_pure_wrote s
  | true =>
    rw [if_pos rfl, Act.outcome_bind]
    cases hrecord : e.record with
    | error f => exact congrArg (Prod.mk _) (wrote_nil s).symm
    | ok r =>
      have hlines : s.outside.lines (s.trace, e) =
          s.outside.handlers.filterMap fun layout => (layout.line (r.stamped s.trace)).toOption := by
        simp only [LogSetup.lines, hlogs, if_true, LogEvent.line, hrecord]
        rfl
      rw [List.flatMap_singleton, hlines]
      exact outcome_forM_write r s.outside.handlers s

theorem LogScript.course_describes (script : LogScript) (s : Session LogSetup) :
    (script.course s.outside.logs s.trace).Describes s script.run := by
  -- lines that were written before change neither what is logged nor by which handlers, so `ih` fits behind them
  induction script generalizing s with
  | done => exact outcome_pure_wrote s
  | event e rest ih => exact (e.course_describes s).andThen fun lines => ih (s.wrote lines)
  | context id inner rest ihinner ihrest =>
    refine LogCourse.Describes.andThen ?_ fun lines => ihrest (s.wrote lines)
    unfold LogCourse.Describes
    rw [Act.outcome_traced, ihinner (s.under id)]
    rfl
  | guarded inner rest ihinner ihrest =>
    refine LogCourse.Describes.andThen ?_ fun lines => ihrest (s.wrote lines)
    unfold LogCourse.Describes
    rw [Act.outcome_discard, Act.outcome_caught, ihinner s]
    rfl

/-! One event. -/

/-- Neither the logger nor one above it has a severity of its own. -/
def LogSetup.Inherits (s : LogSetup) (logger : String) : Prop :=
  ∀ above ∈ loggerChain logger, s.ownSeverity above = 0

theorem LogSetup.Inherits.thresholdOf {s : LogSetup} {logger : String} (h : s.Inherits logger) :
    s.thresholdOf logger = s.threshold := by
  have hnone : ((loggerChain logger).map s.ownSeverity).find? (· ≠ 0) = none := by
    rw [List.find?_eq_none, List.forall_mem_map]
    intro above habove
    rw [h above habove]
    decide
  rw [LogSetup.thresholdOf, hnone]
  rfl

/-- One handler writes the line of an event once, if the event is grave enough. -/
theorem LogSetup.Inherits.lines {s : LogSetup} {trace : Option String} {e : LogEvent} (h : s.Inherits e.logger)
    {layout : LogLayout} (hhandlers : s.handlers = [layout]) {line : String} (hline : e.line layout trace = .ok line) :
    s.lines (trace, e) = if 0 < e.severity ∧ s.threshold ≤ e.severity then [line] else [] := by
  unfold LogSetup.lines LogSetup.logs
  rw [h.thresholdOf, hhandlers, List.filterMap_cons, hline]
  simp only [Bool.and_eq_true, decide_eq_true_eq]
  rfl

/-- What a line tells about the context around its event. JSON has no member for an empty id. -/
def LogLayout.Tells (layout : LogLayout) (e : LogEvent) (id : Option String) (line : String) : Prop :=
  match layout with
  | .text => ∃ r rest, e.record = .ok r ∧ line = r.timestamp none ++ " - [" ++ id.getD "None" ++ "] - " ++ rest
  | .json => ∃ members : Members Json,
      (∀ limit, 0 < limit → (∀ m ∈ e.further, m.2.depth < limit) → Json.readWithin limit line = .ok (.object members)) ∧
      members.find? "request_id" = (id.filter (!·.isEmpty)).map .string

theorem textLine_tells {r : LogRecord} {id : Option String} {line : String} (h : (r.stamped id).textLine = .ok line) :
    ∃ rest, line = r.timestamp none ++ " - [" ++ id.getD "None" ++ "] - " ++ rest := by
  obtain ⟨message, -, h⟩ := bind_eq_ok h
  obtain ⟨trace, htrace, h⟩ := bind_eq_ok h
  obtain ⟨logger, -, h⟩ := bind_eq_ok h
  obtain ⟨severity, -, h⟩ := bind_eq_ok h
  obtain rfl : trace = id.getD "None" := by
    cases id with
    | none => exact (Except.ok.inj htrace).symm
    | some id => exact (Except.ok.inj htrace).symm
  refine ⟨logger ++ " - " ++ severity ++ " - " ++ message, (Except.ok.inj h).symm.trans ?_⟩
  simp only [String.append_assoc]
  rfl

theorem LogEvent.record_eq_ok {e : LogEvent} {r : LogRecord} (h : e.record = .ok r) :
    (∃ logger, r.logger = .text logger) ∧ r.severity = .text (severityName e.severity) ∧ r.further = e.further := by
  unfold record at h
  split at h
  · cases h
  · obtain rfl := Except.ok.inj h
    exact ⟨⟨_, rfl⟩, rfl, rfl⟩

theorem LogEvent.line_tells {e : LogEvent} {layout : LogLayout} {id : Option String} {line : String}
    (h : e.line layout id = .ok line) : layout.Tells e id line := by
  obtain ⟨r, hr, h⟩ := bind_eq_ok h
  cases layout with
  | text =>
    obtain ⟨rest, hrest⟩ := textLine_tells h
    exact ⟨r, rest, hr, hrest⟩
  | json =>
    obtain ⟨⟨logger, hlogger⟩, hseverity, hfurther⟩ := record_eq_ok hr
    have htrace : (r.stamped id).trace = (id.map Cell.text).getD .null := rfl
    have hname : (r.stamped id).logger = .text logger := hlogger
    obtain ⟨-, message, members, -, -, hread, hfind⟩ := LogRecord.exists_members_of_jsonLine hname htrace h
    have hlevel : (r.stamped id).severity.depth = 0 := congrArg Cell.depth hseverity
    refine ⟨members, fun limit hlimit hdepth => hread limit ?_ ?_, ?_⟩
    · exact hlevel ▸ hlimit
    · exact hfurther ▸ hdepth
    · exact hfind "request_id" (id.filter (!·.isEmpty)) (by decide) (LogRecord.find?_trace htrace message)

/-! Calls, and then a program that logs. -/

theorem unknown_level {name : String} (h : severityNamed? name = none) (layout : LogLayout) (s : Session LogSetup) :
    (configureLogging (.text name) layout).outcome s =
      (.error (.fault ⟨.value, "Unknown level: " ++ literalText name⟩), s) :=
  outcome_configureLogging_of_error s (by rw [Cell.severity, h]) layout

/-- The last call that knows its level decides where the lines go. From then on a program writes an event whose logger
has no severity from itself or from above exactly once if it is grave enough, and not at all otherwise, under the id of
the innermost context around it; and the contexts leave the id as it was. -/
theorem configureAll_spec (s : Session LogSetup) (before : List (Cell × LogLayout)) {later : List (Cell × LogLayout)}
    {level : Cell} {layout : LogLayout} {threshold : Int} (hlevel : level.severity = .ok threshold)
    (hlater : ∀ call ∈ later, ∃ f, call.1.severity = .error f) :
    (∀ name layout t, severityNamed? name = none → (configureLogging (.text name) layout).outcome t =
      (.error (.fault ⟨.value, "Unknown level: " ++ literalText name⟩), t)) ∧
    ∃ t, (configureAll (before ++ (level, layout) :: later)).outcome s = (.ok (), t) ∧
      t.outside.handlers = [layout] ∧ t.outside.threshold = threshold ∧ t.outside.output = s.outside.output ∧
      t.trace = s.trace ∧
      (∀ logger, t.outside.ownSeverity logger = if logger ∈ noisyLoggers then 30 else s.outside.ownSeverity logger) ∧
      (∀ script : LogScript, (script.run.outcome t).2 =
        t.wrote ((script.course t.outside.logs t.trace).events.flatMap t.outside.lines)) ∧
      ∀ trace e line, t.outside.Inherits e.logger → e.line layout trace = .ok line →
        t.outside.lines (trace, e) = (if 0 < e.severity ∧ threshold ≤ e.severity then [line] else []) ∧
        layout.Tells e trace line := by
  have hcall (setup : LogSetup) : setup.after (level, layout) = setup.configured threshold layout := by
    rw [LogSetup.after, hlevel]
  refine ⟨fun name layout t h => unknown_level h layout t, _, outcome_configureAll _ s, ?_⟩
  rw [List.foldl_append, List.foldl_cons, LogSetup.foldl_after_of_error _ hlater, hcall]
  refine ⟨rfl, rfl, s.outside.output_foldl_after before, rfl, fun logger => ?_, fun script => ?_, ?_⟩
  · rw [LogSetup.ownSeverity_configured]
    split
    · rfl
    · next hnoisy => exact s.outside.ownSeverity_foldl_after before hnoisy
  · rw [script.course_describes]
  · exact fun trace e line hinherits hline => ⟨hinherits.lines rfl hline, LogEvent.line_tells hline⟩

theorem configureAll_spec_nested :
    ∃ t line, (configureAll [(.int 50, .text), (.text "INFO", .json), (.text "bogus", .text)]).outcome
        (.start ⟨30, [.text, .text], [], []⟩) = (.ok (), t) ∧ t.outside.handlers = [.json] ∧
      ((LogScript.context "outer" (.context "inner" .done (.event ⟨"bricksql.api", 20, .text "m", [], 0⟩ .done))
        (.event ⟨"bricksql.api", 10, .text "m", [], 0⟩ .done)).run.outcome t).2 = t.wrote [line] ∧
      LogLayout.json.Tells ⟨"bricksql.api", 20, .text "m", [], 0⟩ (some "outer") line := by
  have hlevel : (Cell.text "INFO").severity = .ok 20 := rfl
  have hlater : ∀ call ∈ [(Cell.text "bogus", LogLayout.text)], ∃ f, call.1.severity = .error f :=
    List.forall_mem_singleton.mpr ⟨_, rfl⟩
  obtain ⟨-, t, hcalls, hhandlers, -, -, htrace, hown, hrun, hevent⟩ :=
    configureAll_spec (.start ⟨30, [.text, .text], [], []⟩) [(.int 50, .text)] hlevel hlater
  have hinherits : t.outside.Inherits "bricksql.api" := by
    intro above habove
    have hchain : loggerChain "bricksql.api" = ["bricksql.api", "bricksql"] := by decide
    rw [hchain] at habove
    rw [hown]
    revert above
    decide
  obtain ⟨line, hline⟩ : ∃ line, LogEvent.line ⟨"bricksql.api", 20, .text "m", [], 0⟩ .json (some "outer") = .ok line :=
    ⟨_, rfl⟩
  obtain ⟨quiet, hquiet⟩ : ∃ line, LogEvent.line ⟨"bricksql.api", 10, .text "m", [], 0⟩ .json t.trace = .ok line := by
    rw [htrace]
    exact ⟨_, rfl⟩
  obtain ⟨hlines, htells⟩ := hevent _ _ _ hinherits hline
  obtain ⟨hnone, -⟩ := hevent _ _ _ hinherits hquiet
  refine ⟨t, line, hcalls, hhandlers, ?_, htells⟩
  rw [hrun]
  simp only [LogScript.course, LogEvent.course_of_line hline, LogEvent.course_of_line hquiet, LogCourse.andThen,
    List.nil_append, List.append_nil, List.singleton_append, List.flatMap_cons, List.flatMap_nil, hlines, hnone]
  rfl

/-- Events that the last call's severity would let through, and that nevertheless are not written: below a noisy logger, at
no positive severity, and without a text. And an empty id is not told. -/
theorem written_not_iff_threshold :
    (∃ t e line, (configureAll [(.text "DEBUG", .text)]).outcome (.start .initial) = (.ok (), t) ∧
      e = ⟨"urllib3.pool", 20, .text "m", [], 0⟩ ∧ t.outside.threshold ≤ e.severity ∧ t.outside.ownSeverity e.logger = 0 ∧
      e.line .text none = .ok line ∧ ((LogScript.event e .done).run.outcome t).2 = t) ∧
    (∃ t e line, (configureAll [(.text "NOTSET", .text)]).outcome (.start .initial) = (.ok (), t) ∧
      e = ⟨"log", 0, .text "m", [], 0⟩ ∧ t.outside.threshold ≤ e.severity ∧ t.outside.ownSeverity e.logger = 0 ∧
      e.line .text none = .ok line ∧ ((LogScript.event e .done).run.outcome t).2 = t) ∧
    (∃ t e, (configureAll [(.text "INFO", .text)]).outcome (.start .initial) = (.ok (), t) ∧
      e = ⟨"log", 20, .broken "no text", [], 0⟩ ∧ t.outside.threshold ≤ e.severity ∧ t.outside.ownSeverity e.logger = 0 ∧
      (LogScript.event e .done).run.outcome t = (.ok (), t)) ∧
    ∃ t e line, ∃ members : Members Json, (configureAll [(.text "INFO", .json)]).outcome (.start .initial) = (.ok (), t) ∧
      e = ⟨"log", 20, .text "m", [], 0⟩ ∧ ((LogScript.context "" (.event e .done) .done).run.outcome t).2 = t.wrote [line] ∧
      Json.readWithin 1 line = .ok (.object members) ∧ members.find? "request_id" = none := by
  refine ⟨⟨_, _, _, rfl, rfl, by decide, rfl, rfl, rfl⟩, ⟨_, _, _, rfl, rfl, by decide, rfl, rfl, rfl⟩,
    ⟨_, _, rfl, rfl, by decide, rfl, rfl⟩, ?_⟩
  obtain ⟨line, hline⟩ : ∃ line, LogEvent.line ⟨"log", 20, .text "m", [], 0⟩ .json (some "") = .ok line := ⟨_, rfl⟩
  obtain ⟨members, hread, hfind⟩ := LogEvent.line_tells hline
  let t := ((configureAll [(.text "INFO", .json)]).outcome (.start .initial)).2
  have hinherits : t.outside.Inherits "log" := List.forall_mem_singleton.mpr rfl
  have hlines : t.outside.lines (some "", ⟨"log", 20, .text "m", [], 0⟩) = [line] := hinherits.lines rfl hline
  refine ⟨t, _, line, members, rfl, rfl, ?_, hread 1 Nat.one_pos (List.forall_mem_nil _), hfind⟩
  rw [LogScript.course_describes]
  simp only [LogScript.course, LogEvent.course_of_line hline, LogCourse.andThen, List.append_nil, List.flatMap_singleton, hlines]

end QueryGate
