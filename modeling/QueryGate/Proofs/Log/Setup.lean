import QueryGate.Log.Setup
import QueryGate.Proofs.Json.Members
import QueryGate.Proofs.Session
/-! Setting up the log, any number of times. A call that knows its level leaves one handler, its own, and a call that
does not know it leaves everything as it was. -/

namespace QueryGate

/-! One call. -/

section Call

variable {level : Cell} (s : Session LogSetup)

theorem outcome_setThreshold_of_ok {threshold : Int} (h : level.severity = .ok threshold) :
    (setThreshold level).outcome s = (.ok (), { s with outside := { s.outside with threshold } }) := by
  rw [setThreshold, h]
  rfl

theorem outcome_setThreshold_of_error {f : Fault} (h : level.severity = .error f) :
    (setThreshold level).outcome s = (.error (.fault f), s) := by
  rw [setThreshold, h]
  rfl

theorem foldl_erase_handlers (o : LogSetup) :
    o.handlers.foldl (fun o layout => { o with handlers := o.handlers.erase layout }) o = { o with handlers := [] } := by
  generalize hhandlers : o.handlers = handlers
  induction handlers generalizing o with
  | nil => exact congrArg (fun handlers => { o with handlers }) hhandlers
  | cons layout handlers ih =>
    have herase : o.handlers.erase layout = handlers := by rw [hhandlers, List.erase_cons_head]
    rw [List.foldl_cons, herase, ih _ rfl]

/-- Each handler that was there when the removal began is removed. -/
theorem outcome_removeHandlers :
    (s.outside.handlers.forM removeHandler).outcome s = (.ok (), { s with outside := { s.outside with handlers := [] } }) := by
  have hstep (layout : LogLayout) (s : Session LogSetup) : (removeHandler layout).outcome s =
    (.ok (), { s with outside := { s.outside with handlers := s.outside.handlers.erase layout } }) := rfl
  exact (Act.outcome_forM_outside hstep _ s).trans (by rw [foldl_erase_handlers])

theorem foldl_put_own (o : LogSetup) (severity : Int) (loggers : List String) :
    loggers.foldl (fun o logger => { o with own := o.own.put logger severity }) o =
      { o with own := o.own.putAll (loggers.map (·, severity)) } := by
  induction loggers generalizing o with
  | nil => rfl
  | cons logger loggers ih => exact ih { o with own := o.own.put logger severity }

theorem outcome_setOwnSeverities (severity : Int) (loggers : List String) :
    (loggers.forM (setOwnSeverity severity)).outcome s =
      (.ok (), { s with outside := { s.outside with own := s.outside.own.putAll (loggers.map (·, severity)) } }) := by
  have hstep (logger : String) (s : Session LogSetup) : (setOwnSeverity severity logger).outcome s =
    (.ok (), { s with outside := { s.outside with own := s.outside.own.put logger severity } }) := rfl
  exact (Act.outcome_forM_outside hstep _ s).trans (by rw [foldl_put_own])

/-- A log that was set up. -/
def LogSetup.configured (s : LogSetup) (threshold : Int) (layout : LogLayout) : LogSetup :=
  { s with threshold, handlers := [layout], own := s.own.putAll (noisyLoggers.map (·, 30)) }

theorem outcome_configureLogging_of_error {f : Fault} (h : level.severity = .error f) (layout : LogLayout) :
    (configureLogging level layout).outcome s = (.error (.fault f), s) := by
  rw [configureLogging, Act.outcome_bind, outcome_setThreshold_of_error s h]

theorem outcome_configureLogging_of_ok {threshold : Int} (h : level.severity = .ok threshold) (layout : LogLayout) :
    (configureLogging level layout).outcome s = (.ok (), { s with outside := s.outside.configured threshold layout }) := by
  have hremoved := outcome_removeHandlers { s with outside := { s.outside with threshold } }
  simp only [configureLogging, Act.outcome_bind, outcome_setThreshold_of_ok s h, Act.outcome_outside]
  simp only [hremoved, addHandler, Act.outcome_change, outcome_setOwnSeverities]
  rfl

end Call

/-! Many calls. -/

/-- Calls one after the other. Whoever calls goes on after an error. -/
def configureAll (calls : List (Cell × LogLayout)) : Act LogSetup Unit :=
  calls.forM fun call => discard (Act.caught (configureLogging call.1 call.2))

namespace LogSetup

/-- What a call makes of the setup. -/
def after (s : LogSetup) (call : Cell × LogLayout) : LogSetup :=
  match call.1.severity with
  | .ok threshold => s.configured threshold call.2
  | .error _ => s

theorem ownSeverity_configured (s : LogSetup) (threshold : Int) (layout : LogLayout) (logger : String) :
    (s.configured threshold layout).ownSeverity logger = if logger ∈ noisyLoggers then 30 else s.ownSeverity logger := by
  unfold configured ownSeverity noisyLoggers
  simp only [List.map_cons, List.map_nil, Members.putAll, List.foldl_cons, List.foldl_nil, Members.find?_put]
  grind

/-- Calls change no severity of a logger that is not noisy. -/
theorem ownSeverity_after (s : LogSetup) (call : Cell × LogLayout) {logger : String} (h : logger ∉ noisyLoggers) :
    (s.after call).ownSeverity logger = s.ownSeverity logger := by
  unfold after
  cases call.1.severity with
  | ok threshold => exact (s.ownSeverity_configured threshold call.2 logger).trans (if_neg h)
  | error f => rfl

theorem ownSeverity_foldl_after (s : LogSetup) (calls : List (Cell × LogLayout)) {logger : String} (h : logger ∉ noisyLoggers) :
    (calls.foldl after s).ownSeverity logger = s.ownSeverity logger := by
  induction calls generalizing s with
  | nil => rfl
  | cons call calls ih => exact (ih (s.after call)).trans (s.ownSeverity_after call h)

theorem output_foldl_after (s : LogSetup) (calls : List (Cell × LogLayout)) : (calls.foldl after s).output = s.output := by
  have hcall : ∀ (s : LogSetup) (call : Cell × LogLayout), (s.after call).output = s.output := by
    intro s call
    unfold after
    cases call.1.severity <;> rfl
  induction calls generalizing s with
  | nil => rfl
  | cons call calls ih => exact (ih (s.after call)).trans (hcall s call)

theorem foldl_after_of_error (s : LogSetup) {calls : List (Cell × LogLayout)}
    (h : ∀ call ∈ calls, ∃ f, call.1.severity = .error f) : calls.foldl after s = s := by
  induction calls generalizing s with
  | nil => rfl
  | cons call calls ih =>
    obtain ⟨⟨f, hf⟩, hrest⟩ := List.forall_mem_cons.mp h
    have hcall : s.after call = s := by rw [after, hf]
    rw [List.foldl_cons, hcall, ih s hrest]

end LogSetup

theorem outcome_configureAll (calls : List (Cell × LogLayout)) (s : Session LogSetup) :
    (configureAll calls).outcome s = (.ok (), { s with outside := calls.foldl LogSetup.after s.outside }) := by
  refine Act.outcome_forM_outside (fun call s => ?_) calls s
  rw [Act.outcome_discard, Act.outcome_caught, LogSetup.after]
  cases hlevel : call.1.severity with
  | ok threshold =>
    rw [outcome_configureLogging_of_ok s hlevel]
    rfl
  | error f =>
    rw [outcome_configureLogging_of_error s hlevel]
    rfl

end QueryGate
