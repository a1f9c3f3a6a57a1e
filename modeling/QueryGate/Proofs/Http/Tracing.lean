import QueryGate.Http.Gateway
import QueryGate.Proofs.Service.Stamping
/-! Requests under their ids. All that is logged while a request is served carries its id, and so does
the reply, unless the request crashes: that is logged and answered after the id is gone. -/

namespace QueryGate

variable {σ α : Type} {own : LogEntry → Prop}

/-! Serving stamps what it logs. -/

theorem Act.Stamps.failuresAnswered {act : Act σ HttpReply} (h : act.Stamps own) (path : String) :
    (failuresAnswered path act).Stamps own := by
  refine h.caught.bind fun result => ?_
  rcases result with (f | f) | reply
  · exact (Act.stamps_log _ _ _).bind fun _ => Act.stamps_pure _
  · exact Act.stamps_raise _
  · exact Act.stamps_pure reply

theorem withPayload_stamps (payload : Except BodyFault α) {serve : α → Act σ HttpReply}
    (h : ∀ a, (serve a).Stamps own) : (withPayload payload serve).Stamps own := by
  cases payload with
  | ok a => exact h a
  | error fault => exact Act.stamps_pure _

namespace Gateway

variable {g : Gateway σ} (h : g.handle.Stamps own)

include h

theorem serve_stamps (endpoint : Endpoint) (r : HttpRequest) : (g.serve endpoint r).Stamps own := by
  cases endpoint with
  | query =>
    exact withPayload_stamps _ fun request => (h.executeQuery _ _).bind fun _ => Act.stamps_pure _
  | batch =>
    exact withPayload_stamps _ fun queries => (h.serveBatch _ _ _ _).bind fun _ => Act.stamps_pure _
  | health => exact (h.checkHealth _).bind fun _ => Act.stamps_pure _
  | resource name =>
    exact (h.callResource _ _ _ _).bind fun _ => (givenOrFail_stamps _).bind fun _ => Act.stamps_pure _
  | page path => exact Act.stamps_pure _

theorem route_stamps (r : HttpRequest) : (g.route r).Stamps own := by
  unfold route
  cases Routing.of r.method r.path with
  | serve endpoint => exact (serve_stamps h endpoint r).failuresAnswered _
  | wrongMethod => exact Act.stamps_pure _
  | redirect path => exact Act.stamps_pure _
  | nowhere => exact Act.stamps_pure _

theorem sharedAcrossOrigins_stamps (r : HttpRequest) : (g.sharedAcrossOrigins r).Stamps own := by
  unfold sharedAcrossOrigins
  cases r.header? "origin" with
  | none => exact route_stamps h r
  | some origin =>
    dsimp only
    split
    · exact Act.stamps_pure _
    · exact (route_stamps h r).bind fun _ => Act.stamps_pure _

end Gateway

/-! The reply. -/

/-- A reply as it is sent: a request for the head alone gets no body. -/
def HttpRequest.sent (r : HttpRequest) (reply : HttpReply) : HttpReply :=
  if r.method = "HEAD" then { reply with body := "" } else reply

@[simp] theorem HttpRequest.sent_requestId (r : HttpRequest) (reply : HttpReply) :
    (r.sent reply).requestId = reply.requestId := by
  unfold sent
  split <;> rfl

def HttpRequest.crashLine (r : HttpRequest) (e : Raised) (trace : Option String) : LogEntry :=
  ⟨.error, gatewayLogger, "Unhandled error on " ++ r.loggedPath ++ ": " ++ e.message, trace⟩

theorem Gateway.outcome_answer (g : Gateway σ) (fresh : String) (r : HttpRequest) (s : Session σ) :
    (g.answer fresh r).outcome s =
      match (g.sharedAcrossOrigins r).outcome (s.under (r.idOr fresh)) with
      | (.ok reply, s') =>
        (.ok (r.sent { reply with requestId := some (r.idOr fresh) }), { s' with trace := s.trace })
      | (.error e, s') =>
        (.ok (r.sent (errorReply 500 "Internal server error")),
          { s' with trace := s.trace, log := s'.log ++ [r.crashLine e s.trace] }) := by
  unfold answer traced
  simp only [Act.outcome_bind, Act.outcome_caught, Act.outcome_traced]
  rcases (g.sharedAcrossOrigins r).outcome (s.under (r.idOr fresh)) with ⟨e | reply, s'⟩
  · rfl
  · rfl

theorem HttpRequest.idOr_of_header {r : HttpRequest} {id : String}
    (h : r.header? "x-request-id" = some id) (hne : id ≠ "") (fresh : String) : r.idOr fresh = id := by
  unfold idOr
  rw [h]
  exact if_neg (by simpa using hne)

/-- What a request leaves when it is served under an id: its reply and the lines logged for it. -/
inductive Gateway.Leaves (g : Gateway σ) (own : LogEntry → Prop) (s : Session σ) (r : HttpRequest)
    (id : String) : HttpReply → List LogEntry → Prop
  | answered {found reply : HttpReply} {s' : Session σ} {lines : List LogEntry}
    (hfound : (g.sharedAcrossOrigins r).outcome (s.under id) = (.ok found, s'))
    (hid : reply.requestId = some id) (hlines : ∀ line ∈ lines, line.trace = some id ∨ own line) :
    Leaves g own s r id reply lines
  | crashed {e : Raised} {reply : HttpReply} {s' : Session σ} {lines : List LogEntry}
    (hcrash : (g.sharedAcrossOrigins r).outcome (s.under id) = (.error e, s'))
    (hid : reply.requestId = none) (hlines : ∀ line ∈ lines, line.trace = some id ∨ own line) :
    Leaves g own s r id reply (lines ++ [r.crashLine e s.trace])

theorem Gateway.answer_leaves {g : Gateway σ} (h : g.handle.Stamps own) (fresh : String)
    (r : HttpRequest) (s : Session σ) : ∃ reply lines after,
      (g.answer fresh r).outcome s = (.ok reply, after) ∧ after.trace = s.trace ∧
      after.log = s.log ++ lines ∧ g.Leaves own s r (r.idOr fresh) reply lines := by
  have hextends := sharedAcrossOrigins_stamps h r (s.under (r.idOr fresh))
  rw [outcome_answer]
  rcases hrun : (g.sharedAcrossOrigins r).outcome (s.under (r.idOr fresh)) with ⟨e | found, s'⟩
  · rw [hrun] at hextends
    obtain ⟨-, lines, hlog, hlines⟩ := hextends
    refine ⟨_, lines ++ [r.crashLine e s.trace], _, rfl, rfl, ?_,
      .crashed hrun (by rw [HttpRequest.sent_requestId]; rfl) hlines⟩
    rw [← List.append_assoc]
    exact congrArg (· ++ [r.crashLine e s.trace]) hlog
  · rw [hrun] at hextends
    obtain ⟨-, lines, hlog, hlines⟩ := hextends
    exact ⟨_, lines, _, rfl, rfl, hlog, .answered hrun (by rw [HttpRequest.sent_requestId]) hlines⟩

/-- Requests served in turn, with their replies and the lines logged for them. -/
inductive Gateway.Serves (g : Gateway σ) (own : LogEntry → Prop) (fresh : String) :
    Session σ → List HttpRequest → List HttpReply → List LogEntry → Session σ → Prop
  | nil (s : Session σ) : Serves g own fresh s [] [] [] s
  | cons {s s₁ s₂ : Session σ} {r : HttpRequest} {rest : List HttpRequest} {reply : HttpReply}
    {replies : List HttpReply} {lines more : List LogEntry}
    (hanswer : (g.answer fresh r).outcome s = (.ok reply, s₁)) (htrace : s₁.trace = s.trace)
    (hleaves : g.Leaves own s r (r.idOr fresh) reply lines)
    (hrest : Serves g own fresh s₁ rest replies more s₂) :
    Serves g own fresh s (r :: rest) (reply :: replies) (lines ++ more) s₂

theorem Gateway.serves_mapM {g : Gateway σ} (h : g.handle.Stamps own) (fresh : String)
    (requests : List HttpRequest) (s : Session σ) : ∃ replies lines after,
      (requests.mapM (g.answer fresh)).outcome s = (.ok replies, after) ∧ after.trace = s.trace ∧
      after.log = s.log ++ lines ∧ g.Serves own fresh s requests replies lines after := by
  induction requests generalizing s with
  | nil => exact ⟨[], [], s, rfl, rfl, by rw [List.append_nil], .nil s⟩
  | cons r rest ih =>
    obtain ⟨reply, lines, s₁, hanswer, htrace, hlog, hleaves⟩ := answer_leaves h fresh r s
    obtain ⟨replies, more, s₂, hrest, htrace', hlog', hserves⟩ := ih s₁
    refine ⟨reply :: replies, lines ++ more, s₂, ?_, htrace'.trans htrace, ?_,
      .cons hanswer htrace hleaves hserves⟩
    · rw [List.mapM_cons, Act.outcome_bind, hanswer]
      dsimp only
      rw [Act.outcome_bind, hrest]
      rfl
    · rw [hlog', hlog, List.append_assoc]

/-- Over a handle that stamps its lines, every request of a run is answered; each line carries the id of
the request that it was logged for, and so does the reply, but for the crash of a request: its last line
carries the id from before, and its reply none. -/
theorem requests_traced {g : Gateway σ} (h : g.handle.Stamps own) (fresh : String)
    (requests : List HttpRequest) (s : Session σ) :
    (∀ r ∈ requests, ∀ id, r.header? "x-request-id" = some id → id ≠ "" → r.idOr fresh = id) ∧
    ∃ replies lines after, (requests.mapM (g.answer fresh)).outcome s = (.ok replies, after) ∧
      after.trace = s.trace ∧ after.log = s.log ++ lines ∧
      g.Serves own fresh s requests replies lines after := by
  constructor
  · intro r _ id hid hne
    exact HttpRequest.idOr_of_header hid hne fresh
  · exact g.serves_mapM h fresh requests s

theorem Rehearsal.handle_stamps (rehearsal : Rehearsal) : rehearsal.handle.Stamps own where
  execute text timeout := Act.stamps_outside.bind fun _ => (Act.stamps_change _).bind fun _ =>
    (Act.stamps_given _).bind fun _ => Act.stamps_step _
  cursor text timeout s cursor s' hc := by
    simp only [handle, Act.outcome_bind, Act.outcome_outside, Act.outcome_change] at hc
    cases ha : rehearsal.answer s.outside.executed.length text with
    | error r => simp [ha] at hc
    | ok script =>
      simp only [ha, Act.outcome_given, openRehearsed, Act.outcome_step, Prod.mk.injEq,
        Except.ok.injEq] at hc
      obtain ⟨rfl, -⟩ := hc
      exact ⟨(Act.stamps_change _).bind fun _ => Act.stamps_given _, Act.stamps_change _⟩
  ping timeout := Act.stamps_outside.bind fun _ => (Act.stamps_change _).bind fun _ =>
    Act.stamps_given _
  dispose := Act.stamps_change _

theorem requests_traced_refused :
    let g : Gateway Record := ⟨⟨"main", 10, .whole 60, "NULL", defaultDenied⟩,
      Rehearsal.handle ⟨fun _ _ => .ok .empty, fun _ => failure .remote "no answer"⟩⟩
    let r : HttpRequest := ⟨"GET", "/api/v1/health", [], [("X-Request-ID", "r1")], ""⟩
    g.handle.Stamps (fun _ => False) ∧ r.header? "x-request-id" = some "r1" ∧ r.idOr "fresh" = "r1" ∧
      ∃ replies lines after, ([r, r].mapM (g.answer "fresh")).outcome (.start .empty) = (.ok replies, after) ∧
        g.Serves (fun _ => False) "fresh" (.start .empty) [r, r] replies lines after := by
  intro g r
  have hstamps : g.handle.Stamps (fun _ => False) := Rehearsal.handle_stamps _
  have hheader : r.header? "x-request-id" = some "r1" := by decide +kernel
  obtain ⟨hid, replies, lines, after, hrun, -, -, hserves⟩ :=
    requests_traced hstamps "fresh" [r, r] (.start .empty)
  exact ⟨hstamps, hheader, hid r List.mem_cons_self "r1" hheader (by decide), replies, lines, after, hrun,
    hserves⟩

/-- A crash: neither the reply nor the line about it carries the id of the request. -/
theorem answer_crash_untraced :
    let g : Gateway Record := ⟨⟨"main", 10, .whole 60, "NULL", defaultDenied⟩,
      Rehearsal.handle ⟨fun _ _ => .ok .empty, fun _ => fault .runtime "boom"⟩⟩
    let r : HttpRequest := ⟨"GET", "/api/v1/health", [], [("X-Request-ID", "r1")], ""⟩
    let run := (g.answer "fresh" r).outcome (.start .empty)
    r.header? "x-request-id" = some "r1" ∧
      run.1.toOption.map (fun reply => (reply.status, reply.requestId)) = some (500, none) ∧
      run.2.log = [⟨.error, "api", "Unhandled error on /api/v1/health: boom", none⟩] := by
  intro g r run
  refine ⟨?_, ?_, ?_⟩
  · decide +kernel
  · decide +kernel
  · decide +kernel

end QueryGate
