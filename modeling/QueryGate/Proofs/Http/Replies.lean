import QueryGate.Proofs.Http.Payload
import QueryGate.Proofs.Http.Tracing
import QueryGate.Proofs.Json.Rendered
import QueryGate.Proofs.Service.Outcomes
/-! What a request is told. Each way in which a request can end has one reply, and every reply that is an
error has the same shape: a JSON object with one member, a text on a single line. -/

namespace QueryGate

variable {σ : Type}

/-- A JSON body with one member, which tells what went wrong on a single line. -/
structure HttpReply.Tells (reply : HttpReply) (text : String) : Prop where
  contentType : reply.contentType = some jsonType
  body : Json.read reply.body = .ok (.object [("error", .string text)])
  line : IsSingleLine text

theorem errorReply_tells (status : Nat) {text : String} (h : IsSingleLine text) :
    (errorReply status text).Tells text :=
  ⟨rfl, Json.read_compact_member "error" text, h⟩

/-- The same reply but for the id and for who may read it. -/
structure HttpReply.Says (reply said : HttpReply) : Prop where
  status : reply.status = said.status
  contentType : reply.contentType = said.contentType
  body : reply.body = said.body

theorem HttpReply.Says.tells {reply said : HttpReply} {text : String} (h : reply.Says said)
    (htells : said.Tells text) : reply.Tells text where
  contentType := h.contentType.trans htells.contentType
  body := by rw [h.body, htells.body]
  line := htells.line

def refusal {α : Type} : Except BodyFault α → Option BodyFault
  | .ok _ => none
  | .error fault => some fault

theorem eq_error_of_refusal {α : Type} {payload : Except BodyFault α} {fault : BodyFault}
    (h : refusal payload = some fault) : payload = .error fault := by
  cases payload with
  | ok a => cases h
  | error found =>
    cases h
    rfl

theorem eq_ok_of_refusal {α : Type} {payload : Except BodyFault α} (h : refusal payload = none) :
    ∃ a, payload = .ok a := by
  cases payload with
  | ok a => exact ⟨a, rfl⟩
  | error found => cases h

/-- What is wrong with the payload of a request, for an endpoint that takes one. -/
def HttpRequest.refusal? (r : HttpRequest) : Endpoint → Option BodyFault
  | .query => refusal (r.payload Request.read)
  | .batch => refusal (r.payload readBatchRequest)
  | .health | .resource _ | .page _ => none

theorem HttpRequest.isSingleLine_of_refusal {r : HttpRequest} {endpoint : Endpoint} {fault : BodyFault}
    (h : r.refusal? endpoint = some fault) : IsSingleLine fault.message := by
  cases endpoint with
  | query => exact isSingleLine_of_payload Request.read_tellsLine (eq_error_of_refusal h)
  | batch => exact isSingleLine_of_payload readBatchRequest_tellsLine (eq_error_of_refusal h)
  | _ => cases h

/-- The path and the method of a request are those of an endpoint. -/
structure HttpRequest.Reaches (r : HttpRequest) (endpoint : Endpoint) : Prop where
  path : Endpoint.at? r.path = some endpoint
  method : r.method ∈ endpoint.methods

/-- The ways in which a request can end, each with its reply. -/
inductive Gateway.Ends (g : Gateway σ) (r : HttpRequest) (s : Session σ) : HttpReply → Prop
  | nowhere (hpath : Endpoint.at? r.path = none)
    (hother : r.path = "/" ∨ Endpoint.at? (otherEnding r.path) = none) :
    Ends g r s (errorReply 404 "Invalid endpoint")
  | redirected {endpoint : Endpoint} (hpath : Endpoint.at? r.path = none) (hroot : r.path ≠ "/")
    (hother : Endpoint.at? (otherEnding r.path) = some endpoint) :
    Ends g r s { status := 307, contentType := none, body := "" }
  | wrongMethod {endpoint : Endpoint} (hpath : Endpoint.at? r.path = some endpoint)
    (hmethod : r.method ∉ endpoint.methods) : Ends g r s (errorReply 405 "Method Not Allowed")
  | refused {endpoint : Endpoint} {fault : BodyFault} (hreach : r.Reaches endpoint)
    (hpayload : r.refusal? endpoint = some fault) : Ends g r s (errorReply 400 fault.message)
  | failed {endpoint : Endpoint} {f : Failure} {s' : Session σ} (hreach : r.Reaches endpoint)
    (hpayload : r.refusal? endpoint = none)
    (hserve : (g.serve endpoint r).outcome s = (.error (.failure f), s'))
    (hstatus : f.status = 400 ∨ f.status = 404 ∨ f.status = 500) :
    Ends g r s (errorReply f.status f.safe)
  | crashed {endpoint : Endpoint} {f : Fault} {s' : Session σ} (hreach : r.Reaches endpoint)
    (hpayload : r.refusal? endpoint = none)
    (hserve : (g.serve endpoint r).outcome s = (.error (.fault f), s')) :
    Ends g r s (errorReply 500 "Internal server error")
  | served {endpoint : Endpoint} {reply : HttpReply} {s' : Session σ} (hreach : r.Reaches endpoint)
    (hpayload : r.refusal? endpoint = none)
    (hserve : (g.serve endpoint r).outcome s = (.ok reply, s')) (hstatus : reply.status = 200) :
    Ends g r s reply

theorem Gateway.Ends.tells {g : Gateway σ} {r : HttpRequest} {s : Session σ} {said : HttpReply}
    (h : g.Ends r s said) (herror : 400 ≤ said.status) :
    ∃ text, said = errorReply said.status text ∧ said.Tells text := by
  cases h with
  | nowhere hpath hother => exact ⟨_, rfl, errorReply_tells 404 (isSingleLine_ofList (by decide))⟩
  | redirected hpath hroot hother => exact absurd herror (by decide)
  | wrongMethod hpath hmethod =>
    exact ⟨_, rfl, errorReply_tells 405 (isSingleLine_ofList (by decide))⟩
  | refused hreach hpayload =>
    exact ⟨_, rfl, errorReply_tells 400 (HttpRequest.isSingleLine_of_refusal hpayload)⟩
  | failed hreach hpayload hserve hstatus =>
    exact ⟨_, rfl, errorReply_tells _ (Failure.isSingleLine_safe _)⟩
  | crashed hreach hpayload hserve =>
    exact ⟨_, rfl, errorReply_tells 500 (isSingleLine_ofList (by decide))⟩
  | served hreach hpayload hserve hstatus => omega

/-! Serving an endpoint. -/

namespace Gateway

variable (g : Gateway σ) (r : HttpRequest)

theorem serve_refused {endpoint : Endpoint} {fault : BodyFault} (h : r.refusal? endpoint = some fault) :
    g.serve endpoint r = pure (errorReply 400 fault.message) := by
  cases endpoint with
  | query =>
    rw [serve, eq_error_of_refusal h]
    rfl
  | batch =>
    rw [serve, eq_error_of_refusal h]
    rfl
  | _ => cases h

theorem status_of_serve {endpoint : Endpoint} (h : r.refusal? endpoint = none) {s s' : Session σ}
    {reply : HttpReply} (hserve : (g.serve endpoint r).outcome s = (.ok reply, s')) :
    reply.status = 200 := by
  cases endpoint with
  | query =>
    obtain ⟨request, hpayload⟩ := eq_ok_of_refusal h
    rw [serve, hpayload] at hserve
    obtain ⟨frame, rfl⟩ := Act.eq_of_bind_pure hserve
    rfl
  | batch =>
    obtain ⟨queries, hpayload⟩ := eq_ok_of_refusal h
    rw [serve, hpayload] at hserve
    obtain ⟨results, rfl⟩ := Act.eq_of_bind_pure hserve
    rfl
  | health =>
    obtain ⟨health, rfl⟩ := Act.eq_of_bind_pure hserve
    rfl
  | resource name =>
    unfold serve at hserve
    rw [Act.outcome_bind] at hserve
    split at hserve
    · obtain ⟨body, rfl⟩ := Act.eq_of_bind_pure hserve
      rfl
    · cases hserve
  | page path =>
    cases hserve
    rfl

/-- A batch that is accepted is answered, whatever its queries do. -/
theorem serve_batch_neverRaises : (g.serve .batch r).NeverRaises := by
  cases hp : r.payload readBatchRequest with
  | ok queries =>
    obtain ⟨text, j, htext, hj⟩ := HttpRequest.read_of_payload hp
    have hshown := isShown_of_readBatchRequest (Json.read_isShown htext) hj
    simp only [serve, hp, withPayload]
    exact (serveBatch_neverRaises g.plan g.handle hshown 0 []).bind fun _ => Act.neverRaises_pure _
  | error fault =>
    simp only [serve, hp, withPayload]
    exact Act.neverRaises_pure _

theorem outcome_failuresAnswered (path : String) (act : Act σ HttpReply) (s : Session σ) :
    (failuresAnswered path act).outcome s =
      match act.outcome s with
      | (.ok reply, s') => (.ok reply, s')
      | (.error (.failure f), s') => (.ok (errorReply f.status f.safe), { s' with log := s'.log ++
          [⟨.warning, gatewayLogger, path ++ " failed (" ++ f.code.label ++ "): " ++ f.safe, s'.trace⟩] })
      | (.error (.fault f), s') => (.error (.fault f), s') := by
  rw [failuresAnswered, Act.outcome_bind, Act.outcome_caught]
  rcases act.outcome s with ⟨(f | f) | reply, s'⟩ <;> rfl

/-- A request is answered, or crashes; either way it ends in one of the ways there are. -/
theorem route_ends (s : Session σ) :
    (∃ said s', (g.route r).outcome s = (.ok said, s') ∧ g.Ends r s said) ∨
      ∃ f s', (g.route r).outcome s = (.error (.fault f), s') ∧
        g.Ends r s (errorReply 500 "Internal server error") := by
  unfold route Routing.of
  cases hpath : Endpoint.at? r.path with
  | none =>
    dsimp only
    by_cases hroot : r.path = "/"
    · simp only [hroot, ne_eq, not_true_eq_false, decide_false, Bool.false_and, Bool.false_eq_true, if_false]
      exact .inl ⟨_, s, rfl, .nowhere hpath (.inl hroot)⟩
    · cases hother : Endpoint.at? (otherEnding r.path) with
      | none =>
        simp only [Option.isSome_none, Bool.and_false, Bool.false_eq_true, if_false]
        exact .inl ⟨_, s, rfl, .nowhere hpath (.inr hother)⟩
      | some endpoint =>
        simp only [Option.isSome_some, Bool.and_true, ne_eq, hroot, not_false_eq_true, decide_true, if_true]
        exact .inl ⟨_, s, rfl, .redirected hpath hroot hother⟩
  | some endpoint =>
    dsimp only
    by_cases hmethod : r.method ∈ endpoint.methods
    · rw [if_pos (List.contains_iff_mem.mpr hmethod)]
      dsimp only
      rw [outcome_failuresAnswered]
      cases hpayload : r.refusal? endpoint with
      | some fault =>
        rw [g.serve_refused r hpayload]
        exact .inl ⟨_, s, rfl, .refused ⟨hpath, hmethod⟩ hpayload⟩
      | none =>
        rcases hserve : (g.serve endpoint r).outcome s with ⟨(f | f) | reply, s'⟩
        · exact .inl ⟨_, _, rfl, .failed ⟨hpath, hmethod⟩ hpayload hserve f.code.status_eq⟩
        · exact .inr ⟨f, s', rfl, .crashed ⟨hpath, hmethod⟩ hpayload hserve⟩
        · exact .inl ⟨reply, s', rfl, .served ⟨hpath, hmethod⟩ hpayload hserve
            (g.status_of_serve r hpayload hserve)⟩
    · rw [if_neg (by simpa using hmethod)]
      exact .inl ⟨_, s, rfl, .wrongMethod hpath hmethod⟩

theorem outcome_sharedAcrossOrigins (hmethod : r.method ≠ "OPTIONS") (s : Session σ) :
    (∀ said s', (g.route r).outcome s = (.ok said, s') → ∃ reply,
      (g.sharedAcrossOrigins r).outcome s = (.ok reply, s') ∧ reply.Says said) ∧
    ∀ e s', (g.route r).outcome s = (.error e, s') →
      (g.sharedAcrossOrigins r).outcome s = (.error e, s') := by
  unfold sharedAcrossOrigins
  cases r.header? "origin" with
  | none => exact ⟨fun said s' h => ⟨said, h, rfl, rfl, rfl⟩, fun e s' h => h⟩
  | some origin =>
    dsimp only
    split
    · rename_i hoptions _
      exact absurd hoptions hmethod
    · constructor
      · intro said s' h
        rw [Act.outcome_bind, h]
        exact ⟨{ said with allowOrigin := some origin }, rfl, rfl, rfl, rfl⟩
      · intro e s' h
        rw [Act.outcome_bind, h]

end Gateway

theorem Gateway.Ends.status_of_batch {g : Gateway σ} {r : HttpRequest} {s : Session σ}
    {said : HttpReply} (h : g.Ends r s said) (hbatch : Endpoint.at? r.path = some .batch)
    (hmethod : r.method = "POST") (hpayload : r.refusal? .batch = none) : said.status = 200 := by
  have hserve : ∀ endpoint e s', Endpoint.at? r.path = some endpoint →
      (g.serve endpoint r).outcome s ≠ (.error e, s') := by
    intro endpoint e s' hpath herror
    obtain rfl := Option.some.inj (hbatch.symm.trans hpath)
    obtain ⟨reply, hreply⟩ := g.serve_batch_neverRaises r s
    rw [herror] at hreply
    cases hreply
  cases h with
  | nowhere hpath hother => simp [hbatch] at hpath
  | redirected hpath hroot hother => simp [hbatch] at hpath
  | wrongMethod hpath hwrong =>
    obtain rfl := Option.some.inj (hbatch.symm.trans hpath)
    exact absurd (by rw [hmethod]; exact List.mem_singleton_self _) hwrong
  | refused hreach hrefused =>
    obtain rfl := Option.some.inj (hbatch.symm.trans hreach.path)
    simp [hpayload] at hrefused
  | failed hreach _ herror _ => exact absurd herror (hserve _ _ _ hreach.path)
  | crashed hreach _ herror => exact absurd herror (hserve _ _ _ hreach.path)
  | served _ _ _ hstatus => exact hstatus

end QueryGate
