import QueryGate.Log.Record
import QueryGate.Proofs.Json.Ascii
import QueryGate.Proofs.Session
import QueryGate.Proofs.Value.Depth
/-! A log line in JSON. It is one line of ASCII, and whoever reads it finds the record's message, the name of its logger
and the id of its request. The attributes that a caller adds stand beside these and never in their place. -/

namespace QueryGate

/-- The members that a record has of its own. -/
def LogRecord.ownMembers (r : LogRecord) (pattern : Option String) (message : String) : Members Cell :=
  [("timestamp", .text (r.timestamp pattern)), ("level", r.severity), ("name", r.logger), ("message", .text message)] ++
    ((if r.trace.truthy then [("request_id", r.trace)] else []) ++ (r.fault.map fun f => ("exc_info", .text f.headline)).toList)

/-- The attributes of the caller that a line tells. -/
def LogRecord.shown (r : LogRecord) : Members Cell :=
  r.further.filter (isShownAttribute ·.1)

theorem LogRecord.members_eq_ok {r : LogRecord} {pattern : Option String} {members : Members Cell}
    (h : r.members pattern = .ok members) :
    ∃ message, r.message = .ok message ∧ members = (r.ownMembers pattern message).putAll r.shown := by
  obtain ⟨message, hmessage, h⟩ := bind_eq_ok h
  obtain rfl := Except.ok.inj h
  refine ⟨message, hmessage, ?_⟩
  unfold ownMembers Members.putAll shown
  cases r.fault <;> cases r.trace.truthy <;> rfl

section Own

variable (r : LogRecord) (pattern : Option String) (message : String)

theorem LogRecord.not_mem_shown {name : String} (h : isStandardAttribute name = true) : name ∉ r.shown.map (·.1) := by
  intro hmem
  obtain ⟨m, hm, rfl⟩ := List.mem_map.mp hmem
  have hshown := (List.mem_filter.mp hm).2
  rw [isShownAttribute, h] at hshown
  cases hshown

theorem LogRecord.nodup_ownMembers : ((r.ownMembers pattern message).map (·.1)).Nodup := by
  unfold LogRecord.ownMembers
  cases r.fault <;> cases r.trace.truthy <;> simp

theorem LogRecord.find?_message : (r.ownMembers pattern message).find? "message" = some (.text message) :=
  rfl

theorem LogRecord.find?_name : (r.ownMembers pattern message).find? "name" = some r.logger :=
  rfl

theorem LogRecord.find?_requestId :
    (r.ownMembers pattern message).find? "request_id" = if r.trace.truthy then some r.trace else none := by
  unfold LogRecord.ownMembers
  cases r.fault <;> cases r.trace.truthy <;> rfl

end Own

/-- Members of the caller do not change what the line says under a standard name. -/
theorem LogRecord.find?_members {r : LogRecord} {name : String} (h : isStandardAttribute name = true)
    (own : Members Cell) : (own.putAll r.shown).find? name = own.find? name :=
  Members.find?_putAll_of_not_mem (r.not_mem_shown h)

/-- The entries of a map whose keys are texts. -/
def Members.entries (members : Members Cell) : List (Cell × Cell) :=
  members.map fun m => (.text m.1, m.2)

theorem entriesDepth_lt {members : Members Cell} {limit : Nat} (hlimit : 0 < limit) (h : ∀ m ∈ members, m.2.depth < limit) :
    entriesDepth members.entries < limit := by
  induction members with
  | nil => exact hlimit
  | cons m rest ih =>
    obtain ⟨hm, hrest⟩ := List.forall_mem_cons.mp h
    exact max_lt hm (ih hrest)

theorem forall₂_of_entriesToJson {members : Members Cell} {found : Members Json} (h : entriesToJson members.entries = .ok found) :
    List.Forall₂ (fun m p => m.1 = p.1 ∧ m.2.toJson = .ok p.2) members found := by
  induction members generalizing found with
  | nil => exact Except.ok.inj h ▸ .nil
  | cons m rest ih =>
    obtain ⟨name, hname, h⟩ := bind_eq_ok h
    obtain ⟨first, hfirst, h⟩ := bind_eq_ok h
    obtain ⟨others, hothers, h⟩ := bind_eq_ok h
    obtain rfl := Except.ok.inj h
    exact .cons ⟨Except.ok.inj hname, hfirst⟩ (ih hothers)

/-- A text that stands under a name in a map is read there again. -/
theorem exists_readsAs_members {members : Members Cell} {found : Members Json}
    (h : entriesToJson members.entries = .ok found) (hnames : (members.map (·.1)).Nodup) :
    ∃ reads : Members Json, (Json.object found).ReadsAs (entriesDepth members.entries + 1) (.object reads) ∧
      ∀ (name : String) (text : Option String), members.find? name = text.map .text →
        reads.find? name = text.map .string := by
  obtain ⟨reads, hreads⟩ := exists_readsAs_entries _ h
  have hcells := forall₂_of_entriesToJson h
  have hnodup : (reads.map (·.1)).Nodup := by
    rwa [← Members.names_eq_of_forall₂ (p := Json.ReadsAs _) hreads,
      ← Members.names_eq_of_forall₂ (p := fun (cell : Cell) j => cell.toJson = .ok j) hcells]
  refine ⟨reads, Members.ofList_of_nodup hnodup ▸ .object_of_forall₂ hreads, fun name text hfind => ?_⟩
  have hcell := Members.find?_of_forall₂ (p := fun (cell : Cell) j => cell.toJson = .ok j) hcells name
  have hread := Members.find?_of_forall₂ (p := Json.ReadsAs _) hreads name
  rw [hfind] at hcell
  generalize found.find? name = j, reads.find? name = read at hcell hread ⊢
  cases text with
  | none =>
    cases hcell
    cases hread
    rfl
  | some s =>
    cases hcell with
    | some hj =>
      obtain rfl := Except.ok.inj hj
      cases hread with
      | some hread => exact congrArg some hread.eq_of_string

/-! The line. -/

namespace LogRecord

variable {r : LogRecord} {pattern : Option String} {name line : String} {trace : Option String}

theorem depth_members {message : String} {limit : Nat} (hname : r.logger = .text name)
    (htrace : r.trace = (trace.map Cell.text).getD .null) (hlevel : r.severity.depth < limit)
    (hfurther : ∀ m ∈ r.further, m.2.depth < limit) :
    ∀ m ∈ (r.ownMembers pattern message).putAll r.shown, m.2.depth < limit := by
  have hpos : 0 < limit := Nat.zero_lt_of_lt hlevel
  refine Members.forall_mem_putAll (p := (·.depth < limit)) ?_ fun m hm => hfurther m (List.mem_filter.mp hm).1
  have htrace : r.trace.depth < limit := by
    rw [htrace]
    cases trace <;> exact hpos
  unfold ownMembers
  simp only [List.forall_mem_append, List.forall_mem_cons]
  refine ⟨⟨hpos, hlevel, hname ▸ hpos, hpos, List.forall_mem_nil _⟩, ?_, ?_⟩
  · split
    · exact List.forall_mem_singleton.mpr htrace
    · exact List.forall_mem_nil _
  · cases r.fault with
    | none => exact List.forall_mem_nil _
    | some f => exact List.forall_mem_singleton.mpr hpos

theorem find?_trace (htrace : r.trace = (trace.map Cell.text).getD .null) (message : String) :
    (r.ownMembers pattern message).find? "request_id" = (trace.filter (!·.isEmpty)).map .text := by
  rw [find?_requestId, htrace]
  cases trace with
  | none => rfl
  | some id =>
    change (if (!id.isEmpty) = true then some (Cell.text id) else none) = _
    rw [Option.filter_some]
    split <;> rfl

/-- What is read from a line in JSON. The reader has to read as deep as the values are nested. -/
theorem exists_members_of_jsonLine (hname : r.logger = .text name) (htrace : r.trace = (trace.map Cell.text).getD .null)
    (hline : r.jsonLine pattern = .ok line) :
    ∃ (j : Json) (message : String) (members : Members Json), line = j.spaced ∧ r.message = .ok message ∧
      (∀ limit, r.severity.depth < limit → (∀ m ∈ r.further, m.2.depth < limit) →
        Json.readWithin limit line = .ok (.object members)) ∧
      ∀ (key : String) (text : Option String), isStandardAttribute key = true →
        (r.ownMembers pattern message).find? key = text.map .text → members.find? key = text.map .string := by
  obtain ⟨members, hmembers, hline⟩ := bind_eq_ok hline
  obtain ⟨j, hj, hline⟩ := bind_eq_ok hline
  obtain rfl := Except.ok.inj hline
  obtain ⟨message, hmessage, rfl⟩ := members_eq_ok hmembers
  rw [Cell.toJson] at hj
  obtain ⟨found, hfound, hj⟩ := bind_eq_ok hj
  obtain rfl := Except.ok.inj hj
  obtain ⟨reads, hreads, hfind⟩ := exists_readsAs_members hfound
    (Members.nodup_names_putAll (r.nodup_ownMembers pattern message) r.shown)
  refine ⟨_, message, reads, rfl, hmessage, fun limit hlevel hfurther => ?_, fun key text hstandard hown => ?_⟩
  · have hdepth : ∀ m ∈ (r.ownMembers pattern message).putAll r.shown, m.2.depth < limit :=
      depth_members hname htrace hlevel hfurther
    have hroom := entriesDepth_lt (Nat.zero_lt_of_lt hlevel) hdepth
    exact Json.readWithin_render JsonLayout.isStandard_spaced (hreads.mono hroom)
  · exact hfind key text ((find?_members hstandard _).trans hown)

end LogRecord

end QueryGate
