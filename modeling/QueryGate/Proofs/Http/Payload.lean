import QueryGate.Http.Gateway
import QueryGate.Proofs.Json.Written
import QueryGate.Proofs.Text.Spacing
/-! Payloads that are refused. Whatever stands in a payload, the first thing that is wrong with it is told
on a single line; and the queries of a payload that is accepted are objects whose references can be written. -/

namespace QueryGate

variable {α β : Type}

/-- The first issue, if there is one, is told on a single line. -/
def Checked.TellsLine (c : Checked α) : Prop :=
  ∀ i more, c = .wrong i more → IsSingleLine i.kind.requestText

namespace Checked

theorem tellsLine_ok (a : α) : (Checked.ok a).TellsLine :=
  nofun

theorem tellsLine_issue {kind : IssueKind} (h : IsSingleLine kind.requestText) :
    (issue kind : Checked α).TellsLine := by
  rintro i more ⟨⟩
  exact h

theorem TellsLine.map {c : Checked α} (h : c.TellsLine) (f : α → β) : (f <$> c).TellsLine := by
  rintro i more heq
  cases c with
  | ok a => cases heq
  | wrong j js =>
    cases heq
    exact h i more rfl

theorem TellsLine.seq {f : Checked (α → β)} {a : Checked α} (hf : f.TellsLine) (ha : a.TellsLine) :
    (f <*> a).TellsLine := by
  rintro i more heq
  cases f with
  | ok f =>
    cases a with
    | ok a => cases heq
    | wrong j js =>
      cases heq
      exact ha i more rfl
  | wrong j js =>
    cases a with
    | ok a =>
      cases heq
      exact hf i more rfl
    | wrong k ks =>
      cases heq
      exact hf i js rfl

theorem TellsLine.andThen {c : Checked α} {f : α → Checked β} (h : c.TellsLine)
    (hf : ∀ a, (f a).TellsLine) : (c.andThen f).TellsLine := by
  cases c with
  | ok a => exact hf a
  | wrong j js =>
    intro i more heq
    cases heq
    exact h j js rfl

theorem TellsLine.under {c : Checked α} (h : c.TellsLine) (name : String) :
    (c.under name).TellsLine := by
  rintro i more heq
  cases c with
  | ok a => cases heq
  | wrong j js =>
    cases heq
    exact h j js rfl

theorem tellsLine_each {read : β → Checked α} (h : ∀ b, (read b).TellsLine) (index : Nat)
    (items : List β) : (each read index items).TellsLine := by
  induction items generalizing index with
  | nil => exact tellsLine_ok []
  | cons item rest ih => exact (((h item).under _).map _).seq (ih _)

end Checked

open Checked

theorem fieldOr_tellsLine {read : Json → Checked α} (h : ∀ j, (read j).TellsLine)
    (members : Members Json) (names : List String) (default : α) :
    (fieldOr members names default read).TellsLine := by
  unfold fieldOr
  split
  · exact (h _).under _
  · exact tellsLine_ok default

theorem readOptional_tellsLine {read : Json → Checked α} (h : ∀ j, (read j).TellsLine) (j : Json) :
    (readOptional read j).TellsLine := by
  cases j with
  | null => exact tellsLine_ok none
  | _ => exact (h _).map some

theorem readList_tellsLine {read : Json → Checked α} (h : ∀ j, (read j).TellsLine) (j : Json) :
    (readList read j).TellsLine := by
  cases j with
  | array items => exact tellsLine_each h 0 items
  | _ => exact tellsLine_issue (isSingleLine_ofList (by decide))

theorem readRecord_tellsLine (name : String) (j : Json) : (readRecord name j).TellsLine := by
  have hline : IsSingleLine (IssueKind.notRecord name).requestText :=
    isSingleLine_ofList (by decide)
  cases j with
  | object members => exact tellsLine_ok members
  | _ => exact tellsLine_issue hline

theorem readObject_tellsLine (j : Json) : (readObject j).TellsLine := by
  cases j with
  | object members => exact tellsLine_ok members
  | _ => exact tellsLine_issue (isSingleLine_ofList (by decide))

theorem readText_tellsLine (j : Json) : (readText j).TellsLine := by
  cases j with
  | string s => exact tellsLine_ok s
  | _ => exact tellsLine_issue (isSingleLine_ofList (by decide))

theorem integerOfFloat_tellsLine (x : Float) : (integerOfFloat x).TellsLine := by
  unfold integerOfFloat
  split
  · exact tellsLine_issue (isSingleLine_ofList (by decide))
  · exact tellsLine_issue (isSingleLine_ofList (by decide))
  · exact tellsLine_ok 0
  · dsimp only
    split
    · exact tellsLine_issue (isSingleLine_ofList (by decide))
    · split
      · exact tellsLine_issue (isSingleLine_ofList (by decide))
      · exact tellsLine_ok _

theorem readIntegerText_tellsLine (s : String) : (readIntegerText s).TellsLine := by
  unfold readIntegerText
  dsimp only
  split
  · exact tellsLine_issue (isSingleLine_ofList (by decide))
  · split
    · exact tellsLine_ok _
    · exact tellsLine_issue (isSingleLine_ofList (by decide))

theorem readInteger_tellsLine (j : Json) : (readInteger j).TellsLine := by
  cases j with
  | int n => exact tellsLine_ok n
  | bool b => exact tellsLine_ok _
  | float x => exact integerOfFloat_tellsLine x
  | string s => exact readIntegerText_tellsLine s
  | _ => exact tellsLine_issue (isSingleLine_ofList (by decide))

theorem booleanOfInt_tellsLine (n : Int) : (booleanOfInt n).TellsLine := by
  unfold booleanOfInt
  split
  · exact tellsLine_ok _
  · split
    · exact tellsLine_ok _
    · exact tellsLine_issue (isSingleLine_ofList (by decide))

theorem readBoolean_tellsLine (j : Json) : (readBoolean j).TellsLine := by
  cases j with
  | bool b => exact tellsLine_ok b
  | string s =>
    unfold readBoolean readBooleanText
    dsimp only
    split
    · exact tellsLine_ok _
    · split
      · exact tellsLine_ok _
      · exact tellsLine_issue (isSingleLine_ofList (by decide))
  | int n => exact booleanOfInt_tellsLine n
  | float x =>
    unfold readBoolean
    dsimp only
    split
    · exact booleanOfInt_tellsLine _
    · exact tellsLine_issue (isSingleLine_ofList (by decide))
  | _ => exact tellsLine_issue (isSingleLine_ofList (by decide))

theorem readOptionalText_tellsLine (j : Json) : (readOptionalText j).TellsLine :=
  readOptional_tellsLine readText_tellsLine j

theorem readLimit_tellsLine (j : Json) : (readLimit j).TellsLine := by
  refine readOptional_tellsLine (fun j => ((readInteger_tellsLine j).andThen fun n => ?_).map _) j
  split
  · exact tellsLine_ok n
  · exact tellsLine_issue (by decide +kernel)

theorem readShape_tellsLine (j : Json) : (readShape j).TellsLine := by
  have hchoice : IsSingleLine
      (IssueKind.notChoice [OutputShape.table.label, OutputShape.timeSeries.label]).requestText := by
    decide +kernel
  unfold readShape
  split
  · exact tellsLine_ok _
  · exact tellsLine_ok _
  · split
    · exact tellsLine_ok _
    · exact tellsLine_issue hchoice
  · exact tellsLine_issue hchoice

theorem VisualQuery.read_tellsLine (j : Json) : (VisualQuery.read j).TellsLine := by
  have hoptional := fun m names => fieldOr_tellsLine readOptionalText_tellsLine m names none
  have hselection : ∀ j, (FieldSelection.read j).TellsLine := fun j =>
    (readRecord_tellsLine _ j).andThen fun m =>
      (((hoptional m _).map _).seq (hoptional m _)).seq (hoptional m _)
  have hcondition : ∀ j, (FilterCondition.read j).TellsLine := fun j =>
    (readRecord_tellsLine _ j).andThen fun m =>
      ((((hoptional m _).map _).seq (hoptional m _)).seq (hoptional m _)).seq (hoptional m _)
  have hflag := fun m names => fieldOr_tellsLine readBoolean_tellsLine m names false
  refine (readRecord_tellsLine _ j).andThen fun m => ?_
  exact (((((((((((hoptional m _).map _).seq (hoptional m _)).seq
    (fieldOr_tellsLine (readList_tellsLine hselection) m _ _)).seq
    (fieldOr_tellsLine (readList_tellsLine hcondition) m _ _)).seq
    (fieldOr_tellsLine (readList_tellsLine readText_tellsLine) m _ _)).seq (hoptional m _)).seq
    (hoptional m _)).seq (fieldOr_tellsLine readLimit_tellsLine m _ _)).seq (hflag m _)).seq
    (hflag m _)).seq (hflag m _)

theorem Request.read_tellsLine (j : Json) : (Request.read j).TellsLine :=
  (readRecord_tellsLine _ j).andThen fun m =>
    ((((fieldOr_tellsLine readText_tellsLine m _ _).map _).seq
      (fieldOr_tellsLine readOptionalText_tellsLine m _ _)).seq
      (fieldOr_tellsLine readShape_tellsLine m _ _)).seq
      (fieldOr_tellsLine (readOptional_tellsLine VisualQuery.read_tellsLine) m _ _)

theorem readBatchRequest_tellsLine (j : Json) : (readBatchRequest j).TellsLine :=
  (readRecord_tellsLine _ j).andThen fun m =>
    fieldOr_tellsLine (readList_tellsLine fun q => (readObject_tellsLine q).map _) m _ _

theorem BodyFault.isSingleLine_wrong {text : String} (h : IsSingleLine text) :
    IsSingleLine (BodyFault.wrong text).message :=
  IsSingleLine.append (s := "Invalid request payload: ") (isSingleLine_ofList (by decide)) h

theorem HttpRequest.isSingleLine_of_payload {r : HttpRequest} {read : Json → Checked α}
    (hread : ∀ j, (read j).TellsLine) {fault : BodyFault} (h : r.payload read = .error fault) :
    IsSingleLine fault.message := by
  have hunreadable : IsSingleLine BodyFault.unreadable.message := isSingleLine_ofList (by decide)
  have hbody : ∀ {fault}, readJsonBody r.body = .error fault → IsSingleLine fault.message := by
    intro fault h
    unfold readJsonBody at h
    split at h
    · cases h
      exact hunreadable
    · split at h
      · cases h
      · split at h
        case h_4 =>
          cases h
          exact BodyFault.isSingleLine_wrong (isSingleLine_ofList (by decide))
        all_goals
          cases h
          exact hunreadable
  unfold payload at h
  split at h
  · cases h
    exact BodyFault.isSingleLine_wrong (isSingleLine_ofList (by decide))
  · split at h
    · rcases bind_eq_error h with hj | ⟨j, -, hj⟩
      · exact hbody hj
      · cases hr : read j with
        | ok a => simp [hr] at hj
        | wrong i more =>
          simp only [hr, Except.error.injEq] at hj
          exact hj ▸ BodyFault.isSingleLine_wrong (hread j i more hr)
    · cases h
      exact BodyFault.isSingleLine_wrong (isSingleLine_ofList (by decide))

/-! Payloads that are accepted. -/

theorem HttpRequest.read_of_payload {r : HttpRequest} {read : Json → Checked α} {a : α}
    (h : r.payload read = .ok a) : ∃ text j, Json.read text = .ok j ∧ read j = .ok a := by
  unfold payload at h
  split at h
  · cases h
  · split at h
    · obtain ⟨j, hj, ha⟩ := bind_eq_ok h
      unfold readJsonBody at hj
      split at hj
      · cases hj
      · rename_i text htext
        split at hj
        · rename_i found hfound
          cases hj
          refine ⟨text, j, hfound, ?_⟩
          cases hr : read j with
          | ok b => simpa [hr] using ha
          | wrong i more => simp [hr] at ha
        · split at hj <;> cases hj
    · cases h

theorem Checked.each_eq_ok {read : α → Checked α} (h : ∀ {a b}, read a = .ok b → b = a) {index : Nat}
    {items found : List α} (heach : each read index items = .ok found) : found = items := by
  induction items generalizing index found with
  | nil =>
    cases heach
    rfl
  | cons item rest ih =>
    cases hitem : read item with
    | wrong i more =>
      cases hrest : each read (index + 1) rest <;>
        simp [each, hitem, hrest, under, Functor.map, Seq.seq, map, seq] at heach
    | ok b =>
      cases hrest : each read (index + 1) rest with
      | wrong i more => simp [each, hitem, hrest, under, Functor.map, Seq.seq, map, seq] at heach
      | ok more =>
        simp only [each, hitem, hrest, under, Functor.map, Seq.seq, map, seq, ok.injEq] at heach
        rw [← heach, h hitem, ih hrest]

/-- The queries of a batch that came as JSON can all be written. -/
theorem isShown_of_readBatchRequest {j : Json} (hj : j.IsShown) {queries : List Json}
    (h : readBatchRequest j = .ok queries) : ∀ raw ∈ queries, raw.IsShown := by
  have hself : ∀ {raw found : Json}, (readObject raw).map Json.object = .ok found → found = raw := by
    intro raw found h
    cases raw with
    | object members =>
      cases h
      rfl
    | _ => cases h
  cases j with
  | object members =>
    change fieldOr members ["queries"] [] (readList fun q => (readObject q).map Json.object) =
      Checked.ok queries at h
    unfold fieldOr firstMember firstMember at h
    cases hfield : Members.find? members "queries" with
    | none =>
      simp only [hfield, Checked.ok.injEq] at h
      simp [← h]
    | some value =>
      have hvalue : value.IsShown := hj.field hfield
      simp only [hfield] at h
      cases value with
      | array items =>
        cases hitems : Checked.each (fun q => (readObject q).map Json.object) 0 items with
        | ok found =>
          simp only [readList, hitems, Checked.under, Checked.ok.injEq] at h
          rw [← h, Checked.each_eq_ok hself hitems]
          exact hvalue.items
        | wrong i more => simp [readList, hitems, Checked.under] at h
      | _ => cases h
  | _ => cases h

end QueryGate
