import QueryGate.Connection.Handle
import QueryGate.Proofs.Session
/-! Watching a handle. A watched handle notes each text before it is sent and is otherwise the handle
itself, so the notes of a run tell what was sent in it. -/

namespace QueryGate

variable {σ α β : Type}

/-- The session without its notes. -/
def Session.plain (s : Session (σ × List String)) : Session σ :=
  ⟨s.outside.1, s.log, s.trace⟩

def Session.withNotes (s : Session σ) (notes : List String) : Session (σ × List String) :=
  ⟨(s.outside, notes), s.log, s.trace⟩

@[simp] theorem Session.plain_withNotes (s : Session σ) (notes : List String) :
    (s.withNotes notes).plain = s := rfl

@[simp] theorem Session.withNotes_notes (s : Session σ) (notes : List String) :
    (s.withNotes notes).outside.2 = notes := rfl

@[simp] theorem Session.withNotes_plain (s : Session (σ × List String)) :
    s.plain.withNotes s.outside.2 = s := rfl

/-- The call in a session with notes, to which it adds the texts. -/
def Act.noting (texts : List String) (a : Act σ α) : Act (σ × List String) α :=
  ExceptT.mk fun s =>
    ((a.outcome s.plain).1, (a.outcome s.plain).2.withNotes (s.outside.2 ++ texts))

def Rows.watched : Rows σ → Rows (σ × List String)
  | .done => .done
  | .broken r => .broken r
  | .row cells rest => .row cells rest.watched
  | .fetch move next => .fetch (fun w => (move w.1, w.2)) fun w => (next w.1).watched

def Cursor.watched (cursor : Cursor σ) : Cursor (σ × List String) where
  columns := cursor.columns.noting []
  rows := cursor.rows.watched
  close := cursor.close.noting []

def Handle.watched (handle : Handle σ) : Handle (σ × List String) where
  execute text timeout := Cursor.watched <$> (handle.execute text timeout).noting [text]
  ping timeout := (handle.ping timeout).noting []
  dispose := handle.dispose.noting []
  circuit w := handle.circuit w.1

namespace Act

@[simp] theorem outcome_noting (texts : List String) (a : Act σ α) (s : Session (σ × List String)) :
    (a.noting texts).outcome s =
      ((a.outcome s.plain).1, (a.outcome s.plain).2.withNotes (s.outside.2 ++ texts)) := rfl

theorem noting_pure (x : α) : (pure x : Act σ α).noting [] = pure x := by
  apply ext_outcome
  intro s
  simp

theorem noting_raise (r : Raised) : (raise r : Act σ α).noting [] = raise r := by
  apply ext_outcome
  intro s
  simp

theorem noting_given (value : Except Raised α) :
    (given value : Act σ α).noting [] = given value := by
  apply ext_outcome
  intro s
  simp

theorem noting_log (level : LogLevel) (logger message : String) :
    (log level logger message : Act σ Unit).noting [] = log level logger message := by
  apply ext_outcome
  intro s
  simp [Session.plain, Session.withNotes]

/-- What follows a call and notes nothing adds nothing, whether or not the call raises. -/
theorem noting_bind (texts : List String) (a : Act σ α) (f : α → Act σ β) :
    (a >>= f).noting texts = a.noting texts >>= fun x => (f x).noting [] := by
  apply ext_outcome
  intro s
  simp only [outcome_bind, outcome_noting]
  rcases a.outcome s.plain with ⟨_ | x, s'⟩ <;> simp

theorem noting_caught (texts : List String) (a : Act σ α) :
    a.caught.noting texts = (a.noting texts).caught := by
  apply ext_outcome
  intro s
  simp

theorem noting_andFinally (a : Act σ α) (last : Act σ Unit) :
    (a.andFinally last).noting [] = (a.noting []).andFinally (last.noting []) := by
  simp only [andFinally, noting_bind, noting_caught, noting_given]

theorem noting_onFault (a : Act σ α) (handler : Fault → Act σ α) :
    (a.onFault handler).noting [] = (a.noting []).onFault fun f => (handler f).noting [] := by
  simp only [onFault, noting_bind, noting_caught]
  congr 1
  funext result
  rcases result with (f | f) | x
  · exact noting_raise _
  · rfl
  · exact noting_pure x

/-- Nothing runs behind a call that always raises. -/
theorem AlwaysRaises.noting_bind {a : Act σ α} (h : a.AlwaysRaises) (texts : List String)
    (f : α → Act σ β) (g : α → Act (σ × List String) β) :
    a.noting texts >>= g = (a >>= f).noting texts := by
  apply ext_outcome
  intro s
  obtain ⟨r, hr⟩ := h s.plain
  simp only [outcome_bind, outcome_noting]
  generalize a.outcome s.plain = o at hr
  obtain ⟨_, s'⟩ := o
  simp only at hr
  simp [hr]

/-- Behind a call that never raises the notes go on. -/
theorem NeverRaises.noting_bind {a : Act σ α} (h : a.NeverRaises) (texts more : List String)
    (f : α → Act σ β) :
    (a.noting texts >>= fun x => (f x).noting more) = (a >>= f).noting (texts ++ more) := by
  apply ext_outcome
  intro s
  obtain ⟨x, hx⟩ := h s.plain
  simp only [outcome_bind, outcome_noting]
  generalize a.outcome s.plain = o at hx
  obtain ⟨_, s'⟩ := o
  simp only at hx
  simp [hx, List.append_assoc]

end Act

end QueryGate
