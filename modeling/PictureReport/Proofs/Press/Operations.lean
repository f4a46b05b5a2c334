import PictureReport.Session
import PictureReport.Proofs.Press.Rules

/-!
# Runs of a press

A press is used by one operation after the other: a task is done with the values of a source, or the
page is changed from outside.  An operation that fails leaves a press as well, and the next one works
on it.
-/

namespace PictureReport

/-- A change of the page from outside, by the caller's own calls and not by a `Task`. -/
inductive Control where
  | setLength (length : Int)
  | resetLines
  | setLinesLeft (linesLeft : Int)
  | addLines (delta : Int)
  | resetNumber
  | reset
deriving DecidableEq, Repr

namespace Control

def apply : Control → Pager → Pager
  | setLength length => .onPage (·.setLength length)
  | resetLines => .onPage Page.resetLines
  | setLinesLeft linesLeft => .onPage (·.setLinesLeft linesLeft)
  | addLines delta => .onPage (·.addLines delta)
  | resetNumber => .onPage Page.resetNumber
  | reset => Pager.reset

/-- Does the page keep its number?  Only `resetNumber` and `reset` turn it back. -/
def keepsNumber : Control → Bool
  | resetNumber | reset => false
  | _ => true

end Control

inductive Operation where
  | task (form : Form) (source : Source) (task : Task)
  | control (control : Control)
deriving Repr

namespace Operation

/-- Does the operation not turn the page number back (`Control.keepsNumber`)? -/
def keepsNumber : Operation → Bool
  | task _ _ _ => true
  | control change => change.keepsNumber

/-- The operation is a call with the form, of a task that meets `C`. -/
def Calls (form : Form) (C : Task → Prop) (operation : Operation) : Prop :=
  ∃ source task, operation = .task form source task ∧ C task

/-- The operation is a call with the form, or it changes the page from outside. -/
def Uses (form : Form) (operation : Operation) : Prop :=
  operation.Calls form (fun _ => True) ∨ ∃ change, operation = .control change

theorem calls_of_mem_map {form : Form} {source : Source} {C : Task → Prop} (tasks : List Task)
    (h : ∀ task ∈ tasks, C task) : ∀ operation ∈ tasks.map (.task form source), Calls form C operation := by
  intro operation ho
  obtain ⟨task, htask, rfl⟩ := List.mem_map.mp ho
  exact ⟨source, task, rfl, h task htask⟩

end Operation

namespace Press

/-- The press with a fresh journal over `source`, as every call on a form begins. -/
def withValues (source : Source) (p : Press) : Press :=
  { p with desk := { p.desk with journal := Journal.start source } }

/-- Do one operation: a task with the values of its source, or a change of the pager. -/
def operate : Operation → Printing Unit
  | .task form source task => do
    modify (withValues source)
    task.run form
  | .control control => onPager control.apply

/-- The press after `operations`, one after the other, whether they fail or not. -/
def after (operations : List Operation) (p : Press) : Press :=
  operations.foldl (fun p operation => (operate operation p).2) p

@[simp] theorem after_nil (p : Press) : after [] p = p := rfl

theorem after_concat (operations : List Operation) (operation : Operation) (p : Press) :
    after (operations ++ [operation]) p = (operate operation (after operations p)).2 := by
  simp [after, List.foldl_append]

/-- What every operation keeps holds after any run: the induction over the run, done once. -/
theorem after_induction {I : Press → Prop} {operations : List Operation}
    (h : ∀ operation ∈ operations, ∀ p, I p →
      Ends (operate operation) p (fun _ q => I q) fun _ q => I q) :
    ∀ p, I p → I (after operations p) := by
  induction operations with
  | nil => exact fun p hp => hp
  | cons operation operations ih =>
    intro p hp
    refine ih (fun operation ho => h operation (by simp [ho])) _ ?_
    exact ends_state.mp (h operation (by simp) p hp)

/-- Each operation meets `C` on the press that it finds. -/
def Throughout (C : Operation → Press → Prop) : List Operation → Press → Prop
  | [], _ => True
  | operation :: operations, p => C operation p ∧ Throughout C operations (operate operation p).2

instance Throughout.decidable (C : Operation → Press → Prop) [∀ operation p, Decidable (C operation p)] :
    ∀ operations p, Decidable (Throughout C operations p)
  | [], _ => .isTrue trivial
  | _ :: operations, _ => @instDecidableAnd _ _ _ (Throughout.decidable C operations _)

/-- What every operation keeps that meets `C` holds after a run in which all of them do (`Throughout C`). -/
theorem Throughout.induction {C : Operation → Press → Prop} {I : Press → Prop}
    {operations : List Operation}
    (h : ∀ operation ∈ operations, ∀ p, C operation p → I p → I (operate operation p).2) :
    ∀ p, Throughout C operations p → I p → I (after operations p) := by
  induction operations with
  | nil => exact fun p _ hp => hp
  | cons operation operations ih =>
    rintro p ⟨hc, hcs⟩ hp
    refine ih (fun operation ho => h operation (List.mem_cons_of_mem _ ho)) _ hcs ?_
    exact h operation List.mem_cons_self p hc hp

/-- The operation returns, it does not raise a fault. -/
def Returns (operation : Operation) (p : Press) : Prop := (operate operation p).1 = .ok ()

instance Returns.decidable (operation : Operation) (p : Press) : Decidable (Returns operation p) :=
  match h : (operate operation p).1 with
  | .ok () => .isTrue h
  | .error _ => .isFalse fun hr => by simp [Returns, h] at hr

theorem Returns.operate_eq {operation : Operation} {p : Press} (h : Returns operation p) :
    operate operation p = (.ok (), (operate operation p).2) := Prod.ext h rfl

theorem Ends.of_returns {operation : Operation} {p : Press} {Q : Press → Prop}
    {E : Fault → Press → Prop} (h : Ends (operate operation) p (fun _ q => Q q) E)
    (hr : Returns operation p) : Q (operate operation p).2 :=
  (ends_iff.mp h).1 () hr

theorem counted_ends {x : Printing Unit} {p : Press} {Q : Press → Prop} {E : Fault → Press → Prop} :
    Ends (counted x) p (fun _ q => Q q) E ↔ Ends x p (fun _ q => Q q) E := by
  simp only [counted, ends_bind, ends_get, ends_pure]

end Press

namespace Session

theorem ends_withSource {α : Type} {source : SourceId} {x : Printing α} {session : Session}
    {Q : α → Session → Prop} {E : Fault → Session → Prop} :
    Ends (withSource source x) session Q E ↔
      Ends x (session.press.withValues ((session.sources[source]?).getD ⟨.mapping, []⟩))
        (fun a press => Q a { session with
          press, sources := session.sources.set source press.desk.journal.source })
        fun fault press => E fault { session with
          press, sources := session.sources.set source press.desk.journal.source } := by
  unfold Ends withSource
  simp only [Press.withValues]
  rcases x _ with ⟨e | a, press⟩ <;> rfl

/-- A step of a session leaves the press as the operation does that `operate` does, with the pictures of the
form and the values of the source. -/
theorem perform_press (session : Session) (form : FormId) (source : SourceId) (task : Task) :
    (perform form source task session).2.press =
      (Press.operate (.task (session.assembly.formOf form)
        ((session.sources[source]?).getD ⟨.mapping, []⟩) task) session.press).2 := by
  generalize hp : (Press.operate (.task (session.assembly.formOf form)
    ((session.sources[source]?).getD ⟨.mapping, []⟩) task) session.press).2 = press
  have hrun : Ends (task.run (session.assembly.formOf form))
      (session.press.withValues ((session.sources[source]?).getD ⟨.mapping, []⟩))
      (fun _ q => q = press) fun _ q => q = press := by
    refine ends_state.mpr ?_
    rw [← hp]
    simp only [Press.operate]
    rw [bind_apply]
    rfl
  have hbound : ∀ bound : Session, bound.press = session.press → bound.sources = session.sources →
      Ends (withSource source (Press.counted (task.run (session.assembly.formOf form)))) bound
        (fun _ t => t.press = press) fun _ t => t.press = press := by
    intro bound h1 h2
    rw [ends_withSource, h1, h2]
    exact Press.counted_ends.mpr hrun
  refine (ends_state (P := fun t : Session => t.press = press)).mp ?_
  simp only [perform, ends_bind, ends_get]
  rw [ends_ite]
  split
  · simp only [bind, ends_bind, ends_modify]
    refine hbound _ ?_ ?_ <;> split <;> rfl
  · exact hbound session rfl rfl

end Session

end PictureReport
