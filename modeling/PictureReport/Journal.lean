import PictureReport.Fault
import PictureReport.Record

/-!
# Sources and journals

A source gives the values of the variables that a report shows and takes what chomping fields leave
of them. A journal stands in front of a source and remembers what each variable that is set showed
first, so that the settings since the last commit can be rolled back.
-/

namespace PictureReport

/-- What a source is: a mapping of names, an object with attributes, or a value of another kind,
which has no variables at all. -/
inductive SourceKind where
  | mapping
  | attributes
  | other (kindName : String)
deriving DecidableEq, Repr

structure Source where
  kind : SourceKind
  entries : Record
deriving Repr

namespace Source

/-- The source that a value is as a record: an object is a mapping of its entries. -/
def ofValue : Value → Source
  | .object entries => ⟨.mapping, Entries.ofPairs entries⟩
  | value => ⟨.other value.kindName, []⟩

/-- What a variable shows.  Only a value of another kind is no answer. -/
def get (source : Source) (name : String) : Except Fault Value :=
  match source.kind with
  | .other kindName => .error (.noVariables kindName)
  | _ => .ok (Record.resolve source.entries name)

def set (source : Source) (name : String) (value : Value) : Source :=
  { source with entries := Entries.set name value source.entries }

end Source

structure Journal where
  source : Source
  /-- What each variable set since the last commit showed before. -/
  saved : Record
deriving Repr

namespace Journal

/-- A journal in which nothing is set yet. -/
def start (source : Source) : Journal := ⟨source, []⟩

def get (journal : Journal) (name : String) : Except Fault Value := journal.source.get name

/-- Set a variable; the first setting since the last commit remembers what it showed. -/
def set (journal : Journal) (name : String) (value : Value) : Journal :=
  let saved :=
    if (Entries.get? name journal.saved).isSome then journal.saved
    else Entries.set name (Record.resolve journal.source.entries name) journal.saved
  ⟨journal.source.set name value, saved⟩

/-- Keep everything that is set. -/
def commit (journal : Journal) : Journal := { journal with saved := [] }

/-- Set every variable back to what it showed at the last commit. -/
def rollback (journal : Journal) : Journal :=
  ⟨journal.saved.foldl (fun source entry => source.set entry.1 entry.2) journal.source, []⟩

end Journal

end PictureReport
