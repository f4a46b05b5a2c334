import PictureReport.Entries
import PictureReport.Files.Path
import PictureReport.Files.Table

/-!
# Disks

What a program does with files: ask for one, read one, make the folders above one, write one. A file
tree does this without a disk. It knows the files below the folder at hand, the folders that are
made, and of all that lies outside only that there are folders above.
-/

namespace PictureReport

/-- What a file holds. -/
inductive FileContent where
  | text (t : Text)
  | table (table : Table)
deriving Repr

/-- Access to files from a computation in `m`. -/
structure Disk (m : Type → Type) where
  isFile : Path → m (Except FileFault Bool)
  read : Path → m (Except FileFault Text)
  /-- Make a folder and those above it, unless they are there. -/
  makeFolder : Path → m (Except FileFault Unit)
  /-- Write a file in a folder that is there. -/
  write : Path → FileContent → m (Except FileFault Unit)

/-- The names that lead to a file or folder from the folder at hand.  Outside of it the first name is that of
the folder above, or a slash. -/
abbrev Place := List Text

namespace Place

def root : Place := [['/']]

/-- Is the place the folder at hand, or some folder above it? -/
def isUpward (place : Place) : Bool := place.all (· = upward)

/-- The folder above.  The root has none but itself. -/
def above (place : Place) : Place :=
  if place = root then root
  else if place.isUpward then place ++ [upward]
  else place.dropLast

/-- Is the place below the folder at hand? -/
def isInside (place : Place) : Bool :=
  match place with
  | [] => false
  | name :: _ => name ≠ upward && name ≠ ['/']

end Place

structure FileTree where
  files : Entries Place FileContent
  /-- The folders that are made.  Those above files need not be among them. -/
  folders : List Place
deriving Repr

/-- Why names do not lead to a place. -/
inductive Obstacle where
  | missing
  | noFolder
  | tooLong
deriving DecidableEq, Repr

def Obstacle.fault (path : Path) : Obstacle → FileFault
  | missing => .missing path
  | noFolder => .noFolder path
  | tooLong => .tooLong path

/-- The number of bytes that a text takes. -/
def Text.byteSize (t : Text) : Nat := t.foldr (fun c size => c.utf8Size + size) 0

/-- A table is written by other means than a text, which state its faults in their own way. -/
def FileFault.ofTable : FileFault → FileFault
  | isFolder path => tableIsFolder path
  | tooLong path => tableTooLong path
  | nullCharacter => tableNullCharacter
  | fault => fault

def Path.hasNull (path : Path) : Bool := path.text.contains '\x00'

namespace FileTree

/-- The most bytes of a name. -/
def maxName : Nat := 255

/-- The most bytes of a path. -/
def maxPath : Nat := 4095

def ofFiles (files : Entries Place FileContent) : FileTree := ⟨files, []⟩

/-- The files below the folder at hand. -/
def own (tree : FileTree) : Entries Place FileContent := tree.files.filter (·.1.isInside)

def file? (tree : FileTree) (place : Place) : Option FileContent := Entries.get? place tree.files

def isFolder (tree : FileTree) (place : Place) : Bool :=
  place = Place.root || place.isUpward || tree.folders.contains place ||
    tree.files.any fun entry => place.isPrefixOf entry.1 && entry.1 ≠ place

/-- Where names lead to from a place.  Only a folder leads further; what the last name stands for need not be
there. -/
def follow (tree : FileTree) (place : Place) : List Text → Except Obstacle Place
  | [] => .ok place
  | name :: rest =>
    if !tree.isFolder place then
      .error (if (tree.file? place).isSome then .noFolder else .missing)
    else if name = upward then follow tree place.above rest
    else if maxName < name.byteSize then .error .tooLong
    else follow tree (place ++ [name]) rest

/-- Where a path leads to. -/
def locate (tree : FileTree) (path : Path) : Except Obstacle Place :=
  if maxPath < path.text.byteSize then .error .tooLong
  else tree.follow (if path.start = .here then [] else Place.root) path.names

/-- Does a path lead to a place with a property?  A path that leads nowhere does not. -/
def leadsTo (tree : FileTree) (property : Place → Bool) (path : Path) : Except FileFault Bool :=
  if path.hasNull then .ok false
  else match tree.locate path with
    | .ok place => .ok (property place)
    | .error .tooLong => .error (.tooLong path)
    | .error _ => .ok false

def isFile (tree : FileTree) (path : Path) : Except FileFault Bool :=
  tree.leadsTo (fun place => (tree.file? place).isSome) path

/-- The place that a path leads to, or the fault of using it. -/
def place (tree : FileTree) (path : Path) : Except FileFault Place :=
  if path.hasNull then .error .nullCharacter
  else (tree.locate path).mapError (·.fault path)

def read (tree : FileTree) (path : Path) : Except FileFault Text := do
  let place ← tree.place path
  match tree.file? place with
  | some (.text t) => pure t
  | some (.table _) => pure []
  | none => throw (if tree.isFolder place then .isFolder path else .missing path)

/-- Make one folder where nothing is. -/
def makeOne (tree : FileTree) (path : Path) : Except FileFault FileTree := do
  let place ← tree.place path
  if tree.isFolder place || (tree.file? place).isSome then throw (.alreadyThere path)
  else pure { tree with folders := place :: tree.folders }

/-- A fault of making a folder is none if the folder is there. -/
def unlessFolder (tree : FileTree) (path : Path) (fault : FileFault) : Except FileFault FileTree := do
  if fault = .nullCharacter then throw fault
  else if ← tree.leadsTo tree.isFolder path then pure tree
  else throw fault

/-- Make a folder, and if one above it is missing that one first. -/
def makeFolder (tree : FileTree) (path : Path) : Except FileFault FileTree :=
  match tree.makeOne path with
  | .ok made => .ok made
  | .error (.missing missing) =>
    if _ : path.names = [] then .error (.missing missing)
    else
      match makeFolder tree path.parent with
      | .error fault => .error fault
      | .ok above =>
        match above.makeOne path with
        | .ok made => .ok made
        | .error fault => above.unlessFolder path fault
  | .error fault => tree.unlessFolder path fault
termination_by path.names.length
decreasing_by
  rw [Path.parent, List.length_dropLast]
  exact Nat.sub_lt (List.length_pos_iff.mpr (by assumption)) Nat.one_pos

/-- Put a file in its place. -/
def put (tree : FileTree) (path : Path) (content : FileContent) : Except FileFault FileTree := do
  let place ← tree.place path
  if tree.isFolder place then throw (.isFolder path)
  else pure { tree with files := Entries.set place content tree.files }

def write (tree : FileTree) (path : Path) (content : FileContent) : Except FileFault FileTree :=
  match content with
  | .text _ => tree.put path content
  | .table _ => (tree.put path content).mapError FileFault.ofTable

/-- Take the tree that a change leaves, or keep the one at hand. -/
def change (f : FileTree → Except FileFault FileTree) : StateM FileTree (Except FileFault Unit) := do
  match f (← get) with
  | .ok tree =>
    set tree
    pure (.ok ())
  | .error fault => pure (.error fault)

/-- A file tree as a disk. -/
def disk : Disk (StateM FileTree) where
  isFile path := return (← get).isFile path
  read path := return (← get).read path
  makeFolder path := change (·.makeFolder path)
  write path content := change (·.write path content)

end FileTree

end PictureReport
