/-!
# Folders

A folder of text files, and where a path that starts in it leads. Of what lies around the folder
no more is known than that there are folders above it, and those at the top that every system has.
-/

namespace RecordQuery

inductive FileProblem where
  /-- Nothing stands there. -/
  | absent
  /-- The path goes on behind a file. -/
  | notDirectory
  /-- A directory stands there. -/
  | isDirectory
  | nameTooLong
  /-- The path holds the character that ends names. -/
  | zeroInName
  /-- What stands there cannot be read. -/
  | unreadable (reason : String)
deriving DecidableEq, Repr

namespace FileProblem

def message : FileProblem → String
  | absent => "No such file or directory (os error 2)"
  | notDirectory => "Not a directory (os error 20)"
  | isDirectory => "Is a directory (os error 21)"
  | nameTooLong => "File name too long (os error 36)"
  | zeroInName => "file name contained an unexpected NUL byte"
  | unreadable reason => reason

/-- Something stands under the path, though it is no text. -/
def isPresent : FileProblem → Bool
  | isDirectory | unreadable _ => true
  | _ => false

end FileProblem

abbrev FileContent := Except FileProblem String

/-- A place in the tree of folders: the names that lead to it, the innermost first. The names
start in the folder; those of places above it start with `..`, those from the top with `/`. -/
abbrev Location := List String

namespace Location

def top : Location := ["/"]

def parent : Location → Location
  | [] => [".."]
  | name :: outer =>
    if name = ".." then ".." :: name :: outer else if name = "/" then [name] else outer

/-- The directories at the top that every system has. -/
def systemNames : List String :=
  ["bin", "dev", "etc", "home", "lib", "mnt", "opt", "proc", "root", "run", "sbin", "srv", "sys",
    "tmp", "usr", "var"]

/-- The folder itself, the ones above it, the top and the directories there. -/
def isDirectory (location : Location) : Bool :=
  location.all (· == "..") || location == top ||
    systemNames.any fun name => location == [name, "/"]

def emptyDevice : Location := ["null", "dev", "/"]

end Location

def nameLimit : Nat := 255

/-- A path has fewer bytes than this. -/
def pathLimit : Nat := 4096

structure Folder where
  files : List (Location × String)

namespace Folder

def empty : Folder := ⟨[]⟩

def ofFiles (files : List (String × String)) : Folder :=
  ⟨files.map fun (name, text) => ([name], text)⟩

def textAt? (folder : Folder) (location : Location) : Option String :=
  if location = Location.emptyDevice then some "" else folder.files.lookup location

def content? (folder : Folder) (name : String) : Option String := folder.textAt? [name]

/-- Follows names from a place. Only a directory leads on, be it to itself. -/
def follow (folder : Folder) (location : Location) : List String → Except FileProblem Location
  | [] => .ok location
  | name :: rest =>
    if !location.isDirectory then
      .error (if (folder.textAt? location).isSome then .notDirectory else .absent)
    else if name = "" ∨ name = "." then folder.follow location rest
    else if name = ".." then folder.follow location.parent rest
    else if nameLimit < name.utf8ByteSize then .error .nameTooLong
    else folder.follow (name :: location) rest

def locate (folder : Folder) (path : String) : Except FileProblem Location :=
  let cs := path.toList
  if cs.contains (Char.ofNat 0) then .error .zeroInName
  else if cs.isEmpty then .error .absent
  else if pathLimit ≤ path.utf8ByteSize then .error .nameTooLong
  else
    folder.follow (if cs.head? == some '/' then .top else []) ((cs.splitOn '/').map String.ofList)

def find (folder : Folder) (path : String) : FileContent :=
  match folder.locate path with
  | .error problem => .error problem
  | .ok location =>
    if location.isDirectory then .error .isDirectory
    else
      match folder.textAt? location with
      | some text => .ok text
      | none => .error .absent

def writeAt (folder : Folder) (location : Location) (text : String) : Folder :=
  ⟨(location, text) :: folder.files.filter fun file => file.1 != location⟩

/-- Puts a text under a path, unless the path does not lead to the place of a file. -/
def write (folder : Folder) (path text : String) : Except FileProblem Folder :=
  match folder.locate path with
  | .error problem => .error problem
  | .ok location =>
    if location.isDirectory then .error .isDirectory else .ok (folder.writeAt location text)

/-- Writing a text changes what stands at its place alone. -/
theorem textAt?_writeAt (folder : Folder) (location other : Location) (text : String)
    (h : location ≠ Location.emptyDevice) :
    (folder.writeAt location text).textAt? other =
      if other = location then some text else folder.textAt? other := by
  by_cases ho : other = location
  · subst ho
    simp [textAt?, writeAt, h]
  · have hl : (folder.files.filter fun file => file.1 != location).lookup other =
        folder.files.lookup other := by
      induction folder.files with
      | nil => rfl
      | cons file files ih =>
        obtain ⟨place, content⟩ := file
        by_cases hp : place = location
        · subst hp
          simp [ih, List.lookup_cons, beq_eq_false_iff_ne.2 ho]
        · simp [hp, List.lookup_cons, ih]
    simp [textAt?, writeAt, ho, List.lookup_cons, beq_eq_false_iff_ne.2 ho, hl]

end Folder

end RecordQuery
