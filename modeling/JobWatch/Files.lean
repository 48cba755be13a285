import JobWatch.Failure
import JobWatch.Text.Quoted

/-!
The files that a program finds: texts and folders below one root, one of them the folder that the
program works in, and what goes wrong when a path leads to the wrong thing or to none. A path that
begins with a slash is followed from the root, any other from the working folder. Links, permissions
and limits on sizes are left out.
-/
namespace JobWatch

inductive FileEntry where
  | file (text : String)
  | folder
deriving DecidableEq, Repr

/-- The parts of a path. A slash at the end asks for a folder. -/
def pathParts (path : String) : List String :=
  (Text.split '/' path.toList).map String.ofList

/-- The parts of a path that stay where they are. -/
def isIdlePart (part : String) : Bool := part = "" || part = "."

/-- Where the parts of a path lead from a place, if there is a folder at every step. There is
nothing above the root. -/
def resolve (key : List String) : List String → List String
  | [] => key
  | part :: rest =>
    if isIdlePart part then resolve key rest
    else if part = ".." then resolve key.dropLast rest
    else resolve (key ++ [part]) rest

/-- The folder from which a path is followed, for a program that works in `home`. -/
def startOf (home : List String) (path : String) : List String :=
  if path.toList.head? = some '/' then [] else home

/-- All files that there are, by the parts of their paths from the root on. -/
structure Folder where
  /-- The folder that the program works in. It is there in any case. -/
  home : List String
  entries : List (List String × FileEntry)
deriving DecidableEq, Repr

/-- What a path leads to. -/
inductive Place where
  | file (key : List String) (text : String)
  | folder
  /-- Nothing, but there is a folder to hold it. -/
  | vacant (key : List String)
  | missing
  /-- The path goes through something that is no folder. -/
  | blocked
  /-- No path has such characters. -/
  | illegal
deriving DecidableEq, Repr

inductive FileFault where
  | missing (path : String)
  | notFolder (path : String)
  /-- A folder was to be opened as a file, or read as one. -/
  | openedFolder (path : String)
  | readFolder
  | illegal (path : String)
deriving DecidableEq, Repr

def FileFault.message : FileFault → String
  | missing path => "ENOENT: no such file or directory, open '" ++ path ++ "'"
  | notFolder path => "ENOTDIR: not a directory, open '" ++ path ++ "'"
  | openedFolder path => "EISDIR: illegal operation on a directory, open '" ++ path ++ "'"
  | readFolder => "EISDIR: illegal operation on a directory, read"
  | illegal path => "The argument 'path' must be a string, Uint8Array, or URL without null bytes. "
      ++ "Received " ++ Text.shown path

def FileFault.failure (f : FileFault) : Failure :=
  match f with
  | illegal _ => .foreign true f.message
  | _ => .plain f.message

/-- The configuration is not to blame for a file. -/
theorem FileFault.isOf_configuration (f : FileFault) : f.failure.isOf .configuration = false := by
  cases f <;> rfl

def isInside (folder key : List String) : Bool :=
  match folder, key with
  | [], _ :: _ => true
  | a :: folder, b :: key => a == b && isInside folder key
  | _, [] => false

namespace Folder

/-- The files given, with paths that may start at the root or at the working folder. -/
def within (home : List String) (entries : List (String × Option String)) : Folder :=
  ⟨home, entries.map fun e =>
    (resolve (startOf home e.1) (pathParts e.1),
      match e.2 with
      | some text => .file text
      | none => .folder)⟩

/-- Some working folder with the files and folders given. -/
def ofList (entries : List (String × Option String)) : Folder := within ["work"] entries

def empty : Folder := ofList []

/-- A working folder is there, and so are all folders around it and around an entry. -/
def entry? (d : Folder) (key : List String) : Option FileEntry :=
  if key.isPrefixOf d.home then some .folder
  else match d.entries.lookup key with
    | some e => some e
    | none => if d.entries.any fun e => isInside key e.1 then some .folder else none

/-- Follows the parts of a path from the folder `key`. -/
def follow (d : Folder) (key : List String) : List String → Place
  | [] => .folder
  | part :: rest =>
    if isIdlePart part then d.follow key rest
    else if part = ".." then d.follow key.dropLast rest
    else match d.entry? (key ++ [part]) with
      | some .folder => d.follow (key ++ [part]) rest
      | some (.file text) => if rest.isEmpty then .file (key ++ [part]) text else .blocked
      | none => if rest.isEmpty then .vacant (key ++ [part]) else .missing

def place (d : Folder) (path : String) : Place :=
  if path.toList.contains '\x00' then .illegal
  else if path = "" then .missing
  else d.follow (startOf d.home path) (pathParts path)

/-- Something stands at the path. -/
def holds (d : Folder) (path : String) : Bool :=
  match d.place path with
  | .file _ _ => true
  | .folder => true
  | _ => false

def text? (d : Folder) (path : String) : Option String :=
  match d.place path with
  | .file _ text => some text
  | _ => none

def read (d : Folder) (path : String) : Except FileFault String :=
  match d.place path with
  | .file _ text => .ok text
  | .folder => .error .readFolder
  | .blocked => .error (.notFolder path)
  | .illegal => .error (.illegal path)
  | .vacant _ => .error (.missing path)
  | .missing => .error (.missing path)

def put (d : Folder) (key : List String) (e : FileEntry) : Folder :=
  { d with entries := d.entries.filter (·.1 ≠ key) ++ [(key, e)] }

/-- What keeps a text from being added at a path that ends in a slash: it names a folder. -/
def folderFault (d : Folder) (path : String) : FileFault :=
  let trimmed := (path.toList.reverse.dropWhile (· == '/')).reverse
  if trimmed.isEmpty then .openedFolder path
  else match d.place (String.ofList trimmed) with
    | .missing => .missing path
    | .blocked => .notFolder path
    | .illegal => .illegal path
    | _ => .openedFolder path

/-- Adds text to the end of a file, which is made if it is not there. -/
def append (d : Folder) (path text : String) : Except FileFault Folder :=
  if path.toList.getLast? = some '/' then .error (d.folderFault path)
  else match d.place path with
    | .file key old => .ok (d.put key (.file (old ++ text)))
    | .vacant key => .ok (d.put key (.file text))
    | .folder => .error (.openedFolder path)
    | .blocked => .error (.notFolder path)
    | .illegal => .error (.illegal path)
    | .missing => .error (.missing path)

/-- Replaces a file's text; a path that holds no file is left alone. -/
def write (d : Folder) (path text : String) : Folder :=
  match d.place path with
  | .file key _ => d.put key (.file text)
  | .vacant key => d.put key (.file text)
  | _ => d

def remove (d : Folder) (path : String) : Folder :=
  match d.place path with
  | .file key _ => { d with entries := d.entries.filter (·.1 ≠ key) }
  | _ => d

end Folder

end JobWatch
