import StoryState.Entries
import StoryState.Fault
import StoryState.Text.Basic

/-!
A tree of files and directories, as far as payloads, configurations and backups need one. A place is
the list of names on the way from the root; the root is a directory.
-/

namespace StoryState

/-- What is at a place. -/
inductive FileNode where
  | directory
  | file (bytes : ByteArray)

/-- A tree of files. -/
structure Files where
  nodes : List (List String × FileNode) := []

namespace Files

/-! ### Paths -/

/-- The parts of a path. -/
def parts (path : String) : List String := (Text.splitOn '/' path.toList).map String.ofList

/-- A path below a directory, unless it starts at the root. -/
def join (directory name : String) : String :=
  if directory = "" || name.toList.head? = some '/' then name else directory ++ "/" ++ name

/-- The last part of a path. -/
def baseName (path : String) : String := ((parts path).getLast?).getD ""

/-- The directory of a path. -/
def parent (path : String) : String := "/".intercalate (parts path).dropLast

/-- A path without parts that lead nowhere. -/
def tidy (path : String) : String :=
  let step (place : List String) (part : String) : List String :=
    if part = "" || part = "." then place
    else if part = ".." then place.dropLast
    else place ++ [part]
  match (parts path).foldl step [] with
  | [] => "."
  | place => "/".intercalate place

/-- The text behind an ending. -/
def dropEnd? (ending name : String) : Option String :=
  (Text.dropLead? ending.toList.reverse name.toList.reverse).map fun s => String.ofList s.reverse

/-- The ending of files that hold a document. -/
def ending : String := ".json"

/-- A name without what follows its last dot; dots at its head do not count. -/
def stem (name : String) : String :=
  let dots := name.toList.takeWhile (· = '.')
  let rest := name.toList.drop dots.length
  match (Text.splitOn '.' rest).reverse with
  | _ :: piece :: pieces =>
    String.ofList (dots ++ Text.joinWith ['.'] (piece :: pieces).reverse)
  | _ => name

/-! ### Looking -/

/-- What is at a place. -/
def node? (place : List String) (fs : Files) : Option FileNode :=
  if place = [] then some .directory else fs.nodes.lookup place

/-- Whether a place is a directory, or why not. -/
def checkDirectory (place : List String) (fs : Files) : Except FileFault Unit :=
  match fs.node? place with
  | some .directory => .ok ()
  | some (.file _) => .error .notDirectory
  | none => .error .notFound

/-- The longest name, in bytes. -/
def nameLimit : Nat := 255

/-- The place to which the parts of a path lead; all but the last must lead to directories. -/
def walk (fs : Files) : List String → List String → Except FileFault (List String)
  | place, [] => .ok place
  | place, part :: rest => do
    fs.checkDirectory place
    if part = "" || part = "." then walk fs place rest
    else if part = ".." then walk fs place.dropLast rest
    else if nameLimit < part.utf8ByteSize then throw .nameTooLong
    else walk fs (place ++ [part]) rest

/-- The place of a path. -/
def place (path : String) (fs : Files) : Except FileFault (List String) :=
  if path.toList.contains '\x00' then .error .badName else fs.walk [] (parts path)

/-- What a path leads to, if it leads anywhere. -/
def at? (path : String) (fs : Files) : Option FileNode :=
  match fs.place path with
  | .ok place => fs.node? place
  | .error _ => none

/-- Whether a path leads to a file. -/
def isFile (path : String) (fs : Files) : Bool :=
  match fs.at? path with
  | some (.file _) => true
  | _ => false

/-- Whether a path leads to a directory. -/
def isDirectory (path : String) (fs : Files) : Bool :=
  match fs.at? path with
  | some .directory => true
  | _ => false

/-- The names in a directory, in order. -/
def names (place : List String) (fs : Files) : List String :=
  (fs.nodes.filterMap fun (p, _) =>
    if p ≠ [] && p.dropLast = place then p.getLast? else none).mergeSort (· ≤ ·)

/-- The names in the directory of a path, if it is one. -/
def list? (path : String) (fs : Files) : Option (List String) :=
  match fs.place path with
  | .ok place => if fs.isDirectory path then some (fs.names place) else none
  | .error _ => none

/-- The bytes of a file. -/
def read (path : String) (fs : Files) : Except FileFault ByteArray := do
  match fs.node? (← fs.place path) with
  | some (.file bytes) => return bytes
  | some .directory => throw .isDirectory
  | none => throw .notFound

/-- Line breaks of any system as single ones. -/
def plainBreaks : List Char → List Char
  | '\x0d' :: '\n' :: s => '\n' :: plainBreaks s
  | '\x0d' :: s => '\n' :: plainBreaks s
  | c :: s => c :: plainBreaks s
  | [] => []

/-- The text of a file. -/
def readText (path : String) (fs : Files) : Except Fault String := do
  match String.fromUTF8? (← (fs.read path).mapError .file) with
  | some t => return String.ofList (plainBreaks t.toList)
  | none => throw .notText

/-! ### Changing -/

/-- Puts something at a place. -/
def set (place : List String) (node : FileNode) (fs : Files) : Files :=
  if (fs.nodes.lookup place).isSome then
    { nodes := fs.nodes.map fun (p, old) => if p = place then (p, node) else (p, old) }
  else { nodes := fs.nodes ++ [(place, node)] }

/-- Removes a place and all below it. -/
def remove (place : List String) (fs : Files) : Files :=
  { nodes := fs.nodes.filter fun (p, _) => !place.isPrefixOf p }

/-- Makes the directories of a path that are missing. Those made before something stops it stay. -/
def makeAlong (fs : Files) : List String → List String → Option FileFault × Files
  | place, [] =>
    match fs.node? place with
    | some (.file _) => (some .exists, fs)
    | _ => (none, fs)
  | place, part :: rest =>
    match fs.checkDirectory place with
    | .error e => (some e, fs)
    | .ok () =>
      if part = "" || part = "." then makeAlong fs place rest
      else if part = ".." then makeAlong fs place.dropLast rest
      else if nameLimit < part.utf8ByteSize then (some .nameTooLong, fs)
      else
        let next := place ++ [part]
        let fs := if (fs.node? next).isSome then fs else fs.set next .directory
        makeAlong fs next rest

/-- Makes the directories of a path that are missing. -/
def makeDirectory (path : String) (fs : Files) : Option FileFault × Files :=
  if path.toList.contains '\x00' then (some .badName, fs) else fs.makeAlong [] (parts path)

/-- Writes a file. -/
def write (path : String) (bytes : ByteArray) (fs : Files) : Except FileFault Files := do
  let place ← fs.place path
  match fs.node? place with
  | some .directory => throw .isDirectory
  | _ => return fs.set place (.file bytes)

/-- Writes a text to a file. -/
def writeText (path text : String) (fs : Files) : Except FileFault Files :=
  fs.write path text.toUTF8

/-- Puts a file in the place of another. -/
def replace (old new : String) (fs : Files) : Except FileFault Files := do
  let bytes ← fs.read old
  return (← fs.write new bytes).remove (← fs.place old)

end Files

end StoryState
