import StoryState.Files.Basic
import StoryState.Storage.Pattern
import StoryState.Story.Store
import StoryState.Text.Word

/-!
Gateways to where payloads are kept: in memory, as files of a directory, or as rows of a table that
several gateways share under different namespaces.
-/

namespace StoryState

/-- The files, and the rows of the tables by the paths of their databases. -/
structure Disk where
  files : Files := {}
  tables : Entries (Entries ByteArray) := []

/-- Where payloads are kept. -/
inductive Gateway where
  | memory (store : Store)
  | directory (path : String)
  | table (database spaceName : String)

namespace Gateway

/-! ### Files of a directory -/

/-- A name in which only word characters, dots and hyphens stand for themselves. -/
def safeName (s : String) : String :=
  String.ofList (s.toList.map fun c => if Text.isWord c || c = '.' || c = '-' then c else '_')

/-- The path of a key's file. -/
def keyPath (directory key : String) : String :=
  Files.join directory (safeName key ++ Files.ending)

/-- The path of the file that is written before it takes the place of a key's file. -/
def draftPath (directory key : String) : String := keyPath directory key ++ ".tmp"

/-- Writes a key's file. -/
def saveFile (directory key : String) (payload : ByteArray) (fs : Files) : Except Fault Unit × Files :=
  match fs.makeDirectory directory with
  | (some _, fs) => (.error .disk, fs)
  | (none, fs) =>
    match fs.write (draftPath directory key) payload with
    | .error _ => (.error .disk, fs)
    | .ok fs =>
      match fs.replace (draftPath directory key) (keyPath directory key) with
      | .error _ => (.error .disk, fs)
      | .ok fs => (.ok (), fs)

/-- The bytes of a key's file, if there is one. -/
def loadFile (directory key : String) (fs : Files) : Option ByteArray :=
  match fs.at? (keyPath directory key) with
  | some (.file bytes) => some bytes
  | _ => none

/-- Removes a key's file. -/
def deleteFile (directory key : String) (fs : Files) : Files :=
  match fs.place (keyPath directory key) with
  | .ok place => if fs.isFile (keyPath directory key) then fs.remove place else fs
  | .error _ => fs

/-- The keys of the files in a directory. -/
def fileKeys (directory : String) (fs : Files) : List String :=
  (((fs.list? directory).getD []).filterMap (Files.dropEnd? Files.ending)).mergeSort (· ≤ ·)

/-! ### Rows of a table -/

/-- The key of a row: the namespace in front of the key. -/
def rowKey (spaceName key : String) : String := spaceName ++ ":" ++ key

/-- Makes the database unless there is one. -/
def openTable (database : String) (d : Disk) : Except Fault Unit × Disk :=
  let (failure, files) :=
    if Files.parent database = "" then (none, d.files)
    else d.files.makeDirectory (Files.parent database)
  let d := { d with files }
  match failure with
  | some e => (.error (.file e), d)
  | none =>
    if d.files.isFile database then (.ok (), d)
    else
      match d.files.write database ByteArray.empty with
      | .error _ => (.error .disk, d)
      | .ok files => (.ok (), { d with files })

/-- The rows of a table. -/
def rows (database : String) (d : Disk) : Entries ByteArray :=
  (Entries.get? database d.tables).getD []

/-- The keys of a namespace's rows: those of all rows that look like it, cut by its length. -/
def tableKeys (database spaceName : String) (d : Disk) : List String :=
  let lead := rowKey spaceName ""
  (((Entries.keys (rows database d)).filter (Storage.like (lead ++ "%"))).mergeSort (· ≤ ·)).map
    fun key => String.ofList (key.toList.drop lead.length)

/-- Uses a table, which is made first. -/
def onTable {α : Type} (database : String) (d : Disk) (use : Disk → α × Disk) : Except Fault α × Disk :=
  match openTable database d with
  | (.error e, d) => (.error e, d)
  | (.ok (), d) => let (a, d) := use d; (.ok a, d)

/-! ### Any gateway -/

/-- The payload under a key. -/
def load (key : String) (d : Disk) : Gateway → Except Fault (Option ByteArray) × Disk
  | .memory s => (s.load key, d)
  | .directory path => (.ok (loadFile path key d.files), d)
  | .table database spaceName =>
    onTable database d fun d => (Entries.get? (rowKey spaceName key) (rows database d), d)

/-- Saves a payload under a key. -/
def save (key : String) (payload : ByteArray) (d : Disk) : Gateway → Except Fault Unit × Gateway × Disk
  | .memory s => (.ok (), .memory (s.save key payload), d)
  | .directory path =>
    let (r, files) := saveFile path key payload d.files
    (r, .directory path, { d with files })
  | .table database spaceName =>
    let (r, d) := onTable database d fun d =>
      ((), { d with
        tables := d.tables.put database ((rows database d).put (rowKey spaceName key) payload) })
    (r, .table database spaceName, d)

/-- Drops the payload under a key. -/
def delete (key : String) (d : Disk) : Gateway → Except Fault Unit × Gateway × Disk
  | .memory s => (.ok (), .memory (s.delete key), d)
  | .directory path => (.ok (), .directory path, { d with files := deleteFile path key d.files })
  | .table database spaceName =>
    let (r, d) := onTable database d fun d =>
      ((), { d with tables := d.tables.put database ((rows database d).erase (rowKey spaceName key)) })
    (r, .table database spaceName, d)

/-- The keys under which something is kept. -/
def keys (d : Disk) : Gateway → Except Fault (List String) × Disk
  | .memory s => (.ok s.keys, d)
  | .directory path => (.ok (fileKeys path d.files), d)
  | .table database spaceName => onTable database d fun d => (tableKeys database spaceName d, d)

/-! ### Choosing one -/

/-- The namespace of a script. -/
def spaceOf (scriptId : Option String) : String :=
  match scriptId with
  | none | some "" => "default"
  | some id => id

/-- The gateway that a configuration chooses for a script. -/
def ofBackend (backend directory database : String) (scriptId : Option String) : Gateway :=
  if backend = "sqlite" then .table database (spaceOf scriptId)
  else .directory (Files.join directory (spaceOf scriptId))

end Gateway

end StoryState
