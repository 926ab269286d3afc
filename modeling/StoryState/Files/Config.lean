import StoryState.Files.Basic
import StoryState.Json.Draft
import StoryState.Json.Reader

/-!
Configurations of scripts: one document for each script in a directory, and the check of the general
settings.
-/

namespace StoryState.Config

/-- The path of a script's configuration. -/
def path (directory id : String) : String := Files.join directory (id ++ Files.ending)

/-- The configuration in a document, which may stand inside a document about the whole script. -/
def unwrap : Value → Option (Entries Value)
  | .object fields =>
    match Entries.get? "variableConfig" fields with
    | some (.object inner) => some inner
    | _ => some fields
  | _ => none

/-- The configuration of a script, unless there is none that can be read. -/
def load (directory id : String) (fs : Files) : Option (Entries Value) :=
  if fs.isFile (path directory id) then
    match fs.readText (path directory id) with
    | .ok text => (Json.read text).toOption.bind unwrap
    | .error _ => none
  else none

/-- Writes the configuration of a script. One that cannot be written leaves a draft. -/
def save (directory id : String) (config : Value) (fs : Files) : Except Fault Unit × Files :=
  match fs.makeDirectory directory with
  | (some e, fs) => (.error (.file e), fs)
  | (none, fs) =>
    match fs.writeText (path directory id) (Json.draft .pretty config) with
    | .error e => (.error (.file e), fs)
    | .ok fs => ((Json.render .pretty config).map fun _ => (), fs)

/-- The scripts that have a configuration. -/
def ids (directory : String) (fs : Files) : List String :=
  ((((fs.list? directory).getD []).filter fun name => (Files.dropEnd? Files.ending name).isSome).map
    Files.stem).mergeSort (· ≤ ·)

/-! ### Settings -/

/-- The backends that can be chosen. -/
def backends : List String := ["json", "sqlite"]

/-- What is wrong with the settings. -/
def complaints (backend : String) (depth : Int) : List String :=
  (if backends.contains backend then []
    else ["不支持的存储后端: " ++ backend ++ " (可选: " ++ ", ".intercalate backends ++ ")"]) ++
  (if depth < 1 then ["MAX_MACRO_DEPTH 必须大于0 (当前: " ++ toString depth ++ ")"] else [])

/-- Makes directories that are missing; answers what went wrong. -/
def makeAll : List String → Files → List String × Files
  | [], fs => ([], fs)
  | directory :: more, fs =>
    if (fs.at? directory).isSome then makeAll more fs
    else
      let (failure, fs) := fs.makeDirectory directory
      let (later, fs) := makeAll more fs
      ((failure.map fun e =>
        "无法创建目录 " ++ directory ++ ": " ++ (Fault.file e).message).toList ++ later, fs)

/-- Checks the settings and makes the directories that they need. -/
def validate (backend : String) (depth : Int) (directories : List String) (fs : Files) :
    List String × Files :=
  let (failures, fs) := makeAll directories fs
  (complaints backend depth ++ failures, fs)

end StoryState.Config
