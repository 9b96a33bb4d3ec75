import SourceAtlas.Schema.Checked
import SourceAtlas.Text.Utf8
import SourceAtlas.Yaml.Value

/-! Settings of a project: what is skipped, where the snapshot is kept, how long
the assistant may take. -/

namespace SourceAtlas

/-- The settings of a project. -/
structure Settings where
  /-- The directory names that are skipped at any depth. -/
  ignoreDirs : List String :=
    [".code-index", ".git", ".venv", "__pycache__", "build", "coverage", "dist",
      "node_modules", "venv"]
  /-- The patterns for file names that are skipped. -/
  ignoreFiles : List String := ["*.min.js", "*.bundle.js", "*.d.ts"]
  /-- Files with more bytes are skipped. -/
  maxFileSize : Int := 1048576
  /-- The directory of the stored snapshot, seen from the project. -/
  cacheDir : String := ".code-index/cache"
  cacheFile : String := "code-index.json"
  /-- The seconds in which the assistant must have started. -/
  llmInitTimeout : Binary64 := Binary64.ofQuotient false 10 1

namespace Settings

/-- The name of the settings file of a project. -/
def fileName : String := ".code-index.yaml"

/-- The settings as a record. -/
def toJson (settings : Settings) : Json :=
  -- The fields stand in the order in which they are read.
  .obj [("ignore_dirs", .strings settings.ignoreDirs),
    ("ignore_files", .strings settings.ignoreFiles),
    ("max_file_size", .int settings.maxFileSize), ("cache_dir", .str settings.cacheDir),
    ("cache_file", .str settings.cacheFile), ("llm_init_timeout", .float settings.llmInitTimeout)]

/-- Reads settings; what is left out has its usual value. -/
def read : FieldReader Settings :=
  FieldReader.record fun fields =>
    -- Null is a value, and no way of leaving one out.
    let usual : Settings := {}
    Settings.mk
    <$> defaultField fields "ignore_dirs" (FieldReader.array FieldReader.text) usual.ignoreDirs
    <*> defaultField fields "ignore_files" (FieldReader.array FieldReader.text) usual.ignoreFiles
    <*> defaultField fields "max_file_size" FieldReader.integer usual.maxFileSize
    <*> defaultField fields "cache_dir" FieldReader.text usual.cacheDir
    <*> defaultField fields "cache_file" FieldReader.text usual.cacheFile
    <*> defaultField fields "llm_init_timeout" FieldReader.number usual.llmInitTimeout

end Settings

/-- Why settings cannot be loaded. -/
inductive SettingsFault where
  /-- The file is no UTF-8. -/
  | undecodable
  /-- The file holds a value that cannot be built. -/
  | unbuildable (fault : Yaml.Fault)
  /-- The values do not fit the settings. -/
  | invalid (errors : List FieldError)

/-- Why a settings file is passed over. -/
inductive SettingsWarning where
  | malformed
  | notMapping

namespace Settings

/-- The entries of a settings file, or why it is passed over; an empty
value counts as no entries. -/
def entriesOf (bytes : ByteArray) : Except SettingsFault (Assoc Json × List SettingsWarning) :=
  -- A file that is no mapping is passed over, but one that holds nothing is not warned about.
  match decodeText? bytes with
  | none => .error .undecodable
  | some text =>
    match Yaml.load text with
    | .error .malformed => .ok ([], [.malformed])
    | .error fault => .error (.unbuildable fault)
    | .ok (.mapping entries) => .ok (Assoc.putAll [] (Yaml.Value.toFields entries), [])
    | .ok value => .ok ([], if value.truthy then [.notMapping] else [])

/-- The settings of a file, if there is one, with the overrides that are not null put over them. -/
def load (file : Option ByteArray) (overrides : Assoc Json) :
    Except SettingsFault (Settings × List SettingsWarning) := do
  -- A project without a file has the usual settings, with the overrides.
  let (entries, warnings) ← match file with
    | some bytes => entriesOf bytes
    | none => .ok ([], [])
  -- An override of null asks for nothing.
  let given := overrides.filter fun entry => match entry.2 with
    | .null => false
    | _ => true
  match read (.obj (entries.putAll given)) with
  | .good settings => return (settings, warnings)
  | .bad errors => .error (.invalid errors)

end Settings

end SourceAtlas
