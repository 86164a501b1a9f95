import Rethrow.Batch
import Rethrow.Log.Basic
import Rethrow.Settings.Load
import Rethrow.Text.Quoted

/-!
# What a run tells

The log lines of each step of a run, in order. They are derived from the same states that
the steps work on, so the steps themselves stay free of them.
-/

namespace Rethrow

open Log

/-- A source as lines show it. -/
def Source.describe : Source → Text
  | .directory root =>
    "DirectorySource \x7b root: ".toList ++ Text.quoted root.text ++ " \x7d".toList
  | .archive path _ =>
    "ArchiveSource \x7b path: ".toList ++ Text.quoted path.text ++ ", .. \x7d".toList

/-- Whether a lookup in a source begins by opening an archive. -/
def Source.isClosed : Source → Bool
  | .archive _ none => true
  | _ => false

namespace Narration

/-- A line that warns of a location that is not there. -/
def absent (path : Path) : Line :=
  { level := .warn, topic := .source,
    message := "Source location ".toList ++ path.text ++
      " does not exist; every lookup through it will fail".toList }

/-- The warnings about locations. -/
def locations (disk : Disk) (paths : List Path) : List Line :=
  (paths.filter fun path => !disk.exists? path).map absent

/-- Where the settings of a run come from. A named file goes without saying. -/
def settings (disk : Disk) (env : Environment) (named : Option Path) : List Line :=
  let line (message : Text) : Line := { level := .debug, topic := .settings, message }
  match named, Settings.found? disk env with
  | some _, _ => []
  | none, some path => [line ("Using configuration ".toList ++ path.text)]
  | none, none => [line "No configuration file found, using defaults".toList]

/-- The lookup of a unit in a chain. -/
def lookup (disk : Disk) (unit : UnitId) : Chain → List Line
  | [] => []
  | source :: rest =>
    let line (level : Level) (message : Text) : Line := { level, topic := .source, message }
    let place := unit.text ++ " in ".toList ++ source.describe
    let opening :=
      if source.isClosed then
        [line .debug ("Opening source archive ".toList ++ source.location.text)]
      else []
    let outcome :=
      match (source.read disk unit).2 with
      | .ok none => lookup disk unit rest
      | .ok (some _) => [line .debug ("Found ".toList ++ place)]
      | .error _ => []
    line .trace ("Looking for ".toList ++ place) :: opening ++ outcome

/-- The reading of a source into a unit. -/
def reading (unit : CompUnit) : List Line :=
  let typeLine (decl : TypeDecl) : Line :=
    { level := .trace, topic := .reading,
      message := "Lowered ".toList ++ decl.keyword ++ ' ' :: decl.name ++ " with ".toList ++
        Text.ofNat decl.members.length ++ " members".toList }
  unit.types.map typeLine ++
    [{ level := .debug, topic := .reading,
       message := "Parsed compilation unit with ".toList ++ Text.ofNat unit.items.length ++
         " items (".toList ++ Text.ofNat unit.types.length ++ " types)".toList }]

/-- The names of the constructors that are worked on, up to one that is refused. -/
def convertedConstructors (options : Options) : List Constructor → List Text
  | [] => []
  | c :: rest =>
    if c.isConvertible then
      match c.strip.wrap options with
      | .ok _ => c.name :: convertedConstructors options rest
      | .error _ => [c.name]
    else convertedConstructors options rest

/-- The work on a type. -/
def wrapping (options : Options) (decl : TypeDecl) : List Line :=
  let line (level : Level) (message : Text) : Line := { level, topic := .wrapper, message }
  let renamed := decl.rename options
  let methods := (decl.procedures.filter Procedure.isConvertible).map Procedure.name
  line .debug ("Renamed type ".toList ++ decl.name ++ " to ".toList ++ renamed.name) ::
    methods.map (fun name => line .trace ("Converting method ".toList ++ name)) ++
    (convertedConstructors options renamed.constructors).map
      fun name => line .trace ("Converting constructor ".toList ++ name)

/-- The work on types, up to one with a refused constructor. -/
def wrappingAll (options : Options) : List TypeDecl → List Line
  | [] => []
  | decl :: rest =>
    wrapping options decl ++
      match (decl.enhance options).refusal with
      | some _ => []
      | none => wrappingAll options rest

/-- The writing of a generated unit. -/
def writing (job : Job) (space : Workspace) (unit : UnitId) (content : Text) : List Line :=
  let output := unit.output job.options
  let path := job.folder.pathFor output
  let start :=
    match Folder.prepare space.disk path with
    | (_, .ok ()) =>
      [{ level := .trace, topic := .folder, message := "Writing ".toList ++ path.text }]
    | (_, .error _) => []
  let finish :=
    match job.write space unit content with
    | (_, .ok output) =>
      [{ level := .info, topic := .batch, message := "Created ".toList ++ output.fileName }]
    | (_, .error _) => []
  start ++ finish

/-- The way of one unit. -/
def unit (job : Job) (space : Workspace) (unit : UnitId) : List Line :=
  lookup space.disk unit space.chain ++
    match Job.read space unit with
    | (_, .error _) => []
    | (space, .ok source) =>
      match CompUnit.read? source with
      | none => []
      | some tree =>
        let worked := tree.enhance job.options
        reading tree ++ wrappingAll job.options tree.types ++
          match worked.refusal with
          | some _ => []
          | none => writing job space unit worked.value.render

/-- The way of all units, or of those up to the first that fails. -/
def units (job : Job) (failFast : Bool) (space : Workspace) : List UnitId → List Line
  | [] => []
  | id :: rest =>
    unit job space id ++
      match job.transform space id with
      | (_, .error _) => if failFast then [] else units job failFast (job.transform space id).1 rest
      | (space, .ok _) => units job failFast space rest

/-- The start of a batch. -/
def start (count : Nat) (failFast : Bool) : Line :=
  { level := .debug, topic := .batch,
    message := "Transforming ".toList ++ Text.ofNat count ++ " units".toList ++
      if failFast then " (fail fast)".toList else [] }

/-- The report of a unit that failed. -/
def failure (e : Failure) : Line :=
  { level := .error, topic := .command, message := e.report }

/-- The number of units that failed. -/
def summary (failed count : Nat) : Line :=
  { level := .error, topic := .command,
    message := Text.ofNat failed ++ " of ".toList ++ Text.ofNat count ++
      " classes failed".toList }

/-- The line of a run without classes. -/
def idle : Line :=
  { level := .info, topic := .command,
    message := "No classes configured, nothing to do".toList }

end Narration

end Rethrow
