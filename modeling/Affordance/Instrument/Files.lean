import Affordance.Handler.Generation
import Affordance.Handler.Module
import Affordance.Instrument.Source

/-!
# Instrumenting files

  * `instrumentBatch`: every file of a batch is instrumented.  A file of an unsupported
    type stops the batch before it begins; a file that cannot be read or parsed is reported
    and the others go on.
  * `writeBeside`: the handlers of the selected tools are generated and written beside
    the source file.
-/

namespace Affordance

open Affordance.Text

/-! ## 1. Files -/

/-- What files are instrumented with. -/
structure Workbench where
  disk : Disk
  /-- Settings for all files; without them each file has those of its directory. -/
  config : Option Config := none
  prober : String → ProbeRun
  /-- The address of the running page. -/
  url : Option String := none

/-- The text of a source file. -/
def sourceText (d : Disk) (path : String) : Except Failure String :=
  match pathFault? path with
  | some f => .error (.noOctets f)
  | none =>
    match d.read path with
    | .ok s => .ok (String.ofList s)
    | .error .noPath => .error .noPath
    | .error .noFile => .error (.problem (.notFound path))
    | .error (.noText _) => .error (.problem (.parseFailed path "file is not valid UTF-8 text"))

/-- The settings for a source file. -/
def settingsFor (d : Disk) (config : Option Config) (path : String) :
    Except ConfigFault Config :=
  match config with
  | some c => .ok c
  | none => ConfigFile.loadNearest d (Path.parent (Path.absolute d.home path))

/-- The settings and the text of a source file. -/
def openSource (w : Workbench) (path : String) : Except Stop (Config × String) := do
  let _ ← (SourceFile.frameworkOf path).mapError (.source ∘ .problem)
  let c ← (settingsFor w.disk w.config path).mapError .config
  return (c, ← (sourceText w.disk path).mapError .source)

/-- What comes of a source file. -/
def instrumentAt (w : Workbench) (path : String) : Told (Except Stop Instrumentation) :=
  match openSource w path with
  | .error e => .silent (.error e)
  | .ok (c, source) => instrument (some c) w.prober w.url source path

/-- The analysis of a source file. -/
def analyzeFile (d : Disk) (path : String) : Except Failure Analysis := do
  let _ ← (SourceFile.frameworkOf path).mapError .problem
  SourceFile.analyze (← sourceText d path) path

/-! ## 2. Batches -/

/-- The problem that is reported for one file of a batch. -/
def Stop.reported : Stop → Option Problem
  | .source (.problem (.parseFailed file detail)) => some (.parseFailed file detail)
  | .source (.problem (.notFound path)) => some (.notFound path)
  | _ => none

/-- What is told of a file that is reported. -/
def reportedLine (path : String) (p : Problem) : String :=
  "[skill.instrument] " ++ path ++ ": " ++ p.code ++ "\n"

/-- What comes of one file of a batch. -/
def instrumentMember (w : Workbench) (path : String) : Told (Except Stop Instrumentation) :=
  let t := instrumentAt w path
  match t.value with
  | .ok r => ⟨t.log, .ok r⟩
  | .error e =>
    match e.reported with
    | some p => ⟨t.log ++ reportedLine path p, .ok ⟨path, .failed p, none⟩⟩
    | none => ⟨t.log, .error e⟩

/-- What comes of files of supported types. -/
def instrumentAll (w : Workbench) (paths : List String) :
    Told (Except Stop (List Instrumentation)) :=
  Told.inTurn (instrumentMember w) paths

/-- The problem of the first file of an unsupported type. -/
def unsupported? (paths : List String) : Option Problem :=
  paths.findSome? fun p =>
    match SourceFile.frameworkOf p with
    | .error e => some e
    | .ok _ => none

/-- What comes of the files of a batch. -/
def instrumentBatch (w : Workbench) (paths : List String) :
    Told (Except Stop (List Instrumentation)) :=
  match unsupported? paths with
  | some p => .silent (.error (.source (.problem p)))
  | none => instrumentAll w paths

/-! ## 3. Handlers -/

/-- The path of the module beside a source file. -/
def modulePath (c : Config) (source : String) : String :=
  (Path.splitExtension source).1 ++ c.output.fileExtension

/-- The tools that handlers are generated for. -/
def chosenTools (all : Bool) (r : Instrumentation) : List Proposal :=
  r.outcome.proposals.filter fun p => all || p.selected

/-- The disk and the cache that handlers are generated on. -/
structure HandlerStore where
  disk : Disk
  cache : BodyCache

/-- The bodies of tools' handlers, one after another, by the names of the tools. -/
def generateAll (writer : Option Writer) (temperature : Temperature) (time : Int) :
    HandlerStore → List Proposal →
      Told (HandlerStore × Except Disk.WriteFault (List (String × String)))
  | store, [] => .silent (store, .ok [])
  | store, p :: rest =>
    let t := generateHandler store.disk store.cache p writer none temperature time
    match t.value.answer with
    | .error f => ⟨t.log, (⟨f.disk, t.value.cache⟩, .error f.fault)⟩
    | .ok (body, d) =>
      let later := generateAll writer temperature time ⟨d, t.value.cache⟩ rest
      (later.map fun (store, bodies) => (store, bodies.map ((p.name, body) :: ·))).after t.log

/-- What is told of a written module. -/
def writtenLine (tools : List Proposal) (path : String) : String :=
  "[skill.instrument] wrote " ++ toString tools.length ++ " tool(s) -> " ++ path ++ "\n"

/-- The module of tools written beside their source file. -/
def writeModule (c : Config) (tools : List Proposal) (bodies : List (String × String))
    (path : String) (store : HandlerStore) :
    Told (HandlerStore × Except Disk.WriteFault Unit) :=
  match store.disk.attempt path (moduleText c.output.format bodies tools) with
  | (d, .error f) => .silent ({ store with disk := d }, .error f)
  | (d, .ok ()) => ⟨writtenLine tools path, ({ store with disk := d }, .ok ())⟩

/-- The handlers of a source file's tools generated and written; without tools nothing is
    written. -/
def writeBeside (c : Config) (writer : Option Writer) (all : Bool) (time : Int)
    (store : HandlerStore) (r : Instrumentation) :
    Told (HandlerStore × Except Disk.WriteFault Unit) :=
  let tools := chosenTools all r
  if tools.isEmpty then .silent (store, .ok ())
  else
    let generated := generateAll writer (.measure c.llm.temperature) time store tools
    match generated.value with
    | (store, .error f) => ⟨generated.log, (store, .error f)⟩
    | (store, .ok bodies) =>
      (writeModule c tools bodies (modulePath c r.fileName) store).after generated.log

end Affordance
