import EventGraph.Graph.Validation
import EventGraph.Playback.Session
import EventGraph.Preview.Config
import EventGraph.Preview.LogFilter
import EventGraph.Preview.Options
import EventGraph.Store.Directory

/-!
# Launching a preview

A launch lists the graphs of a directory, reports the problems of one, or makes it ready to be
played. It logs every problem of the graph, and whatever keeps it from being played.
-/

namespace EventGraph.Preview

/-- Why a preview is not played. -/
inductive Failure where
  | noGraph
  | store (e : StoreError)
  | graph (e : GraphError)
  | faulty (count : Nat)
  | setup (fault : Script.LineFault)
  | unknownStart (id : NodeId)

def Failure.message : Failure → String
  | noGraph => "No graph given, use --list to see the available ones"
  | store e => e.message
  | graph e => e.message
  | faulty count => toString count ++ " validation error(s), rerun with --force to play anyway"
  | setup f => "Setup script failed on line " ++ toString f.line ++ ": " ++ f.fault.message
  | unknownStart id => "Start node '" ++ id ++ "' does not exist"

/-- A story that has been entered. -/
structure Opened where
  story : Story Float32
  state : Playback.State

/-- What is to be done: something is printed, or a story is played. -/
inductive Task where
  | print (text : String)
  | play (opened : Opened)

/-- Runs the setup lines. The first that fails stops the launch. -/
def Config.setUp (c : Config) : Except Failure Storage :=
  match Script.run c.setupSource {} with
  | (storage, []) => .ok storage
  | (_, fault :: _) => .error (.setup fault)

/-- Enters the configured node or else the entry node. -/
def Config.enter (c : Config) (story : Story Float32) (storage : Storage) :
    Except Failure Opened :=
  match c.startNode with
  | none => .ok { story, state := story.start { storage } }
  | some id =>
    if story.graph.contains id then .ok { story, state := story.advance (some id) { storage } }
    else .error (.unknownStart id)

def loadGraph (d : Store.Directory) (name : String) : Except Failure (Graph Float32) := do
  let doc ← (d.load name).mapError .store
  (Graph.ofDocument .standard doc).mapError .graph

/-- What is to be done with a graph. -/
def graphTask (o : Options) (c : Config) (d : Store.Directory) (name : String)
    (g : Graph Float32) : Except Failure Task :=
  let count := g.validateAll.length
  if o.validateOnly then .ok (.print (name ++ ": " ++ toString count ++ " validation error(s)\n"))
  else if count ≠ 0 && c.stopOnValidationErrors && !o.force then .error (.faulty count)
  else do
    let storage ← c.setUp
    let story := { graph := g, bindings := g.visibleVariables (Store.library d) }
    .play <$> c.enter story storage

/-- What is to be done in a directory, and the problems of the graph. -/
def task (o : Options) (c : Config) (d : Store.Directory) : List Issue × Except Failure Task :=
  if o.list then
    ([], (d.names.mapError .store).map fun names =>
      .print (String.join (names.map (· ++ "\n"))))
  else match o.graph with
    | none => ([], .error .noGraph)
    | some name => match loadGraph d name with
      | .error e => ([], .error e)
      | .ok g => (g.validateAll, graphTask o c d name g)

/-- The source of the messages that a launch logs. -/
def logSource : String := "storyflow_preview"

def logged (filter : String) (entries : List LogEntry) : List LogEntry :=
  let filter := LogFilter.ofText filter
  entries.filter fun entry => filter.admits logSource entry.level

/-- What a launch comes to: something printed and an exit code, or a story to be played. -/
inductive Launch where
  | closed (exit : Nat) (output : String) (log : List LogEntry)
  | opened (opened : Opened) (log : List LogEntry)

namespace Launch

def name : String := "storyflow_preview"

def versionText : String := name ++ " 0.1.0\n"

def helpLines : List String := [
  "Dry-run Storyflow event graphs",
  "",
  "Usage: storyflow_preview [OPTIONS] [GRAPH]",
  "",
  "Arguments:",
  "  [GRAPH]  Graph to play",
  "",
  "Options:",
  "      --dir <DIR>        Directory holding the graph documents [default: .]",
  "      --config <CONFIG>  Preview settings file (defaults to storyflow_preview.ron in --dir)",
  "      --log <LOG>        Log filter, overriding the config file",
  "      --list             List the graphs in --dir and exit",
  "      --validate-only    Report validation errors and exit without playing",
  "      --force            Play even if validation fails",
  "  -h, --help             Print help",
  "  -V, --version          Print version"]

def helpText : String := String.join (helpLines.map (· ++ "\n"))

/-- The launch that help, version or misuse comes to. -/
def ofInterruption : Interruption → Launch
  | .help => closed 0 helpText []
  | .version => closed 0 versionText []
  | .misuse => closed 2 "" []

end Launch

/-- Where the configuration is read. -/
def Options.configPath (o : Options) : String :=
  o.config.getD (Store.Directory.join o.directory Config.fileName)

/-- Reads the configuration from what is at its path; where nothing is, the defaults hold. -/
def Config.ofEntry? : Except Disk.Refusal Disk.Entry → Option Config
  | .error _ => some {}
  | .ok entry => entry.text.toOption.bind Config.ofText?

/-- Launches with options, given what is at the path of the configuration and at the path of the
directory. -/
def launch (o : Options) (config directory : Except Disk.Refusal Disk.Entry) : Launch :=
  match Config.ofEntry? config with
  | none =>
    let filter := o.log.getD ({} : Config).logFilter
    .closed 1 "" (logged filter [⟨.error, "Failed to read " ++ o.configPath⟩])
  | some c =>
    let (issues, result) := task o c { path := o.directory, root := directory }
    let warnings := issues.map fun i => LogEntry.mk .warn i.text
    let filter := o.log.getD c.logFilter
    match result with
    | .ok (.print text) => .closed 0 text (logged filter warnings)
    | .ok (.play opened) => .opened opened (logged filter warnings)
    | .error e =>
      .closed 1 "" (logged filter (warnings ++ [⟨.error, "Preview failed: " ++ e.message⟩]))

structure Report where
  exit : Nat
  output : String
  log : List LogEntry

/-- Plays what was opened over a whole input. -/
def Launch.report (input : String) : Launch → Report
  | closed exit output log => ⟨exit, output, log⟩
  | opened o log => ⟨0, (Playback.Session.run o.story o.state input).output, log⟩

/-- Runs a command line in a folder. -/
def run (arguments : List String) (folder : Disk.Entry) (input : String) : Report :=
  let find := folder.find .standard
  ((match Options.ofArguments arguments with
    | .error interruption => .ofInterruption interruption
    | .ok o => launch o (find o.configPath) (find o.directory)) : Launch).report input

end EventGraph.Preview
