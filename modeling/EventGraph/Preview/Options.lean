/-!
# Options

The command line of the preview. Options may stand anywhere before `--`; their values follow
as the next argument or after an equals sign. Arguments are read from left to right, and the
first request for help, for the version, or the first misuse decides.
-/

namespace EventGraph.Preview

structure Options where
  /-- Where the graphs are. -/
  directory : String := "."
  graph : Option String := none
  /-- A settings file to be read instead of the one beside the graphs. -/
  config : Option String := none
  /-- A log filter that overrides the configured one. -/
  log : Option String := none
  list : Bool := false
  validateOnly : Bool := false
  force : Bool := false
  deriving Repr, DecidableEq

/-- Why no options come of a command line. -/
inductive Interruption where
  | help
  | version
  | misuse
  deriving Repr, DecidableEq

namespace Options

inductive Flag where
  | list
  | validateOnly
  | force
  deriving Repr, DecidableEq

/-- An option that takes a value. -/
inductive Setting where
  | directory
  | config
  | log
  deriving Repr, DecidableEq

inductive Known where
  | flag (f : Flag)
  | setting (s : Setting)
  | help
  | version
  deriving Repr, DecidableEq

def ofLongName? : String → Option Known
  | "list" => some (.flag .list)
  | "validate-only" => some (.flag .validateOnly)
  | "force" => some (.flag .force)
  | "dir" => some (.setting .directory)
  | "config" => some (.setting .config)
  | "log" => some (.setting .log)
  | "help" => some .help
  | "version" => some .version
  | _ => none

/-- The parts of an argument. -/
inductive Argument where
  /-- The mark after which no options come. -/
  | optionsEnd
  | long (name : String) (value : Option String)
  | short (letter : Char)
  | plain (text : String)
  deriving Repr, DecidableEq

/-- Splits a long option at its first equals sign. -/
def splitLong (cs : List Char) : Argument :=
  match cs.span (· != '=') with
  | (name, _ :: value) => .long (String.ofList name) (some (String.ofList value))
  | (name, []) => .long (String.ofList name) none

def Argument.ofText (text : String) : Argument :=
  match text.toList with
  | ['-', '-'] => .optionsEnd
  | '-' :: '-' :: rest => splitLong rest
  | '-' :: c :: _ => .short c
  | _ => .plain text

/-- What was set so far, each option and the graph at most once. -/
structure Given where
  flags : List Flag := []
  settings : List (Setting × String) := []
  graph : Option String := none

def Given.setFlag (g : Given) (f : Flag) : Except Interruption Given :=
  if f ∈ g.flags then .error .misuse else .ok { g with flags := f :: g.flags }

/-- Sets a value. Paths are not empty. -/
def Given.set (g : Given) (s : Setting) (value : String) : Except Interruption Given :=
  if (g.settings.lookup s).isSome || (value = "" && s != .log) then .error .misuse
  else .ok { g with settings := (s, value) :: g.settings }

def Given.setGraph (g : Given) (graph : String) : Except Interruption Given :=
  if g.graph.isSome then .error .misuse else .ok { g with graph := some graph }

def Given.options (g : Given) : Options where
  directory := (g.settings.lookup .directory).getD "."
  graph := g.graph
  config := g.settings.lookup .config
  log := g.settings.lookup .log
  list := g.flags.contains .list
  validateOnly := g.flags.contains .validateOnly
  force := g.flags.contains .force

/-- Reads the arguments after the mark that ends the options. -/
def readPlain (g : Given) (arguments : List String) : Except Interruption Given :=
  arguments.foldlM Given.setGraph g

/-- Takes in one long option, given with its value or without. A value of its own is awaited
where a setting comes back. -/
def takeLong (g : Given) (name : String) (value : Option String) :
    Except Interruption (Given × Option Setting) :=
  match ofLongName? name, value with
  | some .help, none => .error .help
  | some .version, none => .error .version
  | some (.flag f), none => (g.setFlag f).map (·, none)
  | some (.setting s), some value => (g.set s value).map (·, none)
  | some (.setting s), none => .ok (g, some s)
  | _, _ => .error .misuse

/-- Takes in one argument that is no value of an option. -/
def take (g : Given) : Argument → Except Interruption (Given × Option Setting)
  | .long name value => takeLong g name value
  | .short 'h' => .error .help
  | .short 'V' => .error .version
  | .plain text => (g.setGraph text).map (·, none)
  | .short _ | .optionsEnd => .error .misuse

/-- Reads the arguments that are left. The first is a value where a setting awaits one; a value
is no option. -/
def read (g : Given) (awaiting : Option Setting) : List String → Except Interruption Given
  | [] => if awaiting.isSome then .error .misuse else .ok g
  | argument :: rest => match awaiting, Argument.ofText argument with
    | some s, .plain value => match g.set s value with
      | .ok g => read g none rest
      | .error e => .error e
    | some _, _ => .error .misuse
    | none, .optionsEnd => readPlain g rest
    | none, argument => match take g argument with
      | .ok (g, awaiting) => read g awaiting rest
      | .error e => .error e

def ofArguments (arguments : List String) : Except Interruption Options :=
  (read {} none arguments).map Given.options

end Options

end EventGraph.Preview
