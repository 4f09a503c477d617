/-!
# Arguments of the command line

Options are long: a flag, or a name with a value behind it or behind an equals sign. A value that
begins with a hyphen needs the equals sign. No option may be given twice at one level. The options
about output are taken before and behind the command, and there those behind count.
-/

namespace SchemaContract.CommandLine

inductive Layout where
  | json
  | table
  | pretty
  deriving DecidableEq, Repr

def Layout.ofText? : String → Option Layout
  | "json" => some .json
  | "table" => some .table
  | "pretty" => some .pretty
  | _ => none

/-- Where the schemas of a registry come from, and how they are compiled. -/
structure RegistryOptions where
  directory : Option String
  strict : Bool
  noFormats : Bool
  deriving DecidableEq, Repr

inductive ValueSource where
  | inline (text : String)
  | file (path : String)
  deriving DecidableEq, Repr

inductive Command where
  | check (schema : String) (source : ValueSource) (label : String) (registry : RegistryOptions)
  | schemas (registry : RegistryOptions)
  | version (extended : Bool)
  deriving DecidableEq, Repr

/-- What the arguments ask for. -/
inductive Request where
  | misuse
  | help
  | programVersion
  | run (layout : Layout) (command : Command)
  deriving DecidableEq, Repr

def Command.paths : Command → List String
  | .check _ (.file path) _ registry => path :: registry.directory.toList
  | .check _ (.inline _) _ registry => registry.directory.toList
  | .schemas registry => registry.directory.toList
  | .version _ => []

def Request.paths : Request → List String
  | .run _ command => command.paths
  | _ => []

/-- An option of one level: a flag, or one with a value that has to pass a test. -/
inductive OptionKind where
  | flag
  | value (accepts : String → Bool)

abbrev Options := List (String × OptionKind)

namespace Options

def outputOptions : Options :=
  [("format", .value fun s => (Layout.ofText? s).isSome),
   ("log-format", .value fun s => ["text", "json"].contains s),
   ("log-level", .value fun s => ["error", "warn", "info", "debug", "trace"].contains s)]

def isPath (s : String) : Bool := s != ""

def registryOptions : Options :=
  [("schemas", .value isPath), ("strict", .flag), ("no-formats", .flag)]

def valueOptions : Options :=
  [("json", .value fun _ => true), ("file", .value isPath), ("label", .value fun _ => true)]

def ofCommand? : String → Option Options
  | "check" => some (valueOptions ++ registryOptions ++ outputOptions)
  | "schemas" => some (registryOptions ++ outputOptions)
  | "version" => some (("extended", .flag) :: outputOptions)
  | _ => none

def kind? (options : Options) (name : String) : Option OptionKind :=
  (options.find? fun o => o.1 == name).map (·.2)

end Options

/-- The arguments of one level: options with their values, a flag with an empty one; operands. -/
structure Level where
  given : List (String × String)
  operands : List String
  deriving Repr

namespace Level

def empty : Level := ⟨[], []⟩

def value? (l : Level) (name : String) : Option String :=
  (l.given.find? fun g => g.1 == name).map (·.2)

def has (l : Level) (name : String) : Bool := l.given.any fun g => g.1 == name

def add? (l : Level) (name value : String) : Option Level :=
  if l.has name then none else some { l with given := l.given ++ [(name, value)] }

end Level

inductive Argument where
  | ending
  | long (name : String) (value : Option String)
  | short (first : Char)
  | plain (text : String)
  deriving DecidableEq, Repr

namespace Argument

/-- The text before the first equals sign, and the text behind it if there is one. -/
def splitValue : List Char → List Char × Option (List Char)
  | [] => ([], none)
  | c :: cs =>
    if c = '=' then ([], some cs)
    else
      let (name, value) := splitValue cs
      (c :: name, value)

/-- A lone hyphen is a plain argument. -/
def ofText (text : String) : Argument :=
  match text.toList with
  | ['-', '-'] => .ending
  | '-' :: '-' :: cs =>
    let (name, value) := splitValue cs
    .long (String.ofList name) (value.map String.ofList)
  | '-' :: c :: _ => .short c
  | _ => .plain text

end Argument

/-- Takes a value for an option, if it passes the test of the option and is the first. -/
def takeValue (l : Level) (name value : String) (accepts : String → Bool) : Option Level :=
  if accepts value then l.add? name value else none

/-- Reads the arguments behind a command, and how they end early. -/
def readLevel (options : Options) : List String → Level → Except Request Level
  | [], l => .ok l
  | arg :: rest, l =>
    match Argument.ofText arg with
    | .ending => .ok { l with operands := l.operands ++ rest }
    | .plain text => readLevel options rest { l with operands := l.operands ++ [text] }
    | .short 'h' => .error .help
    | .short _ => .error .misuse
    | .long name attached =>
      match options.kind? name, attached, rest with
      | some .flag, none, rest =>
        match l.add? name "" with
        | some l => readLevel options rest l
        | none => .error .misuse
      | some (.value accepts), some value, rest =>
        match takeValue l name value accepts with
        | some l => readLevel options rest l
        | none => .error .misuse
      | some (.value accepts), none, value :: rest =>
        match Argument.ofText value, takeValue l name value accepts with
        | .plain _, some l => readLevel options rest l
        | _, _ => .error .misuse
      | none, none, _ => if name = "help" then .error .help else .error .misuse
      | _, _, _ => .error .misuse

def RegistryOptions.ofLevel (l : Level) : RegistryOptions :=
  ⟨l.value? "schemas", l.has "strict", l.has "no-formats"⟩

/-- The one source of the value: given inline or in a file, not both. -/
def ValueSource.ofLevel? (l : Level) : Option ValueSource :=
  match l.value? "json", l.value? "file" with
  | some text, none => some (.inline text)
  | none, some path => some (.file path)
  | _, _ => none

def Command.ofLevel? (name : String) (l : Level) : Option Command :=
  match name, l.operands with
  | "check", [schema] =>
    (ValueSource.ofLevel? l).map fun source =>
      .check schema source ((l.value? "label").getD "value") (.ofLevel l)
  | "schemas", [] => some (.schemas (.ofLevel l))
  | "version", [] => some (.version (l.has "extended"))
  | _, _ => none

/-- What the arguments from a command on ask for. -/
def readCommand (name : String) (arguments : List String) (outer : Level) : Request :=
  match Options.ofCommand? name with
  | none => if name = "help" then .help else .misuse
  | some options =>
    match readLevel options arguments .empty with
    | .error request => request
    | .ok l =>
      let layout := (l.value? "format").orElse fun _ => outer.value? "format"
      match Command.ofLevel? name l with
      | some command => .run ((layout.bind Layout.ofText?).getD .json) command
      | none => .misuse

/-- Reads the arguments of the program up to its command. -/
def readProgram : List String → Level → Request
  | [], _ => .misuse
  | arg :: rest, l =>
    match Argument.ofText arg with
    | .ending => .misuse
    | .plain name => readCommand name rest l
    | .short 'V' => .programVersion
    | .short 'h' => .help
    | .short _ => .misuse
    | .long "version" none => .programVersion
    | .long "help" none => .help
    | .long name attached =>
      match Options.outputOptions.kind? name, attached, rest with
      | some (.value accepts), some value, rest =>
        match takeValue l name value accepts with
        | some l => readProgram rest l
        | none => .misuse
      | some (.value accepts), none, value :: rest =>
        match Argument.ofText value, takeValue l name value accepts with
        | .plain _, some l => readProgram rest l
        | _, _ => .misuse
      | _, _, _ => .misuse

/-- What the arguments ask for. Results are laid out as JSON if nothing else is said. -/
def Request.ofArguments (arguments : List String) : Request := readProgram arguments .empty

end SchemaContract.CommandLine
