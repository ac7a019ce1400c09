import RegisterWrites.Options

/-!
# The command line

What a command line asks for (`Request.ofArguments`): a conversion (`Job`), the version or help.
A job says which files to read and write, in which form, and which options to take over those of the
options file. Arguments are taken one by one into a `Draft`; the first that is wrong ends the
reading, and so does a request for the version or for help.
-/

namespace RegisterWrites.Command

inductive Format
  /-- Descriptors as initializers. -/
  | initializer
  /-- The instructions as they were read. -/
  | records
  /-- Instructions and descriptors side by side. -/
  | table
  deriving DecidableEq, Repr

namespace Format

def name : Format → String
  | initializer => "initializer"
  | records => "records"
  | table => "table"

def ofName? (text : String) : Option Format :=
  [initializer, records, table].find? (·.name = text)

end Format

/-- What one conversion is asked to do. -/
structure Job where
  file : String
  format : Format
  /-- The file to write; the standard output if there is none. -/
  output : Option String
  optionsFile : Option String
  bare : Bool
  prefixOffset : Bool
  prefixBytes : Bool
  strictness : Option Strictness
  maxLength : Option Nat
  /-- How often more reports were asked for. -/
  verbosity : Nat
  /-- Whether only errors are reported. -/
  quiet : Bool
  deriving DecidableEq, Repr

inductive Request
  | convert (job : Job)
  | version
  | help
  deriving DecidableEq, Repr

/-- An option with a value. -/
inductive Setting
  | file
  | format
  | output
  | optionsFile
  | strictness
  | maxLength
  deriving DecidableEq, Repr

/-- An option without a value. -/
inductive Flag
  | bare
  | prefixOffset
  | prefixBytes
  | verbose
  | quiet
  deriving DecidableEq, Repr

inductive Switch
  | setting (s : Setting)
  | flag (f : Flag)
  | version
  | help
  deriving DecidableEq, Repr

inductive ArgumentError
  | unknown (argument : String)
  | missingValue (s : Setting)
  | unwantedValue (argument : String)
  | invalidValue (s : Setting) (text : String)
  | repeatedSetting (s : Setting)
  | repeatedFlag (f : Flag)
  | quietAndVerbose
  | missingFile
  deriving DecidableEq, Repr

/-! ## Names -/

/-- The options by their long names. -/
def longNames : List (String × Switch) :=
  [("file", .setting .file), ("format", .setting .format), ("output", .setting .output),
    ("config", .setting .optionsFile), ("bare", .flag .bare),
    ("prefix-offset", .flag .prefixOffset), ("prefix-bytes", .flag .prefixBytes),
    ("strict", .setting .strictness), ("max-length", .setting .maxLength),
    ("verbose", .flag .verbose), ("quiet", .flag .quiet), ("help", .help), ("version", .version)]

/-- The options that have a short name. -/
def shortNames : List (Char × Switch) :=
  [('f', .setting .file), ('o', .setting .output), ('c', .setting .optionsFile),
    ('v', .flag .verbose), ('q', .flag .quiet), ('h', .help), ('V', .version)]

/-! ## What was given so far -/

/-- The options given so far. Each is given at most once, but for `verbosity`, which counts. -/
structure Draft where
  file : Option String := none
  format : Option Format := none
  output : Option String := none
  optionsFile : Option String := none
  bare : Bool := false
  prefixOffset : Bool := false
  prefixBytes : Bool := false
  strictness : Option Strictness := none
  maxLength : Option Nat := none
  verbosity : Nat := 0
  quiet : Bool := false
  deriving DecidableEq, Repr

/-- A path: any `text` but the empty one. -/
def path? (text : String) : Option String := if text = "" then none else some text

/-- The number below 2 ^ 64 that `text` writes in decimal digits, perhaps behind a plus. -/
def count? (text : String) : Option Nat :=
  let digits :=
    match text.toList with
    | '+' :: rest => rest
    | cs => cs
  let n := Nat.ofDigitChars 10 digits 0
  if digits ≠ [] ∧ digits.all Char.isDigit ∧ n < UInt64.size then some n else none

namespace Draft

/-- The value that `text` writes, as `read?` reads it, for an option `s` that has no value yet. -/
def fill {α : Type} (s : Setting) (old : Option α) (read? : String → Option α) (text : String) :
    Except ArgumentError (Option α) :=
  match read? text, old with
  | none, _ => .error (.invalidValue s text)
  | some _, some _ => .error (.repeatedSetting s)
  | some a, none => .ok (some a)

def assign (d : Draft) (s : Setting) (text : String) : Except ArgumentError Draft :=
  match s with
  | .file => do return { d with file := ← fill s d.file path? text }
  | .format => do return { d with format := ← fill s d.format Format.ofName? text }
  | .output => do return { d with output := ← fill s d.output path? text }
  | .optionsFile => do return { d with optionsFile := ← fill s d.optionsFile path? text }
  | .strictness => do
    return { d with strictness := ← fill s d.strictness Strictness.ofName? text }
  | .maxLength => do return { d with maxLength := ← fill s d.maxLength count? text }

/-- Raises the flag `f`, which is up already if `old` says so. -/
def up (f : Flag) (old : Bool) : Except ArgumentError Bool :=
  if old then .error (.repeatedFlag f) else .ok true

def raise (d : Draft) (f : Flag) : Except ArgumentError Draft :=
  match f with
  | .bare => do return { d with bare := ← up f d.bare }
  | .prefixOffset => do return { d with prefixOffset := ← up f d.prefixOffset }
  | .prefixBytes => do return { d with prefixBytes := ← up f d.prefixBytes }
  | .verbose => return { d with verbosity := d.verbosity + 1 }
  | .quiet => do return { d with quiet := ← up f d.quiet }

/-- The job of the draft `d`, once all the arguments have been taken. -/
def finish (d : Draft) : Except ArgumentError Job :=
  if d.quiet ∧ 0 < d.verbosity then .error .quietAndVerbose
  else
    match d.file with
    | none => .error .missingFile
    | some file =>
      .ok {
        file
        format := d.format.getD .initializer
        output := d.output
        optionsFile := d.optionsFile
        bare := d.bare
        prefixOffset := d.prefixOffset
        prefixBytes := d.prefixBytes
        strictness := d.strictness
        maxLength := d.maxLength
        verbosity := d.verbosity
        quiet := d.quiet }

end Draft

/-! ## Reading arguments -/

/-- What an argument leads to. -/
inductive Step
  | go (d : Draft)
  /-- The next argument is the value of `s`. -/
  | await (d : Draft) (s : Setting)
  /-- No more arguments are read. -/
  | stop (r : Request)

/-- The value that stands behind a short option in its own argument, an equals sign between them or
not. -/
def attachedValue : List Char → String
  | '=' :: cs => String.ofList cs
  | cs => String.ofList cs

/-- Takes the short options that stand together behind one dash in `argument`. -/
def takeCluster (argument : String) : Draft → List Char → Except ArgumentError Step
  | d, [] => .ok (.go d)
  | d, c :: cs =>
    match shortNames.lookup c with
    | none => .error (.unknown argument)
    | some .version => .ok (.stop .version)
    | some .help => .ok (.stop .help)
    | some (.flag f) => do takeCluster argument (← d.raise f) cs
    | some (.setting s) =>
      if cs = [] then .ok (.await d s)
      else do return .go (← d.assign s (attachedValue cs))

/-- A long option split at its first equals sign: its name, and its value if there is one. -/
def splitLong (cs : List Char) : String × Option String :=
  let name := String.ofList (cs.takeWhile (· ≠ '='))
  match cs.dropWhile (· ≠ '=') with
  | [] => (name, none)
  | _ :: value => (name, some (String.ofList value))

/-- Takes a long option, of which `cs` is what stands behind the two dashes of `argument`. -/
def takeLong (argument : String) (d : Draft) (cs : List Char) : Except ArgumentError Step :=
  let (name, value) := splitLong cs
  match longNames.lookup name, value with
  | none, _ => .error (.unknown argument)
  | some (.setting s), some text => do return .go (← d.assign s text)
  | some (.setting s), none => .ok (.await d s)
  | some _, some _ => .error (.unwantedValue argument)
  | some (.flag f), none => do return .go (← d.raise f)
  | some .version, none => .ok (.stop .version)
  | some .help, none => .ok (.stop .help)

def takeArgument (d : Draft) (argument : String) : Except ArgumentError Step :=
  match argument.toList with
  | '-' :: '-' :: cs => takeLong argument d cs
  | '-' :: c :: cs => takeCluster argument d (c :: cs)
  | _ => .error (.unknown argument)

/-- Whether `argument` can be the value of the option before it: it does not begin with a dash, or
is one. -/
def isValue (argument : String) : Bool :=
  argument = "-" || argument.toList.head? ≠ some '-'

/-- Takes all the arguments. Two dashes alone end the options, and nothing may follow. -/
def takeArguments : Draft → List String → Except ArgumentError Request
  | d, [] => do return .convert (← d.finish)
  | d, argument :: rest =>
    if argument = "--" then
      match rest with
      | [] => do return .convert (← d.finish)
      | extra :: _ => .error (.unknown extra)
    else
      match takeArgument d argument with
      | .error e => .error e
      | .ok (.stop r) => .ok r
      | .ok (.go d) => takeArguments d rest
      | .ok (.await d s) =>
        match rest with
        | [] => .error (.missingValue s)
        | value :: rest =>
          if isValue value then
            match d.assign s value with
            | .error e => .error e
            | .ok d => takeArguments d rest
          else .error (.missingValue s)

def Request.ofArguments (arguments : List String) : Except ArgumentError Request :=
  takeArguments {} arguments

end RegisterWrites.Command
