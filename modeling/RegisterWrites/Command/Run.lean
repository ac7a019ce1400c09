import RegisterWrites.Command.Arguments
import RegisterWrites.Conversion
import RegisterWrites.FileTree
import RegisterWrites.Options.Decode

/-!
# Carrying out a command line

What a command line asks for, as a `Plan` of reads, prints and writes. A conversion reads the
options file and the register document (`Job.convert`), and its text goes to one place only: the
output file, if one is named, or the standard output (`Job.conclude`). Nothing is written before
everything else has succeeded. A plan is carried out here on a `FileTree` (`Plan.run`).
-/

namespace RegisterWrites.Command

/-- What stopped a conversion. -/
inductive Failure
  | optionsUnreadable (path : String) (cause : FileError)
  | optionsInvalid (path : String) (cause : OptionsError)
  | registersUnreadable (path : String) (cause : FileError)
  | registersInvalid (path : String) (cause : Error)
  | encodingFailed (cause : Error)
  | outputUnwritable (path : String) (cause : FileError)

def Failure.message : Failure → String
  | optionsUnreadable path cause =>
    "failed to read options file '" ++ path ++ "': " ++ cause.message
  | optionsInvalid path cause =>
    "failed to load options file '" ++ path ++ "': invalid options file: " ++ cause.message
  | registersUnreadable path cause =>
    "failed to read register file '" ++ path ++ "': " ++ cause.message
  | registersInvalid path cause =>
    "'" ++ path ++ "' is not a valid register file: " ++ cause.message
  | encodingFailed cause => cause.message
  | outputUnwritable path cause => "failed to write '" ++ path ++ "': " ++ cause.message

namespace Job

/-- The least severe level that the job shows of a log. -/
def threshold (job : Job) : Level :=
  if job.quiet then .error
  else
    match job.verbosity with
    | 0 => .warn
    | 1 => .info
    | 2 => .debug
    | _ => .trace

/-- The options `o` of the options file, with those that the command line gives in their place. -/
def override (job : Job) (o : Options) : Options where
  dialect := if job.bare then .bare else o.dialect
  emission := {
    offsetStyle := if job.prefixOffset then .prefixed else o.emission.offsetStyle
    bytePrefix := job.prefixBytes || o.emission.bytePrefix }
  strictness := job.strictness.getD o.strictness
  maxLength := job.maxLength.or o.maxLength

/-- The options of the options file, or those by default if the job names none. -/
def loadOptions (job : Job) (read : String → Except FileError String) : Except Failure Options :=
  match job.optionsFile with
  | none => .ok {}
  | some path =>
    match read path with
    | .error cause => .error (.optionsUnreadable path cause)
    | .ok text => (Options.read text).mapError (.optionsInvalid path)

/-- The `instructions` in the form for which the job asks. -/
def render (job : Job) (o : Options) (instructions : List Instruction) : Logged Error String :=
  match job.format with
  | .records => pure (Instruction.renderAll instructions)
  | .initializer => do
    return Descriptor.initializers o.emission (← encodeAll o instructions)
  | .table => do
    return Comparison.render o.emission instructions (← encodeAll o instructions)

/-- Converts the document to text, given a way to `read` files. -/
def convert (job : Job) (read : String → Except FileError String) : Logged Failure String := do
  let fileOptions ← Logged.ofExcept (job.loadOptions read)
  let o := job.override fileOptions
  Logged.tell [⟨.debug, .conversion, "options: " ++ o.summary⟩]
  let text ← Logged.ofExcept ((read job.file).mapError (.registersUnreadable job.file))
  let instructions ← (Document.parse text o.dialect).mapError (.registersInvalid job.file)
  (job.render o instructions).mapError .encodingFailed

/-- The lines of the log of `x` that the job shows. -/
def logLines (job : Job) {ε α : Type} (x : Logged ε α) : String :=
  String.join ((x.shown (some job.threshold)).map Entry.line)

end Job

/-! ## Plans -/

/-- What can be seen of a run: its exit code, what it printed, and the files it left. -/
structure Outcome where
  exitCode : Nat
  stdout : String
  stderr : String
  files : FileTree

/-- What a program does, one thing after another, up to its exit code. What comes `next` after a
file was read or written depends on how that went. -/
inductive Plan
  | exit (code : Nat)
  /-- Prints `text` to the standard output. -/
  | print (text : String) (next : Plan)
  /-- Prints `text` to the standard error. -/
  | complain (text : String) (next : Plan)
  | read (path : String) (next : Except FileError String → Plan)
  | write (path text : String) (next : Except FileError Unit → Plan)

namespace Plan

/-- Reads the files at `paths`; `next` is given each path with what was read there. -/
def readAll : List String → (List (String × Except FileError String) → Plan) → Plan
  | [], next => next []
  | path :: paths, next =>
    .read path fun x => readAll paths fun others => next ((path, x) :: others)

/-- The `Outcome` of a plan that is carried out on the files of `tree`. -/
def run : Plan → FileTree → Outcome
  | exit code, tree => ⟨code, "", "", tree⟩
  | print text next, tree =>
    let outcome := next.run tree
    { outcome with stdout := text ++ outcome.stdout }
  | complain text next, tree =>
    let outcome := next.run tree
    { outcome with stderr := text ++ outcome.stderr }
  | read path next, tree => (next (tree.readText path)).run tree
  | write path text next, tree =>
    match tree.write path text.toUTF8 with
    | .ok tree' => (next (.ok ())).run tree'
    | .error cause => (next (.error cause)).run tree

theorem run_readAll (paths : List String) (next : List (String × Except FileError String) → Plan)
    (tree : FileTree) : (readAll paths next).run tree =
      (next (paths.map fun path => (path, tree.readText path))).run tree := by
  induction paths generalizing next with
  | nil => rfl
  | cons path paths ih => exact ih _

end Plan

/-! ## What the command line asks for -/

/-- The last line of a run that fails with `f`. -/
def failureLine (f : Failure) : String := "Error: " ++ f.message ++ "\n"

namespace Job

/-- What is left to do once `convert` has come to `x`: to show its log, and to write its text to
the one place where it belongs, or else to say what stopped it. -/
def conclude (job : Job) (x : Logged Failure String) : Plan :=
  .print (job.logLines x) <|
    match x.result with
    | .error f => .complain (failureLine f) (.exit 1)
    | .ok text =>
      match job.output with
      | none => .print text (.exit 0)
      | some path => .write path text fun
        | .ok () => .exit 0
        | .error cause => .complain (failureLine (.outputUnwritable path cause)) (.exit 1)

/-- All that a conversion does: it reads its files and concludes. -/
def plan (job : Job) : Plan :=
  .readAll (job.optionsFile.toList ++ [job.file]) fun contents =>
    job.conclude (job.convert fun path => (contents.lookup path).getD (.error .notFound))

end Job

def versionLine : String := "regseq 0.1.0\n"

def helpText : String :=
  "Usage: regseq [OPTIONS] --file <FILE>\n\n" ++
    "  -f, --file <FILE>         register document\n" ++
    "      --format <FORMAT>     initializer, records or table\n" ++
    "  -o, --output <FILE>       write to a file\n" ++
    "  -c, --config <FILE>       options file\n" ++
    "      --bare                no comments in the document\n" ++
    "      --prefix-offset       write offsets under 0x\n" ++
    "      --prefix-bytes        write payload bytes under 0x\n" ++
    "      --strict <LEVEL>      off, warn or deny\n" ++
    "      --max-length <BYTES>  size of the buffer\n" ++
    "  -v, --verbose             report more\n" ++
    "  -q, --quiet               report errors only\n" ++
    "  -h, --help                this text\n" ++
    "  -V, --version             the version\n"

namespace ArgumentError

/-- The long name of the option `s`. -/
def settingName (s : Setting) : String :=
  "--" ++ (((longNames.find? fun entry => entry.2 = .setting s).map Prod.fst).getD "")

/-- The long name of the option `f`. -/
def flagName (f : Flag) : String :=
  "--" ++ (((longNames.find? fun entry => entry.2 = .flag f).map Prod.fst).getD "")

def message : ArgumentError → String
  | unknown argument => "unexpected argument '" ++ argument ++ "'"
  | missingValue s => "a value is required for '" ++ settingName s ++ "'"
  | unwantedValue argument => "unexpected value in '" ++ argument ++ "'"
  | invalidValue s text => "invalid value '" ++ text ++ "' for '" ++ settingName s ++ "'"
  | repeatedSetting s => "'" ++ settingName s ++ "' cannot be used multiple times"
  | repeatedFlag f => "'" ++ flagName f ++ "' cannot be used multiple times"
  | quietAndVerbose => "'--quiet' cannot be used with '--verbose'"
  | missingFile => "'--file' is required"

end ArgumentError

/-- What is printed for a command line that is wrong by `e`. -/
def refusal (e : ArgumentError) : String := "error: " ++ e.message ++ "\n\n" ++ helpText

/-- All that a command line does. -/
def plan (arguments : List String) : Plan :=
  match Request.ofArguments arguments with
  | .error e => .complain (refusal e) (.exit 2)
  | .ok .version => .print versionLine (.exit 0)
  | .ok .help => .print helpText (.exit 0)
  | .ok (.convert job) => job.plan

/-- The `Outcome` of a command line on the files of `tree`. -/
def run (arguments : List String) (tree : FileTree) : Outcome := (plan arguments).run tree

end RegisterWrites.Command
