import RegisterWrites.Command.Run

/-!
# The program

Plans carried out on the system: `Plan.perform` does what `Plan.run` says of a `FileTree`. What
is done, and in which order, is decided in `RegisterWrites.Command`.
-/

namespace RegisterWrites.Command

/-- The cause of a failed access to a file. -/
def fileError : IO.Error → FileError
  | .noFileOrDirectory .. => .notFound
  | .inappropriateType _ code _ => if code = 20 then .notDirectory else .isDirectory
  | e => .other (toString e)

def readFile (path : String) : IO (Except FileError String) := do
  try
    let bytes ← IO.FS.readBinFile path
    match String.fromUTF8? bytes with
    | some text => return .ok text
    | none => return .error .notText
  catch e => return .error (fileError e)

def writeFile (path text : String) : IO (Except FileError Unit) := do
  try
    IO.FS.writeFile path text
    return .ok ()
  catch e => return .error (fileError e)

/-- Carries out a plan on the system, up to its exit code. -/
def Plan.perform : Plan → IO UInt32
  | exit code => return UInt32.ofNat code
  | print text next => do
    IO.print text
    next.perform
  | complain text next => do
    IO.eprint text
    next.perform
  | read path next => do (next (← readFile path)).perform
  | write path text next => do (next (← writeFile path text)).perform

end RegisterWrites.Command

/-- Carries out what the command line asks for. -/
def main (arguments : List String) : IO UInt32 :=
  (RegisterWrites.Command.plan arguments).perform
