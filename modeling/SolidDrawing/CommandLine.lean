import SolidDrawing.Job.Encoding
import SolidDrawing.Job.Run
import SolidDrawing.LogFilter
import SolidDrawing.Settings.Reader

/-!
# The command line

`CommandLine.parse?` reads the arguments, `CommandLine.execute` carries out what they ask for. What is printed, what
is logged and how the program exits is its result; only access to files and to the input is left to the caller.
-/

namespace SolidDrawing.CommandLine

/-- What to run: the file of the job, which is the input if none is given, and the file of the settings. -/
structure Options where
  job : Option String := none
  settings : Option String := none
  compact : Bool := false
  deriving Repr, DecidableEq

/-- What the arguments ask for. -/
inductive Request where
  | help
  | version
  | run (options : Options)
  deriving Repr, DecidableEq

/-- The name and the version of the program. -/
def versionText : String := "drawing-job 0.1.0\n"

/-- The description of the arguments. -/
def helpText : String :=
  "Build a solid and export its drawing\n\nUsage: drawing-job [OPTIONS] [JOB]\n\nArguments:\n" ++
    "  [JOB]  Job JSON file; read from stdin when omitted\n\nOptions:\n" ++
    "      --config <CONFIG>  RON configuration file\n" ++
    "      --compact          Print the result on a single line\n" ++
    "  -h, --help             Print help\n" ++
    "  -V, --version          Print version\n"

/-- Takes an argument as the file of the job. It must be the only one, and not empty. -/
def Options.setJob? (o : Options) (arg : String) : Option Options :=
  if o.job.isSome || arg.isEmpty then none else some { o with job := some arg }

/-- Takes an argument as the file of the settings. -/
def Options.setSettings? (o : Options) (arg : String) : Option Options :=
  if o.settings.isSome || arg.isEmpty then none else some { o with settings := some arg }

/-- Reads arguments behind two hyphens, all of them files. -/
def parseFiles? (o : Options) : List String → Option Request
  | [] => some (.run o)
  | arg :: rest => (o.setJob? arg).bind fun o => parseFiles? o rest

/-- Reads arguments behind those that gave `o`. -/
def parseFrom? (o : Options) : List String → Option Request
  | [] => some (.run o)
  | "--" :: rest => parseFiles? o rest
  | "--help" :: _ => some .help
  | "--version" :: _ => some .version
  | "--compact" :: rest => if o.compact then none else parseFrom? { o with compact := true } rest
  | "--config" :: value :: rest =>
    if value.startsWith "-" && value != "-" then none
    else (o.setSettings? value).bind fun o => parseFrom? o rest
  | arg :: rest =>
    if arg.startsWith "--config=" then
      (o.setSettings? (String.ofList (arg.toList.drop 9))).bind fun o => parseFrom? o rest
    else if arg.startsWith "-h" then some .help
    else if arg.startsWith "-V" then some .version
    else if arg.startsWith "-" && arg != "-" then none
    else (o.setJob? arg).bind fun o => parseFrom? o rest

/-- Reads the arguments. -/
def parse? (args : List String) : Option Request := parseFrom? {} args

/-- How a run of the program ends. -/
structure Outcome where
  exitCode : Nat
  /-- What is printed. -/
  output : String
  /-- The error that is logged. -/
  logged : Option JobError

/-- The name under which the program logs its errors. -/
def logName : String := "drawing_job"

/-- The fields with which the program logs its errors. -/
def logFields : List String := ["message"]

/-- Whether errors are logged, by the filter of the environment if there is one that can be read, and else by that of
the settings. -/
def showsErrors? (environment : Option String) (settings : String) : Option Bool :=
  (LogFilter.firstOf? environment settings).map (LogFilter.showsErrors logName logFields)

/-- A character of a logged text. Control characters that a terminal obeys are given by their numbers. -/
def logChar (c : Char) : List Char :=
  if c == '\x07' || c == '\x08' || c == '\x0c' || c == '\x1b' || c == '\x7f' then
    let digits := Nat.toDigits 16 c.toNat
    ['\\', 'x'] ++ List.replicate (2 - digits.length) '0' ++ digits
  else if 0x80 ≤ c.toNat ∧ c.toNat ≤ 0x9F then Text.numberEscape c
  else [c]

/-- The text of an error as it is logged. -/
def logText (e : JobError) : String := String.ofList (e.message.toList.flatMap logChar)

/-- The settings in a file, or the defaults. -/
def loadSettings {m : Type → Type} [Monad m] (fs : FileSystem m) : Option String → ExceptT SettingsError m Settings
  | none => pure {}
  | some path => do
    let text ← (fs.read ⟨path⟩).adapt .io
    match Settings.parse? text with
    | some s => return s
    | none => throw .malformed

/-- The text of a job, from a file or from the input. -/
def loadJob {m : Type → Type} [Monad m] (fs : FileSystem m) (input : ExceptT String m String) :
    Option String → ExceptT JobError m String
  | none => input.adapt .io
  | some path => (fs.read ⟨path⟩).adapt fun reason => .io (path ++ ": " ++ reason)

/-- Runs a job and gives the text of its report. -/
def runJob {m : Type → Type} [Monad m] (fs : FileSystem m) (input : ExceptT String m String) (names : JobNames)
    (o : Options) (s : Settings) : ExceptT JobError m String := do
  let text ← loadJob fs input o.job
  let job ← liftAs .invalid (Job.parse text)
  let report ← s.runJob fs names job
  return (if o.compact then report.toJson.compact else report.toJson.pretty) ++ "\n"

/-- Runs a job with the settings, if they could be read, and gives its outcome. -/
def outcome {m : Type → Type} [Monad m] (fs : FileSystem m) (input : ExceptT String m String) (names : JobNames)
    (o : Options) (settings : Except SettingsError Settings) (shows : Bool) : m Outcome := do
  let result ← match settings with
    | .ok s => (runJob fs input names o s).run
    | .error e => pure (.error (.settings e))
  match result with
  | .ok text => return ⟨0, text, none⟩
  | .error e => return ⟨1, "", if shows then some e else none⟩

/-- Carries out what the arguments ask for. `environment` is the log filter of the environment. With a log filter that
cannot be read at all nothing is run. -/
def execute {m : Type → Type} [Monad m] (fs : FileSystem m) (input : ExceptT String m String) (names : JobNames)
    (environment : Option String) (args : List String) : m Outcome := do
  match parse? args with
  | none => return ⟨2, "", none⟩
  | some .help => return ⟨0, helpText, none⟩
  | some .version => return ⟨0, versionText, none⟩
  | some (.run o) =>
    let settings ← (loadSettings fs o.settings).run
    let filter := match settings with
      | .ok s => s.effectiveLogFilter
      | .error _ => Settings.defaultLogFilter
    match showsErrors? environment filter with
    | none => return ⟨101, "", none⟩
    | some shows => outcome fs input names o settings shows

end SolidDrawing.CommandLine
