import VideoCodec.Config.Json
/-!
# The configuration command line

The command resolves encoder options given as `key=value` arguments, offline,
and prints the resulting session parameters as JSON: indented by default, on
one line with `--compact`. `--reconfigure LIST` applies a reconfiguration
given as a comma-separated `key=value` list on top of the resolved session.

Arguments are read left to right. `--help` or `-h` stops with the usage, and
so does a `--reconfigure` with nothing after it. All other arguments are
joined with blanks and read as `key=value` words; the reconfiguration list is
read the same way after its commas become blanks. A malformed word, or a
failure to resolve or to reconfigure, ends the command with exit code 1 and
nothing on standard output; a stop of the program ends it with exit code 101.
-/

namespace VideoCodec.Cli

/-- What the command was asked to do. -/
structure Invocation where
  options : EncoderOptions
  reconfigure : Option EncoderOptions
  compact : Bool
  deriving DecidableEq, Repr

/-- What the command writes and how it ends. -/
structure Outcome where
  exitCode : Nat
  stdout : String
  stderr : String
  deriving DecidableEq, Repr

/-- The usage text. -/
def usage : String :=
  "Usage: nvenc-config [OPTIONS] <key=value>...\n\nOptions:\n" ++
  "  --reconfigure <key=value,...>   Apply a reconfiguration on top of the resolved session\n" ++
  "  --compact                       Print JSON on one line\n\nExamples:\n" ++
  "  nvenc-config codec=hevc s=1920x1080 tuning_info=low_latency bitrate=4M\n" ++
  "  nvenc-config codec=av1 gop=30 bf=3 --reconfigure bitrate=2M,fps=60\n"

/-- The arguments sorted into pairs, a reconfiguration list and the compact
flag; `none` when the usage is asked for or a list is missing. -/
def scan : List String → List String → Option String → Bool →
    Except String (List String × Option String × Bool)
  | [], pairs, r, c => .ok (pairs, r, c)
  | "--reconfigure" :: rest, pairs, _, c =>
    match rest with
    | list :: rest' => scan rest' pairs (some (list.map fun ch => if ch = ',' then ' ' else ch)) c
    | [] => .error "Error: --reconfigure requires a key=value list\n"
  | "--compact" :: rest, pairs, r, _ => scan rest pairs r true
  | "--help" :: _, _, _, _ => .error ""
  | "-h" :: _, _, _, _ => .error ""
  | a :: rest, pairs, r, c => scan rest (pairs ++ [a]) r c

/-- The line a malformed argument writes to standard error. -/
def errorLine (e : CodecError) : String := "Error: " ++ e.message ++ "\n"

/-- Reads the arguments; a failure carries what goes to standard error
before the usage. -/
def parseArgs (args : List String) : Except String Invocation := do
  let (pairs, r, compact) ← scan args [] none false
  let options ← (EncoderOptions.parsePairs (" ".intercalate pairs)).mapError errorLine
  let reconfigure ← match r with
    | some list => some <$> (EncoderOptions.parsePairs list).mapError errorLine
    | none => pure none
  pure { options := options, reconfigure := reconfigure, compact := compact }

/-- The text of a failed run's error, with its context. -/
def failure (context : String) (e : CodecError) : String :=
  "Error: " ++ context ++ "\n\nCaused by:\n    " ++ e.message ++ "\n"

/-- How a failed step ends the command: a stop of the program ends it with
exit code 101 and its text, a reported failure with exit code 1 and the
failure in its context. -/
def abort (context : String) (e : CodecError) : Outcome :=
  match e with
  | .halted s => ⟨101, "", s ++ "\n"⟩
  | _ => ⟨1, "", failure context e⟩

/-- Runs the command. -/
def run (args : List String) : Outcome :=
  match parseArgs args with
  | .error msg => ⟨1, "", msg ++ usage⟩
  | .ok inv =>
    match resolve inv.options with
    | .error e => abort "failed to resolve encoder options" e
    | .ok params =>
      let final := match inv.reconfigure with
        | some o => (reconfigure o params).mapError (abort "failed to resolve reconfiguration")
        | none => .ok params
      match final with
      | .error out => out
      | .ok p =>
        let json := p.toJson
        ⟨0, (if inv.compact then json.compact else json.pretty) ++ "\n", ""⟩

end VideoCodec.Cli
