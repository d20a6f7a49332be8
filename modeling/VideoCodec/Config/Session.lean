import VideoCodec.Config.Resolve
/-!
# Configuration sessions

A configuration session holds one set of session parameters and applies
steps to it: resolving options afresh, reconfiguring with options, resolving
into the held parameters either way, reading off the changeable part, and
writing a patched changeable part back. A step that fails leaves the
parameters as they were.

`ConfigSession.run` gives, for each step, its outcome and the parameters
after it.
-/

namespace VideoCodec

/-- A step of a configuration session. -/
inductive ConfigStep where
  | resolve (o : EncoderOptions)
  | reconfigure (o : EncoderOptions)
  | resolveInto (o : EncoderOptions) (isReconfigure : Bool)
  | snapshot
  | apply (p : ReconfigureParams.Patch)
  deriving DecidableEq, Repr

namespace ConfigSession

/-- What a step does: its outcome (the changeable part for a snapshot) and
the parameters after it. -/
def step (params : InitializeParams) :
    ConfigStep → Except CodecError (Option ReconfigureParams) × InitializeParams
  | .resolve o =>
    match VideoCodec.resolve o with
    | .ok p => (.ok none, p)
    | .error e => (.error e, params)
  | .reconfigure o =>
    match VideoCodec.reconfigure o params with
    | .ok p => (.ok none, p)
    | .error e => (.error e, params)
  | .resolveInto o isReconfigure =>
    match resolveInto o params isReconfigure with
    | .ok p => (.ok none, p)
    | .error e => (.error e, params)
  | .snapshot => (.ok (some (ReconfigureParams.ofParams params)), params)
  | .apply patch => (.ok none, ((ReconfigureParams.ofParams params).patch patch).applyTo params)

/-- Runs steps from some parameters: the outcome of each step with the
parameters after it. -/
def run : InitializeParams → List ConfigStep →
    List (Except CodecError (Option ReconfigureParams) × InitializeParams)
  | _, [] => []
  | params, s :: rest =>
    let (r, next) := step params s
    (r, next) :: run next rest

end ConfigSession

end VideoCodec
