import FixtureMatrix.Case.Error
import FixtureMatrix.Encoder.Error
import FixtureMatrix.Tiling

/-!
# Why files cannot be generated

A configuration error is one of the request itself and is found before
anything is encoded; an adapter error comes from the encoder and names the job
it happened on; all else is an error of the disk.
-/

namespace FixtureMatrix

/-- A setting that would produce an empty, unbounded or colliding matrix. -/
inductive SettingError where
  | noPageVersions
  | noDictionary
  | noCodecs
  /-- A value that a list holds more than once. -/
  | repeated (list value : String)
  | zeroStep
  | exponentsReversed
  | exponentTooLarge (exponent limit : Nat)
  | zeroSize

def SettingError.message : SettingError → String
  | .noPageVersions => "page_versions must not be empty"
  | .noDictionary => "dictionary must list at least one of true, false"
  | .noCodecs => "codecs must not be empty"
  | .repeated list value => s!"{list} lists {value} more than once"
  | .zeroStep => "benchmarks.step must be at least 1"
  | .exponentsReversed => "benchmarks.min_exponent is greater than benchmarks.max_exponent"
  | .exponentTooLarge exponent limit => s!"benchmarks.max_exponent {exponent} exceeds {limit}"
  | .zeroSize => "benchmarks.sizes must be positive"

/-- What is wrong with a request. -/
inductive ConfigReason where
  | setting (e : SettingError)
  /-- A benchmark size that is not a positive multiple of the unit. -/
  | benchmarkSize (rows unit : Nat)
  | expansion (e : ExpandError)
  | invalidCase (e : CaseError)
  /-- A document that cannot be decoded. -/
  | document (message : String)
  /-- Any other reason. -/
  | other (message : String)

def ConfigReason.message : ConfigReason → String
  | .setting e => e.message
  | .benchmarkSize rows unit => s!"benchmark size {rows} is not a positive multiple of {unit} rows"
  | .expansion e => e.message
  | .invalidCase e => e.message
  | .document message | .other message => message

/-- A failure to generate, with the case and the profile it happened on. -/
inductive FixtureError where
  | config (case : String) (profile : Option Profile) (reason : ConfigReason)
  | adapter (case : String) (profile : Profile) (path : String) (cause : EncodeError)
  | io (path : String) (cause : OsError)

namespace FixtureError

/-- A configuration error under a profile; other errors are left as they are. -/
def withProfile (e : FixtureError) (profile : Profile) : FixtureError :=
  match e with
  | .config case _ reason => .config case (some profile) reason
  | e => e

def isConfig : FixtureError → Bool
  | .config _ _ _ => true
  | _ => false

def isAdapter : FixtureError → Bool
  | .adapter _ _ _ _ => true
  | _ => false

/-- The error as it is shown to people. -/
def message : FixtureError → String
  | .config case (some profile) reason =>
    s!"configuration error in {case} [{profile.text}]: {reason.message}"
  | .config case none reason => s!"configuration error in {case}: {reason.message}"
  | .adapter case profile path cause =>
    s!"failed to encode {case} [{profile.text}] to {path}: {cause.message}"
  | .io path cause => s!"{path}: {cause.message}"

/-- The message of the error underneath, if there is one. -/
def cause? : FixtureError → Option String
  | .config _ _ _ => none
  | .adapter _ _ _ cause => some cause.message
  | .io _ cause => some cause.message

end FixtureError

end FixtureMatrix
