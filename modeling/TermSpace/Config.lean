import TermSpace.Expansion
import TermSpace.Json.Number
import TermSpace.Reduction.Step
import TermSpace.Toml.Reader
import TermSpace.Ty.Unification

/-!
# Configuration

A session is configured by the bound on reduction steps, the greatest depth of macro expansion and the
strategy of type inference.  Each of them has a default, so that a document may leave any of them out;
keys that mean nothing are passed over.
-/

namespace TermSpace

set_option autoImplicit false

/-- The settings of a session. -/
structure Config where
  maxSteps : Nat := Reducer.defaultMaxSteps
  maxMacroDepth : Nat := MacroTable.defaultMaxDepth
  strategy : Strategy := .hindleyMilner

/-- What can be wrong about a configuration. -/
inductive ConfigError where
  /-- The file cannot be read. -/
  | io
  /-- The text is no TOML document of the settings, or the settings cannot be written as one. -/
  | toml
  /-- A bound is zero that must not be. -/
  | zeroBound (key : String)

/-- What is wrong with a bound of zero. -/
def ConfigError.zeroMessage (key : String) : String := key ++ " must be > 0"

/-- What the user is told of an error, where it is for this library to say. -/
def ConfigError.message? : ConfigError → Option String
  | .io => none
  | .toml => none
  | .zeroBound key => some ("invalid configuration: " ++ zeroMessage key)

/-- The code that an error is looked up under. -/
def ConfigError.code : ConfigError → String
  | .io => "metta::config::io"
  | .toml => "metta::config::toml"
  | .zeroBound _ => "metta::config::invalid"

/-- What may be done about an error. -/
def ConfigError.help? : ConfigError → Option String
  | .io => some "Check that the configuration file exists and is readable."
  | .toml => none
  | .zeroBound key => some ("Check the SessionConfig fields. " ++ zeroMessage key)

namespace Config

/-- The key of the bound on steps. -/
def stepsKey : String := "max_steps"

/-- The key of the greatest depth of expansion. -/
def depthKey : String := "max_macro_depth"

/-- The key of the strategy. -/
def strategyKey : String := "strategy"

/-- **Validation.** Both bounds are positive. -/
def validate (config : Config) : Except ConfigError Unit :=
  if config.maxSteps = 0 then .error (.zeroBound stepsKey)
  else if config.maxMacroDepth = 0 then .error (.zeroBound depthKey)
  else .ok ()

/-! ## TOML -/

/-- A bound in TOML. -/
def boundOfToml? : Toml → Option Nat
  | .integer (.ofNat value) => some value
  | _ => none

/-- Whether a TOML value holds nothing. -/
def holdsNothing : Toml → Bool
  | .array [] => true
  | .inline [] => true
  | .table _ [] => true
  | _ => false

/-- A strategy in TOML: its name, or a table with nothing under its name. -/
def strategyOfToml? : Toml → Option Strategy
  | .string name => Strategy.ofName? name
  | .inline [(name, value)] => if holdsNothing value then Strategy.ofName? name else none
  | .table _ [(name, value)] => if holdsNothing value then Strategy.ofName? name else none
  | _ => none

/-- A setting: the default if the key is missing. -/
def setting? {α β : Type} (read : β → Option α) (standard : α) : Option β → Option α
  | none => some standard
  | some value => read value

/-- The settings in a TOML document. -/
def ofTomlMembers? (members : Toml.Members) : Option Config := do
  let standard : Config := {}
  let maxSteps ← setting? boundOfToml? standard.maxSteps (Toml.lookUp stepsKey members)
  let maxMacroDepth ← setting? boundOfToml? standard.maxMacroDepth (Toml.lookUp depthKey members)
  let strategy ← setting? strategyOfToml? standard.strategy (Toml.lookUp strategyKey members)
  return { maxSteps, maxMacroDepth, strategy }

/-- **Reading** the settings from a TOML text, and validating them. -/
def ofToml (text : String) : Except ConfigError Config :=
  match Toml.read? text >>= ofTomlMembers? with
  | none => .error .toml
  | some config => config.validate.map fun _ => config

/-- Read the settings from the content of a file, if there is one. -/
def ofFile : (content? : Option String) → Except ConfigError Config
  | none => .error .io
  | some content => ofToml content

/-- **Writing** the settings as a TOML text.  Whole numbers of TOML have sixty-four bits with a sign. -/
def toToml (config : Config) : Except ConfigError String :=
  if config.maxSteps < Nat.pow 2 63 ∧ config.maxMacroDepth < Nat.pow 2 63 then
    .ok (stepsKey ++ " = " ++ toString config.maxSteps ++ "\n" ++
      depthKey ++ " = " ++ toString config.maxMacroDepth ++ "\n" ++
      strategyKey ++ " = \"" ++ config.strategy.name ++ "\"\n")
  else .error .toml

/-! ## JSON -/

/-- A strategy in JSON: its name, alone or with null. -/
def strategyOfJson? : Json → Option Strategy
  | .text name => Strategy.ofName? name
  | .object [(name, .null)] => Strategy.ofName? name
  | _ => none

/-- The settings in a JSON object. -/
def ofJson? : Json → Option Config
  | .object members => do
    let standard : Config := {}
    let maxSteps ← setting? Json.toNat? standard.maxSteps (← Json.field? members stepsKey)
    let maxMacroDepth ← setting? Json.toNat? standard.maxMacroDepth (← Json.field? members depthKey)
    let strategy ← setting? strategyOfJson? standard.strategy (← Json.field? members strategyKey)
    return { maxSteps, maxMacroDepth, strategy }
  | _ => none

end Config

end TermSpace
