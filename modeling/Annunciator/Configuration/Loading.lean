import Annunciator.Configuration.Reading
import Annunciator.Configuration.Validity
import Annunciator.Toml.Document

/-!
# Loading configurations

A configuration is read from a TOML file, which need not exist. Variables of the
environment take precedence over the file, and the result has to be valid.
-/

namespace Annunciator

/-- What is found where the file is looked for. -/
inductive ConfigurationFile where
  | missing
  /-- There is something, but it cannot be read as a file. -/
  | unreadable
  | content (bytes : ByteArray)

/-- The variables of the environment by their names. -/
abbrev Environment := String -> Option String

/-- The variables that a configuration heeds. -/
def heededVariables : List String :=
  ["MINIBAC_DEVICE_INSTANCE", "MINIBAC_TICK_MS", "MINIBAC_LOG", "RUST_LOG"]

/-- The environment in which given variables are set, as far as they are heeded. There
is none if such a variable holds the character that ends a value. -/
def Environment.ofVariables? (assigned : List (String × String)) : Option Environment :=
  let heeded := assigned.filter (heededVariables.contains ·.1)
  if heeded.any (·.2.toList.contains '\x00') then none
  else some fun name => heeded.lookup name

/-- Why no configuration could be loaded. -/
inductive LoadError where
  | unreadable
  | malformed
  | invalid (flaw : ConfigurationFlaw)
  deriving DecidableEq, Repr

/-- The wording of a load error. -/
def LoadError.message : LoadError -> String
  | unreadable => "failed to read config file"
  | malformed => "failed to parse config file"
  | invalid flaw => "invalid configuration: " ++ flaw.message

/-- A variable that holds a number below `size`: digits only, with a plus sign in
front or not. A variable that does not is as good as none. -/
def Environment.number? (environment : Environment) (name : String) (size : Nat) :
    Option Nat := do
  let text <- environment name
  let digits := match text.toList with
    | '+' :: digits => digits
    | digits => digits
  if digits.isEmpty || !digits.all Char.isDigit then none
  else
    let number := Nat.ofDigitChars 10 digits 0
    if number < size then some number else none

namespace Configuration

/-- The configuration that a file holds. -/
def ofFile : ConfigurationFile -> Except LoadError Configuration
  | .missing => .ok standard
  | .unreadable => .error .unreadable
  | .content bytes =>
      match String.fromUTF8? bytes with
      | none => .error .unreadable
      | some text =>
          match (Toml.document? text).bind (ofTree? .toml) with
          | none => .error .malformed
          | some configuration => .ok configuration

/-- Let the environment take precedence. Of the two variables for the filter the
general one wins. -/
def overriddenBy (environment : Environment) (configuration : Configuration) :
    Configuration :=
  let device := environment.number? "MINIBAC_DEVICE_INSTANCE" UInt32.size
  let tick := environment.number? "MINIBAC_TICK_MS" UInt64.size
  let filter := (environment "RUST_LOG").or (environment "MINIBAC_LOG")
  { configuration with
    device := (device.map fun number => ⟨.ofNat number⟩).getD configuration.device
    tickMilliseconds := (tick.map .ofNat).getD configuration.tickMilliseconds
    filter := filter.getD configuration.filter }

/-- Load a valid configuration. -/
def load (file : ConfigurationFile) (environment : Environment) :
    Except LoadError Configuration := do
  let configuration := (<- ofFile file).overriddenBy environment
  match configuration.flaw? with
  | some flaw => throw (.invalid flaw)
  | none => pure configuration

end Configuration

end Annunciator
