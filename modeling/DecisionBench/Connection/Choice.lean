import DecisionBench.Config

/-!
# Choosing the connection

The connection of a run comes from four sources.  Flags are strongest, then the connection URL, then
the named connection of the configuration or its default one, then the environment.
-/

namespace DecisionBench

/-- What the command line says about the connection. -/
structure ConnectionFlags where
  url : Option String
  connection : Option String
  settings : Settings
  deriving DecidableEq, Repr

namespace ConnectionFlags

/-- A connection is named that the configuration does not have. -/
def notConfigured (name : String) : Fault :=
  ⟨.configuration, "connection '" ++ name ++ "' not found in config"⟩

/-- The connection of the configuration that the flags choose. -/
def configured (flags : ConnectionFlags) (config : Config) : Except Fault Settings :=
  match flags.connection with
  | some name =>
    match config.connectionNamed? (some name) with
    | some settings => .ok settings
    | none => .error (notConfigured name)
  | none => .ok ((config.connectionNamed? none).getD .unset)

/-- The address that flags, configuration and environment give. -/
def resolve (flags : ConnectionFlags) (config : Config) (lookup? : String → Option String) :
    Except Fault Address := do
  let configured ← flags.configured config
  let withUrl ← match flags.url with
    | some url => (configured.merge ·) <$> Settings.ofUrl url
    | none => pure configured
  ((withUrl.merge flags.settings).withEnvironment lookup?).resolve

end ConnectionFlags

end DecisionBench
