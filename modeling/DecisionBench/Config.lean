import DecisionBench.Connection.Settings
import DecisionBench.Toml.Document

/-!
# The configuration file

The configuration names the generator and any number of connections, of which one may be the
default.  It is a TOML document; keys without a meaning are passed over, and a key with a value of
the wrong kind makes the whole file invalid.
-/

namespace DecisionBench

structure Config where
  /-- The command that starts the generator. -/
  generator : String
  connections : List (String × Settings)
  deriving DecidableEq, Repr

namespace Config

/-- The generator where none is configured. -/
def standardGenerator : String := "tpchgen-cli"

/-- The configuration without a file. -/
def standard : Config :=
  ⟨standardGenerator, []⟩

/-- The configuration file breaks the rules of the format, or a value has the wrong kind. -/
def invalid (path : String) : Fault :=
  ⟨.configuration, "Configuration error in " ++ path ++ ":"⟩

/-- The configuration file could not be read. -/
def unreadable (text : String) : Fault :=
  ⟨.configuration, "Failed to read config file: " ++ text⟩

/-- A setting that is a text. -/
def text? : Option Toml.Value → Option (Option String)
  | none => some none
  | some (.text content) => some (some content)
  | some _ => none

/-- A setting that is a number of 16 bits. -/
def port? : Option Toml.Value → Option (Option Nat)
  | none => some none
  | some (.integer value) =>
    if 0 ≤ value ∧ value < 65536 then some (some value.toNat) else none
  | some _ => none

/-- The settings of five values, in the order host, port, user, password, database. -/
def settingsOf (host port user password database : Option Toml.Value) : Option Settings := do
  let host ← text? host
  let port ← port? port
  let user ← text? user
  let password ← text? password
  let database ← text? database
  return ⟨host, port, user, password, database⟩

/-- The settings of one connection.  They may also be listed in an array, and a point in time, which
is a table of its own in the data model of the format, sets nothing. -/
def connection? : Toml.Value → Option Settings
  | .table entries =>
    settingsOf (Toml.lookup? "host" entries) (Toml.lookup? "port" entries)
      (Toml.lookup? "user" entries) (Toml.lookup? "password" entries)
      (Toml.lookup? "database" entries)
  | .array (host :: port :: user :: password :: database :: _) =>
    settingsOf (some host) (some port) (some user) (some password) (some database)
  | .moment => some .unset
  | _ => none

def connections? : List (String × Toml.Value) → Option (List (String × Settings))
  | [] => some []
  | (name, value) :: rest =>
    match connection? value, connections? rest with
    | some settings, some more => some ((name, settings) :: more)
    | _, _ => none

/-- The generator's command, which may be listed in an array. -/
def generator? : Option Toml.Value → Option String
  | none => some standardGenerator
  | some (.table entries) =>
    (text? (Toml.lookup? "program" entries)).map (·.getD standardGenerator)
  | some (.array []) => some standardGenerator
  | some (.array (command :: _)) =>
    (text? (some command)).map (·.getD standardGenerator)
  | some .moment => some standardGenerator
  | some _ => none

/-- The configuration of the entries of a document. -/
def ofEntries? (entries : List (String × Toml.Value)) : Option Config := do
  let generator ← generator? (Toml.lookup? "generator" entries)
  let connections ← match Toml.lookup? "connections" entries with
    | none => some []
    | some (.table connections) => connections? connections
    | some _ => none
  return ⟨generator, connections⟩

/-- The configuration of a document that stands in a file. -/
def parse (path document : String) : Except Fault Config :=
  match (Toml.parse? document).bind ofEntries? with
  | some config => .ok config
  | none => .error (invalid path)

/-- The configuration in a file; a file that does not exist configures nothing. -/
def load (path : String) : Procedure Config := do
  if ← Files.pathExists path then
    let document ← Procedure.orFault (Files.read path) unreadable
    Procedure.ofOutcome (parse path document)
  else
    return standard

/-- The connection with a name, or the default one. -/
def connectionNamed? (config : Config) (name : Option String) : Option Settings :=
  Toml.lookup? (name.getD "default") config.connections

/-- The path of the configuration file where none is given: below the configuration directory if
that is set to an absolute path, else below the home directory. -/
def standardPath (lookup? : String → Option String) : String :=
  let isAbsolute (path : String) : Bool := path.toList.head? == some '/'
  let inDirectory (directory file : String) : String :=
    if directory.toList.getLast? = some '/' then directory ++ file else directory ++ "/" ++ file
  let directory := match (lookup? "XDG_CONFIG_HOME").filter isAbsolute with
    | some directory => directory
    | none => inDirectory ((lookup? "HOME").getD ".") ".config"
  inDirectory (inDirectory directory "tpch-mysql") "config.toml"

end Config

end DecisionBench
