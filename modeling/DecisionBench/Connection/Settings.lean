import DecisionBench.Program
import DecisionBench.Text.Quoted
import DecisionBench.Url

/-!
# Connection settings

Settings come from several sources, each of which may leave some unset: flags, a connection URL, a
named connection of the configuration, the environment.  They are merged, the stronger source last,
filled up from the environment, and then resolved into a full address.
-/

namespace DecisionBench

/-- Settings of which any may be unset. -/
structure Settings where
  host : Option String
  port : Option Nat
  user : Option String
  password : Option String
  database : Option String
  deriving DecidableEq, Repr

namespace Settings

def unset : Settings :=
  ⟨none, none, none, none, none⟩

/-- The port of a server where none is set. -/
def standardPort : Nat := 3306

def invalidUrl (text : String) : Fault :=
  ⟨.configuration, "Invalid connection string: " ++ text⟩

/-- A URL is not one of a database server. -/
def invalidScheme (scheme : String) : Fault :=
  ⟨.configuration, "Invalid scheme '" ++ scheme ++ "'. Expected 'mysql' or 'mariadb'"⟩

def missing (field flag : String) : Fault :=
  ⟨.configuration, "missing MySQL " ++ field ++ "; pass " ++ flag ++
    ", set it in the config file or the environment"⟩

/-- A user name or password of a URL, as it is meant. -/
def decoded (text : List Char) : Except Fault String :=
  match Percent.decode text with
  | .ok characters => .ok (String.ofList characters)
  | .error cause => .error (invalidUrl (Octets.complaint cause))

/-- The settings that the parts of a URL give.  The path without its slash is the database, and is
taken as it stands. -/
def ofUrlParts (url : Url) : Except Fault Settings := do
  let scheme := String.ofList url.scheme
  if scheme ≠ "mysql" ∧ scheme ≠ "mariadb" then
    throw (invalidScheme scheme)
  let database := match url.path with
    | '/' :: rest => if rest.isEmpty then none else some (String.ofList rest)
    | _ => none
  let user ← if url.username.isEmpty then pure none else some <$> decoded url.username
  let password ← match url.password with
    | none => pure none
    | some text => some <$> decoded text
  return ⟨url.host.map String.ofList, url.port, user, password, database⟩

def ofUrl (text : String) : Except Fault Settings :=
  match Url.parse text with
  | .error cause => .error (invalidUrl cause.message)
  | .ok url => ofUrlParts url

/-- Settings in which those that `stronger` sets replace the others. -/
def merge (settings stronger : Settings) : Settings where
  host := stronger.host <|> settings.host
  port := stronger.port <|> settings.port
  user := stronger.user <|> settings.user
  password := stronger.password <|> settings.password
  database := stronger.database <|> settings.database

/-- The settings of the environment.  A port that is no number of 16 bits counts as unset. -/
def ofEnvironment (lookup? : String → Option String) : Settings where
  host := lookup? "MYSQL_HOST"
  port := (lookup? "MYSQL_TCP_PORT").bind fun text => Numeral.natural? 65536 text.toList
  user := lookup? "MYSQL_USER"
  password := lookup? "MYSQL_PWD"
  database := lookup? "MYSQL_DATABASE"

/-- Settings in which those that are unset are taken from the environment. -/
def withEnvironment (settings : Settings) (lookup? : String → Option String) : Settings :=
  (ofEnvironment lookup?).merge settings

/-- A setting that an address needs. -/
def required (value : Option String) (field flag : String) : Except Fault String :=
  match value with
  | some value => .ok value
  | none => .error (missing field flag)

/-- The address that settings give.  Host, user and database are needed, in this order. -/
def resolve (settings : Settings) : Except Fault Address := do
  let host ← required settings.host "host" "--host"
  let user ← required settings.user "user" "--user"
  let database ← required settings.database "database" "--database"
  return { host, port := settings.port.getD standardPort, user,
           password := settings.password.getD "", database }

end Settings

namespace Address

/-- An address in one line, without the password. -/
def display (address : Address) : String :=
  address.user ++ "@" ++ address.host ++ ":" ++ toString address.port ++ "/" ++ address.database

/-- An address with all its parts but the password. -/
def describe (address : Address) : String :=
  "MySqlConfig \x7b host: " ++ Text.quoted address.host ++ ", port: " ++ toString address.port ++
    ", user: " ++ Text.quoted address.user ++ ", password: \"<redacted>\", database: " ++
    Text.quoted address.database ++ " \x7d"

end Address

end DecisionBench
