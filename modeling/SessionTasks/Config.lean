/-
# Configuration

Everything that is settled before the first session: how many sessions there may be and how
long they may idle, where a request names its session, how many finished tasks are kept,
and what is logged.  Each setting has a default.
-/
import SessionTasks.FileTree
import SessionTasks.Json.Fields
import SessionTasks.Task.Request
import SessionTasks.Text.Blank
import SessionTasks.Text.Case
namespace SessionTasks

/-! ## Faults -/

/-- Why a configuration is refused. -/
inductive ConfigFault where
  /-- The file cannot be read. -/
  | unreadable (path : String) (fault : FileFault)
  /-- The file at `path` is not a configuration. -/
  | unparsable (path : String)
  /-- No session is allowed. -/
  | noSessions
  /-- Sessions may not idle at all. -/
  | noTimeout
  /-- No time passes between two cycles of retention. -/
  | noInterval
  /-- A variable does not hold a number. -/
  | notANumber (name given : String)
  /-- A variable does not hold a truth value. -/
  | notAFlag (name given : String)
  /-- A log format has another name. -/
  | notALogFormat (given : String)
  /-- The variable that names the file does not hold text. -/
  | pathNotText (name : String)
  deriving DecidableEq

namespace ConfigFault

/-- The kind of a fault. -/
def kind : ConfigFault → String
  | .unreadable _ _ => "Read"
  | .unparsable _ => "Parse"
  | _ => "Invalid"

/-- The words for a fault. -/
def message : ConfigFault → String
  | .unreadable path fault => "failed to read config file " ++ path ++ ": " ++ fault.message
  | .unparsable path => "failed to parse config file " ++ path
  | .noSessions => "invalid configuration: session.max_sessions must be at least 1"
  | .noTimeout => "invalid configuration: session.session_timeout_ms must be greater than zero"
  | .noInterval =>
    "invalid configuration: retention.cleanup_interval_ms must be greater than zero"
  | .notANumber name given =>
    "invalid configuration: " ++ name ++ " must be a non-negative integer, got '" ++ given
      ++ "'"
  | .notAFlag name given =>
    "invalid configuration: " ++ name ++ " must be 'true' or 'false', got '" ++ given ++ "'"
  | .notALogFormat given =>
    "invalid configuration: log format must be 'simple' or 'json', got '" ++ given ++ "'"
  | .pathNotText name => "invalid configuration: " ++ name ++ " contained invalid UTF-8"

end ConfigFault

/-! ## Log formats -/

/-- How a line of the log is laid out. -/
inductive LogFormat where
  /-- For people. -/
  | simple
  /-- For programs. -/
  | json
  deriving DecidableEq

namespace LogFormat

/-- The name of a format. -/
def name : LogFormat → String
  | .simple => "simple"
  | .json => "json"

/-- The format of a name. -/
def ofName? (name : String) : Option LogFormat :=
  [LogFormat.simple, .json].find? (·.name = name)

/-- The format that a person names; blanks around the name and letter case do not count. -/
def parse (given : String) : Except ConfigFault LogFormat :=
  let name := Text.lower (Text.trim given)
  match ofName? name with
  | some format => .ok format
  | none => .error (.notALogFormat name)

end LogFormat

/-! ## Settings -/

/-- How the stores of sessions are kept. -/
structure SessionSettings where
  /-- How many sessions may be live. -/
  maxSessions : UInt64 := 100
  /-- How many milliseconds a session may idle. -/
  timeout : UInt64 := 1800000
  /-- What the names of the files of sessions start with. -/
  persistencePath : Option String := none
  /-- A new session reads its file. -/
  loadOnStartup : Bool := false
  deriving DecidableEq

/-- Where a request names its session. -/
structure ResolverNames where
  /-- The header. -/
  header : String := "X-App-Session"
  /-- The parameter of the query. -/
  query : String := "session"
  /-- The cookie. -/
  cookie : String := "app_session"
  /-- The session of requests that name none. -/
  defaultSession : String := "default"
  /-- What the session of an address starts with. -/
  ipPrefix : String := "ip_"
  deriving DecidableEq

/-- How sessions are told apart. -/
structure Profile where
  /-- Requests have sessions of their own. -/
  isolation : Bool := true
  /-- A request that names no session has the session of its address. -/
  mapByIp : Bool := true
  /-- A user has a session. -/
  fullAuth : Bool := false
  deriving DecidableEq

/-- What is logged. -/
structure LogSettings where
  /-- The least level that is logged. -/
  level : String := "debug"
  /-- The layout of a line. -/
  format : LogFormat := .simple
  deriving DecidableEq

/-- A whole configuration. -/
structure Config where
  /-- How the stores of sessions are kept. -/
  session : SessionSettings := {}
  /-- Where a request names its session. -/
  resolver : ResolverNames := {}
  /-- How many finished tasks are kept. -/
  retention : RetentionOptions := {}
  /-- How sessions are told apart. -/
  profile : Profile := {}
  /-- What is logged. -/
  logging : LogSettings := {}
  deriving DecidableEq

/-! ## Reading -/

/-- Reads the settings of sessions. -/
def SessionSettings.ofJson? (d : Json.Dialect) (v : Json) : Option SessionSettings := do
  let f ← v.fields? d ["max_sessions", "session_timeout_ms", "persistence_path",
    "load_on_startup"]
  return {
    maxSessions := ← f.orElse? "max_sessions" 100 Json.count?
    timeout := ← f.orElse? "session_timeout_ms" 1800000 Json.count?
    persistencePath := ← f.optional? "persistence_path" Json.text?
    loadOnStartup := ← f.orElse? "load_on_startup" false Json.flag? }

/-- Reads the names that requests use. -/
def ResolverNames.ofJson? (d : Json.Dialect) (v : Json) : Option ResolverNames := do
  let f ← v.fields? d ["header_name", "query_param", "cookie_name", "default_session",
    "ip_session_prefix"]
  return {
    header := ← f.orElse? "header_name" "X-App-Session" Json.text?
    query := ← f.orElse? "query_param" "session" Json.text?
    cookie := ← f.orElse? "cookie_name" "app_session" Json.text?
    defaultSession := ← f.orElse? "default_session" "default" Json.text?
    ipPrefix := ← f.orElse? "ip_session_prefix" "ip_" Json.text? }

/-- Reads the options of retention as a configuration spells them. -/
def RetentionOptions.ofSettings? (d : Json.Dialect) (v : Json) : Option RetentionOptions := do
  let f ← v.fields? d ["max_completed_tasks", "max_failed_tasks", "cleanup_interval_ms"]
  return {
    maxCompletedTasks := ← f.orElse? "max_completed_tasks" 50 Json.count?
    maxFailedTasks := ← f.orElse? "max_failed_tasks" 20 Json.count?
    cleanupInterval := ← f.orElse? "cleanup_interval_ms" 300000 Json.count? }

/-- Reads a profile. -/
def Profile.ofJson? (d : Json.Dialect) (v : Json) : Option Profile := do
  let f ← v.fields? d ["session_isolation", "auto_map_session_by_ip", "full_auth"]
  return {
    isolation := ← f.orElse? "session_isolation" true Json.flag?
    mapByIp := ← f.orElse? "auto_map_session_by_ip" true Json.flag?
    fullAuth := ← f.orElse? "full_auth" false Json.flag? }

/-- Reads what is logged. -/
def LogSettings.ofJson? (d : Json.Dialect) (v : Json) : Option LogSettings := do
  let f ← v.fields? d ["level", "format"]
  return {
    level := ← f.orElse? "level" "debug" Json.text?
    format := ← f.orElse? "format" .simple fun v => (v.name? d).bind LogFormat.ofName? }

/-- Reads a configuration. -/
def Config.ofJson? (d : Json.Dialect) (v : Json) : Option Config := do
  let f ← v.fields? d ["session", "resolver", "retention", "profile", "logging"]
  return {
    session := ← f.orElse? "session" {} (SessionSettings.ofJson? d)
    resolver := ← f.orElse? "resolver" {} (ResolverNames.ofJson? d)
    retention := ← f.orElse? "retention" {} (RetentionOptions.ofSettings? d)
    profile := ← f.orElse? "profile" {} (Profile.ofJson? d)
    logging := ← f.orElse? "logging" {} (LogSettings.ofJson? d) }

/-! ## Writing -/

/-- The settings of sessions as an object. -/
def SessionSettings.toJson (s : SessionSettings) : Json :=
  .object [("max_sessions", .ofCount s.maxSessions), ("session_timeout_ms", .ofCount s.timeout),
    ("persistence_path", .ofText? s.persistencePath),
    ("load_on_startup", .bool s.loadOnStartup)]

/-- The names that requests use, as members of an object. -/
def ResolverNames.members (r : ResolverNames) : List (String × Json) :=
  [("header_name", .str r.header), ("query_param", .str r.query), ("cookie_name", .str r.cookie),
    ("default_session", .str r.defaultSession), ("ip_session_prefix", .str r.ipPrefix)]

/-- The options of retention as a configuration spells them. -/
def RetentionOptions.toSettings (o : RetentionOptions) : Json :=
  .object [("max_completed_tasks", .ofCount o.maxCompletedTasks),
    ("max_failed_tasks", .ofCount o.maxFailedTasks),
    ("cleanup_interval_ms", .ofCount o.cleanupInterval)]

/-- A configuration as an object. -/
def Config.toJson (c : Config) : Json :=
  .object [
    ("session", c.session.toJson), ("resolver", .object c.resolver.members),
    ("retention", c.retention.toSettings),
    ("profile", .object [("session_isolation", .bool c.profile.isolation),
      ("auto_map_session_by_ip", .bool c.profile.mapByIp),
      ("full_auth", .bool c.profile.fullAuth)]),
    ("logging", .object [("level", .str c.logging.level),
      ("format", .str c.logging.format.name)])]

/-! ## Checking -/

/-- The first setting that must not be zero and is. -/
def Config.fault? (c : Config) : Option ConfigFault :=
  if c.session.maxSessions = 0 then some .noSessions
  else if c.session.timeout = 0 then some .noTimeout
  else if c.retention.cleanupInterval = 0 then some .noInterval
  else none

end SessionTasks
