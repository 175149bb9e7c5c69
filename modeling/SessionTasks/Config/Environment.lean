/-
# Settings from the environment

Seventeen variables can each set one field of a configuration.  A variable that is unset or
blank leaves its field alone.  The variables are read in a fixed order, up to the first one
that cannot be read.
-/
import SessionTasks.Config
import SessionTasks.Text.Digits
namespace SessionTasks

/-- A variable that sets a field of a configuration. -/
structure Setting where
  /-- The name of the variable. -/
  name : String
  /-- The configuration once the field is set from the text of the variable. -/
  set : String → Config → Except ConfigFault Config

namespace Setting

/-! ## Texts of variables -/

/-- A number of sixty-four bits; blanks around it do not count. -/
def number (name given : String) : Except ConfigFault UInt64 :=
  match Text.unsigned? (Nat.pow 2 64 - 1) (Text.trim given).toList with
  | some n => .ok (UInt64.ofNat n)
  | none => .error (.notANumber name given)

/-- The words for a truth value. -/
def flagWords : Bool → List String
  | true => ["true", "1", "yes", "on"]
  | false => ["false", "0", "no", "off"]

/-- A truth value; blanks around it and letter case do not count. -/
def flag (name given : String) : Except ConfigFault Bool :=
  let word := Text.lower (Text.trim given)
  if word ∈ flagWords true then .ok true
  else if word ∈ flagWords false then .ok false
  else .error (.notAFlag name given)

/-! ## Kinds of variables -/

/-- A variable that holds a number. -/
def ofNumber (name : String) (put : UInt64 → Config → Config) : Setting where
  name := name
  set given c := (number name given).map fun n => put n c

/-- A variable that holds a truth value. -/
def ofFlag (name : String) (put : Bool → Config → Config) : Setting where
  name := name
  set given c := (flag name given).map fun b => put b c

/-- A variable that holds any text. -/
def ofText (name : String) (put : String → Config → Config) : Setting where
  name := name
  set given c := .ok (put given c)

/-- The variable that holds a log format. -/
def ofLogFormat (name : String) (put : LogFormat → Config → Config) : Setting where
  name := name
  set given c := (LogFormat.parse given).map fun format => put format c

/-! ## The variables -/

/-- The variables, in the order they are read. -/
def all : List Setting := [
  ofNumber "MAX_SESSIONS" fun n c => { c with session.maxSessions := n },
  ofNumber "SESSION_TIMEOUT" fun n c => { c with session.timeout := n },
  ofText "DB_PATH" fun s c => { c with session.persistencePath := some (Text.trim s) },
  ofFlag "DB_LOAD_ON_STARTUP" fun b c => { c with session.loadOnStartup := b },
  ofText "SESSION_HEADER" fun s c => { c with resolver.header := s },
  ofText "SESSION_QUERY_PARAM" fun s c => { c with resolver.query := s },
  ofText "SESSION_COOKIE" fun s c => { c with resolver.cookie := s },
  ofText "DEFAULT_SESSION" fun s c => { c with resolver.defaultSession := s },
  ofText "IP_SESSION_PREFIX" fun s c => { c with resolver.ipPrefix := s },
  ofNumber "MAX_COMPLETED_TASKS" fun n c => { c with retention.maxCompletedTasks := n },
  ofNumber "MAX_FAILED_TASKS" fun n c => { c with retention.maxFailedTasks := n },
  ofNumber "TASK_CLEANUP_INTERVAL" fun n c => { c with retention.cleanupInterval := n },
  ofFlag "ENABLE_SESSION_ISOLATION" fun b c => { c with profile.isolation := b },
  ofFlag "AUTO_MAP_SESSION_BY_IP" fun b c => { c with profile.mapByIp := b },
  ofText "AUTH_MODE" fun s c =>
    { c with profile.fullAuth := Text.equalIgnoringCase (Text.trim s) "full" },
  ofText "BE_LOG_LEVEL" fun s c => { c with logging.level := Text.trim s },
  ofLogFormat "BE_LOG_FORMAT" fun format c => { c with logging.format := format }]

end Setting

namespace Config

/-- Reads variables one after the other, up to the first that cannot be read. -/
def overlayWith (lookup : String → Option String) :
    List Setting → Config → Config × Option ConfigFault
  | [], c => (c, none)
  | setting :: rest, c =>
    match (lookup setting.name).bind Text.nonBlank? with
    | none => overlayWith lookup rest c
    | some given =>
      match setting.set given c with
      | .ok c => overlayWith lookup rest c
      | .error fault => (c, some fault)

/-- The configuration with the variables that `lookup` finds, and the first fault. -/
def overlay (c : Config) (lookup : String → Option String) : Config × Option ConfigFault :=
  overlayWith lookup Setting.all c

end Config

end SessionTasks
