/-
# The fields of a configuration

A configuration is its seventeen fields.  Each of them has a variable of its own in the
environment, and a rule by which the text of the variable is taken.

* `Config.Rule.Spells` : what a text stands for by a rule;
* `Config.Rule.read_eq_ok_iff`, `Config.Rule.read_eq_error_iff` : the texts that a rule takes, and
  the fault of all others;
* `Config.ext_get` : a configuration is its fields;
* `Config.settings_eq` : the variables that are read are those of the fields.
-/
import SessionTasks.Config.Environment
import SessionTasks.Proofs.Text.Literal
namespace SessionTasks

/-! ## Texts of variables -/

/-- A text is the word without regard to case when it is in lower case. -/
theorem Text.equalIgnoringCase_full_iff {text : String} :
    equalIgnoringCase text "full" = true ↔ lower text = "full" := by
  have hfull : lower "full" = "full" := by decide
  rw [equalIgnoringCase, hfull, decide_eq_true_iff]

namespace Setting

variable {name given : String}

/-- A number is read if it has sixty-four bits at most. -/
theorem number_eq_ok_iff {n : UInt64} :
    number name given = .ok n ↔ Text.IsLiteral (Text.trim given).toList n.toNat := by
  unfold number
  constructor
  · intro h
    split at h
    · rename_i m hread
      obtain ⟨hliteral, hle⟩ := Text.unsigned?_eq_some_iff.1 hread
      cases h
      have hlt : m < UInt64.size := Nat.lt_of_le_pred (by decide) hle
      rwa [UInt64.toNat_ofNat_of_lt' hlt]
    · cases h
  · intro h
    have hle : n.toNat ≤ Nat.pow 2 64 - 1 := Nat.le_pred_of_lt n.toNat_lt
    rw [Text.unsigned?_eq_some_iff.2 ⟨h, hle⟩]
    exact congrArg Except.ok UInt64.ofNat_toNat

/-- No word stands for both truth values. -/
theorem not_mem_flagWords {word : String} (h : word ∈ flagWords false) :
    word ∉ flagWords true := by
  have hall : ∀ word ∈ flagWords false, word ∉ flagWords true := by decide
  exact hall word h

/-- A flag is read from the words for it, in any case and between blanks. -/
theorem flag_eq_ok_iff {b : Bool} :
    flag name given = .ok b ↔ Text.lower (Text.trim given) ∈ flagWords b := by
  unfold flag
  dsimp only
  constructor
  · intro h
    split_ifs at h with htrue hfalse
    · cases h
      exact htrue
    · cases h
      exact hfalse
  · intro h
    cases b with
    | true => rw [if_pos h]
    | false => rw [if_neg (not_mem_flagWords h), if_pos h]

end Setting

/-- A log format is read from its name, in any case and between blanks. -/
theorem LogFormat.parse_eq_ok_iff {given : String} {f : LogFormat} :
    parse given = .ok f ↔ Text.lower (Text.trim given) = f.name := by
  unfold parse
  dsimp only
  constructor
  · intro h
    split at h
    · rename_i found hfound
      cases h
      have hname := List.find?_some hfound
      exact (decide_eq_true_iff.1 hname).symm
    · cases h
  · intro h
    have hfound : ofName? f.name = some f := by cases f <;> rfl
    rw [h, hfound]

namespace Config

/-! ## Rules -/

/-- How the text of a variable is taken. -/
inductive Rule where
  /-- As a number. -/
  | number
  /-- As a truth value. -/
  | flag
  /-- As it stands. -/
  | text
  /-- Without the blanks around it. -/
  | trimmed
  /-- As a path, without the blanks around it. -/
  | path
  /-- As the one mode of authentication in which users have sessions, or as another. -/
  | mode
  /-- As a log format. -/
  | format
  deriving DecidableEq

namespace Rule

/-- What a text is taken for. -/
abbrev Value : Rule → Type
  | .number => UInt64
  | .flag | .mode => Bool
  | .text | .trimmed => String
  | .path => Option String
  | .format => LogFormat

/-- **The text stands for the value.**  Blanks around a number, a truth value and a log format do
not count, nor does the case of letters. -/
def Spells : (r : Rule) → String → r.Value → Prop
  | .number => fun given (n : UInt64) => Text.IsLiteral (Text.trim given).toList n.toNat
  | .flag => fun given b => Text.lower (Text.trim given) ∈ Setting.flagWords b
  | .text => fun given s => s = given
  | .trimmed => fun given s => s = Text.trim given
  | .path => fun given path => path = some (Text.trim given)
  | .mode => fun given (b : Bool) => b = true ↔ Text.lower (Text.trim given) = "full"
  | .format => fun given (f : LogFormat) => Text.lower (Text.trim given) = f.name

/-- The rules by which some texts stand for nothing. -/
def strict : List Rule := [.number, .flag, .format]

/-- The fault of a variable with a text that stands for nothing. -/
def fault? : Rule → (name given : String) → Option ConfigFault
  | .number, name, given => some (.notANumber name given)
  | .flag, name, given => some (.notAFlag name given)
  | .format, _, given => some (.notALogFormat (Text.lower (Text.trim given)))
  | _, _, _ => none

/-- Takes the text of a variable. -/
def read : (r : Rule) → (name given : String) → Except ConfigFault r.Value
  | .number => Setting.number
  | .flag => Setting.flag
  | .text => fun _ given => .ok given
  | .trimmed => fun _ given => .ok (Text.trim given)
  | .path => fun _ given => .ok (some (Text.trim given))
  | .mode => fun _ given => .ok (Text.equalIgnoringCase (Text.trim given) "full")
  | .format => fun _ given => LogFormat.parse given

variable {r : Rule} {name given : String} {x y : r.Value} {fault : ConfigFault}

/-- **A rule takes the texts that stand for something.** -/
theorem read_eq_ok_iff : r.read name given = .ok x ↔ r.Spells given x := by
  cases r with
  | number => rw [read, Spells, Setting.number_eq_ok_iff]
  | flag => rw [read, Spells, Setting.flag_eq_ok_iff]
  | format => rw [read, Spells, LogFormat.parse_eq_ok_iff]
  | text => rw [read, Spells, Except.ok.injEq, eq_comm]
  | trimmed => rw [read, Spells, Except.ok.injEq, eq_comm]
  | path => rw [read, Spells, Except.ok.injEq, eq_comm]
  | mode =>
    rw [read, Spells, Except.ok.injEq]
    show _ = (x : Bool) ↔ (x = true ↔ Text.lower (Text.trim given) = "full")
    rw [← Text.equalIgnoringCase_full_iff, Bool.eq_iff_iff]
    exact Iff.comm

/-- A rule that refuses a text tells the fault. -/
theorem fault?_of_read (h : r.read name given = .error fault) :
    r.fault? name given = some fault := by
  cases r with
  | number =>
    simp only [read, Setting.number] at h
    split at h
    · cases h
    · cases h
      rfl
  | flag =>
    simp only [read, Setting.flag] at h
    split_ifs at h
    cases h
    rfl
  | format =>
    simp only [read, LogFormat.parse] at h
    split at h
    · cases h
    · cases h
      rfl
  | _ => cases h

/-- **All other texts are refused**, each rule with a fault of its own. -/
theorem read_eq_error_iff :
    r.read name given = .error fault ↔
      (∀ x, ¬ r.Spells given x) ∧ r.fault? name given = some fault := by
  constructor
  · intro h
    refine ⟨fun x hx => ?_, fault?_of_read h⟩
    rw [read_eq_ok_iff.2 hx] at h
    cases h
  · rintro ⟨hnone, hfault⟩
    cases hread : r.read name given with
    | ok x => exact absurd (read_eq_ok_iff.1 hread) (hnone x)
    | error other =>
      rw [fault?_of_read hread] at hfault
      rw [Option.some.inj hfault]

/-- Only the strict rules refuse a text. -/
theorem mem_strict_of_forall (h : ∀ x, ¬ r.Spells given x) : r ∈ strict := by
  cases r with
  | number | flag | format => decide
  | text => exact absurd rfl (h given)
  | trimmed => exact absurd rfl (h (Text.trim given))
  | path => exact absurd rfl (h (some (Text.trim given)))
  | mode =>
    have hmode := h (Text.equalIgnoringCase (Text.trim given) "full")
    exact absurd Text.equalIgnoringCase_full_iff hmode

end Rule

/-! ## Fields -/

/-- A field of a configuration. -/
inductive Field where
  /-- How many sessions may be live. -/
  | maxSessions
  /-- How long a session may idle. -/
  | timeout
  /-- What the names of the files of sessions start with. -/
  | persistencePath
  /-- Whether a new session reads its file. -/
  | loadOnStartup
  /-- The header that names a session. -/
  | header
  /-- The parameter that names one. -/
  | query
  /-- The cookie that names one. -/
  | cookie
  /-- The session of requests that name none. -/
  | defaultSession
  /-- What the session of an address starts with. -/
  | ipPrefix
  /-- How many completed tasks are kept. -/
  | maxCompletedTasks
  /-- How many failed tasks are kept. -/
  | maxFailedTasks
  /-- The time between two cycles of retention. -/
  | cleanupInterval
  /-- Whether requests have sessions of their own. -/
  | isolation
  /-- Whether addresses have sessions. -/
  | mapByIp
  /-- Whether users have sessions. -/
  | fullAuth
  /-- The least level that is logged. -/
  | level
  /-- The layout of the log. -/
  | format
  deriving DecidableEq

namespace Field

/-- The fields, in the order in which their variables are read. -/
def all : List Field := [.maxSessions, .timeout, .persistencePath, .loadOnStartup, .header, .query,
  .cookie, .defaultSession, .ipPrefix, .maxCompletedTasks, .maxFailedTasks, .cleanupInterval,
  .isolation, .mapByIp, .fullAuth, .level, .format]

/-- The name of the variable of a field. -/
def name : Field → String
  | .maxSessions => "MAX_SESSIONS"
  | .timeout => "SESSION_TIMEOUT"
  | .persistencePath => "DB_PATH"
  | .loadOnStartup => "DB_LOAD_ON_STARTUP"
  | .header => "SESSION_HEADER"
  | .query => "SESSION_QUERY_PARAM"
  | .cookie => "SESSION_COOKIE"
  | .defaultSession => "DEFAULT_SESSION"
  | .ipPrefix => "IP_SESSION_PREFIX"
  | .maxCompletedTasks => "MAX_COMPLETED_TASKS"
  | .maxFailedTasks => "MAX_FAILED_TASKS"
  | .cleanupInterval => "TASK_CLEANUP_INTERVAL"
  | .isolation => "ENABLE_SESSION_ISOLATION"
  | .mapByIp => "AUTO_MAP_SESSION_BY_IP"
  | .fullAuth => "AUTH_MODE"
  | .level => "BE_LOG_LEVEL"
  | .format => "BE_LOG_FORMAT"

/-- The rule by which the variable of a field is taken. -/
def rule : Field → Rule
  | .maxSessions | .timeout | .maxCompletedTasks | .maxFailedTasks | .cleanupInterval => .number
  | .loadOnStartup | .isolation | .mapByIp => .flag
  | .header | .query | .cookie | .defaultSession | .ipPrefix => .text
  | .persistencePath => .path
  | .fullAuth => .mode
  | .level => .trimmed
  | .format => .format

/-- What a field holds. -/
abbrev Value (f : Field) : Type := f.rule.Value

theorem mem_all (f : Field) : f ∈ all := by
  cases f <;> decide

theorem nodup_all : all.Nodup := by decide

/-- Each field has a variable of its own. -/
theorem name_injective : Function.Injective name := by
  have hall : ∀ f ∈ all, ∀ g ∈ all, f.name = g.name → f = g := by decide
  exact fun f g h => hall f f.mem_all g g.mem_all h

end Field

/-- What a field of a configuration holds. -/
def get (c : Config) : (f : Field) → f.Value
  | .maxSessions => c.session.maxSessions
  | .timeout => c.session.timeout
  | .persistencePath => c.session.persistencePath
  | .loadOnStartup => c.session.loadOnStartup
  | .header => c.resolver.header
  | .query => c.resolver.query
  | .cookie => c.resolver.cookie
  | .defaultSession => c.resolver.defaultSession
  | .ipPrefix => c.resolver.ipPrefix
  | .maxCompletedTasks => c.retention.maxCompletedTasks
  | .maxFailedTasks => c.retention.maxFailedTasks
  | .cleanupInterval => c.retention.cleanupInterval
  | .isolation => c.profile.isolation
  | .mapByIp => c.profile.mapByIp
  | .fullAuth => c.profile.fullAuth
  | .level => c.logging.level
  | .format => c.logging.format

/-- The configuration of some fields. -/
def ofFields (values : (f : Field) → f.Value) : Config where
  session := {
    maxSessions := values .maxSessions
    timeout := values .timeout
    persistencePath := values .persistencePath
    loadOnStartup := values .loadOnStartup }
  resolver := {
    header := values .header
    query := values .query
    cookie := values .cookie
    defaultSession := values .defaultSession
    ipPrefix := values .ipPrefix }
  retention := {
    maxCompletedTasks := values .maxCompletedTasks
    maxFailedTasks := values .maxFailedTasks
    cleanupInterval := values .cleanupInterval }
  profile := {
    isolation := values .isolation
    mapByIp := values .mapByIp
    fullAuth := values .fullAuth }
  logging := {
    level := values .level
    format := values .format }

/-- A configuration that is made of values has them. -/
theorem get_ofFields (values : (f : Field) → f.Value) : (ofFields values).get = values := by
  funext f
  cases f <;> rfl

/-- A configuration is made of its values. -/
theorem ofFields_get (c : Config) : ofFields c.get = c := rfl

/-- **A configuration is its fields.** -/
theorem ext_get {c d : Config} (h : ∀ f, c.get f = d.get f) : c = d := by
  rw [← ofFields_get c, ← ofFields_get d, funext h]

/-- A configuration with another value in one field. -/
def put (c : Config) (f : Field) (x : f.Value) : Config := ofFields (Function.update c.get f x)

/-- A field has the value that was put. -/
@[simp]
theorem get_put_self (c : Config) (f : Field) (x : f.Value) : (c.put f x).get f = x := by
  rw [put, get_ofFields, Function.update_self]

theorem get_put_of_ne {f g : Field} (h : g ≠ f) (c : Config) (x : f.Value) :
    (c.put f x).get g = c.get g := by
  rw [put, get_ofFields, Function.update_of_ne h]

/-- The setting that takes the variable of a field into it. -/
def Field.setting (f : Field) : Setting where
  name := f.name
  set given c := (f.rule.read f.name given).map (c.put f)

/-- A setting takes the value that its text spells. -/
theorem Field.set_setting_of_spells {f : Field} {given : String} {x : f.Value}
    (h : f.rule.Spells given x) (c : Config) : f.setting.set given c = .ok (c.put f x) := by
  show (f.rule.read f.name given).map (c.put f) = _
  rw [Rule.read_eq_ok_iff.2 h]
  rfl

/-- A setting refuses a text that spells no value. -/
theorem Field.set_setting_of_forall {f : Field} {given : String} {fault : ConfigFault}
    (hnone : ∀ x, ¬ f.rule.Spells given x) (hfault : f.rule.fault? f.name given = some fault)
    (c : Config) : f.setting.set given c = .error fault := by
  show (f.rule.read f.name given).map (c.put f) = _
  rw [Rule.read_eq_error_iff.2 ⟨hnone, hfault⟩]
  rfl

/-- **The variables that are read are those of the fields.** -/
theorem settings_eq : Setting.all = Field.all.map Field.setting := by
  have hput : ∀ (c : Config) (b : Bool), { c with profile.fullAuth := b } = c.put .fullAuth b :=
    fun _ _ => rfl
  unfold Setting.all
  simp only [hput]
  rfl

end Config

end SessionTasks
