/-
# Which command lines are accepted

A command line is the name of a command and options after it.  Which options there may be hangs on
the command, and of the options of one name the last counts.

* `Command.Verb` : the commands that look at their options, and the options that each takes;
* `Command.Accepts`, `Command.Refuses` : the command lines that mean something, and the first fault
  of all others;
* `Command.parse_eq_ok_iff`, `Command.parse_eq_error_iff` : these are read, and those refused;
* `Command.follows_grammar` : all of this, for every command line.
-/
import SessionTasks.Proofs.Command.Options
import SessionTasks.Proofs.Text.Literal
namespace SessionTasks.Command

/-! ## Commands and their options -/

/-- What the value of an option may be. -/
inductive Argument where
  /-- Any text. -/
  | text
  /-- A literal of a number that is at most `greatest`. -/
  | number (greatest : Nat)

/-- The values that an option may have. -/
def Argument.Admits : Argument → String → Prop
  | .text, _ => True
  | .number greatest, value => ∃ n ≤ greatest, Text.IsLiteral value.toList n

/-- A command that looks at its options. -/
inductive Verb where
  /-- Runs a sample task. -/
  | demo
  /-- Shows counts. -/
  | stats
  /-- Shows the session of a request. -/
  | resolve

namespace Verb

/-- The name of a command. -/
def name : Verb → String
  | .demo => "demo"
  | .stats => "stats"
  | .resolve => "resolve"

/-- The options of a command, each with the values that it may have. -/
def table : Verb → List (String × Argument)
  | .demo => [("--session", .text), ("--steps", .number (2 ^ 32 - 1)),
      ("--delay-ms", .number (2 ^ 64 - 1))]
  | .stats => [("--session", .text)]
  | .resolve => [("--header", .text), ("--query", .text), ("--cookie", .text), ("--ip", .text),
      ("--user", .text)]

/-- The command takes an option. -/
def Takes (v : Verb) (option : CommandOption) : Prop :=
  ∃ a, (option.1, a) ∈ v.table ∧ a.Admits option.2

/-- **Why a command does not take an option.** -/
inductive Faults (v : Verb) (option : CommandOption) : UsageError → Prop
  /-- It does not have the option. -/
  | unknown (hname : ∀ a, (option.1, a) ∉ v.table) :
      Faults v option (.unknownOption option.1 v.name)
  /-- The value is none that the option may have. -/
  | value {a : Argument} (hname : (option.1, a) ∈ v.table) (hvalue : ¬ a.Admits option.2) :
      Faults v option (.notANumber option.1 option.2)

end Verb

/-- The last value that is given for an option. -/
def last? (name : String) (given : List CommandOption) : Option String :=
  ((given.filter fun option => option.1 = name).map Prod.snd).getLast?

/-- **The number that an option stands for**: the last value counts, and without one the default. -/
inductive Sets (name : String) (given : List CommandOption) (default : Nat) : Nat → Prop
  /-- The option is not given. -/
  | absent (hnone : last? name given = none) : Sets name given default default
  /-- It is given once at least. -/
  | last {value : String} {n : Nat} (hlast : last? name given = some value)
      (hvalue : Text.IsLiteral value.toList n) : Sets name given default n

/-- **What a command is** with options that it takes. -/
inductive Verb.Makes : Verb → List CommandOption → Command → Prop
  /-- A sample task has five steps unless another number is given, and half a second for each. -/
  | demo {given : List CommandOption} {steps delay : Nat} (hsteps : Sets "--steps" given 5 steps)
      (hdelay : Sets "--delay-ms" given 500 delay) :
      Makes .demo given (.demo (last? "--session" given) steps delay)
  /-- Counts are those of one session. -/
  | stats {given : List CommandOption} : Makes .stats given (.stats (last? "--session" given))
  /-- All options describe the request. -/
  | resolve {given : List CommandOption} : Makes .resolve given (.resolve given)

/-- The names under which help is asked for. -/
def helpNames : List String := ["help", "--help", "-h"]

/-- **The command lines that mean something**, and what they mean. -/
inductive Accepts : List String → Command → Prop
  /-- Nothing asks for help. -/
  | nothing : Accepts [] .help
  /-- Help takes all options. -/
  | help {name : String} {arguments : List String} (hname : name ∈ helpNames)
      (harguments : AreOptions arguments) : Accepts (name :: arguments) .help
  /-- Any other command takes its own. -/
  | verb {v : Verb} {given : List CommandOption} {command : Command}
      (htakes : ∀ option ∈ given, v.Takes option) (hmakes : v.Makes given command) :
      Accepts (v.name :: written given) command

/-- **The first fault of all others**: arguments that are no options come before a name that is no
command, and this before an option that the command does not take. -/
inductive Refuses : List String → UsageError → Prop
  /-- An argument is no option. -/
  | malformed {name : String} {arguments : List String} {e : UsageError}
      (h : Malformed arguments e) : Refuses (name :: arguments) e
  /-- There is no such command. -/
  | unknown {name : String} {arguments : List String} (harguments : AreOptions arguments)
      (hhelp : name ∉ helpNames) (hname : ∀ v : Verb, name ≠ v.name) :
      Refuses (name :: arguments) (.unknownCommand name)
  /-- The command does not take an option, and takes all before it. -/
  | option {v : Verb} {before after : List CommandOption} {option : CommandOption} {e : UsageError}
      (hflagged : Flagged (before ++ option :: after)) (hbefore : ∀ o ∈ before, v.Takes o)
      (hfaults : v.Faults option e) :
      Refuses (v.name :: written (before ++ option :: after)) e

variable {arguments : List String} {given rest before after : List CommandOption}
  {option : CommandOption} {name other value : String} {e : UsageError} {command : Command}
  {v : Verb} {session : Option String} {steps delay default k m n greatest : Nat}

/-! ### One option -/

namespace Verb

/-- The names of options begin with two dashes. -/
theorem Takes.isFlag (h : v.Takes option) : IsFlag option.1 := by
  have hall : ∀ row ∈ v.table, isOptionName row.1 = true := by
    cases v <;> decide
  obtain ⟨a, ha, -⟩ := h
  exact isOptionName_iff.1 (hall _ ha)

/-- An option is taken, or there is a fault. -/
theorem takes_or_faults (v : Verb) (option : CommandOption) :
    v.Takes option ∨ ∃ e, v.Faults option e := by
  by_cases hname : ∃ a, (option.1, a) ∈ v.table
  · obtain ⟨a, ha⟩ := hname
    by_cases hvalue : a.Admits option.2
    · exact .inl ⟨a, ha, hvalue⟩
    · exact .inr ⟨_, .value ha hvalue⟩
  · exact .inr ⟨_, .unknown (not_exists.1 hname)⟩

end Verb

/-- A number is read from a literal that is not too great. -/
theorem number_eq_ok_iff :
    number greatest option = .ok n ↔ Text.IsLiteral option.2.toList n ∧ n ≤ greatest := by
  rw [← Text.unsigned?_eq_some_iff, number]
  cases Text.unsigned? greatest option.2.toList <;> simp

/-- Any other value is named with its option. -/
theorem number_eq_error (h : ¬ (Argument.number greatest).Admits option.2) :
    number greatest option = .error (.notANumber option.1 option.2) := by
  have hnone : Text.unsigned? greatest option.2.toList = none := by
    rw [Option.eq_none_iff_forall_ne_some]
    intro n hn
    obtain ⟨hliteral, hle⟩ := Text.unsigned?_eq_some_iff.1 hn
    exact h ⟨n, hle, hliteral⟩
  rw [number, hnone]

/-! ### The last value -/

/-- An option that is given decides if none of its name comes later. -/
theorem last?_cons_self :
    last? name ((name, value) :: rest) = (last? name rest).or (some value) := by
  have hname : decide ((name, value).1 = name) = true := decide_eq_true rfl
  unfold last?
  rw [List.filter_cons, if_pos hname, List.map_cons, List.getLast?_cons]
  cases ((rest.filter fun option => option.1 = name).map Prod.snd).getLast? <;> rfl

/-- Options of other names do not count. -/
theorem last?_cons_of_ne (h : other ≠ name) :
    last? name ((other, value) :: rest) = last? name rest := by
  have hname : ¬ decide ((other, value).1 = name) = true := mt decide_eq_true_iff.1 h
  unfold last?
  rw [List.filter_cons, if_neg hname]

/-- The last value is one that is given. -/
theorem mem_of_last? (h : last? name given = some value) : (name, value) ∈ given := by
  obtain ⟨option, hoption, rfl⟩ := List.mem_map.1 (List.mem_of_getLast? h)
  obtain ⟨hmem, hname⟩ := List.mem_filter.1 hoption
  rwa [← decide_eq_true_iff.1 hname]

/-- A number is set if all values that are given for it are literals. -/
theorem exists_sets (default : Nat)
    (h : ∀ value, (name, value) ∈ given → ∃ n, Text.IsLiteral value.toList n) :
    ∃ n, Sets name given default n := by
  cases hlast : last? name given with
  | none => exact ⟨default, .absent hlast⟩
  | some value =>
    obtain ⟨n, hn⟩ := h value (mem_of_last? hlast)
    exact ⟨n, .last hlast hn⟩

/-- An option that is not given has its default. -/
theorem Sets.of_nil (h : Sets name [] default n) : n = default := by
  cases h with
  | absent => rfl
  | last hlast => cases hlast

/-- Options of other names leave a number as it is. -/
theorem Sets.of_cons_of_ne (hname : other ≠ name)
    (h : Sets name ((other, value) :: rest) default n) : Sets name rest default n := by
  cases h with
  | absent hnone => exact .absent (by rwa [last?_cons_of_ne hname] at hnone)
  | last hlast hvalue => exact .last (by rwa [last?_cons_of_ne hname] at hlast) hvalue

/-- What the first value sets is the default for the rest. -/
theorem Sets.of_cons_self (hk : Text.IsLiteral value.toList k)
    (h : Sets name ((name, value) :: rest) default n) : Sets name rest k n := by
  cases h with
  | absent hnone =>
    rw [last?_cons_self, Option.or_eq_none_iff] at hnone
    cases hnone.2
  | last hlast hvalue =>
    rw [last?_cons_self] at hlast
    cases hrest : last? name rest with
    | none =>
      rw [hrest] at hlast
      cases hlast
      rw [hvalue.unique hk]
      exact .absent hrest
    | some later =>
      rw [hrest] at hlast
      cases hlast
      exact .last hrest hvalue

/-! ### The options of one command -/

/-- The session of a sample task is the one that is given last. -/
theorem demoWith_session :
    demoWith session steps delay (("--session", value) :: rest) =
      demoWith (some value) steps delay rest := by
  rw [demoWith, if_pos rfl]

/-- A literal sets the number of steps. -/
theorem demoWith_steps (hk : Text.IsLiteral value.toList k) (hle : k ≤ 2 ^ 32 - 1) :
    demoWith session steps delay (("--steps", value) :: rest) =
      demoWith session k delay rest := by
  have hnumber : number (Nat.pow 2 32 - 1) ("--steps", value) = .ok k :=
    number_eq_ok_iff.2 ⟨hk, hle⟩
  have hsession : "--steps" ≠ "--session" := by decide
  rw [demoWith, if_neg hsession, if_pos rfl, hnumber]

/-- A literal sets the delay. -/
theorem demoWith_delay (hk : Text.IsLiteral value.toList k) (hle : k ≤ 2 ^ 64 - 1) :
    demoWith session steps delay (("--delay-ms", value) :: rest) =
      demoWith session steps k rest := by
  have hnumber : number (Nat.pow 2 64 - 1) ("--delay-ms", value) = .ok k :=
    number_eq_ok_iff.2 ⟨hk, hle⟩
  have hsession : "--delay-ms" ≠ "--session" := by decide
  have hsteps : "--delay-ms" ≠ "--steps" := by decide
  rw [demoWith, if_neg hsession, if_neg hsteps, if_pos rfl, hnumber]

/-- The options of a sample task. -/
theorem Verb.mem_table_demo_iff {a : Argument} :
    (name, a) ∈ Verb.demo.table ↔ name = "--session" ∧ a = .text ∨
      name = "--steps" ∧ a = .number (2 ^ 32 - 1) ∨
        name = "--delay-ms" ∧ a = .number (2 ^ 64 - 1) := by
  simp only [table, List.mem_cons, Prod.mk.injEq, List.not_mem_nil, or_false]

/-- What a task runs with is told by the options that are left and by those before them. -/
theorem demoWith_of_takes (htakes : ∀ o ∈ given, Verb.demo.Takes o)
    (hsteps : Sets "--steps" given steps m) (hdelay : Sets "--delay-ms" given delay n) :
    demoWith session steps delay given =
      .ok (.demo ((last? "--session" given).or session) m n) := by
  induction given generalizing session steps delay with
  | nil =>
    rw [hsteps.of_nil, hdelay.of_nil]
    rfl
  | cons option rest ih =>
    obtain ⟨flag, value⟩ := option
    obtain ⟨⟨a, hmem, hadmits⟩, hrest⟩ := List.forall_mem_cons.1 htakes
    -- the value of the first option is what counts if the rest has no other
    rcases Verb.mem_table_demo_iff.1 hmem with ⟨rfl, -⟩ | ⟨rfl, rfl⟩ | ⟨rfl, rfl⟩
    · rw [demoWith_session, last?_cons_self, Option.or_assoc]
      exact ih hrest (hsteps.of_cons_of_ne (by decide)) (hdelay.of_cons_of_ne (by decide))
    · obtain ⟨k, hle, hk⟩ := hadmits
      rw [demoWith_steps hk hle, last?_cons_of_ne (by decide)]
      exact ih hrest (hsteps.of_cons_self hk) (hdelay.of_cons_of_ne (by decide))
    · obtain ⟨k, hle, hk⟩ := hadmits
      rw [demoWith_delay hk hle, last?_cons_of_ne (by decide)]
      exact ih hrest (hsteps.of_cons_of_ne (by decide)) (hdelay.of_cons_self hk)

/-- An option that a sample task does not take ends the reading. -/
theorem demoWith_of_faults (h : Verb.demo.Faults option e) :
    demoWith session steps delay (option :: rest) = .error e := by
  obtain ⟨flag, value⟩ := option
  cases h with
  | unknown hname =>
    have hsession : flag ≠ "--session" := fun heq =>
      hname _ (Verb.mem_table_demo_iff.2 (.inl ⟨heq, rfl⟩))
    have hsteps : flag ≠ "--steps" := fun heq =>
      hname _ (Verb.mem_table_demo_iff.2 (.inr (.inl ⟨heq, rfl⟩)))
    have hdelay : flag ≠ "--delay-ms" := fun heq =>
      hname _ (Verb.mem_table_demo_iff.2 (.inr (.inr ⟨heq, rfl⟩)))
    rw [demoWith, if_neg hsession, if_neg hsteps, if_neg hdelay]
    rfl
  | value hname hvalue =>
    rcases Verb.mem_table_demo_iff.1 hname with ⟨rfl, rfl⟩ | ⟨rfl, rfl⟩ | ⟨rfl, rfl⟩
    · exact absurd trivial hvalue
    · have hnumber : number (Nat.pow 2 32 - 1) ("--steps", value) = .error _ :=
        number_eq_error hvalue
      have hsession : "--steps" ≠ "--session" := by decide
      rw [demoWith, if_neg hsession, if_pos rfl, hnumber]
    · have hnumber : number (Nat.pow 2 64 - 1) ("--delay-ms", value) = .error _ :=
        number_eq_error hvalue
      have hsession : "--delay-ms" ≠ "--session" := by decide
      have hsteps : "--delay-ms" ≠ "--steps" := by decide
      rw [demoWith, if_neg hsession, if_neg hsteps, if_pos rfl, hnumber]

/-- The first option that is not taken decides. -/
theorem demoWith_append_of_faults (hbefore : ∀ o ∈ before, Verb.demo.Takes o)
    (h : Verb.demo.Faults option e) :
    demoWith session steps delay (before ++ option :: after) = .error e := by
  induction before generalizing session steps delay with
  | nil => exact demoWith_of_faults h
  | cons first before ih =>
    obtain ⟨flag, value⟩ := first
    obtain ⟨⟨a, hmem, hadmits⟩, hrest⟩ := List.forall_mem_cons.1 hbefore
    rw [List.cons_append]
    rcases Verb.mem_table_demo_iff.1 hmem with ⟨rfl, -⟩ | ⟨rfl, rfl⟩ | ⟨rfl, rfl⟩
    · rw [demoWith_session, ih hrest]
    · obtain ⟨k, hle, hk⟩ := hadmits
      rw [demoWith_steps hk hle, ih hrest]
    · obtain ⟨k, hle, hk⟩ := hadmits
      rw [demoWith_delay hk hle, ih hrest]

/-- The only option of the counts. -/
theorem Verb.mem_table_stats_iff {a : Argument} :
    (name, a) ∈ Verb.stats.table ↔ name = "--session" ∧ a = .text := by
  simp only [table, List.mem_cons, Prod.mk.injEq, List.not_mem_nil, or_false]

/-- The counts are those of the session that is given last. -/
theorem statsWith_of_takes (htakes : ∀ o ∈ given, Verb.stats.Takes o) :
    statsWith session given = .ok (.stats ((last? "--session" given).or session)) := by
  induction given generalizing session with
  | nil => rfl
  | cons option rest ih =>
    obtain ⟨flag, value⟩ := option
    obtain ⟨⟨a, hmem, -⟩, hrest⟩ := List.forall_mem_cons.1 htakes
    obtain ⟨rfl, -⟩ := Verb.mem_table_stats_iff.1 hmem
    rw [statsWith, if_pos rfl, ih hrest, last?_cons_self, Option.or_assoc]
    rfl

/-- The counts name the first option that they do not take. -/
theorem statsWith_append_of_faults (hbefore : ∀ o ∈ before, Verb.stats.Takes o)
    (h : Verb.stats.Faults option e) :
    statsWith session (before ++ option :: after) = .error e := by
  induction before generalizing session with
  | nil =>
    rw [List.nil_append, statsWith]
    cases h with
    | unknown hname =>
      have hsession : option.1 ≠ "--session" := fun heq =>
        hname _ (Verb.mem_table_stats_iff.2 ⟨heq, rfl⟩)
      rw [if_neg hsession]
      rfl
    | value hname hvalue =>
      obtain ⟨-, rfl⟩ := Verb.mem_table_stats_iff.1 hname
      exact absurd trivial hvalue
  | cons first before ih =>
    obtain ⟨⟨a, hmem, -⟩, hrest⟩ := List.forall_mem_cons.1 hbefore
    rw [List.cons_append, statsWith, if_pos (Verb.mem_table_stats_iff.1 hmem).1, ih hrest]

/-- The options that describe a request. -/
theorem Verb.mem_table_resolve_iff {a : Argument} :
    (name, a) ∈ Verb.resolve.table ↔ name ∈ resolveOptions ∧ a = .text := by
  simp only [table, resolveOptions, List.mem_cons, Prod.mk.injEq, List.not_mem_nil, or_false]
  tauto

/-- A request takes its options with any value. -/
theorem Verb.takes_resolve_iff : Verb.resolve.Takes option ↔ option.1 ∈ resolveOptions := by
  constructor
  · rintro ⟨a, hmem, -⟩
    exact (mem_table_resolve_iff.1 hmem).1
  · exact fun h => ⟨.text, mem_table_resolve_iff.2 ⟨h, rfl⟩, trivial⟩

/-- A request is described by its options as they are given. -/
theorem resolveWith_of_takes (htakes : ∀ o ∈ given, Verb.resolve.Takes o) :
    resolveWith given = .ok (.resolve given) := by
  have hfind : given.find? (fun option => option.1 ∉ resolveOptions) = none := by
    rw [List.find?_eq_none]
    intro o ho
    simpa using Verb.takes_resolve_iff.1 (htakes o ho)
  rw [resolveWith, hfind]

/-- The first option that describes no request is named. -/
theorem resolveWith_append_of_faults (hbefore : ∀ o ∈ before, Verb.resolve.Takes o)
    (h : Verb.resolve.Faults option e) : resolveWith (before ++ option :: after) = .error e := by
  cases h with
  | unknown hname =>
    have hoption : option.1 ∉ resolveOptions := fun hmem =>
      hname _ (Verb.mem_table_resolve_iff.2 ⟨hmem, rfl⟩)
    have hfind : (before ++ option :: after).find? (fun option => option.1 ∉ resolveOptions) =
        some option := by
      refine List.find?_eq_some_iff_append.2 ⟨by simpa using hoption, before, after, rfl, ?_⟩
      intro o ho
      simpa using Verb.takes_resolve_iff.1 (hbefore o ho)
    rw [resolveWith, hfind]
    rfl
  | value hname hvalue =>
    obtain ⟨-, rfl⟩ := Verb.mem_table_resolve_iff.1 hname
    exact absurd trivial hvalue

/-! ### Every command -/

/-- Reads the options of a command. -/
def Verb.run : Verb → List CommandOption → Except UsageError Command
  | .demo => demoWith none 5 500
  | .stats => statsWith none
  | .resolve => resolveWith

/-- With options that it takes a command is what it makes of them. -/
theorem Verb.run_of_makes (htakes : ∀ o ∈ given, v.Takes o) (hmakes : v.Makes given command) :
    v.run given = .ok command := by
  cases hmakes with
  | demo hsteps hdelay =>
    show demoWith none 5 500 given = _
    rw [demoWith_of_takes htakes hsteps hdelay, Option.or_none]
  | stats =>
    show statsWith none given = _
    rw [statsWith_of_takes htakes, Option.or_none]
  | resolve => exact resolveWith_of_takes htakes

/-- Otherwise it names the first option that it does not take. -/
theorem Verb.run_of_faults (hbefore : ∀ o ∈ before, v.Takes o) (h : v.Faults option e) :
    v.run (before ++ option :: after) = .error e := by
  cases v with
  | demo => exact demoWith_append_of_faults hbefore h
  | stats => exact statsWith_append_of_faults hbefore h
  | resolve => exact resolveWith_append_of_faults hbefore h

/-- The values of all options but the session are literals. -/
theorem Verb.exists_literal (h : Verb.demo.Takes (name, value)) (hname : name ≠ "--session") :
    ∃ n, Text.IsLiteral value.toList n := by
  obtain ⟨a, hmem, hadmits⟩ := h
  rcases mem_table_demo_iff.1 hmem with ⟨hsession, -⟩ | ⟨-, rfl⟩ | ⟨-, rfl⟩
  · exact absurd hsession hname
  · obtain ⟨n, -, hn⟩ := hadmits
    exact ⟨n, hn⟩
  · obtain ⟨n, -, hn⟩ := hadmits
    exact ⟨n, hn⟩

/-- With options that it takes a command is always one. -/
theorem Verb.exists_makes (htakes : ∀ o ∈ given, v.Takes o) : ∃ command, v.Makes given command := by
  cases v with
  | stats => exact ⟨_, .stats⟩
  | resolve => exact ⟨_, .resolve⟩
  | demo =>
    obtain ⟨steps, hsteps⟩ := exists_sets 5 fun value (hvalue : ("--steps", value) ∈ given) =>
      exists_literal (htakes _ hvalue) (by decide)
    obtain ⟨delay, hdelay⟩ := exists_sets 500 fun value (hvalue : ("--delay-ms", value) ∈ given) =>
      exists_literal (htakes _ hvalue) (by decide)
    exact ⟨_, .demo hsteps hdelay⟩

/-- All options are taken, or there is a first one that is not. -/
theorem Verb.takes_or_first_fault (v : Verb) (given : List CommandOption) :
    (∀ o ∈ given, v.Takes o) ∨ ∃ before option after e, given = before ++ option :: after ∧
      (∀ o ∈ before, v.Takes o) ∧ v.Faults option e := by
  induction given with
  | nil => exact .inl nofun
  | cons first rest ih =>
    rcases v.takes_or_faults first with htakes | ⟨e, he⟩
    · rcases ih with hrest | ⟨before, option, after, e, rfl, hbefore, he⟩
      · exact .inl (List.forall_mem_cons.2 ⟨htakes, hrest⟩)
      · exact .inr ⟨first :: before, option, after, e, rfl,
          List.forall_mem_cons.2 ⟨htakes, hbefore⟩, he⟩
    · exact .inr ⟨[], first, rest, e, rfl, nofun, he⟩

/-! ## Command lines -/

/-- Arguments that are no options are named before the command is looked at. -/
theorem parse_of_malformed (h : Malformed arguments e) : parse (name :: arguments) = .error e := by
  rw [parse, options_of_malformed h]

/-- A command that looks at its options is given all of them. -/
theorem parse_verb (h : Flagged given) : parse (v.name :: written given) = v.run given := by
  rw [parse, options_written h]
  cases v <;> rfl

/-- Help is no command that looks at its options. -/
theorem not_verb_of_mem_helpNames (h : name ∈ helpNames) (v : Verb) : name ≠ v.name := by
  have hall : ∀ name ∈ helpNames, name ≠ v.name := by
    cases v <;> decide
  exact hall name h

/-- Help, and what is no command, do not look at their options. -/
theorem parse_of_forall_ne (h : Flagged given) (hname : ∀ v : Verb, name ≠ v.name) :
    parse (name :: written given) =
      if name ∈ helpNames then .ok .help else .error (.unknownCommand name) := by
  have hdemo : name ≠ "demo" := hname .demo
  have hstats : name ≠ "stats" := hname .stats
  have hresolve : name ≠ "resolve" := hname .resolve
  rw [parse, options_written h]
  show (if name = "demo" then _ else if name = "stats" then _ else
    if name = "resolve" then _ else if name ∈ helpNames then _ else _) = _
  rw [if_neg hdemo, if_neg hstats, if_neg hresolve]

/-- A command line that means something is read. -/
theorem parse_of_accepts (h : Accepts arguments command) : parse arguments = .ok command := by
  cases h with
  | nothing => rfl
  | help hname harguments =>
    obtain ⟨given, hgiven, rfl⟩ := areOptions_iff.1 harguments
    rw [parse_of_forall_ne hgiven (not_verb_of_mem_helpNames hname), if_pos hname]
  | verb htakes hmakes =>
    rw [parse_verb fun o ho => (htakes o ho).isFlag]
    exact Verb.run_of_makes htakes hmakes

/-- Any other is refused for its first fault. -/
theorem parse_of_refuses (h : Refuses arguments e) : parse arguments = .error e := by
  cases h with
  | malformed h => exact parse_of_malformed h
  | unknown harguments hhelp hname =>
    obtain ⟨given, hgiven, rfl⟩ := areOptions_iff.1 harguments
    rw [parse_of_forall_ne hgiven hname, if_neg hhelp]
  | option hflagged hbefore hfaults =>
    rw [parse_verb hflagged]
    exact Verb.run_of_faults hbefore hfaults

/-- Every command line means something or has a first fault. -/
theorem accepts_or_refuses (arguments : List String) :
    (∃ command, Accepts arguments command) ∨ ∃ e, Refuses arguments e := by
  cases arguments with
  | nil => exact .inl ⟨_, .nothing⟩
  | cons name arguments =>
    rcases written_or_malformed arguments with ⟨given, hgiven, rfl⟩ | ⟨e, he⟩
    · have hoptions : AreOptions (written given) := areOptions_iff.2 ⟨given, hgiven, rfl⟩
      by_cases hverb : ∃ v : Verb, name = v.name
      · obtain ⟨v, rfl⟩ := hverb
        rcases v.takes_or_first_fault given with
          htakes | ⟨before, option, after, e, rfl, hbefore, he⟩
        · obtain ⟨command, hmakes⟩ := Verb.exists_makes htakes
          exact .inl ⟨command, .verb htakes hmakes⟩
        · exact .inr ⟨e, .option hgiven hbefore he⟩
      · by_cases hhelp : name ∈ helpNames
        · exact .inl ⟨_, .help hhelp hoptions⟩
        · exact .inr ⟨_, .unknown hoptions hhelp (not_exists.1 hverb)⟩
    · exact .inr ⟨e, .malformed he⟩

/-- A command line is read or refused, as the grammar says. -/
theorem parse_iff (arguments : List String) :
    (∀ command, parse arguments = .ok command ↔ Accepts arguments command) ∧
      ∀ e, parse arguments = .error e ↔ Refuses arguments e :=
  result_iff (fun _ => parse_of_accepts) (fun _ => parse_of_refuses) (accepts_or_refuses arguments)

/-- **The command lines that mean something are read.** -/
theorem parse_eq_ok_iff : parse arguments = .ok command ↔ Accepts arguments command :=
  (parse_iff arguments).1 command

/-- **All others are refused** for their first fault. -/
theorem parse_eq_error_iff : parse arguments = .error e ↔ Refuses arguments e :=
  (parse_iff arguments).2 e

/-! ## The whole -/

/-- What holds of some arguments, as options and as a command line. -/
structure Grammar (arguments : List String) : Prop where
  /-- They are read as options if they are options. -/
  options_read : (∃ given, options arguments = .ok given) ↔ AreOptions arguments
  /-- The options that are read are their pairs, in their order. -/
  pairs : ∀ given, options arguments = .ok given → written given = arguments ∧
    ∀ i : Nat, arguments[2 * i]? = given[i]?.map Prod.fst ∧
      arguments[2 * i + 1]? = given[i]?.map Prod.snd
  /-- Otherwise the first pair is named that is no option. -/
  options_refused : ∀ e, options arguments = .error e ↔ Malformed arguments e
  /-- They are read as a command if they mean one. -/
  accepted : ∀ command, parse arguments = .ok command ↔ Accepts arguments command
  /-- Otherwise the first fault is named. -/
  refused : ∀ e, parse arguments = .error e ↔ Refuses arguments e

/-- **Command lines follow their grammar**, whatever the arguments are. -/
theorem follows_grammar (arguments : List String) : Grammar arguments where
  options_read := by
    rw [areOptions_iff]
    exact exists_congr fun _ => options_eq_ok_iff
  pairs given h := by
    obtain ⟨-, rfl⟩ := options_eq_ok_iff.1 h
    exact ⟨rfl, getElem?_written given⟩
  options_refused _ := options_eq_error_iff
  accepted _ := parse_eq_ok_iff
  refused _ := parse_eq_error_iff

/-- All values of an option are read, and the last counts. -/
example :
    parse ["demo", "--steps", "3", "--session", "--key", "--steps", "+04"] =
      .ok (.demo (some "--key") 4 500) := by
  decide

end SessionTasks.Command
