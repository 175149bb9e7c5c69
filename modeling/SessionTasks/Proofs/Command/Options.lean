/-
# Options and their arguments

An option is a name that begins with two dashes and a value, whatever the value begins with.
Arguments are options if they go in pairs of a name and a value.

* `Command.AreOptions`, `Command.areOptions_iff` : the arguments that are options, told by their
  places and by the options that they stand for;
* `Command.Malformed` : the first pair that is no option;
* `Command.options_eq_ok_iff`, `Command.options_eq_error_iff` : options are read off their
  arguments, and all other arguments are refused for the first pair that is no option.
-/
import Mathlib
import SessionTasks.Command
namespace SessionTasks.Command

/-- A result is told by what holds, where all that may hold says what the result is. -/
theorem result_iff {ε α : Type} {result : Except ε α} {P : α → Prop} {Q : ε → Prop}
    (hok : ∀ a, P a → result = .ok a) (herror : ∀ e, Q e → result = .error e)
    (hsome : (∃ a, P a) ∨ ∃ e, Q e) :
    (∀ a, result = .ok a ↔ P a) ∧ ∀ e, result = .error e ↔ Q e := by
  rcases hsome with ⟨a, ha⟩ | ⟨e, he⟩
  · cases hok a ha
    refine ⟨fun b => ⟨fun h => ?_, hok b⟩, fun f => ⟨nofun, herror f⟩⟩
    cases h
    exact ha
  · cases herror e he
    refine ⟨fun b => ⟨nofun, hok b⟩, fun f => ⟨fun h => ?_, herror f⟩⟩
    cases h
    exact he

/-! ## Options and their arguments -/

/-- Begins with two dashes. -/
def IsFlag (argument : String) : Prop := ['-', '-'] <+: argument.toList

/-- The arguments that stand for some options. -/
def written (given : List CommandOption) : List String :=
  given.flatMap fun option => [option.1, option.2]

/-- The names of the options begin with two dashes. -/
def Flagged (given : List CommandOption) : Prop := ∀ option ∈ given, IsFlag option.1

/-- **The arguments are options**: there are as many values as names, and every other argument,
from the first on, is a name. -/
structure AreOptions (arguments : List String) : Prop where
  /-- They go in pairs. -/
  even : Even arguments.length
  /-- The first of each pair begins with two dashes. -/
  flags : ∀ (i : Nat) (argument : String), arguments[2 * i]? = some argument → IsFlag argument

/-- **The first pair that is no option**, after some that are. -/
inductive Malformed : List String → UsageError → Prop
  /-- It has no name. -/
  | unexpected {before : List CommandOption} {argument : String} {rest : List String}
      (hbefore : Flagged before) (hargument : ¬ IsFlag argument) :
      Malformed (written before ++ argument :: rest) (.unexpectedArgument argument)
  /-- It has no value. -/
  | missing {before : List CommandOption} {name : String} (hbefore : Flagged before)
      (hname : IsFlag name) : Malformed (written before ++ [name]) (.missingValue name)

variable {arguments rest : List String} {given : List CommandOption} {option : CommandOption}
  {name value : String} {e : UsageError}

/-- A flag is what the parser takes for the name of an option. -/
theorem isOptionName_iff : isOptionName name = true ↔ IsFlag name := List.isPrefixOf_iff_prefix

theorem flagged_cons_iff : Flagged (option :: given) ↔ IsFlag option.1 ∧ Flagged given :=
  List.forall_mem_cons

theorem flagged_nil : Flagged [] := nofun

/-- Each option is written as two arguments. -/
theorem length_written (given : List CommandOption) :
    (written given).length = 2 * given.length := by
  induction given with
  | nil => rfl
  | cons option given ih =>
    show (written given).length + 1 + 1 = 2 * (given.length + 1)
    omega

/-- The name of an option comes first, and its value is the next argument, whatever it is. -/
theorem getElem?_written (given : List CommandOption) (i : Nat) :
    (written given)[2 * i]? = given[i]?.map Prod.fst ∧
      (written given)[2 * i + 1]? = given[i]?.map Prod.snd := by
  induction given generalizing i with
  | nil => exact ⟨rfl, rfl⟩
  | cons option given ih =>
    cases i with
    | zero => exact ⟨rfl, rfl⟩
    | succ i => exact ih i

/-- The first two arguments are an option if the first of them is a flag. -/
theorem options_cons_cons (h : IsFlag name) :
    options (name :: value :: rest) = (options rest).map ((name, value) :: ·) := by
  rw [options, if_pos (isOptionName_iff.2 h)]

/-- Options are read, and then what stands after them. -/
theorem options_written_append (h : Flagged given) (rest : List String) :
    options (written given ++ rest) = (options rest).map (given ++ ·) := by
  induction given with
  | nil =>
    show options rest = (options rest).map fun given => given
    cases options rest <;> rfl
  | cons option given ih =>
    obtain ⟨hname, hgiven⟩ := flagged_cons_iff.1 h
    show options (option.1 :: option.2 :: (written given ++ rest)) = _
    rw [options_cons_cons hname, ih hgiven]
    cases options rest <;> rfl

/-- Options that are written are read as they were. -/
theorem options_written (h : Flagged given) : options (written given) = .ok given := by
  have hread := options_written_append h []
  rw [List.append_nil] at hread
  rw [hread]
  exact congrArg Except.ok (List.append_nil given)

/-- The first pair that is no option is named. -/
theorem options_of_malformed (h : Malformed arguments e) : options arguments = .error e := by
  cases h with
  | @unexpected before argument rest hbefore hargument =>
    have hfalse : ¬ isOptionName argument = true := mt isOptionName_iff.1 hargument
    rw [options_written_append hbefore]
    cases rest with
    | nil =>
      rw [options, if_neg hfalse]
      rfl
    | cons value rest =>
      rw [options, if_neg hfalse]
      rfl
  | missing hbefore hname =>
    rw [options_written_append hbefore, options, if_pos (isOptionName_iff.2 hname)]
    rfl

/-- What comes first does not hide a later pair that is no option. -/
theorem Malformed.cons (hname : IsFlag name) (h : Malformed arguments e) :
    Malformed (name :: value :: arguments) e := by
  cases h with
  | @unexpected before argument rest hbefore hargument =>
    have hflagged : Flagged ((name, value) :: before) := flagged_cons_iff.2 ⟨hname, hbefore⟩
    exact .unexpected hflagged hargument
  | @missing before last hbefore hlast =>
    have hflagged : Flagged ((name, value) :: before) := flagged_cons_iff.2 ⟨hname, hbefore⟩
    exact .missing hflagged hlast

/-- Arguments are options, or there is a first pair that is none. -/
theorem written_or_malformed (arguments : List String) :
    (∃ given, Flagged given ∧ written given = arguments) ∨ ∃ e, Malformed arguments e := by
  induction arguments using options.induct with
  | case1 => exact .inl ⟨[], flagged_nil, rfl⟩
  | case2 name hname =>
    exact .inr ⟨_, .missing flagged_nil (isOptionName_iff.1 hname)⟩
  | case3 name hname =>
    exact .inr ⟨_, .unexpected flagged_nil (mt isOptionName_iff.2 hname)⟩
  | case4 name value rest hname ih =>
    have hflag := isOptionName_iff.1 hname
    rcases ih with ⟨given, hgiven, rfl⟩ | ⟨e, he⟩
    · exact .inl ⟨(name, value) :: given, flagged_cons_iff.2 ⟨hflag, hgiven⟩, rfl⟩
    · exact .inr ⟨e, he.cons hflag⟩
  | case5 name value rest hname =>
    exact .inr ⟨_, .unexpected flagged_nil (mt isOptionName_iff.2 hname)⟩

/-- Options are read, or refused for the first pair that is none. -/
theorem options_iff (arguments : List String) :
    (∀ given, options arguments = .ok given ↔ Flagged given ∧ written given = arguments) ∧
      ∀ e, options arguments = .error e ↔ Malformed arguments e := by
  refine result_iff ?_ (fun _ => options_of_malformed) (written_or_malformed arguments)
  rintro given ⟨hgiven, rfl⟩
  exact options_written hgiven

/-- **Options are read off the arguments that stand for them.** -/
theorem options_eq_ok_iff :
    options arguments = .ok given ↔ Flagged given ∧ written given = arguments :=
  (options_iff arguments).1 given

/-- **All others are refused** for the first pair that is no option. -/
theorem options_eq_error_iff : options arguments = .error e ↔ Malformed arguments e :=
  (options_iff arguments).2 e

/-- The first pair that is no option stands at an even place, or makes the number odd. -/
theorem Malformed.not_areOptions (h : Malformed arguments e) : ¬ AreOptions arguments := by
  rintro ⟨heven, hflags⟩
  cases h with
  | @unexpected before argument rest _ hargument =>
    refine hargument (hflags before.length argument ?_)
    rw [← length_written, List.getElem?_append_right le_rfl, Nat.sub_self]
    rfl
  | missing =>
    rw [List.length_append, length_written, List.length_singleton] at heven
    exact Nat.not_even_two_mul_add_one _ heven

/-- **Which arguments are options**, told by their number and their places. -/
theorem areOptions_iff :
    AreOptions arguments ↔ ∃ given, Flagged given ∧ written given = arguments := by
  constructor
  · intro h
    rcases written_or_malformed arguments with hwritten | ⟨e, he⟩
    · exact hwritten
    · exact absurd h he.not_areOptions
  · rintro ⟨given, hgiven, rfl⟩
    refine ⟨?_, fun i argument h => ?_⟩
    · rw [length_written]
      exact even_two_mul _
    · rw [(getElem?_written given i).1] at h
      obtain ⟨option, hoption, rfl⟩ := Option.map_eq_some_iff.1 h
      exact hgiven option (List.mem_of_getElem? hoption)

end SessionTasks.Command
