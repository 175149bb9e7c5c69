/-
# What the environment sets

The variables of the fields are read one after the other, up to the first that is not taken.  A
variable that is taken counts for its own field and for nothing else.

* `Config.Field.Takes`, `Config.Field.Refuses` : what one variable makes of its field;
* `Config.Overlaid` : what variables make of a configuration;
* `Config.overlay_eq_iff` : this is what the environment makes of it;
* `Config.overlay_refused_iff`, `Config.get_overlay_congr`, `Config.overlay_congr`,
  `Config.overlay_overlay` : when it is refused, and what does not count;
* `Config.follows_environment` : all of this.
-/
import SessionTasks.Proofs.Config.Field
import SessionTasks.Proofs.Request
namespace SessionTasks.Config

/-! ## What variables make of a configuration -/

variable {lookup other : String → Option String} {f : Field} {fields rest : List Field}
  {before after : Config} {fault : ConfigFault} {result : Config × Option ConfigFault}

namespace Field

variable {given : String} {x y z : f.Value}

/-- The variable of the field has a text that is not blank. -/
def Holds (f : Field) (lookup : String → Option String) (given : String) : Prop :=
  lookup f.name = some given ∧ Text.isBlankText given = false

/-- **What the variable of a field makes of what the field held.** -/
inductive Takes (f : Field) (lookup : String → Option String) (x : f.Value) : f.Value → Prop
  /-- A variable that is unset or blank leaves it alone. -/
  | kept (hnone : ∀ given, ¬ f.Holds lookup given) : Takes f lookup x x
  /-- Any other sets the field to what its text stands for. -/
  | set {given : String} {y : f.Value} (hholds : f.Holds lookup given)
      (hspells : f.rule.Spells given y) : Takes f lookup x y

/-- The variable of the field has a text that stands for nothing. -/
def Refuses (f : Field) (lookup : String → Option String) (fault : ConfigFault) : Prop :=
  ∃ given, f.Holds lookup given ∧ (∀ x, ¬ f.rule.Spells given x) ∧
    f.rule.fault? f.name given = some fault

/-- The variable of a field holds a text when it is set, and not to a blank one. -/
theorem holds_iff : f.Holds lookup given ↔ (lookup f.name).bind Text.nonBlank? = some given := by
  rw [Option.bind_eq_some_iff]
  constructor
  · rintro ⟨hlookup, hblank⟩
    exact ⟨given, hlookup, Text.nonBlank?_eq_some_iff.2 ⟨hblank, rfl⟩⟩
  · rintro ⟨text, hlookup, hblank⟩
    obtain ⟨hfalse, rfl⟩ := Text.nonBlank?_eq_some_iff.1 hblank
    exact ⟨hlookup, hfalse⟩

theorem Holds.unique {text : String} (h : f.Holds lookup given) (h' : f.Holds lookup text) :
    given = text :=
  Option.some.inj (h.1.symm.trans h'.1)

/-- Where there is a text, the field is set to what it stands for. -/
theorem Takes.spells (h : f.Takes lookup x y) (hholds : f.Holds lookup given) :
    f.rule.Spells given y := by
  cases h with
  | kept hnone => exact absurd hholds (hnone given)
  | set hother hspells =>
    cases hholds.unique hother
    exact hspells

/-- A variable is taken in one way. -/
theorem Takes.unique (h : f.Takes lookup x y) (h' : f.Takes lookup x z) : y = z := by
  cases h with
  | kept hnone =>
    cases h' with
    | kept => rfl
    | set hholds _ => exact absurd hholds (hnone _)
  | set hholds hspells =>
    have hread : f.rule.read f.name _ = .ok y := Rule.read_eq_ok_iff.2 hspells
    rw [Rule.read_eq_ok_iff.2 (h'.spells hholds)] at hread
    exact (Except.ok.inj hread).symm

/-- Once a variable is taken, it changes nothing any more. -/
theorem Takes.again (h : f.Takes lookup x y) : f.Takes lookup y y := by
  cases h with
  | kept hnone => exact .kept hnone
  | set hholds hspells => exact .set hholds hspells

/-- Only the variable of the field tells what it holds. -/
theorem Holds.congr (hlookup : other f.name = lookup f.name) (h : f.Holds lookup given) :
    f.Holds other given :=
  ⟨hlookup.trans h.1, h.2⟩

theorem Takes.congr (hlookup : other f.name = lookup f.name) (h : f.Takes lookup x y) :
    f.Takes other x y := by
  cases h with
  | kept hnone => exact .kept fun given hother => hnone given (hother.congr hlookup.symm)
  | set hholds hspells => exact .set (hholds.congr hlookup) hspells

/-- A variable that is refused is not taken. -/
theorem Refuses.not_takes (h : f.Refuses lookup fault) : ¬ f.Takes lookup x y := by
  obtain ⟨given, hholds, hnone, -⟩ := h
  exact fun htakes => hnone y (htakes.spells hholds)

theorem Refuses.congr (hlookup : other f.name = lookup f.name) (h : f.Refuses lookup fault) :
    f.Refuses other fault := by
  obtain ⟨given, hholds, hrefused⟩ := h
  exact ⟨given, hholds.congr hlookup, hrefused⟩

/-- A text is refused for one reason. -/
theorem Refuses.unique {first second : ConfigFault} (h : f.Refuses lookup first)
    (h' : f.Refuses lookup second) : first = second := by
  obtain ⟨given, hholds, -, hfault⟩ := h
  obtain ⟨text, hholds', -, hfault'⟩ := h'
  cases hholds.unique hholds'
  exact Option.some.inj (hfault.symm.trans hfault')

/-- Each variable is taken or refused. -/
theorem takes_or_refuses (f : Field) (lookup : String → Option String) (x : f.Value) :
    (∃ y, f.Takes lookup x y) ∨ ∃ fault, f.Refuses lookup fault := by
  cases hgiven : (lookup f.name).bind Text.nonBlank? with
  | none =>
    refine .inl ⟨x, .kept fun given hholds => ?_⟩
    rw [holds_iff, hgiven] at hholds
    cases hholds
  | some given =>
    have hholds := holds_iff.2 hgiven
    cases hread : f.rule.read f.name given with
    | ok y => exact .inl ⟨y, .set hholds (Rule.read_eq_ok_iff.1 hread)⟩
    | error fault => exact .inr ⟨fault, given, hholds, Rule.read_eq_error_iff.1 hread⟩

end Field

/-- The variables of some fields are taken, and all other fields are left alone. -/
structure Laid (lookup : String → Option String) (fields : List Field) (before after : Config) :
    Prop where
  /-- The variables of the fields are taken. -/
  taken : ∀ f ∈ fields, f.Takes lookup (before.get f) (after.get f)
  /-- All other fields hold what they held. -/
  kept : ∀ f ∉ fields, after.get f = before.get f

/-- **What the variables of some fields make of a configuration**, one after the other. -/
inductive Overlaid (lookup : String → Option String) (fields : List Field) (before : Config) :
    Config × Option ConfigFault → Prop
  /-- All of them are taken. -/
  | accepted {after : Config} (hlaid : Laid lookup fields before after) :
      Overlaid lookup fields before (after, none)
  /-- Or those up to the first that is refused. -/
  | refused {earlier later : List Field} {f : Field} {after : Config} {fault : ConfigFault}
      (hfields : fields = earlier ++ f :: later) (hlaid : Laid lookup earlier before after)
      (hrefused : f.Refuses lookup fault) : Overlaid lookup fields before (after, some fault)

/-! ### One variable -/

/-- A field may be put back as it is. -/
theorem put_get (c : Config) (f : Field) : c.put f (c.get f) = c := by
  rw [put, Function.update_eq_self, ofFields_get]

/-- A variable that is taken sets its field, and the rest follows. -/
theorem overlayWith_of_takes {y : f.Value} (h : f.Takes lookup (before.get f) y)
    (rest : List Setting) :
    overlayWith lookup (f.setting :: rest) before = overlayWith lookup rest (before.put f y) := by
  rw [overlayWith]
  cases h with
  | kept hnone =>
    have hgiven : (lookup f.setting.name).bind Text.nonBlank? = none :=
      Option.eq_none_iff_forall_ne_some.2 fun given h => hnone given (Field.holds_iff.2 h)
    rw [hgiven, put_get]
  | @set given _ hholds hspells =>
    have hgiven : (lookup f.setting.name).bind Text.nonBlank? = some given :=
      Field.holds_iff.1 hholds
    rw [hgiven]
    dsimp only
    rw [Field.set_setting_of_spells hspells]

/-- A variable that is refused ends it. -/
theorem overlayWith_of_refuses (h : f.Refuses lookup fault) (rest : List Setting) :
    overlayWith lookup (f.setting :: rest) before = (before, some fault) := by
  obtain ⟨given, hholds, hnone, hfault⟩ := h
  have hgiven : (lookup f.setting.name).bind Text.nonBlank? = some given :=
    Field.holds_iff.1 hholds
  rw [overlayWith, hgiven]
  dsimp only
  rw [Field.set_setting_of_forall hnone hfault]

/-! ### All of them -/

/-- A field may be laid before others. -/
theorem Laid.cons {y : f.Value} (hf : f ∉ fields) (hy : f.Takes lookup (before.get f) y)
    (h : Laid lookup fields (before.put f y) after) : Laid lookup (f :: fields) before after where
  taken u hu := by
    by_cases hne : u = f
    · cases hne
      rwa [h.kept f hf, get_put_self]
    · have htaken := h.taken u (List.mem_of_ne_of_mem hne hu)
      rwa [get_put_of_ne hne] at htaken
  kept u hu := by
    rw [List.mem_cons, not_or] at hu
    rw [h.kept u hu.2, get_put_of_ne hu.1]

/-- The fields that are laid settle the configuration. -/
theorem Laid.unique {other : Config} (h : Laid lookup fields before after)
    (h' : Laid lookup fields before other) : after = other := by
  refine ext_get fun f => ?_
  by_cases hf : f ∈ fields
  · exact (h.taken f hf).unique (h'.taken f hf)
  · rw [h.kept f hf, h'.kept f hf]

/-- Laying the fields again changes nothing. -/
theorem Laid.again (h : Laid lookup fields before after) : Laid lookup fields after after where
  taken f hf := (h.taken f hf).again
  kept _ _ := rfl

/-- A field that takes its value passes on to the others. -/
theorem Overlaid.cons {y : f.Value} (hf : f ∉ fields) (hy : f.Takes lookup (before.get f) y)
    (h : Overlaid lookup fields (before.put f y) result) :
    Overlaid lookup (f :: fields) before result := by
  cases h with
  | accepted hlaid => exact .accepted (hlaid.cons hf hy)
  | refused hfields hlaid hrefused =>
    subst hfields
    have hearlier : f ∉ _ := fun hmem => hf (List.mem_append_left _ hmem)
    exact .refused (List.cons_append).symm (hlaid.cons hearlier hy) hrefused

/-- What stands before a refused variable is taken, so there is no other that is refused first. -/
theorem Laid.refused_unique {earlier between later rest : List Field} {f g : Field} {c d : Config}
    {first second : ConfigFault} (hlaid : Laid lookup earlier before c)
    (hf : f.Refuses lookup first) (hlaid' : Laid lookup (earlier ++ between) before d)
    (hg : g.Refuses lookup second) (heq : f :: later = between ++ g :: rest) :
    (c, some first) = (d, some second) := by
  cases between with
  | nil =>
    cases heq
    rw [List.append_nil] at hlaid'
    rw [hlaid.unique hlaid', hf.unique hg]
  | cons u between =>
    cases heq
    exact absurd (hlaid'.taken f (List.mem_append_right _ List.mem_cons_self)) hf.not_takes

/-- Variables make one thing of a configuration. -/
theorem Overlaid.unique {other : Config × Option ConfigFault}
    (h : Overlaid lookup fields before result) (h' : Overlaid lookup fields before other) :
    result = other := by
  cases h with
  | accepted hlaid =>
    cases h' with
    | accepted hlaid' => rw [hlaid.unique hlaid']
    | refused hfields _ hrefused =>
      have hmem : _ ∈ fields := hfields ▸ List.mem_append_right _ List.mem_cons_self
      exact absurd (hlaid.taken _ hmem) hrefused.not_takes
  | refused hfields hlaid hrefused =>
    cases h' with
    | accepted hlaid' =>
      have hmem : _ ∈ fields := hfields ▸ List.mem_append_right _ List.mem_cons_self
      exact absurd (hlaid'.taken _ hmem) hrefused.not_takes
    | refused hfields' hlaid' hrefused' =>
      -- of two refused variables one stands first, and what stands before the other is taken
      rcases List.append_eq_append_iff.1 (hfields.symm.trans hfields') with
        ⟨between, rfl, heq⟩ | ⟨between, rfl, heq⟩
      · exact hlaid.refused_unique hrefused hlaid' hrefused' heq
      · exact (hlaid'.refused_unique hrefused' hlaid hrefused heq).symm

/-- Only the variables of the fields tell the result. -/
theorem Overlaid.congr (hlookup : ∀ f : Field, other f.name = lookup f.name)
    (h : Overlaid lookup fields before result) : Overlaid other fields before result := by
  have hlaid : ∀ {fields : List Field} {after : Config}, Laid lookup fields before after →
      Laid other fields before after :=
    fun h => ⟨fun f hf => (h.taken f hf).congr (hlookup f), h.kept⟩
  cases h with
  | accepted h => exact .accepted (hlaid h)
  | refused hfields h hrefused => exact .refused hfields (hlaid h) (hrefused.congr (hlookup _))

/-- The environment may be laid over its own result, with the same outcome. -/
theorem Overlaid.again (h : Overlaid lookup fields before result) :
    Overlaid lookup fields result.1 result := by
  cases h with
  | accepted hlaid => exact .accepted hlaid.again
  | refused hfields hlaid hrefused => exact .refused hfields hlaid.again hrefused

/-- The variables of fields are read one after the other. -/
theorem overlaid_overlayWith (hnodup : fields.Nodup) (c : Config) :
    Overlaid lookup fields c (overlayWith lookup (fields.map Field.setting) c) := by
  induction fields generalizing c with
  | nil => exact .accepted ⟨nofun, fun _ _ => rfl⟩
  | cons f rest ih =>
    rw [List.nodup_cons] at hnodup
    rw [List.map_cons]
    -- what `f` holds from here on stays, as `f` is not among the rest
    rcases f.takes_or_refuses lookup (c.get f) with ⟨y, hy⟩ | ⟨fault, hfault⟩
    · rw [overlayWith_of_takes hy]
      exact (ih hnodup.2 (c.put f y)).cons hnodup.1 hy
    · rw [overlayWith_of_refuses hfault]
      exact .refused (List.nil_append _).symm ⟨nofun, fun _ _ => rfl⟩ hfault

/-- **What the environment makes of a configuration.** -/
theorem overlay_eq_iff :
    before.overlay lookup = result ↔ Overlaid lookup Field.all before result := by
  have hoverlaid : Overlaid lookup Field.all before (before.overlay lookup) := by
    rw [overlay, settings_eq]
    exact overlaid_overlayWith Field.nodup_all before
  constructor
  · rintro rfl
    exact hoverlaid
  · exact hoverlaid.unique

/-! ## What counts -/

/-- **A configuration is refused if a strict variable stands for nothing**, and only then. -/
theorem overlay_refused_iff :
    (before.overlay lookup).2 ≠ none ↔
      ∃ (f : Field) (given : String), f.rule ∈ Rule.strict ∧ f.Holds lookup given ∧
        ∀ x, ¬ f.rule.Spells given x := by
  have hoverlaid := overlay_eq_iff.1 (Eq.refl (before.overlay lookup))
  generalize before.overlay lookup = result at hoverlaid
  cases hoverlaid with
  | accepted hlaid =>
    refine iff_of_false (fun h => h rfl) ?_
    rintro ⟨f, given, -, hholds, hnone⟩
    exact hnone _ ((hlaid.taken f f.mem_all).spells hholds)
  | refused _ _ hrefused =>
    obtain ⟨given, hholds, hnone, -⟩ := hrefused
    exact iff_of_true nofun ⟨_, given, Rule.mem_strict_of_forall hnone, hholds, hnone⟩

/-- **A field hangs on its own variable alone.** -/
theorem get_overlay_congr {c : Config} (h : (before.overlay lookup).2 = none)
    (hother : (c.overlay other).2 = none) (hlookup : other f.name = lookup f.name)
    (hget : c.get f = before.get f) :
    (c.overlay other).1.get f = (before.overlay lookup).1.get f := by
  have hoverlaid := overlay_eq_iff.1 (Eq.refl (before.overlay lookup))
  have hoverlaid' := overlay_eq_iff.1 (Eq.refl (c.overlay other))
  generalize before.overlay lookup = result at *
  generalize c.overlay other = result' at *
  cases hoverlaid with
  | refused => cases h
  | accepted hlaid =>
    cases hoverlaid' with
    | refused => cases hother
    | accepted hlaid' =>
      have htaken := (hlaid.taken f f.mem_all).congr hlookup
      rw [← hget] at htaken
      exact (hlaid'.taken f f.mem_all).unique htaken

/-- **No other variable counts.** -/
theorem overlay_congr (h : ∀ f : Field, other f.name = lookup f.name) :
    before.overlay other = before.overlay lookup :=
  overlay_eq_iff.2 ((overlay_eq_iff.1 rfl).congr h)

/-- **The same variables change nothing any more**, and are refused for the same reason. -/
theorem overlay_overlay : (before.overlay lookup).1.overlay lookup = before.overlay lookup :=
  overlay_eq_iff.2 (overlay_eq_iff.1 rfl).again

/-! ## The whole -/

/-- What holds of a configuration and of the variables that are found. -/
structure Following (lookup : String → Option String) (before : Config) : Prop where
  /-- A configuration is its seventeen fields. -/
  fields : Field.all.length = 17 ∧ ∀ c d : Config, (∀ f ∈ Field.all, c.get f = d.get f) → c = d
  /-- Each field has a variable of its own. -/
  names : Function.Injective Field.name
  /-- The variables are taken one after the other, up to the first that is refused. -/
  overlaid : ∀ result, before.overlay lookup = result ↔ Overlaid lookup Field.all before result
  /-- One is refused if it is a number, a truth value or a log format and stands for nothing. -/
  refused : (before.overlay lookup).2 ≠ none ↔
    ∃ (f : Field) (given : String), f.rule ∈ Rule.strict ∧ f.Holds lookup given ∧
      ∀ x, ¬ f.rule.Spells given x
  /-- A field hangs on what it held and on its own variable. -/
  alone : ∀ (other : String → Option String) (c : Config) (f : Field),
    (before.overlay lookup).2 = none → (c.overlay other).2 = none →
      other f.name = lookup f.name → c.get f = before.get f →
        (c.overlay other).1.get f = (before.overlay lookup).1.get f
  /-- Variables of no field do not count. -/
  others : ∀ other : String → Option String, (∀ f : Field, other f.name = lookup f.name) →
    before.overlay other = before.overlay lookup
  /-- The same variables change nothing any more. -/
  again : (before.overlay lookup).1.overlay lookup = before.overlay lookup

/-- **How a configuration follows the environment**, whatever is found there. -/
theorem follows_environment (lookup : String → Option String) (before : Config) :
    Following lookup before where
  fields := ⟨rfl, fun _ _ h => ext_get fun f => h f f.mem_all⟩
  names := Field.name_injective
  overlaid _ := overlay_eq_iff
  refused := overlay_refused_iff
  alone _ _ _ := get_overlay_congr
  others _ := overlay_congr
  again := overlay_overlay

/-- What is set before a variable is refused stays set. -/
example :
    ({} : Config).overlay
        (fun name =>
          if name = "MAX_SESSIONS" then some " +07 "
          else if name = "SESSION_TIMEOUT" then some "soon"
          else if name = "AUTH_MODE" then some "full"
          else none) =
      ({ session.maxSessions := 7 }, some (.notANumber "SESSION_TIMEOUT" "soon")) := by
  decide

end SessionTasks.Config
