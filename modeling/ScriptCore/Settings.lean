import ScriptCore.Policy

set_option autoImplicit false

/-! # Engine settings

`Settings` holds the two policies an engine runs under. Three presets name common pairs:
`default` (lenient operators, mismatches propagate), `legacy` (lenient, abort) and `strict`
(strict, propagate).

`Settings.ofLookup` reads settings from named variables. A variable that is missing or holds
only blanks is ignored. `SL_MODE` picks a preset (its text read like a policy word), then
`SL_OPERATORS` and `SL_ON_MISMATCH` replace one policy each. The variables are checked in that
order and the first bad one is the error, which quotes its text as it was given. -/

namespace ScriptCore

/-- The policies an engine runs under. -/
structure Settings where
  operators : OperatorPolicy
  onMismatch : MismatchPolicy
  deriving DecidableEq, Repr

/-- A named pair of policies. -/
inductive Preset where
  | default
  | legacy
  | strict
  deriving DecidableEq, Repr

namespace Preset

/-- The policies of a preset. -/
def settings : Preset → Settings
  | .default => ⟨.lenient, .propagate⟩
  | .legacy => ⟨.lenient, .abort⟩
  | .strict => ⟨.strict, .propagate⟩

/-- The preset a text names, read like a policy word. -/
def parse? (s : String) : Option Preset :=
  match policyWord s with
  | "default" => some .default
  | "legacy" => some .legacy
  | "strict" => some .strict
  | _ => none

end Preset

/-- A variable whose text names none of the values it may take. -/
structure ConfigError where
  key : String
  value : String
  expected : String
  deriving DecidableEq, Repr

/-- The message of a bad variable. -/
def ConfigError.message (e : ConfigError) : String :=
  "invalid value `" ++ e.value ++ "` for " ++ e.key ++ " (expected one of: " ++ e.expected ++ ")"

namespace Settings

/-- Lenient operators, and mismatches propagate. -/
def default : Settings := Preset.default.settings

/-- The same settings with another operator policy. -/
def withOperators (s : Settings) (p : OperatorPolicy) : Settings := { s with operators := p }

/-- The same settings with another mismatch policy. -/
def withOnMismatch (s : Settings) (p : MismatchPolicy) : Settings := { s with onMismatch := p }

/-- The variable naming the preset. -/
def modeKey : String := "SL_MODE"

/-- The variable naming the operator policy. -/
def operatorsKey : String := "SL_OPERATORS"

/-- The variable naming the mismatch policy. -/
def onMismatchKey : String := "SL_ON_MISMATCH"

/-- A variable's text, unless it is missing or blank. -/
def setting (lookup : String → Option String) (key : String) : Option String :=
  match lookup key with
  | some v => if (Text.trim v).isEmpty then none else some v
  | none => none

/-- The settings that the variables describe, or the first bad variable. -/
def ofLookup (lookup : String → Option String) : Except ConfigError Settings := do
  let base ← match setting lookup modeKey with
    | none => pure default
    | some mode => match Preset.parse? mode with
      | some preset => pure preset.settings
      | none => throw ⟨modeKey, mode, "default, legacy, strict"⟩
  let withOps ← match setting lookup operatorsKey with
    | none => pure base
    | some text => match OperatorPolicy.parse text with
      | .ok p => pure (base.withOperators p)
      | .error _ => throw ⟨operatorsKey, text, "lenient, strict"⟩
  match setting lookup onMismatchKey with
  | none => pure withOps
  | some text => match MismatchPolicy.parse text with
    | .ok p => pure (withOps.withOnMismatch p)
    | .error _ => throw ⟨onMismatchKey, text, "propagate, abort"⟩

/-- A preset with its policies replaced by those the given texts name, operators first. -/
def ofPreset (p : Preset) (operators onMismatch : Option String) :
    Except PolicyParseError Settings := do
  let base := p.settings
  let withOps ← match operators with
    | some text => (OperatorPolicy.parse text).map base.withOperators
    | none => pure base
  match onMismatch with
  | some text => (MismatchPolicy.parse text).map withOps.withOnMismatch
  | none => pure withOps

end Settings

end ScriptCore
