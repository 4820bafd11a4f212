import Mathlib.Data.List.TakeWhile
import ScriptCore.Settings

set_option autoImplicit false

/-! # Reading settings: the grammar of policy words and variables

A policy word is read once the blanks at both ends of its text are dropped, with ASCII letters
taken in either case. `Text.Spells s w` says the same without trimming: the text is blanks, then
`w` up to the case of ASCII letters, then blanks. For a word that is not empty, has no blanks and
is in lower case (`Text.IsWord`), the policy word of a text is `w` exactly when the text spells
`w`; so a policy parses exactly the texts that spell its name, and refuses every other text,
quoting it as given.

`Settings.ofLookup` reads three variables. `Settings.Reading` says how one of them reads against
the names it accepts: missing or blank, it is ignored; spelling a name, it names that name's
value; otherwise it is refused with its text as given. `Settings.ofReadings` says what three
readings make: the first refused variable in the order `SL_MODE`, `SL_OPERATORS`,
`SL_ON_MISMATCH` is the error, and otherwise the named preset, the default one when none is
named, takes the named policies. Main statement: `Settings.ofLookup_and_policies_follow_grammar`. -/

namespace ScriptCore

namespace Text

/-- The text is blanks, then the word up to the case of ASCII letters, then blanks. -/
def Spells (s w : String) : Prop :=
  ∃ pre core suf : List Char, s.toList = pre ++ core ++ suf ∧ (∀ c ∈ pre, isBlank c = true) ∧
    (∀ c ∈ suf, isBlank c = true) ∧ core.map Char.toLower = w.toList.map Char.toLower

/-- A word as a table of names writes it: not empty, no blanks, ASCII letters in lower case. -/
def IsWord (w : String) : Prop :=
  w.toList ≠ [] ∧ ∀ c ∈ w.toList, isBlank c = false ∧ c.toLower = c

-- decided through `List.all`, so that no instance quantifying over all characters is chosen
instance (w : String) : Decidable (IsWord w) :=
  decidable_of_iff ((!w.toList.isEmpty && w.toList.all fun c => !isBlank c && c.toLower == c) = true)
    (by simp [IsWord])

/-- No character from `A` to `z` is blank. -/
theorem isBlank_eq_false_of_letter {d : Char} (h1 : 65 ≤ d.toNat) (h2 : d.toNat ≤ 122) :
    isBlank d = false := by
  simp only [isBlank, blankRanges, List.any_cons, List.any_nil, Bool.or_false,
    Bool.or_eq_false_iff, decide_eq_false_iff_not]
  omega

/-- Changing the case of a letter changes no blank: the ASCII letters are not blanks. -/
theorem isBlank_toLower (c : Char) : isBlank c.toLower = isBlank c := by
  unfold Char.toLower
  split
  · rename_i h
    have hv : 65 ≤ c.toNat ∧ c.toNat ≤ 90 := h
    have hlow : (c.val + ('a'.val - 'A'.val)).toNat = c.toNat + 32 := by
      rw [UInt32.toNat_add, Char.toNat_val]
      simp only [Char.reduceVal, UInt32.reduceSub, UInt32.reduceToNat]
      omega
    rw [isBlank_eq_false_of_letter hv.1 (by omega)]
    apply isBlank_eq_false_of_letter <;> rw [← Char.toNat_val, hlow] <;> omega
  · rfl

theorem trimChars_eq_nil_iff {cs : List Char} :
    trimChars cs = [] ↔ ∀ c ∈ cs, isBlank c = true := by
  rw [trimChars, List.reverse_eq_nil_iff, List.dropWhile_eq_nil_iff]
  simp only [List.mem_reverse]
  constructor
  · -- what the first drop keeps is blank, and what it drops is blank by construction
    intro h c hc
    have hcs : cs = cs.takeWhile isBlank ++ cs.dropWhile isBlank :=
      List.takeWhile_append_dropWhile.symm
    rw [hcs, List.mem_append] at hc
    rcases hc with hc | hc
    · exact List.mem_takeWhile_imp hc
    · exact h c hc
  · exact fun h c hc => h c (List.dropWhile_subset _ hc)

theorem trim_isEmpty_iff (s : String) :
    (trim s).isEmpty = true ↔ ∀ c ∈ s.toList, isBlank c = true := by
  rw [String.isEmpty_iff, trim, String.ofList_eq_empty_iff, trimChars_eq_nil_iff]

/-- Every text is the trimmed text between blanks. -/
theorem exists_blank_append_trimChars (cs : List Char) :
    ∃ pre suf, cs = pre ++ trimChars cs ++ suf ∧ (∀ c ∈ pre, isBlank c = true) ∧
      (∀ c ∈ suf, isBlank c = true) := by
  -- the blanks dropped at the start, and those dropped from the end of what remains
  obtain ⟨mid, hmid⟩ : ∃ mid, cs.dropWhile isBlank = mid := ⟨_, rfl⟩
  refine ⟨cs.takeWhile isBlank, (mid.reverse.takeWhile isBlank).reverse, ?_,
    fun c hc => List.mem_takeWhile_imp hc,
    fun c hc => List.mem_takeWhile_imp (List.mem_reverse.1 hc)⟩
  calc cs = cs.takeWhile isBlank ++ mid := by rw [← hmid, List.takeWhile_append_dropWhile]
    _ = cs.takeWhile isBlank ++ (mid.reverse.dropWhile isBlank).reverse ++
          (mid.reverse.takeWhile isBlank).reverse := by
      rw [List.append_assoc, ← List.reverse_append, List.takeWhile_append_dropWhile,
        List.reverse_reverse]
    _ = cs.takeWhile isBlank ++ trimChars cs ++ (mid.reverse.takeWhile isBlank).reverse := by
      rw [trimChars, hmid]

/-- Trimming drops blanks around a core with no blanks, and nothing of the core. -/
theorem trimChars_blank_append {pre core suf : List Char} (hpre : ∀ c ∈ pre, isBlank c = true)
    (hcore : ∀ c ∈ core, isBlank c = false) (hsuf : ∀ c ∈ suf, isBlank c = true) :
    trimChars (pre ++ core ++ suf) = core := by
  cases core with
  | nil =>
    rw [List.append_nil, trimChars_eq_nil_iff]
    intro c hc
    rcases List.mem_append.1 hc with hc | hc
    exacts [hpre c hc, hsuf c hc]
  | cons c cs =>
    have hsuf' : ∀ d ∈ suf.reverse, isBlank d = true := fun d hd => hsuf d (List.mem_reverse.1 hd)
    -- the core's last character is not blank, so the drop from the end stops there
    have hlast : ((c :: cs).reverse).dropWhile isBlank = (c :: cs).reverse := by
      rw [List.dropWhile_eq_self_iff]
      intro hl
      rw [hcore _ (List.mem_reverse.1 (List.getElem_mem hl))]
      exact Bool.false_ne_true
    rw [trimChars, List.append_assoc, List.dropWhile_append_of_pos hpre, List.cons_append,
      List.dropWhile_cons_of_neg (by simp [hcore c List.mem_cons_self]), ← List.cons_append,
      List.reverse_append, List.dropWhile_append_of_pos hsuf', hlast, List.reverse_reverse]

example : trim " \u3000strict\u0085 " = "strict" := by decide

end Text

/-- The policy word of a text is a word exactly when the text spells it. -/
theorem policyWord_eq_iff_spells {s w : String} (hw : Text.IsWord w) :
    policyWord s = w ↔ Text.Spells s w := by
  have hlow : w.toList.map Char.toLower = w.toList :=
    (List.map_congr_left fun c hc => (hw.2 c hc).2).trans (List.map_id _)
  rw [policyWord, Text.trim, String.toList_ofList]
  constructor
  · intro h
    obtain ⟨pre, suf, hcs, hpre, hsuf⟩ := Text.exists_blank_append_trimChars s.toList
    refine ⟨pre, Text.trimChars s.toList, suf, hcs, hpre, hsuf, ?_⟩
    rw [hlow, ← h, String.toList_ofList]
  · rintro ⟨pre, core, suf, hs, hpre, hsuf, hcore⟩
    rw [hlow] at hcore
    -- no character of the core is blank, since its lower case is a letter of the word
    have hnb : ∀ c ∈ core, Text.isBlank c = false := fun c hc => by
      rw [← Text.isBlank_toLower]
      exact (hw.2 _ (hcore ▸ List.mem_map_of_mem hc)).1
    rw [hs, Text.trimChars_blank_append hpre hnb hsuf, hcore, String.ofList_toList]

/-- A parser whose answer is either a value it accepts or its own input refused: it refuses
exactly when it accepts nothing. -/
theorem error_iff_of_ok_iff {ε α : Type} {x : Except ε α} {e₀ : ε} {P : α → Prop}
    (hok : ∀ a, x = .ok a ↔ P a) (herr : ∀ e, x = .error e → e = e₀) :
    x = .error e₀ ↔ ∀ a, ¬ P a := by
  constructor
  · intro h a hp
    cases h.symm.trans ((hok a).2 hp)
  · intro h
    cases hx : x with
    | ok a => exact absurd ((hok a).1 hx) (h a)
    | error e => rw [herr e hx]

theorem toOption_eq_some_iff {ε α : Type} {x : Except ε α} {a : α} :
    x.toOption = some a ↔ x = .ok a := by
  cases x <;> simp [Except.toOption]

namespace Preset

/-- The names of the presets, each with the preset it names. -/
def names : List (String × Preset) :=
  [("default", .default), ("legacy", .legacy), ("strict", .strict)]

theorem parse?_eq_some_iff {s : String} {p : Preset} :
    parse? s = some p ↔ (policyWord s, p) ∈ names := by
  unfold parse?
  split <;> cases p <;> simp_all [names]

end Preset

namespace OperatorPolicy

/-- The names of the operator policies, each with the policy it names. -/
def names : List (String × OperatorPolicy) := [("lenient", .lenient), ("strict", .strict)]

theorem mem_names_iff {w : String} {p : OperatorPolicy} : (w, p) ∈ names ↔ w = p.name := by
  cases p <;> simp [names, name]

theorem parse_eq_ok_iff {s : String} {p : OperatorPolicy} :
    parse s = .ok p ↔ policyWord s = p.name := by
  unfold parse
  split <;> cases p <;> simp_all [name]

theorem parse_error_input {s : String} {e : PolicyParseError} (h : parse s = .error e) :
    e = ⟨s⟩ := by
  unfold parse at h
  split at h <;> cases h
  rfl

theorem isWord_name (p : OperatorPolicy) : Text.IsWord p.name := by
  cases p <;> decide

end OperatorPolicy

namespace MismatchPolicy

/-- The names of the mismatch policies, each with the policy it names. -/
def names : List (String × MismatchPolicy) := [("propagate", .propagate), ("abort", .abort)]

theorem mem_names_iff {w : String} {p : MismatchPolicy} : (w, p) ∈ names ↔ w = p.name := by
  cases p <;> simp [names, name]

theorem parse_eq_ok_iff {s : String} {p : MismatchPolicy} :
    parse s = .ok p ↔ policyWord s = p.name := by
  unfold parse
  split <;> cases p <;> simp_all [name]

theorem parse_error_input {s : String} {e : PolicyParseError} (h : parse s = .error e) :
    e = ⟨s⟩ := by
  unfold parse at h
  split at h <;> cases h
  rfl

theorem isWord_name (p : MismatchPolicy) : Text.IsWord p.name := by
  cases p <;> decide

end MismatchPolicy

namespace Settings

/-- How a variable reads against the names it accepts, each paired with the value it names:
missing or only blanks, it is ignored; spelling a name, it names that name's value; and any
other text is refused, as it was given. -/
inductive Reading {α : Type} (names : List (String × α)) :
    Option String → Except String (Option α) → Prop
  | missing : Reading names none (.ok none)
  | blank {text : String} (h : ∀ c ∈ text.toList, Text.isBlank c = true) :
      Reading names (some text) (.ok none)
  | named {text w : String} {a : α} (hw : (w, a) ∈ names) (hs : Text.Spells text w) :
      Reading names (some text) (.ok (some a))
  | refused {text : String} (hb : ∃ c ∈ text.toList, Text.isBlank c = false)
      (hn : ∀ e ∈ names, ¬ Text.Spells text e.1) : Reading names (some text) (.error text)

/-- Every variable reads some way. -/
theorem reading_exists {α : Type} (names : List (String × α)) (v : Option String) :
    ∃ r, Reading names v r := by
  rcases v with _ | text
  · exact ⟨_, .missing⟩
  by_cases hb : ∀ c ∈ text.toList, Text.isBlank c = true
  · exact ⟨_, .blank hb⟩
  by_cases hs : ∃ e ∈ names, Text.Spells text e.1
  · obtain ⟨⟨w, a⟩, hw, hs⟩ := hs
    exact ⟨_, .named hw hs⟩
  · refine ⟨_, .refused ?_ fun e he hse => hs ⟨e, he, hse⟩⟩
    simpa using hb

/-- The settings three variables make, from how each reads: the first refused one in the order
preset, operators, mismatches is the error, with the names it accepts; otherwise the named
preset, the default one when none is named, with each named policy in place of its own. -/
def ofReadings (mode : Except String (Option Preset))
    (ops : Except String (Option OperatorPolicy)) (mis : Except String (Option MismatchPolicy)) :
    Except ConfigError Settings :=
  match mode, ops, mis with
  | .error text, _, _ => .error ⟨modeKey, text, "default, legacy, strict"⟩
  | .ok _, .error text, _ => .error ⟨operatorsKey, text, "lenient, strict"⟩
  | .ok _, .ok _, .error text => .error ⟨onMismatchKey, text, "propagate, abort"⟩
  | .ok preset, .ok operators, .ok onMismatch =>
    let base := (preset.map Preset.settings).getD default
    .ok ⟨operators.getD base.operators, onMismatch.getD base.onMismatch⟩

/-- What `ofLookup` makes of one variable it keeps, through a parser of its text. -/
def readSetting {α : Type} (parse : String → Option α) : Option String → Except String (Option α)
  | none => .ok none
  | some text => match parse text with
    | some a => .ok (some a)
    | none => .error text

theorem ofLookup_eq_ofReadings (L : String → Option String) :
    ofLookup L = ofReadings (readSetting Preset.parse? (setting L modeKey))
      (readSetting (fun t => (OperatorPolicy.parse t).toOption) (setting L operatorsKey))
      (readSetting (fun t => (MismatchPolicy.parse t).toOption) (setting L onMismatchKey)) := by
  unfold ofLookup
  -- each variable is dropped, parses or does not; both sides then compute to one answer
  rcases setting L modeKey with _ | mode <;> rcases setting L operatorsKey with _ | ops <;>
    rcases setting L onMismatchKey with _ | mis <;> simp only [readSetting] <;>
    (try cases Preset.parse? mode) <;> (try cases OperatorPolicy.parse ops) <;>
    (try cases MismatchPolicy.parse mis) <;> rfl

section Reading

variable {α : Type} {names : List (String × α)} {parse : String → Option α}

/-- A reading is what `ofLookup` makes of the variable, for a parser that takes exactly the
policy words of the table's names, when those are words. -/
theorem Reading.eq_readSetting (hwords : ∀ e ∈ names, Text.IsWord e.1)
    (hparse : ∀ t a, parse t = some a ↔ (policyWord t, a) ∈ names)
    {L : String → Option String} {key : String} {r : Except String (Option α)}
    (h : Reading names (L key) r) : r = readSetting parse (setting L key) := by
  unfold setting
  generalize L key = v at h ⊢
  cases h with
  | missing => rfl
  | blank hb => simp only [(Text.trim_isEmpty_iff _).2 hb, if_true, readSetting]
  | @named text w a hw hs =>
    have hword : policyWord text = w := (policyWord_eq_iff_spells (hwords _ hw)).2 hs
    -- the word is not empty, so neither is the trimmed text
    have hne : (Text.trim text).isEmpty = false := by
      rw [Bool.eq_false_iff]
      intro he
      apply (hwords _ hw).1
      rw [← hword, policyWord, String.isEmpty_iff.1 he]
      rfl
    simp only [hne, Bool.false_eq_true, if_false, readSetting, (hparse _ _).2 (hword ▸ hw)]
  | @refused text hb hn =>
    have hne : (Text.trim text).isEmpty = false := by
      obtain ⟨c, hc, hcb⟩ := hb
      rw [Bool.eq_false_iff, Ne, Text.trim_isEmpty_iff]
      exact fun h => by simp [h c hc] at hcb
    simp only [hne, Bool.false_eq_true, if_false, readSetting]
    cases hp : parse text with
    | none => rfl
    | some a =>
      -- a parsed text spells the name it parsed as, which the reading rules out
      have hmem := (hparse _ _).1 hp
      exact absurd ((policyWord_eq_iff_spells (hwords _ hmem)).1 rfl) (hn _ hmem)

end Reading

/-- Settings follow their grammar. Whatever each variable holds, `ofLookup` makes what the
variables' readings make: the first refused one in the order `SL_MODE`, `SL_OPERATORS`,
`SL_ON_MISMATCH` is the error, quoting its text; otherwise the named preset, the default one if
none is named, takes each named policy. Every variable reads some way. A policy parses exactly
the texts that spell its name, and refuses every other text, quoting it as given. -/
theorem ofLookup_and_policies_follow_grammar :
    (∀ (L : String → Option String) (mode : Except String (Option Preset))
        (ops : Except String (Option OperatorPolicy))
        (mis : Except String (Option MismatchPolicy)),
      Reading Preset.names (L modeKey) mode → Reading OperatorPolicy.names (L operatorsKey) ops →
      Reading MismatchPolicy.names (L onMismatchKey) mis → ofLookup L = ofReadings mode ops mis) ∧
    (∀ {α : Type} (names : List (String × α)) (v : Option String), ∃ r, Reading names v r) ∧
    (∀ s p, OperatorPolicy.parse s = .ok p ↔ Text.Spells s p.name) ∧
    (∀ s, OperatorPolicy.parse s = .error ⟨s⟩ ↔ ∀ p : OperatorPolicy, ¬ Text.Spells s p.name) ∧
    (∀ s p, MismatchPolicy.parse s = .ok p ↔ Text.Spells s p.name) ∧
    (∀ s, MismatchPolicy.parse s = .error ⟨s⟩ ↔ ∀ p : MismatchPolicy, ¬ Text.Spells s p.name) := by
  have hops : ∀ s p, OperatorPolicy.parse s = .ok p ↔ Text.Spells s p.name := fun _ p =>
    OperatorPolicy.parse_eq_ok_iff.trans (policyWord_eq_iff_spells (OperatorPolicy.isWord_name p))
  have hmis : ∀ s p, MismatchPolicy.parse s = .ok p ↔ Text.Spells s p.name := fun _ p =>
    MismatchPolicy.parse_eq_ok_iff.trans (policyWord_eq_iff_spells (MismatchPolicy.isWord_name p))
  refine ⟨fun L mode ops mis hm ho hx => ?_, reading_exists, hops,
    fun s => error_iff_of_ok_iff (hops s) fun _ => OperatorPolicy.parse_error_input, hmis,
    fun s => error_iff_of_ok_iff (hmis s) fun _ => MismatchPolicy.parse_error_input⟩
  -- each reading is what `ofLookup` makes of its variable, as the tables' names are words
  rw [ofLookup_eq_ofReadings,
    ← hm.eq_readSetting (by decide) fun _ _ => Preset.parse?_eq_some_iff,
    ← ho.eq_readSetting (by decide) fun _ _ =>
      toOption_eq_some_iff.trans (OperatorPolicy.parse_eq_ok_iff.trans
        OperatorPolicy.mem_names_iff.symm),
    ← hx.eq_readSetting (by decide) fun _ _ =>
      toOption_eq_some_iff.trans (MismatchPolicy.parse_eq_ok_iff.trans
        MismatchPolicy.mem_names_iff.symm)]

/-- The strict preset named in capitals between blanks, a blank operators variable and `ABORT`:
strict operators, and mismatches abort. -/
theorem ofLookup_strict_preset_then_abort :
    ofLookup (fun key => if key = "SL_MODE" then some " Strict\u3000"
        else if key = "SL_OPERATORS" then some "\t"
        else if key = "SL_ON_MISMATCH" then some "ABORT" else none) =
      .ok ⟨.strict, .abort⟩ := by
  refine (ofLookup_and_policies_follow_grammar.1 _ (.ok (some .strict)) (.ok none)
    (.ok (some .abort)) ?_ ?_ ?_).trans rfl
  · exact .named (show ("strict", Preset.strict) ∈ Preset.names by decide)
      ⟨[' '], "Strict".toList, ['\u3000'], by decide, List.all_eq_true.1 (by decide),
        List.all_eq_true.1 (by decide), by decide⟩
  · exact .blank (List.all_eq_true.1 (by decide))
  · exact .named (show ("abort", MismatchPolicy.abort) ∈ MismatchPolicy.names by decide)
      ⟨[], "ABORT".toList, [], by decide, List.all_eq_true.1 (by decide),
        List.all_eq_true.1 (by decide), by decide⟩

end Settings

end ScriptCore
