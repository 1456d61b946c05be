import FlavoredMarkdown.Program.Invocation
import FlavoredMarkdown.Program.Merge
import FlavoredMarkdown.Proofs.OptionRecords

/-!
# Which source of an option counts

An option can be set by its argument, by its variable in the environment and by the configuration. In
`build_options` the three are put one after the other under the names of fields, and the last one counts
(`Settings.lastGiven?_append`). What is left to see is what each source gives for a field: an argument
its value, a variable what its text says, and a configuration the value of the last key that stands for
the field.

* Variables are read first, in the order of the names of options. So a variable that is misspelt is
  reported whatever the configuration holds.
* Only a configuration can have unknown keys, and whether a flag is on or off is asked of what counts.
  A wrong value in the configuration does no harm under a right one.
* The names of variables, the spellings of a flag and the hyphens of keys are written out here
  (`Environment.setting?`, `spelling?`, `underscored`), and `variableFor_flag`, `readFlag_eq` and
  `fieldKey_eq` show that the program has the same ones.

Results:
* `readVariables_ok`, `readVariables_error`: what the environment sets, or the first misspelt variable.
* `mem_normalized`: a configuration under the names of fields.
* `fromEnvironment_ok`, `lastGiven?_configured`, `Invocation.lastGiven?_given`: what each source gives for
  a field.
* `mergedSettings_unknown`, `mergedSettings_known`: what becomes of all sources when variables are right.
* **`mergedSettings_sources`**: the options by a configuration, the environment and the arguments.
-/

namespace FlavoredMarkdown

open Settings (fieldKey lastGiven? flagFault?)

/-! ## The names of fields -/

theorem Field.field?_name (field : Field) : Schema.render.field? field.name = some field := by
  cases field with
  | flag f => cases f <;> rfl
  | _ => rfl

theorem Field.name_injective {a b : Field} (h : a.name = b.name) : a = b := by
  have hb := b.field?_name
  rw [← h, a.field?_name] at hb
  exact Option.some.inj hb

/-- The name of a field stands for itself. -/
theorem Field.fieldKey_name (field : Field) : fieldKey field.name = field.name := by
  cases field with
  | flag f => cases f <;> rfl
  | _ => rfl

/-- A key with a low line for each of its hyphens. -/
def underscored (key : String) : String := key.map fun c => if c = '-' then '_' else c

theorem fieldKey_eq (key : String) : fieldKey key = underscored key := by
  rw [fieldKey, underscored, ← String.toList_inj, String.toList_map, String.toList_ofList]

theorem fieldKey_underscored (key : String) : fieldKey (underscored key) = underscored key := by
  rw [fieldKey_eq, ← String.toList_inj]
  simp only [underscored, String.toList_map, List.map_map]
  congr 1
  funext c
  by_cases h : c = '-' <;> simp [h]

/-- What a source gives for a field, if it gives settings under the names of fields and no two for one
field. -/
theorem lastGiven?_name {set : List (String × Setting)} {setting? : Field → Option Setting}
    (h : ∀ p, p ∈ set ↔ ∃ field : Field, p.1 = field.name ∧ setting? field = some p.2)
    (field : Field) : lastGiven? set field.name = setting? field := by
  have hname : ∀ p ∈ set, fieldKey p.1 = field.name → setting? field = some p.2 := by
    intro p hp hkey
    obtain ⟨other, hother, hsetting⟩ := (h p).mp hp
    rw [hother, other.fieldKey_name] at hkey
    exact Field.name_injective hkey ▸ hsetting
  cases hsetting : setting? field with
  | none =>
    refine Settings.lastGiven?_eq_none fun p hp hkey => ?_
    cases hsetting.symm.trans (hname p hp hkey)
  | some setting =>
    refine Settings.lastGiven?_eq_some
      ⟨(field.name, setting), (h _).mpr ⟨field, rfl, hsetting⟩, field.fieldKey_name⟩ ?_
    intro p hp hkey
    exact Option.some.inj ((hname p hp hkey).symm.trans hsetting)

/-- The options that can be given on the command line are the fields that can. -/
theorem mem_exposed {o : ExposedOption} :
    o ∈ exposed Schema.render.options ↔
      ∃ field : Field, field.onCommandLine = true ∧ o.name = field.name ∧ o.isFlag = field.isFlag ∧
        o ∈ Schema.render.options := by
  rw [exposed, List.mem_filter]
  constructor
  · rintro ⟨ho, hhidden⟩
    obtain ⟨field, -, rfl⟩ := List.mem_map.mp ho
    exact ⟨field, by simpa using hhidden, rfl, rfl, ho⟩
  · rintro ⟨field, hfield, hname, -, ho⟩
    refine ⟨ho, ?_⟩
    obtain ⟨field', -, rfl⟩ := List.mem_map.mp ho
    obtain rfl := Field.name_injective hname
    simpa using hfield

theorem Field.option_mem_exposed (field : Field) (h : field.onCommandLine = true) :
    ∃ o ∈ exposed Schema.render.options, o.name = field.name ∧ o.isFlag = field.isFlag := by
  refine ⟨_, mem_exposed.mpr ⟨field, h, rfl, rfl, List.mem_map_of_mem field.mem_render⟩, rfl, rfl⟩

theorem mem_flagNames {name : String} :
    name ∈ flagNames Schema.render.options ↔ ∃ f : Flag, f.name = name := by
  simp only [flagNames, List.mem_map, List.mem_filter]
  constructor
  · rintro ⟨o, ⟨ho, hflag⟩, rfl⟩
    obtain ⟨field, -, hname, hisFlag, -⟩ := mem_exposed.mp ho
    cases field with
    | flag f => exact ⟨f, hname.symm⟩
    | _ => rw [hisFlag] at hflag; cases hflag
  · rintro ⟨f, rfl⟩
    obtain ⟨o, ho, hname, hisFlag⟩ := Field.option_mem_exposed (.flag f) rfl
    exact ⟨o, ⟨ho, hisFlag⟩, hname⟩

theorem mem_textNames {name : String} :
    name ∈ textNames Schema.render.options ↔ Field.headerIds.name = name := by
  simp only [textNames, List.mem_map, List.mem_filter]
  constructor
  · rintro ⟨o, ⟨ho, hflag⟩, rfl⟩
    obtain ⟨field, hshown, hname, hisFlag, -⟩ := mem_exposed.mp ho
    rw [hisFlag] at hflag
    cases field with
    | headerIds => exact hname.symm
    | flag f => cases hflag
    | _ => cases hshown
  · rintro rfl
    obtain ⟨o, ho, hname, hisFlag⟩ := Field.option_mem_exposed .headerIds rfl
    exact ⟨o, ⟨ho, by rw [hisFlag]; rfl⟩, hname⟩

/-! ## The environment -/

/-- Small letters and low lines have plain capitals in the full mapping too. -/
theorem upperChar_of_le {c : Char} (h : '_' ≤ c ∧ c ≤ 'z') : Text.upperChar c = [c.toUpper] := by
  have hall : ∀ n < 123, 95 ≤ n → Text.upperChar (Char.ofNat n) = [(Char.ofNat n).toUpper] := by
    decide +kernel
  have hc := hall c.toNat (Nat.lt_succ_of_le h.2) h.1
  rwa [Char.ofNat_toNat] at hc

/-- The variable of a flag has its name in capitals. -/
theorem variableFor_flag (f : Flag) : variableFor f.name = "GLFM_MARKDOWN_" ++ f.name.toUpper := by
  have hall : (f.name.toList.all fun c => decide ('_' ≤ c ∧ c ≤ 'z')) = true := by
    cases f <;> decide +kernel
  have hplain (c : Char) (hc : c ∈ f.name.toList) : '_' ≤ c ∧ c ≤ 'z' :=
    of_decide_eq_true (List.all_eq_true.mp hall c hc)
  have hupper : Text.upper f.name.toList = f.name.toList.map Char.toUpper := by
    rw [Text.upper, List.flatMap_def, List.map_congr_left fun c hc => upperChar_of_le (hplain c hc),
      ← List.flatMap_def, List.map_eq_flatMap]
  rw [variableFor, Text.uppered, hupper, String.toUpper, ← String.toList_inj]
  simp [variableFront]

theorem variableFor_headerIds : variableFor Field.headerIds.name = "GLFM_MARKDOWN_HEADER_IDS" := by
  decide +kernel

/-- What the text of a variable says of its flag. -/
def spelling? (text : String) : Option Bool :=
  let spelling := Text.lowered (Text.trimmed text)
  if spelling ∈ ["1", "true", "yes", "on"] then some true
  else if spelling ∈ ["0", "false", "no", "off", ""] then some false
  else none

theorem readFlag_eq (text name : String) :
    readFlag text name =
      match spelling? text with
      | some b => .ok b
      | none => .error (.badVariable name (Text.quoted text)) := by
  have hon : trueSpellings = ["1", "true", "yes", "on"] := rfl
  have hoff : falseSpellings = ["0", "false", "no", "off", ""] := rfl
  unfold readFlag spelling?
  rw [← hon, ← hoff]
  by_cases ht : Text.lowered (Text.trimmed text) ∈ trueSpellings <;>
    by_cases hf : Text.lowered (Text.trimmed text) ∈ falseSpellings <;> simp [ht, hf]

/-- What the environment sets an option to. A misspelt variable of a flag sets nothing. -/
def variableSetting? (isFlag : String → Bool) (environment : Environment) (name : String) :
    Option Setting :=
  (environment.lookup (variableFor name)).bind fun text =>
    if isFlag name then (spelling? text).map fun b => .value (.bool b) else some (.value (.str text))

/-- The variable of a flag is set and says neither on nor off. -/
def Misspelt (isFlag : String → Bool) (environment : Environment) (name text : String) : Prop :=
  environment.lookup (variableFor name) = some text ∧ isFlag name = true ∧ spelling? text = none

section Variables

variable {isFlag : String → Bool} {environment : Environment}

/-- One more variable is read. -/
theorem readVariables_cons {name : String} (rest : List String)
    (h : ∀ text, ¬Misspelt isFlag environment name text) :
    readVariables isFlag environment (name :: rest) =
      (readVariables isFlag environment rest).map fun set =>
        ((variableSetting? isFlag environment name).map fun setting => (name, setting)).toList ++
          set := by
  rw [readVariables, variableSetting?]
  cases hset : environment.lookup (variableFor name) with
  | none => cases readVariables isFlag environment rest <;> rfl
  | some text =>
    simp only [Option.bind_some]
    cases hflag : isFlag name with
    | false =>
      simp only [Bool.false_eq_true, if_false]
      cases readVariables isFlag environment rest <;> rfl
    | true =>
      cases hs : spelling? text with
      | none => exact absurd ⟨hset, hflag, hs⟩ (h text)
      | some b =>
        simp only [if_true, readFlag_eq, hs, Except.map, Option.map_some]
        cases readVariables isFlag environment rest <;> rfl

/-- If no variable is misspelt, the environment sets what its variables say. -/
theorem readVariables_ok {names : List String}
    (h : ∀ name ∈ names, ∀ text, ¬Misspelt isFlag environment name text) :
    readVariables isFlag environment names =
      .ok (names.filterMap fun name =>
        (variableSetting? isFlag environment name).map fun setting => (name, setting)) := by
  induction names with
  | nil => rfl
  | cons name rest ih =>
    rw [readVariables_cons rest (h name List.mem_cons_self),
      ih fun other ho => h other (List.mem_cons_of_mem _ ho), List.filterMap_cons]
    cases variableSetting? isFlag environment name <;> rfl

/-- The first misspelt variable is reported. -/
theorem readVariables_error {before after : List String} {name text : String}
    (h : ∀ other ∈ before, ∀ text, ¬Misspelt isFlag environment other text)
    (hm : Misspelt isFlag environment name text) :
    readVariables isFlag environment (before ++ name :: after) =
      .error (.badVariable (variableFor name) (Text.quoted text)) := by
  induction before with
  | nil =>
    obtain ⟨hset, hflag, hs⟩ := hm
    rw [List.nil_append, readVariables, hset]
    simp only [hflag, if_true, readFlag_eq, hs]
    rfl
  | cons first rest ih =>
    rw [List.cons_append, readVariables_cons _ (h first List.mem_cons_self),
      ih fun other ho => h other (List.mem_cons_of_mem _ ho)]
    rfl

end Variables

namespace Environment

/-- What the environment sets a field to: a flag by what its variable says, the prefix of anchors to the
text of its variable. -/
def setting? (environment : Environment) : Field → Option Setting
  | .flag f =>
    (environment.lookup ("GLFM_MARKDOWN_" ++ f.name.toUpper)).bind fun text =>
      (spelling? text).map fun b => .value (.bool b)
  | .headerIds =>
    (environment.lookup "GLFM_MARKDOWN_HEADER_IDS").map fun text => .value (.str text)
  | _ => none

/-- Only options of the command line have variables. -/
theorem onCommandLine_of_setting {environment : Environment} {field : Field} {setting : Setting}
    (h : environment.setting? field = some setting) : field.onCommandLine = true := by
  cases field with
  | flag f => rfl
  | headerIds => rfl
  | _ => cases h

/-- The variable of a flag is set and says neither on nor off. -/
def Misspells (environment : Environment) (f : Flag) (text : String) : Prop :=
  environment.lookup ("GLFM_MARKDOWN_" ++ f.name.toUpper) = some text ∧ spelling? text = none

end Environment

/-- The names of the options that have variables, in order. -/
def variableNames : List String :=
  Settings.sorted (Settings.distinct
    (flagNames Schema.render.options ++ textNames Schema.render.options))

theorem mem_variableNames {name : String} :
    name ∈ variableNames ↔ ∃ field : Field, field.onCommandLine = true ∧ field.name = name := by
  rw [variableNames, Settings.mem_sorted, Settings.mem_distinct, List.mem_append, mem_flagNames,
    mem_textNames]
  constructor
  · rintro (⟨f, rfl⟩ | rfl)
    · exact ⟨.flag f, rfl, rfl⟩
    · exact ⟨.headerIds, rfl, rfl⟩
  · rintro ⟨field, hshown, rfl⟩
    cases field with
    | flag f => exact .inl ⟨f, rfl⟩
    | headerIds => exact .inr rfl
    | _ => cases hshown

section FromEnvironment

variable {environment : Environment}

/-- Flags are told from other options by their names. -/
theorem flagNames_contains (field : Field) :
    (flagNames Schema.render.options).contains field.name = field.isFlag := by
  rw [Bool.eq_iff_iff, List.contains_iff_mem, mem_flagNames]
  constructor
  · rintro ⟨f, hf⟩
    rw [← Field.name_injective (a := .flag f) hf]
    rfl
  · intro h
    cases field with
    | flag f => exact ⟨f, rfl⟩
    | _ => cases h

theorem variableSetting?_name {field : Field} (h : field.onCommandLine = true) :
    variableSetting? (flagNames Schema.render.options).contains environment field.name =
      environment.setting? field := by
  rw [variableSetting?, flagNames_contains]
  cases field with
  | flag f => simp only [Field.name, variableFor_flag, Environment.setting?, Field.isFlag, if_true]
  | headerIds =>
    rw [variableFor_headerIds]
    cases h : environment.lookup "GLFM_MARKDOWN_HEADER_IDS" <;>
      simp [Environment.setting?, Field.isFlag, h]
  | _ => cases h

theorem misspelt_iff {name text : String} :
    Misspelt (flagNames Schema.render.options).contains environment name text ↔
      ∃ f : Flag, f.name = name ∧ environment.Misspells f text := by
  unfold Misspelt Environment.Misspells
  rw [List.contains_iff_mem, mem_flagNames]
  constructor
  · rintro ⟨hset, ⟨f, rfl⟩, hs⟩
    exact ⟨f, rfl, variableFor_flag f ▸ hset, hs⟩
  · rintro ⟨f, rfl, hset, hs⟩
    exact ⟨variableFor_flag f ▸ hset, ⟨f, rfl⟩, hs⟩

/-- Of the elements with a property, one comes first. -/
theorem exists_first {α : Type} {p : α → Prop} {xs : List α} (h : ∃ x ∈ xs, p x) :
    ∃ before x after, xs = before ++ x :: after ∧ p x ∧ ∀ y ∈ before, ¬p y := by
  induction xs with
  | nil =>
    obtain ⟨x, hx, -⟩ := h
    cases hx
  | cons first rest ih =>
    by_cases hfirst : p first
    · exact ⟨[], first, rest, rfl, hfirst, fun y hy => nomatch hy⟩
    · obtain ⟨x, hx, hp⟩ := h
      have hrest : x ∈ rest := by
        rcases List.mem_cons.mp hx with rfl | hx
        · exact absurd hp hfirst
        · exact hx
      obtain ⟨before, x, after, rfl, hp, hbefore⟩ := ih ⟨x, hrest, hp⟩
      refine ⟨first :: before, x, after, rfl, hp, fun y hy => ?_⟩
      rcases List.mem_cons.mp hy with rfl | hy
      · exact hfirst
      · exact hbefore y hy

/-- The misspelt variable that comes first by the name of its flag is reported. -/
theorem fromEnvironment_error (h : ∃ f text, environment.Misspells f text) :
    ∃ f text, environment.Misspells f text ∧
      (∀ g text', environment.Misspells g text' → f.name ≤ g.name) ∧
      fromEnvironment environment =
        .error (.badVariable ("GLFM_MARKDOWN_" ++ f.name.toUpper) (Text.quoted text)) := by
  obtain ⟨f, text, hf⟩ := h
  obtain ⟨before, name, after, hnames, ⟨text, hname⟩, hbefore⟩ :
      ∃ before name after, variableNames = before ++ name :: after ∧
        (∃ text, Misspelt (flagNames Schema.render.options).contains environment name text) ∧
        ∀ other ∈ before,
          ¬∃ text, Misspelt (flagNames Schema.render.options).contains environment other text :=
    exists_first ⟨f.name, mem_variableNames.mpr ⟨.flag f, rfl, rfl⟩, text,
      misspelt_iff.mpr ⟨f, rfl, hf⟩⟩
  obtain ⟨f, rfl, hf⟩ := misspelt_iff.mp hname
  refine ⟨f, text, hf, fun g text' hg => ?_, ?_⟩
  · -- The names are in order, and no variable in front is misspelt.
    have hordered : (before ++ f.name :: after).Pairwise fun a b => a ≤ b := by
      rw [← hnames]
      exact Settings.pairwise_sorted _
    have hmem : g.name ∈ before ++ f.name :: after := by
      rw [← hnames]
      exact mem_variableNames.mpr ⟨.flag g, rfl, rfl⟩
    rcases List.mem_append.mp hmem with hg' | hg'
    · exact absurd ⟨text', misspelt_iff.mpr ⟨g, rfl, hg⟩⟩ (hbefore g.name hg')
    · rcases List.mem_cons.mp hg' with he | hg'
      · exact he ▸ String.le_refl _
      · exact List.rel_of_pairwise_cons (List.pairwise_append.mp hordered).2.1 hg'
  · unfold fromEnvironment environmentOptions
    rw [← variableNames, hnames, ← variableFor_flag]
    exact readVariables_error (fun other ho text ht => hbefore other ho ⟨text, ht⟩) hname

/-- What a correct environment gives for a field. -/
theorem fromEnvironment_ok (h : ¬∃ f text, environment.Misspells f text) :
    ∃ set, fromEnvironment environment = .ok set ∧
      (∀ p ∈ set, ∃ field : Field, field.name = p.1) ∧
      ∀ field : Field, lastGiven? set field.name = environment.setting? field := by
  have hread : ∀ name ∈ variableNames, ∀ text,
      ¬Misspelt (flagNames Schema.render.options).contains environment name text := by
    intro name _ text hm
    obtain ⟨f, -, hf⟩ := misspelt_iff.mp hm
    exact h ⟨f, text, hf⟩
  have hmem : ∀ p : String × Setting,
      p ∈ (variableNames.filterMap fun name =>
        (variableSetting? (flagNames Schema.render.options).contains environment name).map
          fun setting => (name, setting)) ↔
      ∃ field : Field, p.1 = field.name ∧ environment.setting? field = some p.2 := by
    intro p
    rw [List.mem_filterMap]
    constructor
    · rintro ⟨name, hname, he⟩
      obtain ⟨setting, hsetting, rfl⟩ := Option.map_eq_some_iff.mp he
      obtain ⟨field, hshown, rfl⟩ := mem_variableNames.mp hname
      exact ⟨field, rfl, (variableSetting?_name hshown).symm.trans hsetting⟩
    · rintro ⟨field, hp, hsetting⟩
      have hshown := Environment.onCommandLine_of_setting hsetting
      refine ⟨field.name, mem_variableNames.mpr ⟨field, hshown, rfl⟩, ?_⟩
      rw [variableSetting?_name hshown, hsetting, Option.map_some, ← hp]
  refine ⟨_, readVariables_ok hread, fun p hp => ?_, lastGiven?_name hmem⟩
  obtain ⟨field, hfield, -⟩ := (hmem p).mp hp
  exact ⟨field, hfield.symm⟩

end FromEnvironment

/-! ## The arguments -/

namespace Invocation

/-- What an invocation sets a field to. Rewriters have no arguments. -/
def setting? (i : Invocation) : Field → Option Setting
  | .linkUrlRewriter | .imageUrlRewriter => none
  | field => (i.values.lookup field.name).map .value

theorem setting?_of_onCommandLine (i : Invocation) {field : Field} (h : field.onCommandLine = true) :
    i.setting? field = (i.values.lookup field.name).map .value := by
  cases field with
  | flag f => rfl
  | headerIds => rfl
  | _ => cases h

theorem onCommandLine_of_setting {i : Invocation} {field : Field} {setting : Setting}
    (h : i.setting? field = some setting) : field.onCommandLine = true := by
  cases field with
  | flag f => rfl
  | headerIds => rfl
  | _ => cases h

theorem mem_given {i : Invocation} {p : String × Setting} :
    p ∈ i.given Schema.render.options ↔
      ∃ field : Field, p.1 = field.name ∧ i.setting? field = some p.2 := by
  rw [Invocation.given, List.mem_filterMap]
  constructor
  · rintro ⟨o, ho, he⟩
    obtain ⟨v, hv, rfl⟩ := Option.map_eq_some_iff.mp he
    obtain ⟨field, hshown, hname, -⟩ := mem_exposed.mp ho
    refine ⟨field, hname, ?_⟩
    rw [setting?_of_onCommandLine i hshown, ← hname, hv, Option.map_some]
  · rintro ⟨field, hp, hsetting⟩
    have hshown := onCommandLine_of_setting hsetting
    rw [setting?_of_onCommandLine i hshown] at hsetting
    obtain ⟨o, ho, hname, -⟩ := field.option_mem_exposed hshown
    obtain ⟨v, hv, hp'⟩ := Option.map_eq_some_iff.mp hsetting
    refine ⟨o, ho, ?_⟩
    rw [hname, hv, Option.map_some, hp', ← hp]

/-- What the arguments give for a field. -/
theorem lastGiven?_given (i : Invocation) (field : Field) :
    lastGiven? (i.given Schema.render.options) field.name = i.setting? field :=
  lastGiven?_name (fun _ => mem_given) field

end Invocation

/-! ## The configuration -/

section Entries

variable {α : Type} {entries : List (String × α)} {key : String} {value : α}

theorem keys_setEntry (key : String) (value : α) (entries : List (String × α)) :
    (setEntry key value entries).map Prod.fst =
      if key ∈ entries.map Prod.fst then entries.map Prod.fst else entries.map Prod.fst ++ [key] := by
  induction entries with
  | nil => rfl
  | cons entry rest ih =>
    by_cases h : entry.1 = key
    · simp [setEntry, h]
    · have hne : key ≠ entry.1 := Ne.symm h
      rw [setEntry, if_neg h, List.map_cons, ih]
      by_cases hm : key ∈ rest.map Prod.fst <;> simp_all

/-- Setting an entry leaves the keys distinct. -/
theorem nodup_setEntry (h : (entries.map Prod.fst).Nodup) :
    ((setEntry key value entries).map Prod.fst).Nodup := by
  rw [keys_setEntry]
  split
  · exact h
  · next hm =>
    rw [List.nodup_append]
    refine ⟨h, by simp, fun a ha b hb he => ?_⟩
    rw [List.mem_singleton] at hb
    exact hm (hb ▸ he ▸ ha)

/-- The entries after one has been set. -/
theorem mem_setEntry (h : (entries.map Prod.fst).Nodup) {p : String × α} :
    p ∈ setEntry key value entries ↔ p = (key, value) ∨ p ∈ entries ∧ p.1 ≠ key := by
  induction entries with
  | nil => simp [setEntry]
  | cons entry rest ih =>
    rw [List.map_cons, List.nodup_cons] at h
    by_cases hk : entry.1 = key
    · have hrest : p ∈ rest → p.1 ≠ key := by
        rintro hp rfl
        exact h.1 (hk ▸ List.mem_map_of_mem hp)
      rw [setEntry, if_pos hk, List.mem_cons, List.mem_cons, hk]
      constructor
      · rintro (hp | hp)
        · exact .inl hp
        · exact .inr ⟨.inr hp, hrest hp⟩
      · rintro (hp | ⟨rfl | hp, hne⟩)
        · exact .inl hp
        · exact absurd hk hne
        · exact .inr hp
    · rw [setEntry, if_neg hk, List.mem_cons, List.mem_cons, ih h.2]
      constructor
      · rintro (rfl | hp | ⟨hp, hne⟩)
        · exact .inr ⟨.inl rfl, hk⟩
        · exact .inl hp
        · exact .inr ⟨.inr hp, hne⟩
      · rintro (hp | ⟨rfl | hp, hne⟩)
        · exact .inr (.inl hp)
        · exact .inl rfl
        · exact .inr (.inr ⟨hp, hne⟩)

end Entries

namespace Mapping

/-- What the last one holds of the keys that stand for a name. -/
def lastFor? (config : Mapping) (name : String) : Option Value :=
  (config.filterMap fun entry =>
    if underscored entry.1.shown = name then some entry.2 else none).getLast?

/-- Some key stands for no field. -/
def HasUnknownKey (config : Mapping) : Prop :=
  ∃ entry ∈ config, ∀ field : Field, field.name ≠ underscored entry.1.shown

theorem lastFor?_cons (entry : Value × Value) (config : Mapping) (name : String) :
    lastFor? (entry :: config) name =
      (lastFor? config name).or (if underscored entry.1.shown = name then some entry.2 else none) := by
  have hsingle : lastFor? [entry] name =
      if underscored entry.1.shown = name then some entry.2 else none := by
    by_cases h : underscored entry.1.shown = name <;> simp [lastFor?, h]
  rw [← hsingle, ← List.singleton_append]
  simp only [lastFor?, List.filterMap_append, List.getLast?_append]

/-- A name is held exactly if some key stands for it. -/
theorem lastFor?_eq_none {config : Mapping} {name : String} :
    lastFor? config name = none ↔ ∀ entry ∈ config, underscored entry.1.shown ≠ name := by
  rw [lastFor?, List.getLast?_eq_none_iff, List.filterMap_eq_nil_iff]
  constructor
  · intro h entry hentry hkey
    have := h entry hentry
    simp [hkey] at this
  · intro h entry hentry
    simp [h entry hentry]

theorem exists_lastFor? {config : Mapping} {entry : Value × Value} (h : entry ∈ config) :
    ∃ v, config.lastFor? (underscored entry.1.shown) = some v := by
  rw [← Option.isSome_iff_exists, Option.isSome_iff_ne_none]
  exact fun hnone => lastFor?_eq_none.mp hnone entry h rfl

theorem exists_of_lastFor? {config : Mapping} {name : String} {v : Value}
    (h : config.lastFor? name = some v) : ∃ entry ∈ config, underscored entry.1.shown = name := by
  obtain ⟨entry, hentry, he⟩ := List.mem_filterMap.mp (List.mem_of_getLast? h)
  split at he
  · next hkey => exact ⟨entry, hentry, hkey⟩
  · cases he

/-- **A configuration under the names of fields** holds for each name what the last key for it holds.
The entries that are there already are in front of those of the configuration. -/
theorem mem_foldl_setEntry (config : Mapping) {entries : List (String × Value)}
    (h : (entries.map Prod.fst).Nodup) (name : String) (v : Value) :
    (name, v) ∈ config.shown.foldl (fun entries (key, v) => setEntry (fieldKey key) v entries) entries ↔
      config.lastFor? name = some v ∨ config.lastFor? name = none ∧ (name, v) ∈ entries := by
  induction config generalizing entries with
  | nil => simp [shown, lastFor?]
  | cons entry rest ih =>
    have hstep : shown (entry :: rest) = (entry.1.shown, entry.2) :: shown rest := rfl
    rw [hstep, List.foldl_cons, ih (nodup_setEntry h), mem_setEntry h, lastFor?_cons]
    cases hlast : lastFor? rest name with
    | some last => simp
    | none =>
      rw [fieldKey_eq]
      by_cases hkey : underscored entry.1.shown = name
      · simp [hkey, eq_comm]
      · simp [hkey, Ne.symm hkey]

end Mapping

theorem mem_normalized {config : Mapping} {name : String} {v : Value} :
    (name, v) ∈ normalized config ↔ config.lastFor? name = some v := by
  rw [normalized, Mapping.mem_foldl_setEntry config (by simp)]
  simp

/-- A configuration is kept under keys that stand for themselves. -/
theorem fieldKey_of_mem_configured {config : Mapping} {p : String × Setting}
    (h : p ∈ configured config) :
    fieldKey p.1 = p.1 ∧ ∃ v, config.lastFor? p.1 = some v ∧ p.2 = .value v := by
  obtain ⟨⟨name, v⟩, hv, rfl⟩ := List.mem_map.mp h
  rw [mem_normalized] at hv
  obtain ⟨entry, -, rfl⟩ := Mapping.exists_of_lastFor? hv
  exact ⟨fieldKey_underscored _, v, hv, rfl⟩

/-- What a configuration gives for a name. -/
theorem lastGiven?_configured (config : Mapping) (name : String) :
    lastGiven? (configured config) name = (config.lastFor? name).map .value := by
  cases hlast : config.lastFor? name with
  | none =>
    refine Settings.lastGiven?_eq_none fun p hp hkey => ?_
    obtain ⟨hfixed, v, hv, -⟩ := fieldKey_of_mem_configured hp
    rw [← hfixed, hkey, hlast] at hv
    cases hv
  | some v =>
    have hmem : (name, Setting.value v) ∈ configured config :=
      List.mem_map.mpr ⟨(name, v), mem_normalized.mpr hlast, rfl⟩
    refine Settings.lastGiven?_eq_some ⟨_, hmem, (fieldKey_of_mem_configured hmem).1⟩ ?_
    intro p hp hkey
    obtain ⟨hfixed, w, hw, hp⟩ := fieldKey_of_mem_configured hp
    rw [← hfixed, hkey, hlast] at hw
    rw [hp, Option.some.inj hw]

/-! ## All sources -/

section Sources

variable (config : Mapping) (environment : Environment) (i : Invocation)

/-- What a field is set to by the first source that sets it: its argument, its variable, or else the
configuration. -/
def mergedSetting? (field : Field) : Option Setting :=
  (i.setting? field).or ((environment.setting? field).or ((config.lastFor? field.name).map .value))

variable {config environment i}

/-- Settings from all sources, one source after the other. -/
theorem lastGiven?_sources {set : List (String × Setting)}
    (hset : ∀ field : Field, lastGiven? set field.name = environment.setting? field)
    (field : Field) :
    lastGiven? (configured config ++ set ++ i.given Schema.render.options) field.name =
      mergedSetting? config environment i field := by
  rw [Settings.lastGiven?_append, Settings.lastGiven?_append, lastGiven?_configured, hset,
    Invocation.lastGiven?_given]
  rfl

/-- Only a configuration can have unknown keys. -/
theorem exists_key_sources {set : List (String × Setting)}
    (hset : ∀ p ∈ set, ∃ field : Field, field.name = p.1) {name : String}
    (hname : ∀ field : Field, field.name ≠ name) :
    (∃ p ∈ configured config ++ set ++ i.given Schema.render.options, fieldKey p.1 = name) ↔
      ∃ entry ∈ config, underscored entry.1.shown = name := by
  constructor
  · rintro ⟨p, hp, hkey⟩
    rw [List.append_assoc, List.mem_append, List.mem_append] at hp
    rcases hp with hp | hp | hp
    · obtain ⟨hfixed, v, hv, -⟩ := fieldKey_of_mem_configured hp
      rw [← hkey, hfixed]
      exact Mapping.exists_of_lastFor? hv
    · obtain ⟨field, hfield⟩ := hset p hp
      rw [← hfield, field.fieldKey_name] at hkey
      exact absurd hkey (hname field)
    · obtain ⟨field, hfield, -⟩ := Invocation.mem_given.mp hp
      rw [hfield, field.fieldKey_name] at hkey
      exact absurd hkey (hname field)
  · rintro ⟨entry, hentry, rfl⟩
    obtain ⟨v, hv⟩ := Mapping.exists_lastFor? hentry
    refine ⟨_, List.mem_append_left _ (List.mem_append_left _
      (List.mem_map.mpr ⟨_, mem_normalized.mpr hv, rfl⟩)), fieldKey_underscored _⟩

section Read

variable {set : List (String × Setting)} (hread : fromEnvironment environment = .ok set)

include hread

/-- When the environment has been read, the options are the record that all sources fill. -/
theorem mergedSettings_read {result : Except SettingsError Settings}
    (h : Settings.ofPairs? .render
      (configured config ++ set ++ i.given Schema.render.options) = result) :
    mergedSettings config environment (i.given Schema.render.options) =
      result.mapError .settings := by
  simp only [mergedSettings, hread, h]
  cases result <;> rfl

/-- Keys of the configuration that stand for no field are reported. -/
theorem mergedSettings_unknown (hknown : ∀ p ∈ set, ∃ field : Field, field.name = p.1)
    (h : config.HasUnknownKey) :
    ∃ keys, mergedSettings config environment (i.given Schema.render.options) =
        .error (.settings (.unknownKeys .render keys)) ∧
      keys.Pairwise (fun a b => a < b) ∧
      ∀ key, key ∈ keys ↔
        (∃ entry ∈ config, underscored entry.1.shown = key) ∧ ∀ field : Field, field.name ≠ key := by
  obtain ⟨entry, hentry, hk⟩ := h
  obtain ⟨p, hp, hkey⟩ := (exists_key_sources (i := i) hknown hk).mpr ⟨entry, hentry, rfl⟩
  have hunknown := Settings.ofPairs?_unknown ⟨p, hp, fun field => hkey ▸ hk field⟩
  refine ⟨_, mergedSettings_read hread hunknown, Settings.pairwise_unknownNames _ _, fun key => ?_⟩
  rw [Settings.mem_unknownNames]
  simp only [Field.mem_render, true_imp_iff]
  refine and_congr_left fun hk => ?_
  rw [← exists_key_sources (i := i) hknown hk]
  exact List.mem_map

/-- If there are none, what counts for each field is checked and kept. -/
theorem mergedSettings_known (hknown : ∀ p ∈ set, ∃ field : Field, field.name = p.1)
    (hgiven : ∀ field : Field, lastGiven? set field.name = environment.setting? field)
    (h : ¬config.HasUnknownKey) :
    match Schema.render.fields.findSome? (flagFault? (mergedSetting? config environment i)) with
    | some e => mergedSettings config environment (i.given Schema.render.options) =
        .error (.settings e)
    | none =>
      ∃ s, mergedSettings config environment (i.given Schema.render.options) = .ok s ∧
        ∀ field : Field,
          s.get field = (mergedSetting? config environment i field).getD field.unset := by
  have hmerged : (fun field : Field =>
      lastGiven? (configured config ++ set ++ i.given Schema.render.options) field.name) =
        mergedSetting? config environment i :=
    funext (lastGiven?_sources hgiven)
  have hpairs : ¬Settings.HasUnknownKey
      (configured config ++ set ++ i.given Schema.render.options) := by
    rintro ⟨p, hp, hk⟩
    obtain ⟨entry, hentry, hkey⟩ := (exists_key_sources hknown hk).mp ⟨p, hp, rfl⟩
    exact h ⟨entry, hentry, fun field => hkey ▸ hk field⟩
  rw [← hmerged]
  split
  · next e he => exact mergedSettings_read hread (Settings.ofPairs?_notBool hpairs he)
  · next hnone =>
    obtain ⟨s, hs, hget⟩ := Settings.ofPairs?_ok hpairs hnone
    exact ⟨s, mergedSettings_read hread hs, hget⟩

end Read

/-- **Which source of an option counts.** If some variable of a flag is misspelt, the first one by the
name of its flag is reported. Else, if the configuration has keys that stand for no field, these are
reported. Else, if some flag is set to something that is neither on nor off, by the first source that
sets it, the first such flag is reported. Else there are options, and each is what the first source
says that sets it, or at its default. -/
theorem mergedSettings_sources (config : Mapping) (environment : Environment) (i : Invocation) :
    let options := mergedSettings config environment (i.given Schema.render.options)
    let merged := mergedSetting? config environment i
    ((∃ f text, environment.Misspells f text) →
      ∃ f text, environment.Misspells f text ∧
        (∀ g text', environment.Misspells g text' → f.name ≤ g.name) ∧
        options = .error
          (.config (.badVariable ("GLFM_MARKDOWN_" ++ f.name.toUpper) (Text.quoted text)))) ∧
    ((¬∃ f text, environment.Misspells f text) →
      (config.HasUnknownKey → ∃ keys, options = .error (.settings (.unknownKeys .render keys)) ∧
        keys.Pairwise (fun a b => a < b) ∧
        ∀ key, key ∈ keys ↔
          (∃ entry ∈ config, underscored entry.1.shown = key) ∧ ∀ field : Field, field.name ≠ key) ∧
      (¬config.HasUnknownKey →
        match Schema.render.fields.findSome? (flagFault? merged) with
        | some e => options = .error (.settings e)
        | none =>
          ∃ s, options = .ok s ∧ ∀ field : Field, s.get field = (merged field).getD field.unset)) := by
  intro options merged
  constructor
  · intro hbad
    obtain ⟨f, text, hf, hfirst, herror⟩ := fromEnvironment_error hbad
    refine ⟨f, text, hf, hfirst, ?_⟩
    simp only [options, mergedSettings, herror]
  · intro hnone
    obtain ⟨set, hread, hknown, hgiven⟩ := fromEnvironment_ok hnone
    exact ⟨mergedSettings_unknown hread hknown, mergedSettings_known hread hknown hgiven⟩

/-- Under a key with a hyphen stands a wrong setting, but a right one follows for the same field. Another
flag is wrong in the configuration and right in its variable, and what the variable of a third says is
overridden by its argument. Of two misspelt variables the one of the flag `alerts` is reported, before a
key of the configuration that stands for no field. -/
theorem mergedSettings_sources_layered :
    let config : Mapping :=
      [(.str "default-html", .str "perhaps"), (.str "table", .int 1), (.str "default_html", .bool true)]
    let environment : Environment := [("GLFM_MARKDOWN_TABLE", " Yes\n"), ("GLFM_MARKDOWN_ALERTS", "off")]
    let misspelt : Environment := [("GLFM_MARKDOWN_UNSAFE", "2"), ("GLFM_MARKDOWN_ALERTS", " perhaps")]
    let i : Invocation := ⟨[("alerts", .bool true)]⟩
    (∃ s, mergedSettings config environment (i.given Schema.render.options) = .ok s ∧
      s.on .defaultHtml = true ∧ s.on .table = true ∧ s.on .alerts = true ∧ s.on .debug = false) ∧
    mergedSettings ((.str "no-such", .null) :: config) misspelt (i.given Schema.render.options) =
      .error (.config (.badVariable "GLFM_MARKDOWN_ALERTS" "' perhaps'")) := by
  intro config environment misspelt i
  constructor
  · have hright : ¬∃ f text, environment.Misspells f text := by
      rintro ⟨f, text, htext, hs⟩
      obtain ⟨before, after, hsplit, -⟩ := List.lookup_eq_some_iff.mp htext
      have hmem : ("GLFM_MARKDOWN_" ++ f.name.toUpper, text) ∈ environment := by simp [hsplit]
      simp only [environment, List.mem_cons, Prod.mk.injEq, List.not_mem_nil, or_false] at hmem
      rcases hmem with ⟨-, rfl⟩ | ⟨-, rfl⟩ <;> exact absurd hs (by decide +kernel)
    have hknown : ¬config.HasUnknownKey := by
      rintro ⟨entry, hentry, hk⟩
      simp only [config, List.mem_cons, List.not_mem_nil, or_false] at hentry
      rcases hentry with rfl | rfl | rfl
      · exact hk (.flag .defaultHtml) (by decide +kernel)
      · exact hk (.flag .table) (by decide +kernel)
      · exact hk (.flag .defaultHtml) (by decide +kernel)
    have hmerged := ((mergedSettings_sources config environment i).2 hright).2 hknown
    have hflags : Schema.render.fields.findSome?
        (flagFault? (mergedSetting? config environment i)) = none :=
      Option.isNone_iff_eq_none.mp (by decide +kernel)
    simp only [hflags] at hmerged
    obtain ⟨s, hs, hget⟩ := hmerged
    have hon : ∀ f b, ((mergedSetting? config environment i (.flag f)).getD
        (Field.flag f).unset).bool? = some b → s.on f = b := by
      intro f b hb
      rw [← hget (.flag f)] at hb
      exact Option.some.inj hb
    exact ⟨s, hs, hon _ _ (by decide +kernel), hon _ _ (by decide +kernel),
      hon _ _ (by decide +kernel), hon _ _ (by decide +kernel)⟩
  · have hbad : misspelt.Misspells .alerts " perhaps" := ⟨by decide +kernel, by decide +kernel⟩
    obtain ⟨f, text, ⟨htext, -⟩, hfirst, herror⟩ :=
      (mergedSettings_sources ((.str "no-such", .null) :: config) misspelt i).1 ⟨_, _, hbad⟩
    have hleast : ∀ g : Flag, Flag.alerts.name ≤ g.name := by
      intro g
      cases g <;> decide +kernel
    have hname : f.name = Flag.alerts.name := String.le_antisymm (hfirst .alerts _ hbad) (hleast f)
    have hvariable : "GLFM_MARKDOWN_" ++ Flag.alerts.name.toUpper = "GLFM_MARKDOWN_ALERTS" := by
      decide +kernel
    have hquoted : Text.quoted " perhaps" = "' perhaps'" := by decide +kernel
    rw [hname, hbad.1] at htext
    cases htext
    rw [herror, hname, hvariable, hquoted]

end Sources

end FlavoredMarkdown
