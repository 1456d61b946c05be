import FlavoredMarkdown.Options.Settings

/-!
# What an option record is filled with

A record is filled from settings under keys (`from_dict`). It is refused for a key that stands for no
field, else for the first flag, in the order of the fields, whose setting is neither on nor off. In a
record that is not refused every field is at what the last key for it gives, or at its default.

* Keys are told from fields in the same way for all records. What is checked behind that is said here
  for the flat record only, which looks at nothing but its flags: a rewriter or the prefix of anchors is
  kept as it is given.
* Several keys may stand for one field. Only the last of them is looked at, so a wrong setting does no
  harm in front of a right one.

Results:
* `Settings.lastGiven?_append`: what is given later counts.
* `Settings.ofPairs?_foreign`, `Settings.ofPairs?_native`: a record of any class with keys that are not
  its own, and with no such keys.
* **`Settings.ofPairs?_unknown`, `Settings.ofPairs?_notBool`, `Settings.ofPairs?_ok`**: the three ends
  of filling the flat record.
* `Settings.get_of_ofPairs?`: what an accepted record holds.
-/

namespace FlavoredMarkdown

/-- What a field is set to if nothing is given for it. -/
def Field.unset : Field → Setting
  | .flag _ => .value (.bool false)
  | _ => .none

/-- The flat record has all fields. -/
theorem Field.mem_render (field : Field) : field ∈ Schema.render.fields := by
  cases field with
  | flag f => cases f <;> simp [Schema.fields]
  | _ => simp [Schema.fields]

theorem Schema.field?_eq_none {schema : Schema} {name : String} :
    schema.field? name = none ↔ ∀ field ∈ schema.fields, field.name ≠ name := by
  simp [Schema.field?]

namespace Settings

variable {schema : Schema} {pairs : List (String × Setting)} {name : String}

/-! ## What is given for a name -/

/-- What the last one gives of the keys that stand for a name. -/
def lastGiven? (pairs : List (String × Setting)) (name : String) : Option Setting :=
  (pairs.filterMap fun p => if fieldKey p.1 = name then some p.2 else none).getLast?

/-- What is given later counts. -/
theorem lastGiven?_append (as bs : List (String × Setting)) (name : String) :
    lastGiven? (as ++ bs) name = (lastGiven? bs name).or (lastGiven? as name) := by
  simp only [lastGiven?, List.filterMap_append, List.getLast?_append]

theorem lastGiven?_eq_none (h : ∀ p ∈ pairs, fieldKey p.1 ≠ name) : lastGiven? pairs name = none := by
  rw [lastGiven?, List.getLast?_eq_none_iff, List.filterMap_eq_nil_iff]
  intro p hp
  rw [if_neg (h p hp)]

/-- If all keys for a name give the same, this is what is given. -/
theorem lastGiven?_eq_some {setting : Setting} (hmem : ∃ p ∈ pairs, fieldKey p.1 = name)
    (hall : ∀ p ∈ pairs, fieldKey p.1 = name → p.2 = setting) :
    lastGiven? pairs name = some setting := by
  obtain ⟨p, hp, hkey⟩ := hmem
  unfold lastGiven?
  cases hlast : (pairs.filterMap fun p => if fieldKey p.1 = name then some p.2 else none).getLast? with
  | none =>
    rw [List.getLast?_eq_none_iff, List.filterMap_eq_nil_iff] at hlast
    exact absurd (hlast p hp) (by simp [hkey])
  | some last =>
    obtain ⟨q, hq, he⟩ := List.mem_filterMap.mp (List.mem_of_getLast? hlast)
    split at he
    · next hk => rw [← Option.some.inj he, hall q hq hk]
    · cases he

/-- A record looks at the last key for each of its fields. -/
theorem givenBy_eq {field : Field} (hfield : field ∈ schema.fields)
    (pairs : List (String × Setting)) :
    givenBy schema (pairs.map fun (key, setting) => (fieldKey key, setting)) field =
      lastGiven? pairs field.name := by
  rw [givenBy, if_pos (List.contains_iff_mem.mpr hfield)]
  induction pairs with
  | nil => rfl
  | cons p rest ih =>
    have hp : lastGiven? [p] field.name =
        List.lookup field.name [(fieldKey p.1, p.2)] := by
      by_cases hk : fieldKey p.1 = field.name
      · simp [lastGiven?, hk]
      · have hne : (field.name == fieldKey p.1) = false := by simpa using Ne.symm hk
        simp [lastGiven?, List.lookup_cons, hk, hne]
    rw [← List.singleton_append, lastGiven?_append, List.map_append, List.reverse_append,
      List.lookup_append, ih, hp]
    rfl

/-! ## What is checked -/

/-- What is wrong with what is given for a field: a flag must be on or off. -/
def flagFault? (given : Field → Option Setting) : Field → Option SettingsError
  | .flag f =>
    (given (.flag f)).bind fun setting =>
      if setting.bool?.isSome then none else some (.notBool f.name setting)
  | _ => none

theorem firstNotBool?_eq (given : Field → Option Setting) (fields : List Field) :
    firstNotBool? given fields = fields.findSome? (flagFault? given) := by
  induction fields with
  | nil => rfl
  | cons field rest ih =>
    cases field with
    | flag f =>
      rw [firstNotBool?, List.findSome?_cons, flagFault?]
      cases given (.flag f) with
      | none => exact ih
      | some setting =>
        simp only [Option.bind_some]
        split
        · exact ih
        · rfl
    | _ => exact ih

theorem bool?_eq_some {setting : Setting} {b : Bool} (h : setting.bool? = some b) :
    setting = .value (.bool b) := by
  unfold Setting.bool? at h
  split at h <;> cases h
  rfl

/-- Settings among which flags are on or off are put in place of what a record had. -/
theorem get_replaced_of_flags {given : Field → Option Setting}
    (h : ∀ f setting, given (.flag f) = some setting → setting.bool?.isSome = true) (s : Settings)
    (field : Field) : (s.replaced given).get field = (given field).getD (s.get field) := by
  cases field with
  | flag f =>
    show Setting.value (.bool (((given (.flag f)).bind Setting.bool?).getD (s.on f))) = _
    cases hg : given (.flag f) with
    | none => rfl
    | some setting =>
      obtain ⟨b, hb⟩ := Option.isSome_iff_exists.mp (h f setting hg)
      rw [Option.bind_some, hb, bool?_eq_some hb]
      rfl
  | _ => rfl

/-- A flag is not at fault if what is given for it is on or off. -/
theorem flagFault?_eq_none {given : Field → Option Setting} {f : Flag} :
    flagFault? given (.flag f) = none ↔
      ∀ setting, given (.flag f) = some setting → setting.bool?.isSome = true := by
  simp [flagFault?, Option.bind_eq_none_iff, Option.isSome_iff_ne_none]

/-- In a new record every field is unset. -/
theorem get_default (field : Field) : ({} : Settings).get field = field.unset := by
  cases field <;> rfl

/-- A record that is filled with flags that are on or off holds what is given. -/
theorem get_replaced {given : Field → Option Setting}
    (h : Schema.render.fields.findSome? (flagFault? given) = none) (field : Field) :
    (({} : Settings).replaced given).get field = (given field).getD field.unset := by
  rw [get_replaced_of_flags, get_default]
  exact fun f => flagFault?_eq_none.mp (List.findSome?_eq_none_iff.mp h _ (Field.mem_render _))

/-! ## The ends of filling a record -/

/-- Some key stands for no field. -/
def HasUnknownKey (pairs : List (String × Setting)) : Prop :=
  ∃ p ∈ pairs, ∀ field : Field, field.name ≠ fieldKey p.1

/-- Some key stands for no field of a record. -/
def HasForeignKey (schema : Schema) (pairs : List (String × Setting)) : Prop :=
  ∃ p ∈ pairs, ∀ field ∈ schema.fields, field.name ≠ fieldKey p.1

theorem hasForeignKey_render : HasForeignKey .render pairs ↔ HasUnknownKey pairs := by
  simp [HasForeignKey, HasUnknownKey, Field.mem_render]

theorem mem_distinct {x : String} {xs : List String} : x ∈ distinct xs ↔ x ∈ xs := by
  induction xs with
  | nil => rfl
  | cons y rest ih =>
    rw [distinct, List.foldr_cons, ← distinct, List.mem_cons]
    split
    · next hc =>
      rw [List.contains_iff_mem] at hc
      constructor
      · exact fun hx => .inr (ih.mp hx)
      · rintro (rfl | hx)
        · exact hc
        · exact ih.mpr hx
    · rw [List.mem_cons, ih]

theorem nodup_distinct (xs : List String) : (distinct xs).Nodup := by
  induction xs with
  | nil => exact List.nodup_nil
  | cons y rest ih =>
    rw [distinct, List.foldr_cons, ← distinct]
    split
    · exact ih
    · next hc => exact List.nodup_cons.mpr ⟨by simpa using hc, ih⟩

theorem mem_sorted {x : String} {xs : List String} : x ∈ sorted xs ↔ x ∈ xs :=
  List.mem_mergeSort

/-- Sorting puts texts in order. -/
theorem pairwise_sorted (xs : List String) : (sorted xs).Pairwise fun a b => a ≤ b := by
  have hle : ∀ a b : String, (!decide (b < a)) = true ↔ a ≤ b := by
    intro a b
    rw [Bool.not_eq_true', decide_eq_false_iff_not, String.not_lt]
  refine (List.pairwise_mergeSort (fun a b c => ?_) (fun a b => ?_) xs).imp fun h => (hle _ _).mp h
  · rw [hle, hle, hle]
    exact String.le_trans
  · rw [Bool.or_eq_true, hle, hle]
    exact String.le_total a b

/-- The unknown names are told each once and in order. -/
theorem pairwise_unknownNames (schema : Schema) (names : List String) :
    (unknownNames schema names).Pairwise fun a b => a < b := by
  have hnodup : (unknownNames schema names).Nodup :=
    (List.mergeSort_perm _ _).nodup_iff.mpr (nodup_distinct _)
  refine ((pairwise_sorted _).and hnodup).imp ?_
  rintro a b ⟨hle, hne⟩
  rw [← String.not_le]
  exact fun hba => hne (String.le_antisymm hle hba)

theorem mem_unknownNames {names : List String} :
    name ∈ unknownNames schema names ↔
      name ∈ names ∧ ∀ field ∈ schema.fields, field.name ≠ name := by
  rw [unknownNames, mem_sorted, mem_distinct, List.mem_filter, Option.isNone_iff_eq_none,
    Schema.field?_eq_none]

/-- Names are unknown exactly if some key stands for no field of the record. -/
theorem unknownNames_eq_nil :
    unknownNames schema (pairs.map fun p => fieldKey p.1) = [] ↔ ¬HasForeignKey schema pairs := by
  rw [List.eq_nil_iff_forall_not_mem]
  unfold HasForeignKey
  constructor
  · rintro h ⟨p, hp, hk⟩
    exact h _ (mem_unknownNames.mpr ⟨List.mem_map_of_mem hp, hk⟩)
  · intro h name hname
    obtain ⟨hmem, hk⟩ := mem_unknownNames.mp hname
    obtain ⟨p, hp, rfl⟩ := List.mem_map.mp hmem
    exact h ⟨p, hp, hk⟩

/-- **A key that stands for no field** makes any record refused, and the names of all such keys are
told. -/
theorem ofPairs?_foreign (h : HasForeignKey schema pairs) :
    ofPairs? schema pairs =
      .error (.unknownKeys schema (unknownNames schema (pairs.map fun p => fieldKey p.1))) := by
  have hne : unknownNames schema (pairs.map fun p => fieldKey p.1) ≠ [] :=
    fun he => unknownNames_eq_nil.mp he h
  simp only [ofPairs?, List.map_map, Function.comp_def]
  rw [if_neg]
  rwa [List.isEmpty_iff]

theorem ofPairs?_unknown (h : HasUnknownKey pairs) :
    ofPairs? .render pairs =
      .error (.unknownKeys .render (unknownNames .render (pairs.map fun p => fieldKey p.1))) :=
  ofPairs?_foreign (hasForeignKey_render.mpr h)

/-- What is given for the fields of a record. -/
def givenFor (schema : Schema) (pairs : List (String × Setting)) (field : Field) : Option Setting :=
  if field ∈ schema.fields then lastGiven? pairs field.name else none

/-- If all keys stand for fields of the record, it depends on what is given for them. -/
theorem ofPairs?_native (h : ¬HasForeignKey schema pairs) :
    ofPairs? schema pairs = updated? schema {} (givenFor schema pairs) := by
  have hgiven : givenBy schema (pairs.map fun (key, setting) => (fieldKey key, setting)) =
      givenFor schema pairs := by
    funext field
    by_cases hfield : field ∈ schema.fields
    · rw [givenBy_eq hfield, givenFor, if_pos hfield]
    · rw [givenBy, if_neg (mt List.contains_iff_mem.mp hfield), givenFor, if_neg hfield]
  simp only [ofPairs?, List.map_map, Function.comp_def, unknownNames_eq_nil.mpr h, List.isEmpty_nil,
    if_true, hgiven]

/-- The flat record checks its flags. -/
theorem ofPairs?_known (h : ¬HasUnknownKey pairs) :
    ofPairs? .render pairs =
      match Schema.render.fields.findSome? (flagFault? fun field => lastGiven? pairs field.name) with
      | some e => .error e
      | none => .ok (({} : Settings).replaced fun field => lastGiven? pairs field.name) := by
  have hgiven : givenFor .render pairs = fun field => lastGiven? pairs field.name :=
    funext fun field => if_pos field.mem_render
  rw [ofPairs?_native (mt hasForeignKey_render.mp h), hgiven]
  simp only [updated?, firstNotBool?_eq]
  cases Schema.render.fields.findSome? (flagFault? fun field => lastGiven? pairs field.name) with
  | some e => rfl
  | none => rfl

/-- **The first flag that is neither on nor off** makes a record refused whose keys are known. -/
theorem ofPairs?_notBool (h : ¬HasUnknownKey pairs) {e : SettingsError}
    (he : Schema.render.fields.findSome? (flagFault? fun field => lastGiven? pairs field.name) =
      some e) :
    ofPairs? .render pairs = .error e := by
  rw [ofPairs?_known h, he]

/-- **Any other record is accepted**, and every field is at what the last key for it gives or at its
default. -/
theorem ofPairs?_ok (h : ¬HasUnknownKey pairs)
    (hflags : Schema.render.fields.findSome? (flagFault? fun field => lastGiven? pairs field.name) =
      none) :
    ∃ s, ofPairs? .render pairs = .ok s ∧
      ∀ field : Field, s.get field = (lastGiven? pairs field.name).getD field.unset :=
  ⟨_, by rw [ofPairs?_known h, hflags], get_replaced hflags⟩

/-- What an accepted record holds. -/
theorem get_of_ofPairs? {s : Settings} (h : ofPairs? .render pairs = .ok s) (field : Field) :
    s.get field = (lastGiven? pairs field.name).getD field.unset := by
  by_cases hu : HasUnknownKey pairs
  · rw [ofPairs?_unknown hu] at h
    cases h
  · rw [ofPairs?_known hu] at h
    split at h
    · cases h
    · next hflags =>
      cases h
      exact get_replaced hflags field

end Settings

end FlavoredMarkdown
