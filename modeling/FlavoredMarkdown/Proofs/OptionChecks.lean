import FlavoredMarkdown.Proofs.OptionParts

/-!
# What each record accepts

All four records are filled (`from_dict`) and updated (`create_updated`) in the same way. A key that is
none of the record's own makes it refused before any setting is looked at. Then the flags are checked,
and in the record for the markup the rewriters behind them. A record that is not refused holds what is
given for its fields, and nothing else in it is new.

* Several keys may stand for one field. Only the last one is looked at, so the others may give anything.
* An update names fields as they are and checks what it gives, not what the record had. That was checked
  when the record was made.

Results:
* `Settings.updated?_eq`: what is checked, in which order, and what is kept.
* `Settings.fault?_eq_none`: there is nothing to refuse exactly if each setting is right for its field.
* `Settings.isRecord_replaced`: what an update makes of a record is one again.
* **`Settings.records_checked`**: which records are accepted, what they hold, and why others are refused.
-/

namespace FlavoredMarkdown

/-- Whether a record takes a setting for a field. Rewriters matter to the markup only. -/
def Schema.takes (schema : Schema) (field : Field) (setting : Setting) : Bool :=
  (!field.isFlag && schema != .html) || field.accepts setting

namespace Settings

variable {schema : Schema} {s : Settings} {given : Field → Option Setting}
  {pairs : List (String × Setting)}

/-- A record of a class: its own settings are such as it takes, and there are no others. -/
structure IsRecord (schema : Schema) (s : Settings) : Prop where
  takes : ∀ field ∈ schema.fields, schema.takes field (s.get field) = true
  outside : ∀ field ∉ schema.fields, s.get field = field.unset

/-! ## What is wrong with what is given -/

/-- What is wrong with what is given for a rewriter of the markup. -/
def rewriterFault? (schema : Schema) (given : Field → Option Setting) (field : Field) :
    Option SettingsError :=
  (given field).bind fun setting =>
    if field.isFlag || schema.takes field setting then none
    else some (.notCallable field.name setting)

/-- What is wrong with what is given: the first fault of a flag, or else the first of a rewriter, both in
the order of the fields. -/
def fault? (schema : Schema) (given : Field → Option Setting) : Option SettingsError :=
  (schema.fields.findSome? (flagFault? given)).or
    (schema.fields.findSome? (rewriterFault? schema given))

theorem rewriterFault?_eq_none {field : Field} :
    rewriterFault? schema given field = none ↔
      field.isFlag = true ∨
        ∀ setting, given field = some setting → schema.takes field setting = true := by
  rw [rewriterFault?, Option.bind_eq_none_iff]
  cases field.isFlag <;> simp

/-- A field is at fault in neither way exactly if the record takes what is given for it. -/
theorem faultless_iff {field : Field} :
    flagFault? given field = none ∧ rewriterFault? schema given field = none ↔
      ∀ setting, given field = some setting → schema.takes field setting = true := by
  rw [rewriterFault?_eq_none]
  cases field with
  | flag f =>
    rw [flagFault?_eq_none, and_iff_left (.inl rfl)]
    rfl
  | _ => simp [flagFault?, Field.isFlag]

/-- **Nothing is wrong** exactly if the record takes each setting for its field. -/
theorem fault?_eq_none :
    fault? schema given = none ↔
      ∀ field ∈ schema.fields, ∀ setting, given field = some setting →
        schema.takes field setting = true := by
  rw [fault?, Option.or_eq_none_iff, List.findSome?_eq_none_iff, List.findSome?_eq_none_iff]
  constructor
  · rintro ⟨hflags, hrewriters⟩ field hfield
    exact faultless_iff.mp ⟨hflags field hfield, hrewriters field hfield⟩
  · intro h
    exact ⟨fun field hfield => (faultless_iff.mpr (h field hfield)).1,
      fun field hfield => (faultless_iff.mpr (h field hfield)).2⟩

/-! ## What is checked -/

/-- One rewriter of the markup: what is given for it is checked, or else what was there is right. -/
theorem rewriterFault?_html (given : Field → Option Setting) (field : Field)
    (hf : field.isFlag = false) (hne : field ≠ .headerIds) {old : Setting}
    (hold : old.isRewriterOrNone = true) :
    rewriterFault? .html given field =
      if ((given field).getD old).isRewriterOrNone then none
      else some (.notCallable field.name ((given field).getD old)) := by
  have htakes (setting : Setting) : Schema.html.takes field setting = setting.isRewriterOrNone := by
    cases field with
    | flag f => cases hf
    | headerIds => exact absurd rfl hne
    | _ => rfl
  cases hg : given field with
  | none => simp [rewriterFault?, hg, hold]
  | some setting => simp [rewriterFault?, hg, hf, htakes]

/-- The rewriters of an updated record are right if those that are given are. -/
theorem firstNotCallable?_replaced (hs : s.IsRecord schema) (given : Field → Option Setting) :
    firstNotCallable? schema (s.replaced given) =
      schema.fields.findSome? (rewriterFault? schema given) := by
  by_cases hschema : schema = .html
  · subst hschema
    have hlink := rewriterFault?_html given .linkUrlRewriter rfl nofun
      (hs.takes .linkUrlRewriter (by decide))
    have himage := rewriterFault?_html given .imageUrlRewriter rfl nofun
      (hs.takes .imageUrlRewriter (by decide))
    have hflag (f : Flag) : rewriterFault? .html given (.flag f) = none :=
      rewriterFault?_eq_none.mpr (.inl rfl)
    have hids : rewriterFault? .html given .headerIds = none :=
      rewriterFault?_eq_none.mpr (.inr fun _ _ => rfl)
    rw [firstNotCallable?_html]
    simp only [Schema.fields, List.findSome?_cons, List.findSome?_nil, hflag, hids, hlink, himage]
    rfl
  · rw [firstNotCallable?, if_neg hschema, eq_comm, List.findSome?_eq_none_iff]
    intro field _
    refine rewriterFault?_eq_none.mpr ?_
    cases hf : field.isFlag with
    | true => exact .inl rfl
    | false => exact .inr fun setting _ => by simp [Schema.takes, hf, hschema]

/-- **What is checked** when a record is updated, and what is kept if nothing is wrong. -/
theorem updated?_eq (hs : s.IsRecord schema) (given : Field → Option Setting) :
    s.updated? schema given =
      match fault? schema given with
      | some e => .error e
      | none => .ok (s.replaced given) := by
  simp only [updated?, firstNotBool?_eq, firstNotCallable?_replaced hs, fault?]
  cases schema.fields.findSome? (flagFault? given) with
  | some e => rfl
  | none => cases schema.fields.findSome? (rewriterFault? schema given) <;> rfl

/-! ## What is kept -/

theorem isRecord_default (schema : Schema) : IsRecord schema {} where
  takes field _ := by
    rw [get_default, Schema.takes, field.accepts_unset, Bool.or_true]
  outside field _ := get_default field

section Given

variable (hout : ∀ field ∉ schema.fields, given field = none) (hnone : fault? schema given = none)

include hout hnone

/-- A record with nothing wrong in what is given holds what is given, and what it had. -/
theorem get_replaced_of_faultless (s : Settings) (field : Field) :
    (s.replaced given).get field = (given field).getD (s.get field) := by
  refine get_replaced_of_flags (fun f setting hg => ?_) s field
  by_cases hf : .flag f ∈ schema.fields
  · exact fault?_eq_none.mp hnone (.flag f) hf setting hg
  · rw [hout _ hf] at hg
    cases hg

/-- It is a record of its class again. -/
theorem isRecord_replaced (hs : s.IsRecord schema) : (s.replaced given).IsRecord schema where
  takes field hfield := by
    rw [get_replaced_of_faultless hout hnone]
    cases hg : given field with
    | none => exact hs.takes field hfield
    | some setting => exact fault?_eq_none.mp hnone field hfield setting hg
  outside field hfield := by
    rw [get_replaced_of_faultless hout hnone, hout field hfield, Option.getD_none]
    exact hs.outside field hfield

end Given

theorem givenFor_of_not_mem {field : Field} (h : field ∉ schema.fields) :
    givenFor schema pairs field = none := if_neg h

theorem fault?_givenFor :
    fault? schema (givenFor schema pairs) = none ↔
      ∀ field ∈ schema.fields, ∀ setting, lastGiven? pairs field.name = some setting →
        schema.takes field setting = true := by
  rw [fault?_eq_none]
  refine forall₂_congr fun field hfield => ?_
  rw [givenFor, if_pos hfield]

/-- What names of fields give is what they give as keys. -/
theorem givenBy_names {named : List (String × Setting)}
    (h : ∀ p ∈ named, ∃ field ∈ schema.fields, p.1 = field.name) :
    givenBy schema named = givenFor schema named := by
  have hkeys : (named.map fun p => (fieldKey p.1, p.2)) = named := by
    refine (List.map_congr_left fun p hp => ?_).trans (List.map_id named)
    obtain ⟨field, -, hname⟩ := h p hp
    have hkey : fieldKey p.1 = p.1 := by rw [hname, field.fieldKey_name]
    exact congrArg (·, p.2) hkey
  funext field
  by_cases hfield : field ∈ schema.fields
  · rw [givenFor, if_pos hfield, ← givenBy_eq hfield, hkeys]
  · rw [givenFor, if_neg hfield, givenBy, if_neg (mt List.contains_iff_mem.mp hfield)]

/-! ## All records -/

/-- A record is updated with what some keys give for its fields. -/
theorem updated?_givenFor (hs : s.IsRecord schema) (pairs : List (String × Setting)) :
    (match fault? schema (givenFor schema pairs) with
      | some e => s.updated? schema (givenFor schema pairs) = .error e
      | none => ∃ s', s.updated? schema (givenFor schema pairs) = .ok s' ∧ s'.IsRecord schema ∧
          ∀ field, s'.get field = (givenFor schema pairs field).getD (s.get field)) ∧
    ((∃ s', s.updated? schema (givenFor schema pairs) = .ok s') ↔
      ∀ field ∈ schema.fields, ∀ setting, lastGiven? pairs field.name = some setting →
        schema.takes field setting = true) := by
  have hout : ∀ field ∉ schema.fields, givenFor schema pairs field = none :=
    fun field => givenFor_of_not_mem
  rw [← fault?_givenFor, updated?_eq hs]
  cases hfault : fault? schema (givenFor schema pairs) with
  | some e => simp
  | none =>
    exact ⟨⟨_, rfl, isRecord_replaced hout hfault hs, get_replaced_of_faultless hout hfault s⟩,
      fun _ => rfl, fun _ => ⟨_, rfl⟩⟩

/-- **What each record accepts.** It is refused if some key stands for none of its fields, and all such
keys are told in order; or else for the first flag that is neither on nor off, or else for the first
rewriter of the markup that is none, by what the last key for a field gives. Any other record is accepted
and holds what is given, and its other fields are unset. An update of a record is checked in the same way
and changes the fields it names. -/
theorem records_checked (schema : Schema) :
    (∀ pairs : List (String × Setting),
      (HasForeignKey schema pairs →
        ∃ keys, ofPairs? schema pairs = .error (.unknownKeys schema keys) ∧
          keys.Pairwise (fun a b => a < b) ∧
          ∀ key, key ∈ keys ↔
            (∃ p ∈ pairs, fieldKey p.1 = key) ∧ ∀ field ∈ schema.fields, field.name ≠ key) ∧
      (¬HasForeignKey schema pairs →
        match fault? schema (givenFor schema pairs) with
        | some e => ofPairs? schema pairs = .error e
        | none => ∃ s, ofPairs? schema pairs = .ok s ∧ s.IsRecord schema ∧
            ∀ field, s.get field = (givenFor schema pairs field).getD field.unset) ∧
      ((∃ s, ofPairs? schema pairs = .ok s) ↔
        (∀ p ∈ pairs, ∃ field ∈ schema.fields, fieldKey p.1 = field.name) ∧
        ∀ field ∈ schema.fields, ∀ setting, lastGiven? pairs field.name = some setting →
          schema.takes field setting = true)) ∧
    ∀ s : Settings, s.IsRecord schema → ∀ named : List (String × Setting),
      (∀ p ∈ named, ∃ field ∈ schema.fields, p.1 = field.name) →
        (match fault? schema (givenFor schema named) with
          | some e => s.updated? schema (givenBy schema named) = .error e
          | none => ∃ s', s.updated? schema (givenBy schema named) = .ok s' ∧
              s'.IsRecord schema ∧
              ∀ field, s'.get field = (givenFor schema named field).getD (s.get field)) ∧
        ((∃ s', s.updated? schema (givenBy schema named) = .ok s') ↔
          ∀ field ∈ schema.fields, ∀ setting, lastGiven? named field.name = some setting →
            schema.takes field setting = true) := by
  refine ⟨fun pairs => ⟨fun h => ?_, fun h => ?_, ?_⟩, fun s hs named hnamed => ?_⟩
  · refine ⟨_, ofPairs?_foreign h, pairwise_unknownNames _ _, fun key => ?_⟩
    rw [mem_unknownNames, List.mem_map]
  · have hdefault := (updated?_givenFor (isRecord_default schema) pairs).1
    simp only [get_default] at hdefault
    rwa [ofPairs?_native h]
  · have hforeign : ¬HasForeignKey schema pairs ↔
        ∀ p ∈ pairs, ∃ field ∈ schema.fields, fieldKey p.1 = field.name := by
      simp [HasForeignKey, eq_comm]
    rw [← hforeign]
    by_cases h : HasForeignKey schema pairs
    · simp [ofPairs?_foreign h, h]
    · rw [ofPairs?_native h, (updated?_givenFor (isRecord_default schema) pairs).2]
      exact (and_iff_right h).symm
  · rw [givenBy_names hnamed]
    exact updated?_givenFor hs named

/-- A wrong setting for a rewriter does no harm in front of a right one under another key. In an update
with two wrong settings, the flag is refused. A foreign key behind them is refused before both. -/
theorem records_checked_update :
    let pairs : List (String × Setting) :=
      [("link_url_rewriter", .value (.int 1)), ("link-url-rewriter", .rewriter (.before "/go?"))]
    let named : List (String × Setting) :=
      [("image_url_rewriter", .value (.str "x")), ("escape", .value (.int 0))]
    (∃ s, ofPairs? .html pairs = .ok s ∧
      s.updated? .html (givenBy .html named) = .error (.notBool "escape" (.value (.int 0)))) ∧
    ∃ keys, ofPairs? .html (named ++ [("no-such", .none)]) = .error (.unknownKeys .html keys) ∧
      "no_such" ∈ keys := by
  intro pairs named
  have hpairs : ¬HasForeignKey .html pairs := by
    rintro ⟨p, hp, hno⟩
    simp only [pairs, List.mem_cons, List.not_mem_nil, or_false] at hp
    rcases hp with rfl | rfl <;> exact hno .linkUrlRewriter (by decide) (by decide +kernel)
  have hnamed : ∀ p ∈ named, ∃ field ∈ Schema.html.fields, p.1 = field.name := by
    intro p hp
    simp only [named, List.mem_cons, List.not_mem_nil, or_false] at hp
    rcases hp with rfl | rfl
    · exact ⟨.imageUrlRewriter, by decide, rfl⟩
    · exact ⟨.flag .escape, by decide, rfl⟩
  obtain ⟨hfilled, hupdated⟩ := records_checked .html
  obtain ⟨s, hs, hrecord, -⟩ := (hfilled pairs).2.1 hpairs
  refine ⟨⟨s, hs, (hupdated s hrecord named hnamed).1⟩, ?_⟩
  have hkey : fieldKey "no-such" = "no_such" := by decide +kernel
  have hunknown : ∀ field ∈ Schema.html.fields, field.name ≠ "no_such" := by decide
  have hlast : ("no-such", Setting.none) ∈ named ++ [("no-such", .none)] := by simp
  obtain ⟨keys, herror, -, hkeys⟩ := (hfilled _).1 ⟨_, hlast, by rwa [hkey]⟩
  exact ⟨keys, herror, (hkeys _).mpr ⟨⟨_, hlast, hkey⟩, hunknown⟩⟩

end Settings

end FlavoredMarkdown
