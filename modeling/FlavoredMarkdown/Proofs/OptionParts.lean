import FlavoredMarkdown.Proofs.AcceptedOptions
import FlavoredMarkdown.Proofs.OptionPriority

/-!
# The parts of a record

The flat record is split into the records of the three stages (`_project`). Each stage lists its fields
for itself, and some fields are in two lists. A field that no list had would be lost on the way, and one
that the flat record did not have could not be filled. Neither is there: together the parts hold all
fields, and from them the record can be made again.

* A part depends on its own fields only. So it makes no difference whether a record is updated and then
  split, or split and then each part updated with what belongs to it.
* All this is about records whose rewriters are rewriters or nothing. With any other there is no part
  for the markup (`Settings.renderDocument_accepted`). The prefix of anchors may be anything.

Results:
* `Field.mem_stages`: every field is one of a stage.
* `Settings.ofPairs?_parts`: a record is what its parts hold together.
* `Settings.restricted_replaced`: updating goes with splitting.
* `Settings.updated?_part`: so it does for updates that are checked, with what belongs to each stage.
* **`Settings.projected?_parts`**: what the parts of a record hold, before and after an update.
-/

namespace FlavoredMarkdown

/-- The records of the stages. -/
def Schema.stages : List Schema := [.reader, .html, .user]

/-- Every field is one of a stage. -/
theorem Field.mem_stages (field : Field) : ∃ stage ∈ Schema.stages, field ∈ stage.fields := by
  cases field with
  | flag f => cases f <;> decide
  | _ => decide

/-- Whether a setting is right for a field. The prefix of anchors may be anything. -/
def Field.accepts : Field → Setting → Bool
  | .flag _, setting => setting.bool?.isSome
  | .headerIds, _ => true
  | .linkUrlRewriter, setting | .imageUrlRewriter, setting => setting.isRewriterOrNone

theorem Field.accepts_unset (field : Field) : field.accepts field.unset = true := by
  cases field <;> rfl

namespace Settings

/-- A record whose settings are right. A flag is on or off anyway, so this is about the rewriters. -/
def IsValid (s : Settings) : Prop := ∀ field : Field, field.accepts (s.get field) = true

/-- The fields of a record under their names. -/
def entries (schema : Schema) (s : Settings) : List (String × Setting) :=
  schema.fields.map fun field => (field.name, s.get field)

/-- Right settings under the names of fields. -/
def IsUpdate (named : List (String × Setting)) : Prop :=
  ∀ p ∈ named, ∃ field : Field, p.1 = field.name ∧ field.accepts p.2 = true

/-- What of some named settings belongs to a record. -/
def belongingTo (schema : Schema) (named : List (String × Setting)) : List (String × Setting) :=
  named.filter fun p => (schema.field? p.1).isSome

variable {s t : Settings} {schema : Schema} {given : Field → Option Setting}
  {named : List (String × Setting)}

/-- Records are equal if all their fields are. -/
theorem eq_of_get (h : ∀ field, s.get field = t.get field) : s = t := by
  obtain ⟨on, headerIds, link, image⟩ := s
  obtain ⟨on', headerIds', link', image'⟩ := t
  have hon : on = on' := by
    funext f
    have hf : Setting.value (.bool (on f)) = .value (.bool (on' f)) := h (.flag f)
    injection hf with hf
    injection hf
  obtain rfl : headerIds = headerIds' := h .headerIds
  obtain rfl : link = link' := h .linkUrlRewriter
  obtain rfl : image = image' := h .imageUrlRewriter
  rw [hon]

/-! ## Parts -/

theorem get_restricted (schema : Schema) (s : Settings) (field : Field) :
    (s.restricted schema).get field = if field ∈ schema.fields then s.get field else field.unset := by
  by_cases h : field ∈ schema.fields
  · rw [if_pos h]
    cases field <;> simp [get, restricted, h]
  · rw [if_neg h]
    cases field <;> simp [get, restricted, h, Field.unset]

theorem isValid_restricted (hs : s.IsValid) (schema : Schema) : (s.restricted schema).IsValid := by
  intro field
  rw [get_restricted]
  split
  · exact hs field
  · exact field.accepts_unset

/-- A record with right settings is not refused for its rewriters. -/
theorem firstNotCallable?_of_isValid (hs : s.IsValid) (schema : Schema) :
    firstNotCallable? schema s = none := by
  have hlink : s.linkUrlRewriter.isRewriterOrNone = true := hs .linkUrlRewriter
  have himage : s.imageUrlRewriter.isRewriterOrNone = true := hs .imageUrlRewriter
  unfold firstNotCallable?
  rw [Setting.refused_eq, Setting.refused_eq, hlink, himage]
  exact ite_self _

/-- Its parts are there. -/
theorem projected?_of_isValid (hs : s.IsValid) (schema : Schema) :
    s.projected? schema = .ok (s.restricted schema) := by
  rw [projected?, firstNotCallable?_of_isValid (isValid_restricted hs schema)]

/-- **A record is what its parts hold together**, in any order. -/
theorem ofPairs?_parts {pairs : List (String × Setting)}
    (h : ∀ p, p ∈ pairs ↔ ∃ stage ∈ Schema.stages, p ∈ (s.restricted stage).entries stage) :
    ofPairs? .render pairs = .ok s := by
  have hpairs : ∀ p, p ∈ pairs ↔ ∃ field : Field, p.1 = field.name ∧ some (s.get field) = some p.2 := by
    intro p
    rw [h]
    constructor
    · rintro ⟨stage, -, hp⟩
      obtain ⟨field, hfield, rfl⟩ := List.mem_map.mp hp
      exact ⟨field, rfl, by rw [get_restricted, if_pos hfield]⟩
    · rintro ⟨field, hname, hsetting⟩
      obtain ⟨stage, hstage, hfield⟩ := field.mem_stages
      refine ⟨stage, hstage, List.mem_map.mpr ⟨field, hfield, ?_⟩⟩
      rw [get_restricted, if_pos hfield, ← hname, Option.some.inj hsetting]
  have hgiven : ∀ field : Field, lastGiven? pairs field.name = some (s.get field) :=
    lastGiven?_name hpairs
  have hknown : ¬HasUnknownKey pairs := by
    rintro ⟨p, hp, hno⟩
    obtain ⟨field, hname, -⟩ := (hpairs p).mp hp
    exact hno field (by rw [hname, field.fieldKey_name])
  have hflags : Schema.render.fields.findSome?
      (flagFault? fun field => lastGiven? pairs field.name) = none := by
    rw [List.findSome?_eq_none_iff]
    intro field _
    cases field with
    | flag f => simp [flagFault?, hgiven, get, Setting.bool?]
    | _ => rfl
  obtain ⟨s', hs', hget⟩ := ofPairs?_ok hknown hflags
  rw [hs', eq_of_get fun field => (hget field).trans (by rw [hgiven, Option.getD_some])]

/-! ## Updates -/

/-- What is given is right for the fields it is given for. -/
def AllAccepted (given : Field → Option Setting) : Prop :=
  ∀ field setting, given field = some setting → field.accepts setting = true

/-- An update with right settings sets the fields that it gives something for. -/
theorem get_replaced_of_accepted (h : AllAccepted given) (s : Settings) (field : Field) :
    (s.replaced given).get field = (given field).getD (s.get field) :=
  get_replaced_of_flags (fun f => h (.flag f)) s field

theorem isValid_replaced (hs : s.IsValid) (h : AllAccepted given) : (s.replaced given).IsValid := by
  intro field
  rw [get_replaced_of_accepted h]
  cases hg : given field with
  | none => exact hs field
  | some setting => exact h field setting hg

/-- It is not refused. -/
theorem updated?_of_accepted (hs : s.IsValid) (h : AllAccepted given) (schema : Schema) :
    s.updated? schema given = .ok (s.replaced given) := by
  have hflags : firstNotBool? given schema.fields = none := by
    rw [firstNotBool?_eq, List.findSome?_eq_none_iff]
    intro field _
    cases field with
    | flag f =>
      rw [flagFault?, Option.bind_eq_none_iff]
      exact fun setting hg => if_pos (h _ _ hg)
    | _ => rfl
  simp only [updated?, hflags, firstNotCallable?_of_isValid (isValid_replaced hs h)]

/-- **Updating goes with splitting**: a part changes by what is given for its fields. -/
theorem restricted_replaced (h : AllAccepted given) (schema : Schema) (s : Settings) :
    (s.replaced given).restricted schema =
      (s.restricted schema).replaced fun field => if field ∈ schema.fields then given field else none := by
  have hpart : AllAccepted fun field => if field ∈ schema.fields then given field else none := by
    intro field setting (hg : (if field ∈ schema.fields then given field else none) = some setting)
    split at hg
    · exact h field setting hg
    · cases hg
  refine eq_of_get fun field => ?_
  rw [get_restricted, get_replaced_of_accepted h, get_replaced_of_accepted hpart, get_restricted]
  by_cases hfield : field ∈ schema.fields
  · simp only [if_pos hfield]
  · simp only [if_neg hfield, Option.getD_none]

/-! ## Updates under names -/

theorem allAccepted_givenBy (h : IsUpdate named) (schema : Schema) :
    AllAccepted (givenBy schema named) := by
  intro field setting hg
  unfold givenBy at hg
  split at hg
  · obtain ⟨before, after, hnamed, -⟩ := List.lookup_eq_some_iff.mp hg
    have hmem : (field.name, setting) ∈ named := by
      rw [← List.mem_reverse, hnamed]
      exact List.mem_append_right _ List.mem_cons_self
    obtain ⟨field', hname, haccepts⟩ := h _ hmem
    rwa [Field.name_injective hname]
  · cases hg

/-- A name that is kept is found among those that are kept as among all. -/
theorem lookup_filter (keeps : String → Bool) {name : String} (hname : keeps name = true)
    (named : List (String × Setting)) :
    (named.filter fun p => keeps p.1).lookup name = named.lookup name := by
  induction named with
  | nil => rfl
  | cons p rest ih =>
    obtain ⟨other, setting⟩ := p
    by_cases h : name = other
    · subst h
      simp [hname]
    · have hne : (name == other) = false := beq_eq_false_iff_ne.mpr h
      cases hother : keeps other <;> simp [hother, List.lookup_cons, hne, ih]

/-- A stage is given what belongs to it. -/
theorem givenBy_belongingTo (schema : Schema) (named : List (String × Setting)) :
    givenBy schema (belongingTo schema named) =
      fun field => if field ∈ schema.fields then givenBy .render named field else none := by
  funext field
  have hrender : Schema.render.fields.contains field = true := List.contains_iff_mem.mpr field.mem_render
  by_cases h : field ∈ schema.fields
  · have hknown : (schema.field? field.name).isSome = true := by
      rw [Schema.field?, List.find?_isSome]
      exact ⟨field, h, beq_self_eq_true _⟩
    rw [givenBy, if_pos (List.contains_iff_mem.mpr h), if_pos h, givenBy, if_pos hrender, belongingTo,
      ← List.filter_reverse, lookup_filter (fun name => (schema.field? name).isSome) hknown]
  · rw [givenBy, if_neg (mt List.contains_iff_mem.mp h), if_neg h]

/-- A field that no name stands for is given nothing. -/
theorem givenBy_eq_none {field : Field} (h : ∀ p ∈ named, p.1 ≠ field.name) (schema : Schema) :
    givenBy schema named field = none := by
  have hlookup : named.reverse.lookup field.name = none := by
    rw [List.lookup_eq_none_iff]
    intro p hp
    exact bne_iff_ne.mpr (h p (List.mem_reverse.mp hp)).symm
  rw [givenBy, hlookup, ite_self]

/-- **A part of an updated record** is the part of the record, updated with what belongs to it. -/
theorem updated?_part (hs : s.IsValid) (h : IsUpdate named) (stage : Schema) :
    (s.restricted stage).updated? stage (givenBy stage (belongingTo stage named)) =
      .ok ((s.replaced (givenBy .render named)).restricted stage) := by
  have hbelonging : IsUpdate (belongingTo stage named) := fun p hp => h p (List.mem_filter.mp hp).1
  rw [updated?_of_accepted (isValid_restricted hs stage) (allAccepted_givenBy hbelonging stage),
    restricted_replaced (allAccepted_givenBy h .render), givenBy_belongingTo]

/-- A field that is not named keeps its value, in all parts. -/
theorem get_part_of_unnamed (h : IsUpdate named) {field : Field}
    (hfield : ∀ p ∈ named, p.1 ≠ field.name) (stage : Schema) (s : Settings) :
    ((s.replaced (givenBy .render named)).restricted stage).get field =
      (s.restricted stage).get field := by
  rw [get_restricted, get_restricted, get_replaced_of_accepted (allAccepted_givenBy h .render),
    givenBy_eq_none hfield, Option.getD_none]

/-- A part that nothing belongs to stays as it was. -/
theorem part_of_nothing (h : IsUpdate named) {stage : Schema}
    (hnone : ∀ p ∈ named, stage.field? p.1 = none) (s : Settings) :
    (s.replaced (givenBy .render named)).restricted stage = s.restricted stage := by
  refine eq_of_get fun field => ?_
  by_cases hfield : field ∈ stage.fields
  · refine get_part_of_unnamed h (fun p hp hname => ?_) stage s
    have hno := List.find?_eq_none.mp (hnone p hp) field hfield
    rw [hname] at hno
    exact hno (beq_self_eq_true _)
  · rw [get_restricted, get_restricted, if_neg hfield, if_neg hfield]

/-! ## All of it -/

/-- **The parts of a record**, if its rewriters are rewriters or nothing. All parts are there. A record
that is filled with what they hold, in any order, is the record they are parts of, and fields that are
in two of them are the same in both. If the record is updated with right settings, its parts are then
the parts it had, each updated with what belongs to it. A part that nothing belongs to stays as it
was, and so does any field that the update does not name. -/
theorem projected?_parts (hs : s.IsValid) :
    ∃ part : Schema → Settings,
      (∀ stage, s.projected? stage = .ok (part stage)) ∧
      (∀ pairs : List (String × Setting),
        (∀ p, p ∈ pairs ↔ ∃ stage ∈ Schema.stages, p ∈ (part stage).entries stage) →
          ofPairs? .render pairs = .ok s) ∧
      (∀ a b : Schema, ∀ field ∈ a.fields, field ∈ b.fields →
        (part a).get field = (part b).get field) ∧
      ∀ named, IsUpdate named →
        ∃ s' : Settings, s.updated? .render (givenBy .render named) = .ok s' ∧
          ∃ part' : Schema → Settings, ∀ stage,
            s'.projected? stage = .ok (part' stage) ∧
            (part stage).updated? stage (givenBy stage (belongingTo stage named)) =
              .ok (part' stage) ∧
            ((∀ p ∈ named, stage.field? p.1 = none) → part' stage = part stage) ∧
            ∀ field : Field, (∀ p ∈ named, p.1 ≠ field.name) →
              (part' stage).get field = (part stage).get field := by
  refine ⟨fun stage => s.restricted stage, projected?_of_isValid hs, fun _ => ofPairs?_parts, ?_, ?_⟩
  · intro a b field ha hb
    rw [get_restricted, get_restricted, if_pos ha, if_pos hb]
  · intro named hnamed
    have hgiven := allAccepted_givenBy hnamed .render
    refine ⟨_, updated?_of_accepted hs hgiven .render, fun stage =>
      (s.replaced (givenBy .render named)).restricted stage, fun stage => ⟨?_, ?_, ?_, ?_⟩⟩
    · exact projected?_of_isValid (isValid_replaced hs hgiven) stage
    · exact updated?_part hs hnamed stage
    · exact fun hnone => part_of_nothing hnamed hnone s
    · exact fun field hfield => get_part_of_unnamed hnamed hfield stage s

/-- Two stages read the switch of relaxed autolinks. It comes back from both, and an update that turns it
off turns it off for both and leaves the overrides alone. -/
theorem projected?_parts_shared :
    let s : Settings :=
      { on := fun f => f == .relaxedAutolinks, headerIds := .value (.int 1),
        linkUrlRewriter := .rewriter (.before "/go?") }
    let named : List (String × Setting) :=
      [("relaxed_autolinks", .value (.bool false)), ("image_url_rewriter", .rewriter (.after "#i"))]
    ∃ part : Schema → Settings, (∀ stage, s.projected? stage = .ok (part stage)) ∧
      ofPairs? .render (Schema.stages.flatMap fun stage => (part stage).entries stage) = .ok s ∧
      ∃ s' reader html, s.updated? .render (givenBy .render named) = .ok s' ∧
        s'.projected? .reader = .ok reader ∧ s'.projected? .html = .ok html ∧
        s'.projected? .user = .ok (part .user) ∧
        reader.on .relaxedAutolinks = false ∧ html.on .relaxedAutolinks = false ∧
        html.headerIds = .value (.int 1) := by
  intro s named
  have hs : s.IsValid := by
    intro field
    cases field <;> rfl
  have hnamed : IsUpdate named := by
    intro p hp
    simp only [named, List.mem_cons, List.not_mem_nil, or_false] at hp
    rcases hp with rfl | rfl
    · exact ⟨.flag .relaxedAutolinks, rfl, rfl⟩
    · exact ⟨.imageUrlRewriter, rfl, rfl⟩
  have huser : ∀ p ∈ named, Schema.user.field? p.1 = none := by
    intro p hp
    simp only [named, List.mem_cons, List.not_mem_nil, or_false] at hp
    rcases hp with rfl | rfl <;> decide
  obtain ⟨part, hpart, hunion, -, hupdates⟩ := projected?_parts hs
  obtain ⟨s', hs', part', hpart'⟩ := hupdates named hnamed
  obtain ⟨hreader, -, -, -⟩ := hpart' .reader
  obtain ⟨hhtml, -, -, -⟩ := hpart' .html
  obtain ⟨hkept, -, huser', -⟩ := hpart' .user
  obtain rfl : s.replaced (givenBy .render named) = s' := Except.ok.inj hs'
  have hreaderPart : _ = part' .reader := Except.ok.inj hreader
  have hhtmlPart : _ = part' .html := Except.ok.inj hhtml
  refine ⟨part, hpart, hunion _ fun p => List.mem_flatMap, _, part' .reader, part' .html, hs', hreader,
    hhtml, ?_, ?_, ?_, ?_⟩
  · rw [hkept, huser' huser]
  · rw [← hreaderPart]
    rfl
  · rw [← hhtmlPart]
    rfl
  · rw [← hhtmlPart]
    rfl

end Settings

end FlavoredMarkdown
