import FlavoredMarkdown.Config.File

/-!
# How loading a configuration ends

`load_config_file` promises a mapping or a `ConfigError`, and gives one of them whatever the file is
called, whether it can be read and whatever value is written in it. Two things escape.

* In a project file whose `tool` is no table, `_load_pyproject_section` looks for an entry of `tool`
  without asking what it is (`LoadError.toolsNotTable`). No other outcome of reading and parsing the
  file escapes.
* Whether there is a file is asked first, outside of what is guarded. If the system refuses to look the
  name up, as it does when the name is too long, the refusal escapes for every format
  (`loadConfig_refusedLookup`). What `loadConfig_ends` says of how loading ends is said of hosts whose
  lookup answers.

What reading and parsing a file gives is any value, or any reason why there is none. How the readers of
the formats come to it does not matter here, save that TOML is always a table.

Results:
* `ConfigFormat.Holds`: which mapping a value stands for in a file of a format.
* `ConfigFormat.entries_cases`, `loaded_cases`: the three ways in which a file that is read, and loading
  as a whole, can end.
* `loaded_toolsNotTable_iff`, `loaded_ok_iff`: when loading ends in the exception, and when in a mapping.
* `loadConfig_eq`: a file is read only if it is there and its format is supported.
* `loadConfig_refusedLookup`: a lookup that is refused escapes.
* **`loadConfig_ends`**: how loading ends.
-/

namespace FlavoredMarkdown

/-- The dictionary that is held under a text. -/
def Mapping.table? (m : Mapping) (key : String) : Option Mapping := (m.at? key).bind ofValue?

/-- The value is no dictionary, or its `tool` is there and is none. -/
def Value.HasOddTools (v : Value) : Prop :=
  ∀ file, Mapping.ofValue? v = some file →
    ∃ tools, file.at? "tool" = some tools ∧ Mapping.ofValue? tools = none

namespace ConfigFormat

/-- The mapping that a value stands for in a file of a format. In a project file it is a table among the
tools; this table or all tools may be missing. -/
inductive Holds : ConfigFormat → Value → Mapping → Prop
  | nothing {format : ConfigFormat} (h : format ≠ .project) : Holds format .null []
  | whole {format : ConfigFormat} {v : Value} {entries : Mapping} (h : format ≠ .project)
      (hv : Mapping.ofValue? v = some entries) : Holds format v entries
  | noTools {v : Value} {file : Mapping} (hv : Mapping.ofValue? v = some file)
      (h : file.at? "tool" = none) : Holds .project v []
  | noTable {v : Value} {file tools : Mapping} (hv : Mapping.ofValue? v = some file)
      (htools : file.table? "tool" = some tools) (h : tools.at? configSection = none) :
      Holds .project v []
  | table {v : Value} {file tools entries : Mapping} (hv : Mapping.ofValue? v = some file)
      (htools : file.table? "tool" = some tools)
      (h : tools.table? configSection = some entries) : Holds .project v entries

variable {format : ConfigFormat} {p : Path} {v : Value} {entries : Mapping}

/-! ## Values -/

theorem ofValue?_empty : Mapping.ofValue? (.dict []) = some [] := rfl

theorem at?_nil (key : String) : Mapping.at? [] key = none := rfl

/-- A dictionary with texts for keys is looked up as it is. -/
theorem at?_ofEntries (file : List (String × Value)) (key : String) :
    (Mapping.ofEntries file).at? key = file.lookup key := by
  have hnamed : (Mapping.ofEntries file).named = file := by
    rw [Mapping.named, Mapping.ofEntries, List.filterMap_map]
    exact List.filterMap_some
  rw [Mapping.at?, hnamed]

theorem ofValue?_of_table? {m entries : Mapping} {key : String} (h : m.table? key = some entries) :
    Mapping.ofValue? ((m.at? key).getD (.dict [])) = some entries := by
  obtain ⟨v, hv, htable⟩ := Option.bind_eq_some_iff.mp h
  rw [hv, Option.getD_some, htable]

/-- The table of a project file with tools, which are empty if they are missing. -/
theorem projectTable_eq {file tools : Mapping} (hv : Mapping.ofValue? v = some file)
    (htools : Mapping.ofValue? ((file.at? "tool").getD (.dict [])) = some tools) :
    projectTable p v =
      let part := (tools.at? configSection).getD (.dict [])
      match Mapping.ofValue? part with
      | some entries => .ok entries
      | none => .error (.refused (.sectionNotTable p.text part.kindName)) := by
  cases hpart : Mapping.ofValue? ((tools.at? configSection).getD (.dict [])) <;>
    simp only [projectTable, hv, htools, hpart, Option.map_some, Option.bind_some]

theorem projectTable_of_oddTools (h : v.HasOddTools) : projectTable p v = .error .toolsNotTable := by
  cases hv : Mapping.ofValue? v with
  | none => simp only [projectTable, hv, Option.map_none, Option.bind_none]
  | some file =>
    obtain ⟨tools, htools, hnone⟩ := h file hv
    simp only [projectTable, hv, Option.map_some, Option.bind_some, htools, Option.getD_some, hnone,
      Option.map_none]

/-- What a value stands for is what it gives. -/
theorem entries_of_holds (h : format.Holds v entries) : format.entries p (.ok v) = .ok entries := by
  cases h with
  | nothing h => rw [ConfigFormat.entries, if_neg h]; rfl
  | whole h hv => simp only [ConfigFormat.entries, if_neg h, mapping, hv]
  | noTools hv h =>
    rw [ConfigFormat.entries, if_pos rfl, projectTable_eq hv (by rw [h]; exact ofValue?_empty), at?_nil]
    rfl
  | noTable hv htools h =>
    rw [ConfigFormat.entries, if_pos rfl, projectTable_eq hv (ofValue?_of_table? htools), h]
    rfl
  | table hv htools h =>
    rw [ConfigFormat.entries, if_pos rfl, projectTable_eq hv (ofValue?_of_table? htools)]
    simp only [ofValue?_of_table? h]

/-- A value of any format but that of project files stands for a mapping, or it is refused. -/
theorem mapping_cases (p : Path) (h : format ≠ .project) (v : Value) :
    (∃ entries, format.Holds v entries) ∨ ∃ e, mapping p v = .error (.refused e) := by
  cases v with
  | null => exact .inl ⟨_, .nothing h⟩
  | dict entries => exact .inl ⟨_, .whole h rfl⟩
  | keyed entries => exact .inl ⟨_, .whole h rfl⟩
  | _ => exact .inr ⟨_, rfl⟩

/-- A project file has odd tools, or it stands for a mapping, or its table is refused. -/
theorem projectTable_cases (p : Path) (v : Value) :
    v.HasOddTools ∨ (∃ entries, Holds .project v entries) ∨
      ∃ e, projectTable p v = .error (.refused e) := by
  cases hv : Mapping.ofValue? v with
  | none =>
    refine .inl fun file hfile => ?_
    cases hv.symm.trans hfile
  | some file =>
    cases ht : file.at? "tool" with
    | none => exact .inr (.inl ⟨_, .noTools hv ht⟩)
    | some t =>
      cases htable : Mapping.ofValue? t with
      | none =>
        refine .inl fun file' hfile => ⟨t, ?_, htable⟩
        rwa [← Option.some.inj (hv.symm.trans hfile)]
      | some tools =>
        have htools : file.table? "tool" = some tools := Option.bind_eq_some_iff.mpr ⟨t, ht, htable⟩
        cases hs : tools.at? configSection with
        | none => exact .inr (.inl ⟨_, .noTable hv htools hs⟩)
        | some s =>
          cases hsection : Mapping.ofValue? s with
          | some entries =>
            exact .inr (.inl ⟨_, .table hv htools (Option.bind_eq_some_iff.mpr ⟨s, hs, hsection⟩)⟩)
          | none =>
            refine .inr (.inr ⟨.sectionNotTable p.text s.kindName, ?_⟩)
            rw [projectTable_eq hv (by rw [ht]; exact htable), hs]
            simp only [Option.getD_some, hsection]

/-- **A file that is read** is a project file with odd tools, or it stands for a mapping, or it is
refused. -/
theorem entries_cases (format : ConfigFormat) (p : Path) (parsed : Except String Value) :
    (format = .project ∧ ∃ v, parsed = .ok v ∧ v.HasOddTools) ∨
      (∃ v entries, parsed = .ok v ∧ format.Holds v entries) ∨
      ∃ e, format.entries p parsed = .error (.refused e) := by
  cases parsed with
  | error detail => exact .inr (.inr ⟨_, rfl⟩)
  | ok v =>
    by_cases h : format = .project
    · subst h
      rcases projectTable_cases p v with hodd | ⟨entries, hholds⟩ | ⟨e, he⟩
      · exact .inl ⟨rfl, v, rfl, hodd⟩
      · exact .inr (.inl ⟨v, entries, rfl, hholds⟩)
      · exact .inr (.inr ⟨e, by rw [ConfigFormat.entries, if_pos rfl, he]⟩)
    · rcases mapping_cases p h v with ⟨entries, hholds⟩ | ⟨e, he⟩
      · exact .inr (.inl ⟨v, entries, rfl, hholds⟩)
      · exact .inr (.inr ⟨e, by rw [ConfigFormat.entries, if_neg h, he]⟩)

theorem parsed_of_toml {cs : List Char} (hdecode : Text.Utf8.decode (Text.Utf8.encode cs) = .ok cs)
    (h : Toml.parse? cs = some v) :
    ConfigFormat.project.parsed p (.ok (Text.Utf8.encode cs)) = .ok v := by
  simp only [parsed, hdecode, valueOf, h]

/-- What is read from a project file is a dictionary whose keys are texts. -/
theorem exists_dict_of_parsed {read : Except FileFault (List UInt8)}
    (h : ConfigFormat.project.parsed p read = .ok v) : ∃ file, v = .dict file := by
  unfold parsed at h
  split at h
  · cases h
  · split at h
    · cases h
    · next cs _ =>
      cases htoml : Toml.parse? cs with
      | none => simp [valueOf, htoml] at h
      | some w =>
        obtain ⟨document, -, rfl⟩ := Option.map_eq_some_iff.mp htoml
        simp only [valueOf, htoml, Except.ok.injEq] at h
        exact ⟨_, h.symm⟩

/-- Its tools are odd if they are there and are no table. -/
theorem hasOddTools_dict {file : List (String × Value)} :
    (Value.dict file).HasOddTools ↔
      ∃ tools, file.lookup "tool" = some tools ∧ Mapping.ofValue? tools = none := by
  constructor
  · intro h
    obtain ⟨tools, htools, hnone⟩ := h _ rfl
    exact ⟨tools, at?_ofEntries file "tool" ▸ htools, hnone⟩
  · rintro ⟨tools, htools, hnone⟩ file' hfile
    rw [← Option.some.inj hfile, at?_ofEntries]
    exact ⟨tools, htools, hnone⟩

theorem hasOddTools_of_parsed {read : Except FileFault (List UInt8)}
    (h : ConfigFormat.project.parsed p read = .ok v) :
    v.HasOddTools ↔ ∃ file tools, v = .dict file ∧ file.lookup "tool" = some tools ∧
      Mapping.ofValue? tools = none := by
  obtain ⟨file, rfl⟩ := exists_dict_of_parsed h
  rw [hasOddTools_dict]
  constructor
  · rintro ⟨tools, htools, hnone⟩
    exact ⟨file, tools, rfl, htools, hnone⟩
  · rintro ⟨file, tools, ⟨⟩, htools, hnone⟩
    exact ⟨tools, htools, hnone⟩

end ConfigFormat

/-! ## Loading -/

open ConfigFormat (ofPath)

/-- How loading the file at a path ends, by what reading and parsing it gives if it is there. -/
def loaded (p : Path) : Option (Except String Value) → Except LoadError Mapping
  | none => .error (.refused (.missing p.text))
  | some parsed =>
    match ofPath p with
    | .error e => .error (.refused e)
    | .ok format => format.entries p parsed

theorem loaded_of_oddTools {p : Path} {v : Value} (hp : ofPath p = .ok .project)
    (h : v.HasOddTools) : loaded p (some (.ok v)) = .error .toolsNotTable := by
  simp only [loaded, hp, ConfigFormat.entries, if_true, ConfigFormat.projectTable_of_oddTools h]

theorem loaded_of_holds {p : Path} {format : ConfigFormat} {v : Value} {entries : Mapping}
    (hp : ofPath p = .ok format) (h : format.Holds v entries) :
    loaded p (some (.ok v)) = .ok entries := by
  simp only [loaded, hp, ConfigFormat.entries_of_holds h]

/-- The three ways in which loading ends. -/
theorem loaded_cases (p : Path) (read : Option (Except String Value)) :
    (ofPath p = .ok .project ∧ ∃ v, read = some (.ok v) ∧ v.HasOddTools) ∨
      (∃ format v entries, ofPath p = .ok format ∧ read = some (.ok v) ∧ format.Holds v entries) ∨
      ∃ e, loaded p read = .error (.refused e) := by
  cases read with
  | none => exact .inr (.inr ⟨_, rfl⟩)
  | some parsed =>
    cases hp : ofPath p with
    | error e => exact .inr (.inr ⟨e, by simp only [loaded, hp]⟩)
    | ok format =>
      rcases format.entries_cases p parsed with ⟨rfl, v, rfl, hodd⟩ | ⟨v, entries, rfl, h⟩ | ⟨e, he⟩
      · exact .inl ⟨rfl, v, rfl, hodd⟩
      · exact .inr (.inl ⟨format, v, entries, rfl, rfl, h⟩)
      · exact .inr (.inr ⟨e, by simp only [loaded, hp, he]⟩)

/-- The escape: a project file with odd tools. -/
theorem loaded_toolsNotTable_iff {p : Path} {read : Option (Except String Value)} :
    loaded p read = .error .toolsNotTable ↔
      ofPath p = .ok .project ∧ ∃ v, read = some (.ok v) ∧ v.HasOddTools := by
  constructor
  · intro h
    rcases loaded_cases p read with hodd | ⟨format, v, entries, hp, rfl, hholds⟩ | ⟨e, he⟩
    · exact hodd
    · cases h.symm.trans (loaded_of_holds hp hholds)
    · cases h.symm.trans he
  · rintro ⟨hp, v, rfl, hodd⟩
    exact loaded_of_oddTools hp hodd

theorem loaded_ok_iff {p : Path} {read : Option (Except String Value)} {entries : Mapping} :
    loaded p read = .ok entries ↔
      ∃ format v, ofPath p = .ok format ∧ read = some (.ok v) ∧ format.Holds v entries := by
  constructor
  · intro h
    rcases loaded_cases p read with ⟨hp, v, rfl, hodd⟩ | ⟨format, v, held, hp, rfl, hholds⟩ | ⟨e, he⟩
    · cases h.symm.trans (loaded_of_oddTools hp hodd)
    · obtain rfl : entries = held := Except.ok.inj (h.symm.trans (loaded_of_holds hp hholds))
      exact ⟨format, v, hp, rfl, hholds⟩
    · cases h.symm.trans he
  · rintro ⟨format, v, hp, rfl, hholds⟩
    exact loaded_of_holds hp hholds

/-- A file is read only if it is there and its format is supported. -/
theorem loadConfig_eq {m : Type → Type} [Monad m] (host : Host m) (p : Path) :
    loadConfig host p = (do
      if ← host.isFile p then
        match ofPath p with
        | .error e => return .error (.refused e)
        | .ok format => return loaded p (some (format.parsed p (← host.read p)))
      else return loaded p none) := by
  unfold loadConfig
  congr 1
  funext isThere
  cases isThere with
  | false => rfl
  | true =>
    simp only [loaded]
    cases ofPath p <;> rfl

/-- A lookup that is refused escapes, whatever the file is called. -/
theorem loadConfig_refusedLookup {ε : Type} {host : Host (Except ε)} {p : Path} {e : ε}
    (h : host.isFile p = .error e) : loadConfig host p = .error e := by
  rw [loadConfig_eq, h]
  rfl

/-- **How loading a configuration ends.** It ends in a mapping or in a refusal, except for a project file
with odd tools, which are a `tool` that is there and is no table. There is a mapping exactly if the file
is there, is of a supported format and is read as a value that stands for one. -/
theorem loadConfig_ends (p : Path) :
    (∀ read, (ofPath p = .ok .project ∧ ∃ v, read = some (.ok v) ∧ v.HasOddTools) ∨
      (∃ entries, loaded p read = .ok entries) ∨ ∃ e, loaded p read = .error (.refused e)) ∧
    (∀ read, loaded p read = .error .toolsNotTable ↔
      ofPath p = .ok .project ∧ ∃ v, read = some (.ok v) ∧ v.HasOddTools) ∧
    (∀ read entries, loaded p read = .ok entries ↔
      ∃ format v, ofPath p = .ok format ∧ read = some (.ok v) ∧ format.Holds v entries) ∧
    (∀ read v, ConfigFormat.project.parsed p read = .ok v →
      (v.HasOddTools ↔ ∃ file tools, v = .dict file ∧ file.lookup "tool" = some tools ∧
        Mapping.ofValue? tools = none)) ∧
    ∀ {m : Type → Type} [Monad m] (host : Host m),
      loadConfig host p = (do
        if ← host.isFile p then
          match ofPath p with
          | .error e => return .error (.refused e)
          | .ok format => return loaded p (some (format.parsed p (← host.read p)))
        else return loaded p none) := by
  refine ⟨fun read => ?_, fun read => loaded_toolsNotTable_iff, fun read entries => loaded_ok_iff,
    fun read v h => ConfigFormat.hasOddTools_of_parsed h, fun host => loadConfig_eq host p⟩
  rcases loaded_cases p read with hodd | ⟨format, v, entries, hp, rfl, hholds⟩ | he
  · exact .inl hodd
  · exact .inr (.inl ⟨entries, loaded_of_holds hp hholds⟩)
  · exact .inr (.inr he)

/-- A project file is one in any letter case, and without a table for the program it stands for the empty
mapping. -/
theorem loadConfig_ends_letterCase :
    let p := Path.ofText "conf/PyProject.TOML"
    let read := ConfigFormat.project.parsed p (.ok (Text.Utf8.encode "[tool]\n".toList))
    let v : Value := .dict [("tool", .dict [])]
    ofPath p = .ok .project ∧ read = .ok v ∧ ¬v.HasOddTools ∧ loaded p (some read) = .ok [] := by
  intro p read v
  have hp : ofPath p = .ok .project := if_pos (by decide +kernel)
  have hread : read = .ok v := by
    have htext : "[tool]\n".toList = ['[', 't', 'o', 'o', 'l', ']', '\n'] := rfl
    simp only [read, htext]
    refine ConfigFormat.parsed_of_toml ?_ ?_ <;> rfl
  have htools : (Mapping.ofEntries [("tool", .dict [])]).table? "tool" = some [] := by
    rw [Mapping.table?, ConfigFormat.at?_ofEntries, List.lookup_cons_self]
    rfl
  obtain ⟨-, -, hok, hodd, -⟩ := loadConfig_ends p
  refine ⟨hp, hread, fun h => ?_, ?_⟩
  · obtain ⟨file, tools, hfile, hlookup, hnone⟩ := (hodd _ v hread).mp h
    injection hfile with hfile
    subst hfile
    cases hlookup
    cases hnone
  · rw [hread]
    exact (hok _ _).mpr ⟨_, _, hp, rfl, .noTable rfl htools (ConfigFormat.at?_nil _)⟩

/-- The project file `tool = 1` gives neither a mapping nor a refusal. -/
theorem loadConfig_toolsNumber :
    let p := Path.ofText "pyproject.toml"
    let read := ConfigFormat.project.parsed p (.ok (Text.Utf8.encode "tool = 1\n".toList))
    ofPath p = .ok .project ∧
      ¬((∃ entries, loaded p (some read) = .ok entries) ∨
        ∃ e, loaded p (some read) = .error (.refused e)) := by
  intro p read
  have hp : ofPath p = .ok .project := if_pos (by decide +kernel)
  have hread : read = .ok (.dict [("tool", .int 1)]) := by
    have htext : "tool = 1\n".toList = ['t', 'o', 'o', 'l', ' ', '=', ' ', '1', '\n'] := rfl
    simp only [read, htext]
    refine ConfigFormat.parsed_of_toml ?_ ?_ <;> rfl
  have hodd : (Value.dict [("tool", .int 1)]).HasOddTools :=
    ConfigFormat.hasOddTools_dict.mpr ⟨.int 1, List.lookup_cons_self, rfl⟩
  rw [hread, loaded_of_oddTools hp hodd]
  refine ⟨hp, ?_⟩
  rintro (⟨entries, h⟩ | ⟨e, h⟩)
  · cases h
  · cases h

end FlavoredMarkdown
