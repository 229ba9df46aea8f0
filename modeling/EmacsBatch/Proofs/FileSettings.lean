import EmacsBatch.Config.File
import EmacsBatch.Proofs.Shapes

/-!
# The settings of a configuration file

A configuration file is well formed only if it names nothing twice at its top level, however
its tables come into being. Each setting then has at most one value in the file, and what the
file describes is what the JSON object of its entries stands for: the settings that it names
are what their values stand for, and the others are the defaults.
-/

namespace EmacsBatch

namespace Toml

namespace Entries

/-- The names of entries, in order. -/
def names (entries : Entries) : List String := entries.map Prod.fst

/-- No two entries have one name. -/
def Distinct (entries : Entries) : Prop := entries.names.Nodup

/-- A name has no value exactly if no entry has it. -/
theorem get?_eq_none_iff {entries : Entries} {name : String} :
    entries.get? name = none ↔ name ∉ entries.names := by
  rw [get?, Option.map_eq_none_iff, List.find?_eq_none, names, List.mem_map]
  constructor
  · rintro h ⟨entry, hmem, rfl⟩
    exact h entry hmem (by simp)
  · intro h entry hmem hname
    exact h ⟨entry, hmem, by simpa using hname⟩

/-- Another value for an entry leaves all names as they are. -/
theorem names_replace (entries : Entries) (name : String) (node : Node) :
    (entries.replace name node).names = entries.names := by
  rw [names, replace, List.map_map]
  apply List.map_congr_left
  intro entry _
  by_cases h : entry.1 = name <;> simp [h]

/-- The value of a name is that of the one entry that has it. -/
theorem Distinct.get?_eq_some_iff {entries : Entries} (h : entries.Distinct) {name : String}
    {node : Node} : entries.get? name = some node ↔ (name, node) ∈ entries := by
  rw [get?, Option.map_eq_some_iff]
  constructor
  · rintro ⟨entry, hfind, rfl⟩
    have hname : entry.1 = name := by simpa using List.find?_some hfind
    rw [← hname]
    exact List.mem_of_find?_eq_some hfind
  · intro hmem
    have hsome : (entries.find? (·.1 = name)).isSome := by
      rw [List.find?_isSome]
      exact ⟨(name, node), hmem, by simp⟩
    obtain ⟨entry, hfind⟩ := Option.isSome_iff_exists.1 hsome
    have hname : entry.1 = name := by simpa using List.find?_some hfind
    have heq := List.inj_on_of_nodup_map h (List.mem_of_find?_eq_some hfind) hmem hname
    exact ⟨entry, hfind, by rw [heq]⟩

/-- A new name at the end keeps names distinct. -/
theorem Distinct.concat {entries : Entries} (h : entries.Distinct) {name : String}
    (absent : entries.get? name = none) (node : Node) :
    Distinct (entries ++ [(name, node)]) := by
  rw [Distinct, names, List.map_append]
  exact List.Nodup.append h (List.nodup_singleton name)
    (List.disjoint_singleton.2 (get?_eq_none_iff.1 absent))

/-- Another value for an entry keeps names distinct. -/
theorem Distinct.replace {entries : Entries} (h : entries.Distinct) (name : String)
    (node : Node) : (entries.replace name node).Distinct := by
  rwa [Distinct, names_replace]

/-- An entry that moves to the end keeps names distinct. -/
theorem Distinct.erase_concat {entries : Entries} (h : entries.Distinct) (name : String)
    (node : Node) : Distinct (entries.erase name ++ [(name, node)]) := by
  have herase : (entries.erase name).Distinct := (List.filter_sublist.map Prod.fst).nodup h
  apply herase.concat
  simp [get?, erase]

/-- Entries that are made of inner ones have distinct names if all that can be made have. -/
theorem distinct_of_bind {inner? : Option Entries} {make : Entries → Entries} {next : Entries}
    (keeps : ∀ inner, (make inner).Distinct)
    (h : (do let inner ← inner?; return make inner) = some next) : next.Distinct := by
  obtain ⟨inner, -, heq⟩ := Option.bind_eq_some_iff.1 h
  cases heq
  exact keeps inner

/-- Adding the value of a key keeps names distinct. -/
theorem Distinct.assign {entries next : Entries} (h : entries.Distinct) {key : Key}
    {value : Node} {parts : List Key} (hassign : entries.assign key value parts = some next) :
    next.Distinct := by
  cases parts with
  | nil =>
    rw [Entries.assign] at hassign
    split at hassign
    · cases hassign
    · rename_i absent
      cases hassign
      exact h.concat (Option.not_isSome_iff_eq_none.1 absent) value
  | cons part rest =>
    rw [Entries.assign] at hassign
    split at hassign
    · rename_i absent
      exact distinct_of_bind (fun _ => h.concat absent _) hassign
    · split at hassign
      · exact distinct_of_bind (fun _ => h.replace _ _) hassign
      · cases hassign
    · split at hassign
      · cases hassign
      · exact distinct_of_bind (fun _ => h.replace _ _) hassign
    · cases hassign

/-- A change below a header keeps names distinct if the change of the table itself does. -/
theorem Distinct.modify {entries next : Entries} (h : entries.Distinct)
    {change : Entries → Option Entries} {parts : List Key}
    (keeps : ∀ {changed : Entries}, change entries = some changed → changed.Distinct)
    (hmodify : entries.modify change parts = some next) : next.Distinct := by
  cases parts with
  | nil => exact keeps hmodify
  | cons part rest =>
    rw [Entries.modify] at hmodify
    split at hmodify
    · rename_i absent
      exact distinct_of_bind (fun _ => h.concat absent _) hmodify
    · split at hmodify
      · cases hmodify
      · exact distinct_of_bind (fun _ => h.replace _ _) hmodify
    · exact distinct_of_bind (fun _ => h.replace _ _) hmodify
    · cases hmodify

end Entries

/-- Steps that keep names distinct do so one after the other. -/
theorem distinct_of_foldlM {α : Type} {step : Entries → α → Option Entries}
    (keeps : ∀ {entries next : Entries} {a : α},
      entries.Distinct → step entries a = some next → next.Distinct)
    {steps : List α} {entries next : Entries} (h : entries.Distinct)
    (hsteps : steps.foldlM step entries = some next) : next.Distinct := by
  induction steps generalizing entries with
  | nil =>
    cases hsteps
    exact h
  | cons a rest ih =>
    obtain ⟨between, hfirst, hrest⟩ := Option.bind_eq_some_iff.1 hsteps
    exact ih (keeps h hfirst) hrest

/-- The lines of a section keep names distinct. -/
theorem Section.distinct_of_fill {part : Section} {entries next : Entries}
    (h : entries.Distinct) (hfill : part.fill entries = some next) : next.Distinct :=
  distinct_of_foldlM (fun hentries hassign => hentries.assign hassign) h hfill

/-- A section that is put into the tree keeps the names at the top distinct. -/
theorem Section.distinct_of_addTo {part : Section} {tree next : Entries} (h : tree.Distinct)
    (hadd : part.addTo tree = some next) : next.Distinct := by
  rw [addTo] at hadd
  split at hadd
  · exact distinct_of_fill h hadd
  · refine h.modify ?_ hadd
    intro changed hchange
    split at hchange
    · rename_i absent
      exact Entries.distinct_of_bind (fun _ => h.concat absent _) hchange
    · exact Entries.distinct_of_bind (fun _ => h.erase_concat _ _) hchange
    · cases hchange
  · refine h.modify ?_ hadd
    intro changed hchange
    split at hchange
    · rename_i absent
      exact Entries.distinct_of_bind (fun _ => h.concat absent _) hchange
    · exact Entries.distinct_of_bind (fun _ => h.replace _ _) hchange
    · cases hchange

/-- A well-formed file names nothing twice at its top level. -/
theorem distinct_of_entriesOf? {source : String} {entries : Entries}
    (h : entriesOf? source = some entries) : entries.Distinct := by
  obtain ⟨lines, -, hsections⟩ := Option.bind_eq_some_iff.1 h
  have hnone : Entries.Distinct [] := List.nodup_nil
  exact distinct_of_foldlM Section.distinct_of_addTo hnone hsections

/-- The value of an object's member is that of the entry. -/
theorem member?_entriesToJson (entries : Entries) (name : String) :
    (Json.object (entriesToJson entries)).member? name =
      (entries.get? name).map Node.toJson := by
  induction entries with
  | nil => rfl
  | cons entry rest ih =>
    obtain ⟨first, node⟩ := entry
    rw [Json.member?, entriesToJson, Entries.get?] at *
    by_cases hname : first = name
    · simp [hname]
    · simp only [List.find?_cons, hname, decide_false]
      exact ih

end Toml

namespace Config

/-- The setting that a name stands for is the one that has this name. -/
theorem Field.ofName?_eq_some_iff {word : String} {field : Field} :
    ofName? word = some field ↔ word = field.name := by
  constructor
  · intro h
    rw [ofName?] at h
    simpa [eq_comm] using List.find?_some h
  · rintro rfl
    exact field.ofName?_name

/-- The settings among entries are the entries with their names. -/
theorem mem_fileFields_iff {entries : Toml.Entries} {field : Field} {node : Toml.Node} :
    (field, node) ∈ fileFields entries ↔ (field.name, node) ∈ entries := by
  simp only [fileFields, List.mem_filterMap, Option.map_eq_some_iff, Field.ofName?_eq_some_iff]
  constructor
  · rintro ⟨⟨name, found⟩, hmem, setting, rfl, heq⟩
    cases heq
    exact hmem
  · intro hmem
    exact ⟨_, hmem, field, rfl, rfl⟩

/-- Entries with distinct names give each setting at most once. -/
theorem nodup_fileFields {entries : Toml.Entries} (h : entries.Distinct) :
    ((fileFields entries).map Prod.fst).Nodup := by
  have hnames : (fileFields entries).map Prod.fst = entries.names.filterMap Field.ofName? := by
    rw [fileFields, Toml.Entries.names, List.map_filterMap, List.filterMap_map]
    congr 1
    funext entry
    rw [Option.map_map]
    exact Option.map_id'
  rw [hnames]
  refine List.Nodup.filterMap ?_ h
  intro name other field hname hother
  rw [Field.ofName?_eq_some_iff.1 hname, Field.ofName?_eq_some_iff.1 hother]

/-- A file describes a configuration exactly if it is well formed and the JSON object of its
entries stands for this configuration, setting by setting. -/
theorem ofFileText_eq_ok_iff {source : String} {config : Config} :
    ofFileText source = .ok config ↔
      ∃ entries, Toml.entriesOf? source = some entries ∧
        ∀ field : Field, field.ReadFrom (Toml.entriesToJson entries) (config.get field) := by
  cases hentries : Toml.entriesOf? source with
  | none => simp [ofFileText, hentries]
  | some entries =>
    -- No setting is read twice, so the order of the entries does not matter.
    have hdistinct := Toml.distinct_of_entriesOf? hentries
    have hfields : (((fileFields entries).map fun entry =>
        (entry.1, entry.2.toJson)).map Prod.fst) = (fileFields entries).map Prod.fst := by
      rw [List.map_map]
      rfl
    have hnodup := nodup_fileFields hdistinct
    have hread : ofFileText source = .ok config ↔
        readFields default ((fileFields entries).map fun entry =>
          (entry.1, entry.2.toJson)) = .ok config := by
      simp only [ofFileText, hentries]
      split <;> simp_all
    rw [hread, readFields_eq_ok_iff (by rwa [hfields]), hfields]
    simp only [Option.some.injEq, exists_eq_left', List.forall_mem_map]
    constructor
    · rintro ⟨hpresent, hkept⟩ field
      rw [Field.ReadFrom, Toml.member?_entriesToJson]
      cases hget : entries.get? field.name with
      | none =>
        apply hkept
        rintro hmem
        obtain ⟨⟨_, node⟩, hfield, rfl⟩ := List.mem_map.1 hmem
        rw [hdistinct.get?_eq_some_iff.2 (mem_fileFields_iff.1 hfield)] at hget
        cases hget
      | some node =>
        exact hpresent (field, node) (mem_fileFields_iff.2 (hdistinct.get?_eq_some_iff.1 hget))
    · intro h
      constructor
      · rintro ⟨field, node⟩ hmem
        have hfield := h field
        rwa [Field.ReadFrom, Toml.member?_entriesToJson,
          hdistinct.get?_eq_some_iff.2 (mem_fileFields_iff.1 hmem)] at hfield
      · intro field habsent
        have hfield := h field
        cases hget : entries.get? field.name with
        | none => rwa [Field.ReadFrom, Toml.member?_entriesToJson, hget] at hfield
        | some node =>
          refine (habsent (List.mem_map.2 ⟨(field, node), ?_, rfl⟩)).elim
          exact mem_fileFields_iff.2 (hdistinct.get?_eq_some_iff.1 hget)

end Config

end EmacsBatch
