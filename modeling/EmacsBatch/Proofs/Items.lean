import EmacsBatch.Bytes.Utf8.RoundTrip
import EmacsBatch.CommandLine.Spelling
import EmacsBatch.Proofs.Results
import Mathlib.Data.List.Induction

/-!
# What items give together

A reader takes the items of a command line one after the other and refuses an item that does
not go with those before it. A row of items is taken as a whole exactly when the items are
compatible, and what it gives then is the sum of its parts, in whatever order they come.
-/

namespace EmacsBatch.CommandLine

/-- The arguments with one more item. -/
def Arguments.take (taken : Arguments) : Item → Except Stop Arguments
  | .file name => taken.addFiles [name]
  | .library path => taken.assign .library path
  | .emacs program => taken.assign .emacs (Utf8.encode program)
  | .directory path => taken.assign .directory path
  | .configFile path => taken.assign .configFile path
  | .verbose => taken.turnOn .verbose

/-- The arguments with a row of items. -/
def Arguments.takeAll (taken : Arguments) (items : List Item) : Except Stop Arguments :=
  items.foldlM take taken

/-- A run of files is taken in two parts as well as in one. -/
theorem Arguments.addFiles_append (taken : Arguments) (names more : List Bytes) :
    taken.addFiles (names ++ more) = taken.addFiles names >>= fun next => next.addFiles more := by
  by_cases hnames : [] ∈ names
  · simp [addFiles, hnames, error_bind]
  · by_cases hmore : [] ∈ more
    · simp [addFiles, hnames, hmore, ok_bind]
    · simp [addFiles, hnames, hmore, ok_bind]

/-- No files change nothing. -/
theorem Arguments.addFiles_nil (taken : Arguments) : taken.addFiles [] = .ok taken := by
  simp [addFiles]

/-- Items are taken in two rows as well as in one. -/
theorem Arguments.takeAll_append (taken : Arguments) (items more : List Item) :
    taken.takeAll (items ++ more) = taken.takeAll items >>= fun next => next.takeAll more := by
  simp only [takeAll, List.foldlM_append]

/-- A row of one item is that item. -/
theorem Arguments.takeAll_singleton (taken : Arguments) (item : Item) :
    taken.takeAll [item] = taken.take item := by
  simp only [takeAll, List.foldlM_cons, List.foldlM_nil, bind_pure]

/-- A run of files is taken as its files one after the other. -/
theorem Arguments.addFiles_eq_takeAll (taken : Arguments) (names : List Bytes) :
    taken.addFiles names = taken.takeAll (names.map .file) := by
  induction names generalizing taken with
  | nil =>
    rw [addFiles_nil]
    rfl
  | cons name rest ih =>
    have hfirst := taken.addFiles_append [name] rest
    rw [List.singleton_append] at hfirst
    rw [hfirst]
    simp only [ih]
    rfl

/-- An item with a value is taken as its setting is assigned. -/
theorem Arguments.take_of_valued {item : Item} {setting : Setting} {value : Bytes}
    (gives : item.valued? = some (setting, value)) (taken : Arguments) :
    taken.take item = taken.assign setting value := by
  cases item with
  | file name => cases gives
  | verbose => cases gives
  | library path =>
    cases gives
    rfl
  | emacs program =>
    cases gives
    rfl
  | directory path =>
    cases gives
    rfl
  | configFile path =>
    cases gives
    rfl

/-- A setting that could be assigned was taken as an item: the name of an interpreter is text
then. -/
theorem Arguments.exists_take_of_assign {taken next : Arguments} {setting : Setting}
    {value : Bytes} (h : taken.assign setting value = .ok next) :
    ∃ item : Item, item.valued? = some (setting, value) ∧ taken.takeAll [item] = .ok next := by
  have hitem : ∃ item : Item, item.valued? = some (setting, value) := by
    cases setting with
    | library => exact ⟨.library value, rfl⟩
    | directory => exact ⟨.directory value, rfl⟩
    | configFile => exact ⟨.configFile value, rfl⟩
    | emacs =>
      simp only [assign] at h
      split at h
      · cases h
      · cases hdecode : Utf8.decode? value with
        | none => simp [hdecode] at h
        | some program =>
          rw [Utf8.decode?_eq_some_iff.1 hdecode]
          exact ⟨.emacs program, rfl⟩
  obtain ⟨item, gives⟩ := hitem
  exact ⟨item, gives, by rw [takeAll_singleton, take_of_valued gives, h]⟩

/-- A path is taken exactly if it is not empty. -/
theorem nonempty_eq_ok_iff {setting : Setting} {value path : Bytes} :
    nonempty setting value = .ok path ↔ value ≠ [] ∧ path = value := by
  rw [nonempty]
  split <;> simp_all [eq_comm]

/-- Whether an item goes with what was given before it. -/
def Item.Fits (taken : Arguments) : Item → Prop
  | file name => name ≠ []
  | library path => taken.settings.library = none ∧ path ≠ []
  | emacs _ => taken.settings.emacs = none
  | directory path => path ≠ []
  | configFile path => taken.settings.configFile = none ∧ path ≠ []
  | verbose => taken.settings.verbose = false

/-- What is given together with one more item. -/
def Arguments.add (taken : Arguments) : Item → Arguments
  | .file name => { taken with files := taken.files ++ [name] }
  | .library path => { taken with settings := { taken.settings with library := some path } }
  | .emacs program => { taken with settings := { taken.settings with emacs := some program } }
  | .directory path =>
    { taken with settings := { taken.settings with loadPath := taken.settings.loadPath ++ [path] } }
  | .configFile path => { taken with settings := { taken.settings with configFile := some path } }
  | .verbose => { taken with settings := { taken.settings with verbose := true } }

/-- One more item is taken exactly if it goes with what was given before it. -/
theorem Arguments.take_eq_ok_iff {taken next : Arguments} {item : Item} :
    taken.take item = .ok next ↔ item.Fits taken ∧ next = taken.add item := by
  cases item with
  | file name =>
    by_cases h : name = []
    · simp [take, addFiles, Item.Fits, h]
    · simp [take, addFiles, Item.Fits, add, h, Ne.symm h, eq_comm]
  | library path =>
    cases h : taken.settings.library with
    | some other => simp [take, assign, Item.Fits, h]
    | none =>
      simp only [take, assign, h, Option.isSome_none, Bool.false_eq_true, if_false,
        map_eq_ok_iff, nonempty_eq_ok_iff, Item.Fits, add]
      simp [eq_comm]
  | emacs program =>
    cases h : taken.settings.emacs with
    | some other => simp [take, assign, Item.Fits, h]
    | none => simp [take, assign, Item.Fits, add, h, Utf8.decode?_encode, eq_comm]
  | directory path =>
    simp only [take, assign, map_eq_ok_iff, nonempty_eq_ok_iff, Item.Fits, add]
    simp [eq_comm]
  | configFile path =>
    cases h : taken.settings.configFile with
    | some other => simp [take, assign, Item.Fits, h]
    | none =>
      simp only [take, assign, h, Option.isSome_none, Bool.false_eq_true, if_false,
        map_eq_ok_iff, nonempty_eq_ok_iff, Item.Fits, add]
      simp [eq_comm]
  | verbose =>
    cases h : taken.settings.verbose <;> simp [take, turnOn, Item.Fits, add, h, eq_comm]

/-- The verbose flag is not taken twice. -/
theorem Arguments.take_verbose_ne_ok {taken settled : Arguments}
    (h : taken.take .verbose = .ok settled) (again : Arguments) :
    settled.take .verbose ≠ .ok again := by
  obtain ⟨-, rfl⟩ := take_eq_ok_iff.1 h
  intro htwice
  cases (take_eq_ok_iff.1 htwice).1

/-- What a row of items gives with one more item that goes with it. -/
theorem Arguments.ofItems_concat {earlier : List Item} {item : Item}
    (h : item.Fits (ofItems earlier)) :
    ofItems (earlier ++ [item]) = (ofItems earlier).add item := by
  cases item with
  | file name => simp [ofItems, add, List.filterMap_cons, Item.file?, Item.library?, Item.emacs?,
      Item.directory?, Item.configFile?]
  | library path =>
    have hnone : earlier.findSome? Item.library? = none := h.1
    simp [ofItems, add, hnone, List.filterMap_cons, Item.file?, Item.library?, Item.emacs?,
      Item.directory?, Item.configFile?]
  | emacs program =>
    have hnone : earlier.findSome? Item.emacs? = none := h
    simp [ofItems, add, hnone, List.filterMap_cons, Item.file?, Item.library?, Item.emacs?,
      Item.directory?, Item.configFile?]
  | directory path => simp [ofItems, add, List.filterMap_cons, Item.file?, Item.library?,
      Item.emacs?, Item.directory?, Item.configFile?]
  | configFile path =>
    have hnone : earlier.findSome? Item.configFile? = none := h.1
    simp [ofItems, add, hnone, List.filterMap_cons, Item.file?, Item.library?, Item.emacs?,
      Item.directory?, Item.configFile?]
  | verbose => simp [ofItems, add, List.filterMap_cons, Item.file?, Item.library?, Item.emacs?,
      Item.directory?, Item.configFile?]

/-- A part that may come once still does with one more exactly if it did not come before. -/
theorem length_filterMap_concat_le_one {β : Type} (part? : Item → Option β)
    {earlier : List Item} {item : Item} {part : β} (h : part? item = some part) :
    ((earlier ++ [item]).filterMap part?).length ≤ 1 ↔
      (earlier.filterMap part?).length ≤ 1 ∧ earlier.findSome? part? = none := by
  have hnone : earlier.findSome? part? = none ↔ earlier.filterMap part? = [] := by
    rw [List.findSome?_eq_none_iff, List.filterMap_eq_nil_iff]
  rw [hnone, List.filterMap_append, List.length_append]
  simp only [List.filterMap_cons, h, List.filterMap_nil, List.length_singleton]
  rw [← List.length_eq_zero_iff]
  omega

/-- An item of another kind does not change how often a part comes. -/
theorem length_filterMap_concat {β : Type} {part? : Item → Option β} {earlier : List Item}
    {item : Item} (h : part? item = none) :
    ((earlier ++ [item]).filterMap part?).length = (earlier.filterMap part?).length := by
  simp [List.filterMap_append, h]

/-- The flag still comes at most once with one more exactly if it did not come before. -/
theorem count_concat_le_one {earlier : List Item} {item : Item} :
    (earlier ++ [item]).count item ≤ 1 ↔ earlier.count item ≤ 1 ∧ item ∉ earlier := by
  rw [List.count_append, ← List.count_eq_zero, List.count_singleton_self]
  omega

/-- Compatible items are still compatible with one more exactly if it goes with them. -/
theorem compatible_concat_iff {earlier : List Item} {item : Item} :
    Compatible (earlier ++ [item]) ↔ Compatible earlier ∧ item.Fits (.ofItems earlier) := by
  simp only [Compatible, List.forall_mem_append, List.forall_mem_singleton]
  cases item with
  | file name =>
    rw [length_filterMap_concat rfl, length_filterMap_concat rfl, length_filterMap_concat rfl,
      List.count_append]
    simp only [Item.Acceptable, Item.Fits, List.count_singleton]
    tauto
  | library path =>
    rw [length_filterMap_concat_le_one Item.library? rfl, length_filterMap_concat rfl,
      length_filterMap_concat rfl, List.count_append]
    simp only [Item.Acceptable, Item.Fits, Arguments.ofItems, List.count_singleton]
    tauto
  | emacs program =>
    rw [length_filterMap_concat rfl, length_filterMap_concat_le_one Item.emacs? rfl,
      length_filterMap_concat rfl, List.count_append]
    simp only [Item.Acceptable, Item.Fits, Arguments.ofItems, List.count_singleton]
    tauto
  | directory path =>
    rw [length_filterMap_concat rfl, length_filterMap_concat rfl, length_filterMap_concat rfl,
      List.count_append]
    simp only [Item.Acceptable, Item.Fits, List.count_singleton]
    tauto
  | configFile path =>
    rw [length_filterMap_concat rfl, length_filterMap_concat rfl,
      length_filterMap_concat_le_one Item.configFile? rfl, List.count_append]
    simp only [Item.Acceptable, Item.Fits, Arguments.ofItems, List.count_singleton]
    tauto
  | verbose =>
    rw [length_filterMap_concat rfl, length_filterMap_concat rfl, length_filterMap_concat rfl,
      count_concat_le_one]
    simp only [Item.Acceptable, Item.Fits, Arguments.ofItems, decide_eq_false_iff_not]
    tauto

/-- A row of items is taken exactly if they are compatible, and gives their sum then. -/
theorem Arguments.takeAll_eq_ok_iff {items : List Item} {arguments : Arguments} :
    takeAll {} items = .ok arguments ↔ Compatible items ∧ arguments = ofItems items := by
  induction items using List.reverseRecOn generalizing arguments with
  | nil => simp [takeAll, Compatible, ofItems, pure, Except.pure, eq_comm]
  | append_singleton earlier item ih =>
    have hsplit : takeAll {} (earlier ++ [item]) = (takeAll {} earlier >>= fun taken =>
        taken.take item) := by
      simp only [takeAll, List.foldlM_append, List.foldlM_cons, List.foldlM_nil, bind_pure]
    rw [hsplit, bind_eq_ok_iff, compatible_concat_iff]
    constructor
    · rintro ⟨taken, htaken, hitem⟩
      obtain ⟨hcompatible, rfl⟩ := ih.1 htaken
      obtain ⟨hfits, rfl⟩ := take_eq_ok_iff.1 hitem
      exact ⟨⟨hcompatible, hfits⟩, (ofItems_concat hfits).symm⟩
    · rintro ⟨⟨hcompatible, hfits⟩, rfl⟩
      exact ⟨_, ih.2 ⟨hcompatible, rfl⟩, take_eq_ok_iff.2 ⟨hfits, ofItems_concat hfits⟩⟩

end EmacsBatch.CommandLine
