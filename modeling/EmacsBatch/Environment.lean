import EmacsBatch.Bytes.Utf8

/-!
# Environments

The variables that a process sees. Names and values are byte strings; a variable is read
as text only if its value is well-formed UTF-8, and is otherwise treated as unset.
-/

namespace EmacsBatch

/-- Environment variables with their values; of two entries of one name the first counts. -/
structure Environment where
  entries : List (Bytes × Bytes)
  deriving DecidableEq

namespace Environment

/-- The value of a variable. -/
def get? (environment : Environment) (name : Bytes) : Option Bytes :=
  (environment.entries.find? (·.1 = name)).map (·.2)

/-- The environment without a variable. -/
def unset (environment : Environment) (name : Bytes) : Environment :=
  ⟨environment.entries.filter (·.1 ≠ name)⟩

/-- The environment with a variable set. -/
def set (environment : Environment) (name value : Bytes) : Environment :=
  ⟨(name, value) :: (environment.unset name).entries⟩

/-- The value of a variable, given by its name as text. -/
def value? (environment : Environment) (name : String) : Option Bytes :=
  environment.get? (Utf8.encode name)

/-- The value of a variable as text; a value that is not UTF-8 counts as none. -/
def text? (environment : Environment) (name : String) : Option String :=
  (environment.value? name).bind Utf8.decode?

/-- The byte between a name and its value where a child looks for its variables. -/
def assignmentSign : UInt8 := 0x3D

/-- The entry whose name is the last one in order; of two with that name the first counts. -/
def lastNamed? : List (Bytes × Bytes) → Option (Bytes × Bytes)
  | [] => none
  | entry :: rest =>
    match lastNamed? rest with
    | none => some entry
    | some other => if entry.1 < other.1 then some other else some entry

/-- The value that a child finds for a variable.

A child sees each variable as one text of name, sign and value, in the order of the names,
and the last text counts that begins with the name it asks for and the sign. The name of a
variable may itself hold the sign, and then what follows it is part of the value. -/
def found? (environment : Environment) (name : Bytes) : Option Bytes :=
  let start := name ++ [assignmentSign]
  let texts := environment.entries.filter fun entry =>
    entry.1 = name || start.isPrefixOf entry.1
  (lastNamed? texts).map fun entry =>
    (entry.1 ++ assignmentSign :: entry.2).drop start.length

/-- The environment of a child that is given some variables on top of the inherited ones.

The pairs are set from the last to the first, so of two pairs with one name the first
counts. -/
def overlay (environment : Environment) (pairs : List (Bytes × Bytes)) : Environment :=
  pairs.foldr (fun pair inherited => inherited.set pair.1 pair.2) environment

/-- Of entries with one name the first is the last in order. -/
theorem lastNamed?_eq_head? {entries : List (Bytes × Bytes)} {name : Bytes}
    (h : ∀ entry ∈ entries, entry.1 = name) : lastNamed? entries = entries.head? := by
  induction entries with
  | nil => rfl
  | cons entry rest ih =>
    rw [lastNamed?, ih fun other hother => h other (List.mem_cons_of_mem _ hother)]
    cases rest with
    | nil => rfl
    | cons other rest => simp [h entry, h other, List.lt_irrefl name]

/-- A child finds the value that a variable has, unless the name of another variable begins
with its name and the sign. -/
theorem found?_eq_get? {environment : Environment} {name : Bytes}
    (h : ∀ entry ∈ environment.entries, (name ++ [assignmentSign]).isPrefixOf entry.1 = false) :
    environment.found? name = environment.get? name := by
  have same : environment.entries.filter (fun entry =>
      entry.1 = name || (name ++ [assignmentSign]).isPrefixOf entry.1) =
        environment.entries.filter (·.1 = name) :=
    List.filter_congr fun entry hentry => by simp [h entry hentry]
  simp only [found?, get?, same]
  rw [@lastNamed?_eq_head? _ name (by simp), List.head?_filter]
  cases hfind : environment.entries.find? (·.1 = name) with
  | none => rfl
  | some entry =>
    have : entry.1 = name := by simpa using List.find?_some hfind
    simp [this]

/-- A variable that was set has its new value. -/
@[simp]
theorem get?_set_self (environment : Environment) (name value : Bytes) :
    (environment.set name value).get? name = some value := by
  simp [set, get?]

/-- A variable that was unset has no value. -/
@[simp]
theorem get?_unset_self (environment : Environment) (name : Bytes) :
    (environment.unset name).get? name = none := by
  simp [get?, unset]

/-- Unsetting a variable leaves the others alone. -/
theorem get?_unset_of_ne (environment : Environment) {name other : Bytes} (h : other ≠ name) :
    (environment.unset name).get? other = environment.get? other := by
  obtain ⟨entries⟩ := environment
  simp only [get?, unset]
  congr 1
  induction entries with
  | nil => rfl
  | cons entry entries ih =>
    by_cases hn : entry.1 = name <;> by_cases ho : entry.1 = other <;> simp_all

/-- Setting a variable leaves the others alone. -/
theorem get?_set_of_ne (environment : Environment) {name other : Bytes} (value : Bytes)
    (h : other ≠ name) : (environment.set name value).get? other = environment.get? other := by
  rw [← get?_unset_of_ne environment h]
  simp [set, get?, Ne.symm h]

end Environment

end EmacsBatch
