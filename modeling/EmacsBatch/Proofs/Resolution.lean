import EmacsBatch.FileTree
import EmacsBatch.Proofs.Results

/-!
# Where paths lead

Where the names of a path lead in a file tree is said here by a relation, which counts the links
that are followed and knows no limit. Resolving a path finds what the relation says as long as
the path is not too long and no more links are followed than the limit allows, and fails in all
other cases.

Names that follow each other lead on from where the first of them lead, and the links add up.
So a path that prolongs another one can be resolved where this one is, with the links that are
left.
-/

namespace EmacsBatch

/-- Whether an entry stands for itself, as all entries but links do. -/
def Entry.Solid (entry : Entry) : Prop := ∀ target, entry ≠ .link target

namespace FileTree

/-- The spot at which a path begins that is seen from another spot. -/
def origin (here : Spot) (path : Bytes) : Spot := if Path.isAbsolute path then ⟨[], 0⟩ else here

/-- A spot is a directory that is still there and holds an entry under a name. -/
structure Holds (tree : FileTree) (here : Spot) (name : Bytes) (entry : Entry) : Prop where
  inside : tree.entryAt? here = some .directory
  present : here.removed = 0
  notDot : name ≠ Path.dot
  notDotDot : name ≠ Path.dotDot
  short : name.length ≤ nameLimit
  found : tree.entry? (here.place ++ [name]) = some entry

/-- Names lead from one spot to another, with a number of links that are followed on the way. -/
inductive Leads (tree : FileTree) : Nat → Spot → List Bytes → Spot → Prop where
  | here (spot : Spot) : Leads tree 0 spot [] spot
  | dot {links : Nat} {here final : Spot} {names : List Bytes}
    (inside : tree.entryAt? here = some .directory) (rest : Leads tree links here names final) :
    Leads tree links here (Path.dot :: names) final
  | parent {links : Nat} {here final : Spot} {names : List Bytes}
    (inside : tree.entryAt? here = some .directory)
    (rest : Leads tree links here.parent names final) :
    Leads tree links here (Path.dotDot :: names) final
  | entry {links : Nat} {here final : Spot} {name : Bytes} {names : List Bytes} {entry : Entry}
    (holds : tree.Holds here name entry) (solid : entry.Solid)
    (rest : Leads tree links ⟨here.place ++ [name], 0⟩ names final) :
    Leads tree links here (name :: names) final
  | link {links : Nat} {here final : Spot} {name target : Bytes} {names : List Bytes}
    (holds : tree.Holds here name (.link target))
    (rest : Leads tree links (origin here target) (Path.steps target ++ names) final) :
    Leads tree (links + 1) here (name :: names) final

variable {tree : FileTree}

/-- Walking through one more name, whatever links may still be followed. -/
theorem walkLinks_cons (limit : Nat) (here : Spot) (name : Bytes) (names : List Bytes) :
    tree.walkLinks limit here (name :: names) =
      if tree.entryAt? here ≠ some .directory then .error .notDirectory
      else if name = Path.dot then tree.walkLinks limit here names
      else if name = Path.dotDot then tree.walkLinks limit here.parent names
      else if here.removed ≠ 0 then .error .noEntry
      else if nameLimit < name.length then .error .nameTooLong
      else match tree.entry? (here.place ++ [name]) with
        | none => .error .noEntry
        | some (.link target) =>
          match limit with
          | 0 => .error .tooManyLinks
          | limit + 1 => tree.walkLinks limit (origin here target) (Path.steps target ++ names)
        | some _ => tree.walkLinks limit ⟨here.place ++ [name], 0⟩ names := by
  cases limit <;> rfl

/-- Where names lead with as many links as may be followed, walking through them arrives. -/
theorem Leads.walkLinks {links limit : Nat} {here final : Spot} {names : List Bytes}
    (h : tree.Leads links here names final) (within : links ≤ limit) :
    tree.walkLinks limit here names = .ok final := by
  induction h generalizing limit with
  | here spot => cases limit <;> rfl
  | dot inside rest ih =>
    rw [walkLinks_cons, if_neg (not_not_intro inside), if_pos rfl]
    exact ih within
  | parent inside rest ih =>
    rw [walkLinks_cons, if_neg (not_not_intro inside), if_neg (by decide), if_pos rfl]
    exact ih within
  | @entry links here final name names entry holds solid rest ih =>
    rw [walkLinks_cons, if_neg (not_not_intro holds.inside), if_neg holds.notDot,
      if_neg holds.notDotDot, if_neg (not_not_intro holds.present),
      if_neg (Nat.not_lt.2 holds.short), holds.found]
    cases entry with
    | link target => exact absurd rfl (solid target)
    | _ => exact ih within
  | link holds rest ih =>
    obtain ⟨left, rfl⟩ := Nat.exists_eq_add_of_le within
    rw [walkLinks_cons, if_neg (not_not_intro holds.inside), if_neg holds.notDot,
      if_neg holds.notDotDot, if_neg (not_not_intro holds.present),
      if_neg (Nat.not_lt.2 holds.short), holds.found, Nat.add_right_comm]
    exact ih (Nat.le_add_right _ left)

/-- Where walking through names arrives, they lead, with no more links than may be followed. -/
theorem exists_leads_of_walkLinks {limit : Nat} {here final : Spot} {names : List Bytes}
    (h : tree.walkLinks limit here names = .ok final) :
    ∃ links ≤ limit, tree.Leads links here names final := by
  -- A link may bring in any number of names, but fewer links may be followed after it.
  induction limit using Nat.strongRecOn generalizing here names with
  | ind limit ihLimit =>
    induction names generalizing here with
    | nil =>
      have hhere : here = final := by cases limit <;> exact Except.ok.inj h
      exact ⟨0, Nat.zero_le limit, hhere ▸ .here here⟩
    | cons name names ih =>
      rw [walkLinks_cons] at h
      obtain ⟨hinside, h⟩ := ite_error_eq_ok_iff.1 h
      have inside := Decidable.not_not.1 hinside
      by_cases dot : name = Path.dot
      · rw [if_pos dot] at h
        obtain ⟨links, hle, hrest⟩ := ih h
        exact ⟨links, hle, dot ▸ .dot inside hrest⟩
      rw [if_neg dot] at h
      by_cases dotDot : name = Path.dotDot
      · rw [if_pos dotDot] at h
        obtain ⟨links, hle, hrest⟩ := ih h
        exact ⟨links, hle, dotDot ▸ .parent inside hrest⟩
      rw [if_neg dotDot] at h
      obtain ⟨present, h⟩ := ite_error_eq_ok_iff.1 h
      obtain ⟨short, h⟩ := ite_error_eq_ok_iff.1 h
      have holds {entry : Entry} (found : tree.entry? (here.place ++ [name]) = some entry) :
          tree.Holds here name entry :=
        ⟨inside, Decidable.not_not.1 present, dot, dotDot, Nat.not_lt.1 short, found⟩
      split at h
      · cases h
      · next target found =>
        cases limit with
        | zero => cases h
        | succ limit =>
          obtain ⟨links, hle, hrest⟩ := ihLimit limit (Nat.lt_succ_self limit) h
          exact ⟨links + 1, Nat.succ_le_succ hle, .link (holds found) hrest⟩
      · next entry solid found =>
        obtain ⟨links, hle, hrest⟩ := ih h
        exact ⟨links, hle, .entry (holds found) solid hrest⟩

/-- Walking through names arrives exactly where they lead with as many links as may be
followed. -/
theorem walkLinks_eq_ok_iff {limit : Nat} {here final : Spot} {names : List Bytes} :
    tree.walkLinks limit here names = .ok final ↔
      ∃ links ≤ limit, tree.Leads links here names final :=
  ⟨exists_leads_of_walkLinks, fun ⟨_, within, h⟩ => h.walkLinks within⟩

/-- Names lead to one spot only. -/
theorem Leads.unique {links others : Nat} {here final other : Spot} {names : List Bytes}
    (h : tree.Leads links here names final) (hother : tree.Leads others here names other) :
    final = other := by
  have hfinal := h.walkLinks (Nat.le_max_left links others)
  rw [hother.walkLinks (Nat.le_max_right links others)] at hfinal
  exact (Except.ok.inj hfinal).symm

/-- Names lead on from where the names before them lead. -/
theorem Leads.append {links more : Nat} {here middle final : Spot} {first second : List Bytes}
    (h : tree.Leads links here first middle) (next : tree.Leads more middle second final) :
    tree.Leads (links + more) here (first ++ second) final := by
  induction h with
  | here spot => rwa [Nat.zero_add]
  | dot inside rest ih => exact .dot inside (ih next)
  | parent inside rest ih => exact .parent inside (ih next)
  | entry holds solid rest ih => exact .entry holds solid (ih next)
  | link holds rest ih =>
    have hrest := ih next
    rw [List.append_assoc] at hrest
    rw [Nat.add_right_comm]
    exact .link holds hrest

/-- Names that follow each other lead somewhere in two parts. -/
theorem Leads.exists_of_append {links : Nat} {here final : Spot} {first second : List Bytes}
    (h : tree.Leads links here (first ++ second) final) :
    ∃ way further middle, links = way + further ∧ tree.Leads way here first middle ∧
      tree.Leads further middle second final := by
  generalize hnames : first ++ second = names at h
  induction h generalizing first with
  | here spot =>
    obtain ⟨rfl, rfl⟩ := List.append_eq_nil_iff.1 hnames
    exact ⟨0, 0, spot, rfl, .here spot, .here spot⟩
  | @dot links here final names inside rest ih =>
    rcases List.append_eq_cons_iff.1 hnames with ⟨rfl, rfl⟩ | ⟨first, rfl, rfl⟩
    · exact ⟨0, links, here, (Nat.zero_add _).symm, .here here, .dot inside rest⟩
    · obtain ⟨way, further, middle, hlinks, hfirst, hsecond⟩ := ih rfl
      exact ⟨way, further, middle, hlinks, .dot inside hfirst, hsecond⟩
  | @parent links here final names inside rest ih =>
    rcases List.append_eq_cons_iff.1 hnames with ⟨rfl, rfl⟩ | ⟨first, rfl, rfl⟩
    · exact ⟨0, links, here, (Nat.zero_add _).symm, .here here, .parent inside rest⟩
    · obtain ⟨way, further, middle, hlinks, hfirst, hsecond⟩ := ih rfl
      exact ⟨way, further, middle, hlinks, .parent inside hfirst, hsecond⟩
  | @entry links here final name names entry holds solid rest ih =>
    rcases List.append_eq_cons_iff.1 hnames with ⟨rfl, rfl⟩ | ⟨first, rfl, rfl⟩
    · exact ⟨0, links, here, (Nat.zero_add _).symm, .here here, .entry holds solid rest⟩
    · obtain ⟨way, further, middle, hlinks, hfirst, hsecond⟩ := ih rfl
      exact ⟨way, further, middle, hlinks, .entry holds solid hfirst, hsecond⟩
  | @link links here final name target names holds rest ih =>
    rcases List.append_eq_cons_iff.1 hnames with ⟨rfl, rfl⟩ | ⟨first, rfl, rfl⟩
    · exact ⟨0, links + 1, here, (Nat.zero_add _).symm, .here here, .link holds rest⟩
    · obtain ⟨way, further, middle, hlinks, hfirst, hsecond⟩ := ih (List.append_assoc _ _ _)
      refine ⟨way + 1, further, middle, ?_, .link holds hfirst, hsecond⟩
      rw [hlinks, Nat.add_right_comm]

/-- A name under which a directory holds an entry leads to the entry, or on through it if it is a
link. -/
theorem Holds.leads_iff {here final : Spot} {name : Bytes} {entry : Entry} {links : Nat}
    (h : tree.Holds here name entry) :
    tree.Leads links here [name] final ↔
      entry.Solid ∧ links = 0 ∧ final = ⟨here.place ++ [name], 0⟩ ∨
      ∃ target further, entry = .link target ∧ links = further + 1 ∧
        tree.Leads further (origin here target) (Path.steps target) final := by
  constructor
  · intro hleads
    cases hleads with
    | dot inside rest => exact absurd rfl h.notDot
    | parent inside rest => exact absurd rfl h.notDotDot
    | entry holds solid rest =>
      cases h.found.symm.trans holds.found
      cases rest
      exact .inl ⟨solid, rfl, rfl⟩
    | @link further _ _ _ target _ holds rest =>
      cases h.found.symm.trans holds.found
      rw [List.append_nil] at rest
      exact .inr ⟨target, further, rfl, rfl, rest⟩
  · rintro (⟨solid, rfl, rfl⟩ | ⟨target, further, rfl, rfl, hrest⟩)
    · exact .entry h solid (.here _)
    · exact .link h (by rwa [List.append_nil])

/-- A path is resolved exactly if it is acceptable and its names lead somewhere with no more
links than may be followed. -/
theorem resolve_eq_ok_iff {start final : Spot} {path : Bytes} :
    tree.resolve start path = .ok final ↔
      Bytes.hasNul path = false ∧ path ≠ [] ∧ path.length < pathLimit ∧
        ∃ links ≤ linkLimit, tree.Leads links (origin start path) (Path.steps path) final := by
  rw [resolve, ite_error_eq_ok_iff, ite_error_eq_ok_iff, ite_error_eq_ok_iff, Bool.not_eq_true,
    Nat.not_le, ← walkLinks_eq_ok_iff]
  rfl

end FileTree

namespace Path

/-- The names before a slash are followed by those after it. -/
theorem names_append_slash (before rest : Bytes) :
    names (before ++ slash :: rest) = names before ++ names rest := by
  rw [names, names, names, Bytes.splitOn_append_separator, List.filter_append]

/-- What is joined to a directory is a relative path behind it, with one slash between them. -/
theorem join_eq {directory path : Bytes} (hdirectory : directory ≠ [])
    (hpath : isAbsolute path = false) :
    ∃ front, join directory path = front ++ slash :: path ∧
      (directory = front ∨ directory = front ++ [slash]) := by
  have hempty : directory.isEmpty = false := by simp [hdirectory]
  rw [join, hpath, hempty]
  by_cases hlast : directory.getLast? = some slash
  · obtain ⟨front, rfl⟩ := List.getLast?_eq_some_iff.1 hlast
    exact ⟨front, by simp, .inr rfl⟩
  · exact ⟨directory, by simp [hlast], .inl rfl⟩

/-- The names of what is joined to a directory come after the names of the directory. -/
theorem names_join {directory path : Bytes} (hdirectory : directory ≠ [])
    (hpath : isAbsolute path = false) :
    names (join directory path) = names directory ++ names path := by
  obtain ⟨front, hjoin, rfl | rfl⟩ := join_eq hdirectory hpath
  · rw [hjoin, names_append_slash]
  · rw [hjoin, names_append_slash, names_append_slash]
    exact congrArg (· ++ names path) (List.append_nil (names front)).symm

/-- What is joined to a directory is walked through after the names of the directory. -/
theorem steps_join {directory path : Bytes} (hdirectory : directory ≠ [])
    (hpath : isAbsolute path = false) (hne : path ≠ []) :
    steps (join directory path) = names directory ++ steps path := by
  have hlast : (join directory path).getLast? = path.getLast? := by
    obtain ⟨front, hjoin, -⟩ := join_eq hdirectory hpath
    rw [hjoin, List.append_cons, List.getLast?_append, List.getLast?_eq_some_getLast hne,
      Option.some_or]
  rw [steps, steps, hlast, names_join hdirectory hpath]
  split
  · rw [List.append_assoc]
  · rfl

/-- What is joined to a directory is absolute exactly if the directory is. -/
theorem isAbsolute_join {directory path : Bytes} (hdirectory : directory ≠ [])
    (hpath : isAbsolute path = false) :
    isAbsolute (join directory path) = isAbsolute directory := by
  obtain ⟨front, hjoin, rfl | rfl⟩ := join_eq hdirectory hpath
  · obtain ⟨byte, rest, rfl⟩ := List.exists_cons_of_ne_nil hdirectory
    rw [hjoin]
    rfl
  · rw [hjoin, isAbsolute, isAbsolute, List.head?_append, List.head?_append]
    rfl

/-- A zero byte in what is joined to a directory is in either of the two. -/
theorem hasNul_join {directory path : Bytes} (hdirectory : directory ≠ [])
    (hpath : isAbsolute path = false) :
    Bytes.hasNul (join directory path) = (Bytes.hasNul directory || Bytes.hasNul path) := by
  obtain ⟨front, hjoin, rfl | rfl⟩ := join_eq hdirectory hpath
  · rw [hjoin, Bytes.hasNul, List.any_append]
    rfl
  · rw [hjoin, Bytes.hasNul, Bytes.hasNul, List.any_append, List.any_append, Bool.or_assoc]
    rfl

end Path

end EmacsBatch
