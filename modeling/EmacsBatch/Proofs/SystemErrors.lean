import EmacsBatch.Launch
import EmacsBatch.Proofs.LineFeeds
import EmacsBatch.Proofs.Results

/-!
# Errors in the file tree

Looking for an entry, reading a text and starting a program fail with the errors that the
operating system numbers and with those about zero bytes and texts. None of them comes with a
text of its own, so all are described on one line.
-/

namespace EmacsBatch

/-- The errors that the operating system and the reader of texts give: all but those that come
with a text of their own. -/
inductive SystemError.IsOwn : SystemError → Prop where
  | number (n : Int) : IsOwn (.number n)
  | nulInPath : IsOwn .nulInPath
  | nulInData : IsOwn .nulInData
  | notText : IsOwn .notText

/-- They are described on one line. -/
theorem SystemError.IsOwn.not_breaksLine {cause : SystemError} (h : cause.IsOwn) :
    ¬ BreaksLine cause.message := by
  rw [breaksLine_message_iff]
  rintro ⟨message, rfl, -⟩
  cases h

namespace FileTree

variable {tree : FileTree} {cause : SystemError}

/-- Walking through names fails with an own error if following links does. -/
theorem isOwn_of_walk {follow : Spot → Bytes → List Bytes → Except SystemError Spot}
    (hfollow : ∀ {here target rest}, follow here target rest = .error cause → cause.IsOwn)
    {here : Spot} {names : List Bytes} (h : tree.walk follow here names = .error cause) :
    cause.IsOwn := by
  induction names generalizing here with
  | nil => cases h
  | cons name rest ih =>
    -- Every branch stops with a number, follows a link, or goes on with the names that are left.
    rw [walk] at h
    split at h
    · cases h
      exact .number _
    split at h
    · exact ih h
    split at h
    · exact ih h
    split at h
    · cases h
      exact .number _
    split at h
    · cases h
      exact .number _
    split at h
    · cases h
      exact .number _
    · exact hfollow h
    · exact ih h

/-- Following links fails with an own error. -/
theorem isOwn_of_walkLinks {links : Nat} {here : Spot} {names : List Bytes}
    (h : tree.walkLinks links here names = .error cause) : cause.IsOwn := by
  induction links generalizing here names with
  | zero =>
    refine isOwn_of_walk ?_ h
    rintro here target rest hfollow
    cases hfollow
    exact .number _
  | succ links ih => exact isOwn_of_walk ih h

/-- A path that leads nowhere fails with an own error. -/
theorem isOwn_of_lookup {start : Spot} {path : Bytes}
    (h : tree.lookup start path = .error cause) : cause.IsOwn := by
  rcases bind_eq_error_iff.1 h with h | ⟨spot, -, h⟩
  · rw [resolve] at h
    split at h
    · cases h
      exact .nulInPath
    split at h
    · cases h
      exact .number _
    split at h
    · cases h
      exact .number _
    · exact isOwn_of_walkLinks h
  · split at h
    · cases h
    · cases h
      exact .number _

end FileTree

/-- A text that cannot be read fails with an own error. -/
theorem World.isOwn_of_readText {world : World} {path : Bytes} {cause : SystemError}
    (h : world.readText path = .error cause) : cause.IsOwn := by
  rcases bind_eq_error_iff.1 h with h | ⟨entry, -, h⟩
  · exact FileTree.isOwn_of_lookup h
  · split at h
    · cases h
      exact .number _
    · split at h
      · cases h
      · cases h
        exact .notText
    · cases h
      exact .notText
    · cases h
      exact .notText

/-- A working directory that is gone fails with an own error. -/
theorem World.isOwn_of_currentDirectory {world : World} {cause : SystemError}
    (h : world.currentDirectory = .error cause) : cause.IsOwn := by
  rw [currentDirectory] at h
  split at h
  · cases h
  · cases h
    exact .number _

namespace Launch

variable {world : World} {cause : SystemError}

/-- What cannot be executed fails with an own error. -/
theorem isOwn_of_openImage {path : Bytes} (h : openImage world path = .error cause) :
    cause.IsOwn := by
  rw [openImage] at h
  split at h
  · rename_i hlookup
    cases h
    exact FileTree.isOwn_of_lookup hlookup
  · cases h
  · cases h
  · cases h
    exact .number _

/-- Executing a chain of scripts fails with an own error. -/
theorem isOwn_of_execute {environment : Environment} {limit : Nat} {path : Bytes}
    {arguments : List Bytes} (h : execute world environment limit path arguments = .error cause) :
    cause.IsOwn := by
  fun_induction execute world environment limit path arguments with
  | case1 limit path arguments other hopen =>
    cases h
    exact isOwn_of_openImage hopen
  | case2 limit path arguments program hopen => cases h
  | case3 limit path arguments content hopen hscript =>
    cases h
    exact .number _
  | case4 path arguments content hopen script hscript =>
    rcases bind_eq_error_iff.1 h with h | ⟨image, -, h⟩
    · exact isOwn_of_openImage h
    · cases h
      exact .number _
  | case5 path arguments content hopen script limit hscript ih => exact ih h

/-- A program that cannot be started fails with an own error. -/
theorem isOwn_of_start {path : Bytes} {arguments : List Bytes}
    {assignments : List (Bytes × Bytes)}
    (h : start world path arguments assignments = .error cause) : cause.IsOwn := by
  simp only [start] at h
  split at h
  · cases h
    exact .nulInData
  · exact isOwn_of_execute h

end Launch

end EmacsBatch
