import EmacsBatch.Proofs.Loading
import EmacsBatch.Proofs.Resolution

/-!
# Configuration files that are there

Whether a directory has a configuration file is asked by its path, and the answer is the same for
a path that leads nowhere and for one that cannot be followed. So a file that the directory holds
is passed over if its path cannot be followed: if it is a link into a circle, through something
that is no directory, or under too long a name, if too many links are met, or if the path itself
is too long. The defaults then stand in for it, though naming the file in a flag would report the
error.

In all other cases the file decides: what the directory loads is what the file loads, and the
error is reported if it cannot be read.
-/

namespace EmacsBatch

namespace FileTree

variable {tree : FileTree}

/-- A path leads to something exactly if it is resolved and an entry is at its end. -/
theorem pathExists_eq_true_iff {start : Spot} {path : Bytes} :
    tree.pathExists start path = true ↔
      ∃ spot entry, tree.resolve start path = .ok spot ∧ tree.entryAt? spot = some entry := by
  rw [pathExists, lookup]
  cases tree.resolve start path with
  | error cause => exact iff_of_false nofun nofun
  | ok spot =>
    rw [ok_bind]
    cases hentry : tree.entryAt? spot with
    | none =>
      refine iff_of_false nofun ?_
      rintro ⟨other, entry, hspot, hfound⟩
      cases hspot
      rw [hentry] at hfound
      cases hfound
    | some entry => exact iff_of_true rfl ⟨spot, entry, rfl, hentry⟩

/-- A path that leads nowhere, or cannot be followed, cannot be read. -/
theorem exists_readText_error {start : Spot} {path : Bytes}
    (h : tree.pathExists start path = false) :
    ∃ cause, tree.readText start path = .error cause := by
  rw [readText]
  rw [pathExists] at h
  cases hlookup : tree.lookup start path with
  | error cause => exact ⟨cause, rfl⟩
  | ok entry =>
    rw [hlookup] at h
    cases h

/-- The directory itself is the only spot to which `.` leads. -/
theorem eq_of_leads_dot {links : Nat} {here final : Spot}
    (h : tree.Leads links here [Path.dot] final) : links = 0 ∧ final = here := by
  generalize hnames : [Path.dot] = names at h
  cases h with
  | here spot => cases hnames
  | dot inside rest =>
    cases hnames
    cases rest
    exact ⟨rfl, rfl⟩
  | parent inside rest => exact absurd (List.cons.inj hnames).1 (by decide)
  | entry holds solid rest => exact absurd (List.cons.inj hnames).1.symm holds.notDot
  | link holds rest => exact absurd (List.cons.inj hnames).1.symm holds.notDot

/-- What a path leads to with a slash at its end, its names lead to as well. -/
theorem Leads.names {links : Nat} {start final : Spot} {path : Bytes}
    (h : tree.Leads links start (Path.steps path) final) :
    tree.Leads links start (Path.names path) final := by
  rw [Path.steps] at h
  split at h
  · obtain ⟨way, further, middle, rfl, hway, hdot⟩ := h.exists_of_append
    obtain ⟨rfl, rfl⟩ := eq_of_leads_dot hdot
    exact hway
  · exact h

end FileTree

namespace Config

/-- The configuration file of a directory comes after the names of the directory. -/
theorem steps_filePath {directory : Bytes} (h : directory ≠ []) :
    Path.steps (filePath directory) = Path.names directory ++ [Utf8.encode fileName] := by
  rw [filePath, Path.steps_join h (by decide) (by decide)]
  exact congrArg (Path.names directory ++ ·) (by decide)

/-- The path of a directory's configuration file is resolved exactly if it is not too long and
leads somewhere behind the directory with no more links than may be followed. -/
theorem resolve_filePath_iff {tree : FileTree} {start final : Spot} {directory : Bytes}
    (hne : directory ≠ []) (hnul : Bytes.hasNul directory = false) :
    tree.resolve start (filePath directory) = .ok final ↔
      (filePath directory).length < FileTree.pathLimit ∧ ∃ links ≤ FileTree.linkLimit,
        tree.Leads links (FileTree.origin start directory)
          (Path.names directory ++ [Utf8.encode fileName]) final := by
  have hsteps := steps_filePath hne
  have hnul' : Bytes.hasNul (filePath directory) = false := by
    rw [filePath, Path.hasNul_join hne (by decide), hnul]
    decide
  have hne' : filePath directory ≠ [] := by
    intro hempty
    rw [hempty] at hsteps
    exact List.append_ne_nil_of_right_ne_nil _ (List.cons_ne_nil _ _) hsteps.symm
  have horigin : FileTree.origin start (filePath directory) = FileTree.origin start directory := by
    rw [FileTree.origin, FileTree.origin, filePath, Path.isAbsolute_join hne (by decide)]
  rw [FileTree.resolve_eq_ok_iff, hsteps, horigin]
  exact ⟨fun h => h.2.2, fun h => ⟨hnul', hne', h⟩⟩

end Config

namespace World

/-- A directory, at a place that its path leads to, holds an entry under the name of the
configuration file. -/
structure HasFile (world : World) (directory : Bytes) (place : Place) (entry : Entry) : Prop where
  leads : world.tree.resolve world.directory directory = .ok ⟨place, 0⟩
  holds : world.tree.Holds ⟨place, 0⟩ (Utf8.encode Config.fileName) entry

/-- The path of a directory's configuration file can be followed to its end. It must not be too
long; and if the file is a link, its target must lead to an entry with the links that are left on
the way behind the directory. -/
inductive Reaches (world : World) (directory : Bytes) (place : Place) : Entry → Prop where
  | itself {entry : Entry} (short : (Config.filePath directory).length < FileTree.pathLimit)
    (solid : entry.Solid) : Reaches world directory place entry
  | target {target : Bytes} {way further : Nat} {spot : Spot} {entry : Entry}
    (short : (Config.filePath directory).length < FileTree.pathLimit)
    (leads : world.tree.Leads way (FileTree.origin world.directory directory)
      (Path.names directory) ⟨place, 0⟩)
    (on : world.tree.Leads further (FileTree.origin ⟨place, 0⟩ target) (Path.steps target) spot)
    (there : world.tree.entryAt? spot = some entry)
    (within : way + (further + 1) ≤ FileTree.linkLimit) :
    Reaches world directory place (.link target)

/-- The configuration file that a directory holds is found exactly if its path can be followed. -/
theorem HasFile.pathExists_iff {world : World} {directory : Bytes} {place : Place} {entry : Entry}
    (h : world.HasFile directory place entry) :
    world.pathExists (Config.filePath directory) = true ↔
      world.Reaches directory place entry := by
  obtain ⟨hnul, hne, -, way, hway, hleads⟩ := FileTree.resolve_eq_ok_iff.1 h.leads
  have hnames := hleads.names
  rw [pathExists, FileTree.pathExists_eq_true_iff]
  constructor
  · rintro ⟨spot, found, hresolve, hfound⟩
    obtain ⟨short, links, within, hfile⟩ := (Config.resolve_filePath_iff hne hnul).1 hresolve
    obtain ⟨before, further, middle, rfl, hbefore, hname⟩ := hfile.exists_of_append
    cases hbefore.unique hnames
    obtain ⟨solid, -, -⟩ | ⟨target, further, rfl, rfl, hon⟩ := h.holds.leads_iff.1 hname
    · exact .itself short solid
    · exact .target short hbefore hon hfound within
  · intro reaches
    cases reaches with
    | itself short solid =>
      have hname := h.holds.leads_iff.2 (.inl ⟨solid, rfl, rfl⟩)
      have hresolve := (Config.resolve_filePath_iff hne hnul).2
        ⟨short, way, hway, hnames.append hname⟩
      exact ⟨_, entry, hresolve, h.holds.found⟩
    | target short hbefore hon hfound within =>
      have hname := h.holds.leads_iff.2 (.inr ⟨_, _, rfl, rfl, hon⟩)
      have hresolve := (Config.resolve_filePath_iff hne hnul).2
        ⟨short, _, within, hbefore.append hname⟩
      exact ⟨_, _, hresolve, hfound⟩

end World

namespace Config

/-- Where the configuration file of a directory is found, it decides. -/
theorem load_of_pathExists {world : World} {directory : Bytes}
    (h : world.pathExists (filePath directory) = true) :
    load world directory = loadFile world (filePath directory) := by
  simp only [load, loadFile, h, if_true]

/-- Where no configuration file of a directory is found, the defaults stand in for it. -/
theorem load_of_not_pathExists {world : World} {directory : Bytes}
    (h : world.pathExists (filePath directory) = false) :
    load world directory = (default.withVariables world.environment.text?).validated := by
  simp only [load, h, Bool.false_eq_true, if_false]
  rfl

/-- A file that cannot be read is the error of loading it. -/
theorem loadFile_of_readText_error {world : World} {path : Bytes} {cause : SystemError}
    (h : world.readText path = .error cause) : loadFile world path = .error (.io cause) := by
  rw [loadFile, readFile_eq_io_iff.2 h]
  rfl

/-- A configuration file that a directory holds decides what the directory loads, errors of
reading it included, exactly if its path can be followed. Otherwise the file is passed over: the
defaults are loaded, though loading the file by its path reports the error. -/
theorem load_eq_loadFile_iff {world : World} {directory : Bytes} {place : Place} {entry : Entry}
    (h : world.HasFile directory place entry) :
    (load world directory = loadFile world (filePath directory) ↔
      world.Reaches directory place entry) ∧
    (world.Reaches directory place entry → ∀ cause,
      world.readText (filePath directory) = .error cause →
        load world directory = .error (.io cause)) ∧
    (¬world.Reaches directory place entry →
      load world directory = (default.withVariables world.environment.text?).validated ∧
      ∃ cause, world.readText (filePath directory) = .error cause ∧
        loadFile world (filePath directory) = .error (.io cause)) := by
  have hreaches : world.Reaches directory place entry →
      load world directory = loadFile world (filePath directory) :=
    fun reaches => load_of_pathExists (h.pathExists_iff.2 reaches)
  have hpassed : ¬world.Reaches directory place entry →
      load world directory = (default.withVariables world.environment.text?).validated ∧
      ∃ cause, world.readText (filePath directory) = .error cause ∧
        loadFile world (filePath directory) = .error (.io cause) := by
    intro astray
    have absent := Bool.eq_false_iff.2 (mt h.pathExists_iff.1 astray)
    obtain ⟨cause, hcause⟩ := FileTree.exists_readText_error absent
    exact ⟨load_of_not_pathExists absent, cause, hcause, loadFile_of_readText_error hcause⟩
  refine ⟨⟨fun same => Classical.byContradiction fun astray => ?_, hreaches⟩,
    fun reaches cause hcause => ?_, hpassed⟩
  · obtain ⟨hload, cause, -, hfile⟩ := hpassed astray
    exact validated_ne_io _ cause (hload.symm.trans (same.trans hfile))
  · rw [hreaches reaches, loadFile_of_readText_error hcause]

/-- The defaults are a valid configuration. -/
theorem valid_default : default.Valid := ⟨by decide, .warn, by decide⟩

/-- A world whose root holds one link under the name of the configuration file, beside a
directory and a text. -/
def worldOfLink (target : String) : World where
  tree := ⟨[([Utf8.encode fileName], .link (Utf8.encode target)),
    ([Utf8.encode "settings"], .directory),
    ([Utf8.encode "notes.txt"], .file (Utf8.encode "notes") false)]⟩
  environment := ⟨[]⟩
  directory := ⟨[], 0⟩

/-- The root of such a world holds the link. -/
theorem hasFile_worldOfLink (target : String) :
    (worldOfLink target).HasFile [Path.slash] [] (.link (Utf8.encode target)) where
  leads := rfl
  holds := ⟨rfl, rfl, by decide, by decide, by decide, rfl⟩

/-- A link to a directory is found, and the error of reading it is reported. -/
theorem load_eq_loadFile_of_link_to_directory :
    (worldOfLink "settings").HasFile [Path.slash] [] (.link (Utf8.encode "settings")) ∧
    load (worldOfLink "settings") [Path.slash] =
      loadFile (worldOfLink "settings") (filePath [Path.slash]) ∧
    load (worldOfLink "settings") [Path.slash] = .error (.io .isDirectory) := by
  have h := hasFile_worldOfLink "settings"
  have reaches := h.pathExists_iff.1 (by decide)
  obtain ⟨hsame, hcause, -⟩ := load_eq_loadFile_iff h
  exact ⟨h, hsame.2 reaches, hcause reaches .isDirectory rfl⟩

/-- A link that leads back to itself, and one that leads through a text, are passed over: the
defaults are loaded, though the files cannot be read. -/
theorem load_ne_loadFile_of_circle :
    (worldOfLink fileName).HasFile [Path.slash] [] (.link (Utf8.encode fileName)) ∧
    load (worldOfLink fileName) [Path.slash] = .ok default ∧
    loadFile (worldOfLink fileName) (filePath [Path.slash]) = .error (.io .tooManyLinks) ∧
    (worldOfLink "notes.txt/a").HasFile [Path.slash] [] (.link (Utf8.encode "notes.txt/a")) ∧
    load (worldOfLink "notes.txt/a") [Path.slash] = .ok default ∧
    loadFile (worldOfLink "notes.txt/a") (filePath [Path.slash]) = .error (.io .notDirectory) := by
  have passed (target : String)
      (h : (worldOfLink target).pathExists (filePath [Path.slash]) = false) :
      load (worldOfLink target) [Path.slash] = .ok default := by
    rw [load_of_not_pathExists h]
    exact validated_eq_ok_iff.2 ⟨valid_default, rfl⟩
  exact ⟨hasFile_worldOfLink fileName, passed fileName (by decide),
    loadFile_of_readText_error rfl, hasFile_worldOfLink "notes.txt/a",
    passed "notes.txt/a" (by decide), loadFile_of_readText_error rfl⟩

end Config

end EmacsBatch
