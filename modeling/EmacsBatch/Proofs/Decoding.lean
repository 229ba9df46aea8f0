import EmacsBatch.Bytes.Utf8.RoundTrip
import EmacsBatch.Invocation.Reader

/-!
# The canonical invocation is read back

The reader of canonical invocations finds everything that went into one, whatever bytes the
program, the helper library, the directories and the files consist of, and it accepts nothing
else. A directory or a file may well be one of the options, or a hook's form: what kind of
argument it is follows from where it stands.

The arguments are also read one at a time. What is expected next depends only on what was read
so far, so the role of an argument is settled when the reader comes to it.
-/

namespace EmacsBatch

namespace Hook

/-- A hook's call up to its label. -/
def opening : Hook → String
  | byteCompile | checkByteCompile => "(pre-commit-elisp-byte-compile "
  | checkParens => "(pre-commit-elisp-check-parens "
  | indent => "(pre-commit-elisp-indent "

/-- A hook's call after its label. -/
def closing : Hook → String
  | byteCompile => " nil)"
  | checkByteCompile => " t)"
  | checkParens | indent => ")"

/-- A hook's call has the quoted label in its middle. -/
theorem call_eq (hook : Hook) :
    hook.call = hook.opening ++ Text.quoted hook.label ++ hook.closing := by
  cases hook <;> rfl

/-- Different hooks call different functions, or the same one in different ways. -/
theorem call_injective {hook other : Hook} (h : hook.call = other.call) : hook = other := by
  have hchars := congrArg String.toList h
  simp only [call_eq, String.toList_append] at hchars
  -- The beginnings and the ends tell the calls apart, whatever the labels are.
  generalize (Text.quoted hook.label).toList = label at hchars
  generalize (Text.quoted other.label).toList = otherLabel at hchars
  have hfront := congrArg (List.take 19) hchars
  have hback := congrArg (fun chars => chars.reverse.take 2) hchars
  cases hook <;> cases other <;> first | rfl | simp [opening, closing] at hfront hback

/-- Different hooks have different forms. -/
theorem snippet_injective {hook other : Hook} (h : hook.snippet = other.snippet) :
    hook = other := by
  have hunclosed : "(with-temp-buffer\n" ++ bootstrap ++ "\n" ++ hook.call =
      "(with-temp-buffer\n" ++ bootstrap ++ "\n" ++ other.call :=
    (String.append_left_inj ")").1 h
  exact call_injective ((String.append_right_inj _).1 hunclosed)

end Hook

namespace HookCall

/-- A form belongs to a hook exactly when it is the hook's own. -/
theorem hookOfForm?_eq_some_iff {form : Bytes} {hook : Hook} :
    hookOfForm? form = some hook ↔ form = Utf8.encode hook.snippet := by
  have sound {found : Hook} (h : hookOfForm? form = some found) :
      form = Utf8.encode found.snippet := by
    simpa [eq_comm] using List.find?_some h
  constructor
  · exact sound
  · intro hform
    have hsome : (hookOfForm? form).isSome :=
      List.find?_isSome.2 ⟨hook, hook.mem_all, by simp [hform]⟩
    obtain ⟨found, hfound⟩ := Option.isSome_iff_exists.1 hsome
    have hsame := Utf8.encode_injective ((sound hfound).symm.trans hform)
    rw [hfound, Hook.snippet_injective hsame]

/-- Directories are read behind their options, up to an argument that is no such option. -/
theorem readDirectories_append (directories : List Bytes) {rest : List Bytes}
    (h : rest.head? ≠ some Invocation.directoryFlag) :
    readDirectories
        ((directories.flatMap fun directory => [Invocation.directoryFlag, directory]) ++ rest) =
      (directories, rest) := by
  induction directories with
  | nil =>
    match rest with
    | [] => rfl
    | [_] => rfl
    | flag :: directory :: rest =>
      have hflag : flag ≠ Invocation.directoryFlag := fun hflag => h (congrArg some hflag)
      exact if_neg hflag
  | cons directory directories ih =>
    simp only [List.flatMap_cons, List.cons_append, List.nil_append]
    rw [readDirectories, if_pos rfl, ih]

/-- The directories that are read, each behind its option, and the rest are all there is. -/
theorem eq_of_readDirectories (arguments : List Bytes) :
    arguments =
      ((readDirectories arguments).1.flatMap fun directory =>
          [Invocation.directoryFlag, directory]) ++
        (readDirectories arguments).2 := by
  fun_induction readDirectories arguments with
  | case1 directory rest read ih =>
    simp only [List.flatMap_cons, List.cons_append, List.nil_append]
    exact congrArg (fun arguments => Invocation.directoryFlag :: directory :: arguments) ih
  | case2 flag directory rest hflag => rfl
  | case3 rest hshort => rfl

/-- The option for a form is not the one for a directory. -/
theorem evalFlag_ne_directoryFlag : Invocation.evalFlag ≠ Invocation.directoryFlag := by decide

/-- A hook's call is read from an invocation exactly when the invocation is its own. -/
theorem ofInvocation?_eq_some_iff {invocation : Invocation} {call : HookCall} :
    ofInvocation? invocation = some call ↔ invocation = call.invocation := by
  constructor
  · intro h
    obtain ⟨program, arguments, assignments⟩ := invocation
    unfold ofInvocation? at h
    split at h
    · next first rest name library harguments hassignments =>
      split at h
      · next hfirst =>
        split at h
        · next loadPath flag form files hread =>
          split at h
          · next hflag =>
            obtain ⟨hook, hhook, rfl⟩ := Option.map_eq_some_iff.1 h
            have hrest := eq_of_readDirectories rest
            rw [hread] at hrest
            rw [invocation, Invocation.forHook_eq]
            simp only at harguments hassignments
            rw [harguments, hassignments, hrest, hfirst.1, hfirst.2, hflag,
              hookOfForm?_eq_some_iff.1 hhook]
            rfl
          · cases h
        · cases h
      · cases h
    · cases h
  · rintro rfl
    have hhead : (Invocation.evalFlag :: Utf8.encode call.hook.snippet :: call.files).head? ≠
        some Invocation.directoryFlag :=
      fun h => evalFlag_ne_directoryFlag (Option.some.inj h)
    have hread := readDirectories_append call.loadPath hhead
    rw [invocation, Invocation.forHook_eq, ofInvocation?]
    simp only [List.cons_append, hread, and_self, if_true,
      hookOfForm?_eq_some_iff.2 rfl, Option.map_some]

/-- What an argument of a canonical invocation is. -/
inductive Role where
  | batchFlag
  | directoryFlag
  | directory
  | evalFlag
  | form
  | file
  deriving DecidableEq

/-- What a reader of the arguments is ready for. -/
inductive Expected where
  | batchFlag
  | option
  | directory
  | form
  | file
  deriving DecidableEq

/-- The role of the next argument, and what is expected after it. -/
def Expected.next? : Expected → Bytes → Option (Role × Expected)
  | batchFlag, argument =>
    if argument = Invocation.batchFlag then some (.batchFlag, option) else none
  | option, argument =>
    if argument = Invocation.directoryFlag then some (.directoryFlag, directory)
    else if argument = Invocation.evalFlag then some (.evalFlag, form)
    else none
  | directory, _ => some (.directory, option)
  | form, _ => some (.form, file)
  | file, _ => some (.file, file)

/-- The arguments with the roles that they have when they are read from left to right, if each
of them has one. -/
def Expected.label? (expected : Expected) : List Bytes → Option (List (Role × Bytes))
  | [] => some []
  | argument :: rest =>
    match expected.next? argument with
    | none => none
    | some (role, after) => (after.label? rest).map ((role, argument) :: ·)

/-- The arguments of a hook's call with the roles that they are meant to have. -/
def labelled (call : HookCall) : List (Role × Bytes) :=
  (.batchFlag, Invocation.batchFlag) ::
    (call.loadPath.flatMap fun directory =>
      [(.directoryFlag, Invocation.directoryFlag), (.directory, directory)])
    ++ (.evalFlag, Invocation.evalFlag) :: (.form, Utf8.encode call.hook.snippet) ::
      call.files.map fun name => (.file, name)

/-- What is read after an argument has no influence on the roles up to it. -/
theorem Expected.label?_take {expected : Expected} {arguments : List Bytes}
    {labels : List (Role × Bytes)} (h : expected.label? arguments = some labels) (count : Nat) :
    expected.label? (arguments.take count) = some (labels.take count) := by
  induction arguments generalizing expected labels count with
  | nil =>
    cases h
    simp [label?]
  | cons argument rest ih =>
    rw [label?] at h
    split at h
    · cases h
    · next role after hnext =>
      obtain ⟨labels, hlabels, rfl⟩ := Option.map_eq_some_iff.1 h
      cases count with
      | zero => rfl
      | succ count =>
        rw [List.take_succ_cons, List.take_succ_cons, label?, hnext]
        simp only [ih hlabels count, Option.map_some]

/-- All that comes where files are expected is a file. -/
theorem Expected.label?_files (names : List Bytes) :
    file.label? names = some (names.map fun name => (.file, name)) := by
  induction names with
  | nil => rfl
  | cons name names ih =>
    rw [label?]
    simp only [next?, ih, Option.map_some, List.map_cons]

/-- Where an option is expected, directories are read behind theirs. -/
theorem Expected.label?_directories (directories : List Bytes) {rest : List Bytes}
    {labels : List (Role × Bytes)} (h : option.label? rest = some labels) :
    option.label?
        ((directories.flatMap fun directory => [Invocation.directoryFlag, directory]) ++ rest) =
      some ((directories.flatMap fun directory =>
        [(.directoryFlag, Invocation.directoryFlag), (.directory, directory)]) ++ labels) := by
  induction directories with
  | nil => exact h
  | cons first directories ih =>
    simp only [List.flatMap_cons, List.cons_append, List.nil_append]
    rw [label?, next?, if_pos rfl]
    simp only [label?, next?, ih, Option.map_some]

/-- Every argument of a hook's call is read in the role that it is meant to have. -/
theorem label?_invocation (call : HookCall) :
    Expected.batchFlag.label? call.invocation.arguments = some call.labelled := by
  have hfiles := Expected.label?_files call.files
  have hoptions : Expected.option.label?
      (Invocation.evalFlag :: Utf8.encode call.hook.snippet :: call.files) =
        some ((.evalFlag, Invocation.evalFlag) :: (.form, Utf8.encode call.hook.snippet) ::
          call.files.map fun name => (.file, name)) := by
    simp only [Expected.label?, Expected.next?, if_neg evalFlag_ne_directoryFlag, if_true, hfiles,
      Option.map_some]
  have hdirectories := Expected.label?_directories call.loadPath hoptions
  rw [invocation, Invocation.forHook_eq, List.cons_append, Expected.label?, Expected.next?,
    if_pos rfl]
  simp only [hdirectories, Option.map_some]
  rfl

/-- The canonical invocation is uniquely decodable, whatever bytes go into it: what the reader
finds in an invocation is a hook's call exactly if the invocation is the canonical one of this
call, so no two calls have the same. Read from left to right, every directory is a directory,
every file is a file and the form is the form, whatever comes after it. The files stand at the
end, as they are and in order. -/
theorem invocation_uniquely_decodable (call : HookCall) :
    (∀ invocation, ofInvocation? invocation = some call ↔ invocation =
      Invocation.forHook call.hook call.program call.library call.loadPath call.files) ∧
    (∀ other : HookCall, other.invocation = call.invocation → other = call) ∧
    (∀ count, Expected.batchFlag.label? (call.invocation.arguments.take count) =
      some (call.labelled.take count)) ∧
    call.invocation.arguments.drop (call.invocation.arguments.length - call.files.length) =
      call.files := by
  refine ⟨fun invocation => ofInvocation?_eq_some_iff, ?_, ?_, ?_⟩
  · intro other hsame
    have hread : ofInvocation? call.invocation = some call := ofInvocation?_eq_some_iff.2 rfl
    have hother : ofInvocation? call.invocation = some other :=
      ofInvocation?_eq_some_iff.2 hsame.symm
    exact Option.some.inj (hother.symm.trans hread)
  · exact Expected.label?_take call.label?_invocation
  · obtain ⟨before, hbefore⟩ : ∃ before, call.invocation.arguments = before ++ call.files :=
      ⟨_, rfl⟩
    rw [hbefore, List.length_append, Nat.add_sub_cancel_right, List.drop_left]

end HookCall

end EmacsBatch
