import EmacsBatch.Invocation
import Mathlib.Data.List.Infix

/-!
# Building an invocation

An invocation grows by steps, each of which adds its own arguments or its own variables at the
end. A row of steps therefore adds what its steps contribute, in order, and two rows build the
same exactly if they contribute the same arguments and the same variables. How the steps that add
arguments are mixed with those that add variables makes no difference, nor do the places where
directories or files are split over several steps.
-/

namespace EmacsBatch.Invocation

/-- A row of steps keeps the program. -/
theorem program_steps (invocation : Invocation) (row : List Step) :
    (invocation.steps row).program = invocation.program := by
  induction row generalizing invocation with
  | nil => rfl
  | cons step row ih => exact (ih (invocation.step step)).trans (program_step invocation step)

/-- A row of steps leads to their arguments in order. -/
theorem arguments_steps (invocation : Invocation) (row : List Step) :
    (invocation.steps row).arguments = invocation.arguments ++ row.flatMap Step.arguments := by
  induction row generalizing invocation with
  | nil => exact (List.append_nil _).symm
  | cons step row ih =>
    have hrest := ih (invocation.step step)
    rw [arguments_step, List.append_assoc] at hrest
    exact hrest

/-- A row of steps leads to their variables in order. -/
theorem assignments_steps (invocation : Invocation) (row : List Step) :
    (invocation.steps row).assignments = invocation.assignments ++ row.flatMap Step.assignments := by
  induction row generalizing invocation with
  | nil => exact (List.append_nil _).symm
  | cons step row ih =>
    have hrest := ih (invocation.step step)
    rw [assignments_step, List.append_assoc] at hrest
    exact hrest

/-- Two rows of steps build the same exactly if they contribute the same arguments and the same
variables. -/
theorem steps_eq_steps_iff {invocation : Invocation} {row other : List Step} :
    invocation.steps row = invocation.steps other ↔
      row.flatMap Step.arguments = other.flatMap Step.arguments ∧
      row.flatMap Step.assignments = other.flatMap Step.assignments := by
  have hparts : invocation.steps row = invocation.steps other ↔
      (invocation.steps row).program = (invocation.steps other).program ∧
      (invocation.steps row).arguments = (invocation.steps other).arguments ∧
      (invocation.steps row).assignments = (invocation.steps other).assignments := by
    rw [← Invocation.mk.injEq]
  rw [hparts, program_steps, program_steps, arguments_steps, arguments_steps, assignments_steps,
    assignments_steps, List.append_cancel_left_eq, List.append_cancel_left_eq]
  exact and_iff_right rfl

/-! ## Two kinds of steps -/

/-- Whether a step sets a variable; all others add arguments. -/
def Step.setsVariable : Step → Bool
  | .setVariable _ _ => true
  | _ => false

/-- The steps of a row that add arguments. -/
def argumentSteps (row : List Step) : List Step := row.filter fun step => !step.setsVariable

/-- The steps of a row that set variables. -/
def variableSteps (row : List Step) : List Step := row.filter Step.setsVariable

/-- All arguments of a row come from the steps that add arguments. -/
theorem flatMap_arguments_argumentSteps (row : List Step) :
    (argumentSteps row).flatMap Step.arguments = row.flatMap Step.arguments := by
  induction row with
  | nil => rfl
  | cons step row ih =>
    cases step with
    | setVariable name value => exact ih
    | _ => exact congrArg (_ ++ ·) ih

/-- All variables of a row come from the steps that set variables. -/
theorem flatMap_assignments_variableSteps (row : List Step) :
    (variableSteps row).flatMap Step.assignments = row.flatMap Step.assignments := by
  induction row with
  | nil => rfl
  | cons step row ih =>
    cases step with
    | setVariable name value => exact congrArg ((name, value) :: ·) ih
    | _ => exact ih

/-- Rows in which the steps of each kind are the same build the same, however the two kinds are
mixed. -/
theorem steps_eq_of_sameKinds (invocation : Invocation) {row other : List Step}
    (harguments : argumentSteps row = argumentSteps other)
    (hvariables : variableSteps row = variableSteps other) :
    invocation.steps row = invocation.steps other := by
  rw [steps_eq_steps_iff]
  constructor
  · rw [← flatMap_arguments_argumentSteps, harguments, flatMap_arguments_argumentSteps]
  · rw [← flatMap_assignments_variableSteps, hvariables, flatMap_assignments_variableSteps]

/-! ## Growing and splitting -/

/-- What a row of steps builds begins with what was there. -/
theorem argv_prefix_argv_steps (invocation : Invocation) (row : List Step) :
    invocation.argv <+: (invocation.steps row).argv := by
  rw [argv, argv, program_steps, arguments_steps, List.prefix_cons_inj]
  exact List.prefix_append _ _

/-- The states on the way are what the beginnings of a row build. -/
theorem states_eq (invocation : Invocation) (row : List Step) :
    invocation.states row = row.inits.map invocation.steps := by
  induction row generalizing invocation with
  | nil => rfl
  | cons step row ih =>
    rw [states, ih, List.inits_cons, List.map_cons, List.map_map]
    rfl

/-- Of two states on the way the later one begins with the earlier one. -/
theorem pairwise_states (invocation : Invocation) (row : List Step) :
    (invocation.states row).Pairwise fun earlier later => earlier.argv <+: later.argv := by
  induction row generalizing invocation with
  | nil => exact List.pairwise_singleton _ _
  | cons step row ih =>
    rw [states, List.pairwise_cons]
    refine ⟨?_, ih (invocation.step step)⟩
    intro later hlater
    rw [states_eq] at hlater
    obtain ⟨first, -, rfl⟩ := List.mem_map.1 hlater
    exact argv_prefix_argv_steps invocation (step :: first)

/-- Names that are added over several steps are those of one step, if a step adds nothing for no
names and sets no variables, and names after each other are added after each other. -/
theorem steps_split (invocation : Invocation) (before after : List Step) (parts : List (List Bytes))
    {add : List Bytes → Step} (hnil : (add []).arguments = [])
    (happend : ∀ first second, (add (first ++ second)).arguments =
      (add first).arguments ++ (add second).arguments)
    (hvariables : ∀ names, (add names).assignments = []) :
    invocation.steps (before ++ parts.map add ++ after) =
      invocation.steps (before ++ add parts.flatten :: after) := by
  have harguments : (parts.map add).flatMap Step.arguments = (add parts.flatten).arguments := by
    induction parts with
    | nil => exact hnil.symm
    | cons part parts ih =>
      rw [List.map_cons, List.flatMap_cons, ih, List.flatten_cons, happend]
  have hassignments : (parts.map add).flatMap Step.assignments =
      (add parts.flatten).assignments := by
    rw [hvariables, List.flatMap_map]
    exact List.flatMap_eq_nil_iff.2 fun part _ => hvariables part
  rw [steps_eq_steps_iff]
  simp only [List.flatMap_append, List.flatMap_cons, harguments, hassignments, List.append_assoc,
    and_self]

/-- Steps after the start of a call are independent of each other. The program stays, the
arguments are those that the steps contribute behind the first one, and the variables are those
that the steps set, all in order. Rows in which the steps that add arguments are the same, and
those that set variables, build the same. Each state on the way, from the start to the end, begins
a later one. It makes no difference over how many steps directories or files are split. -/
theorem batch_steps_independent (program : Bytes) (row : List Step) :
    ((batch program).steps row).program = program ∧
    ((batch program).steps row).arguments = batchFlag :: row.flatMap Step.arguments ∧
    ((batch program).steps row).assignments = row.flatMap Step.assignments ∧
    (∀ other, argumentSteps row = argumentSteps other → variableSteps row = variableSteps other →
      (batch program).steps row = (batch program).steps other) ∧
    (batch program).states row = row.inits.map (batch program).steps ∧
    ((batch program).states row).Pairwise (fun earlier later => earlier.argv <+: later.argv) ∧
    (∀ (before after : List Step) (parts : List (List Bytes)),
      (batch program).steps (before ++ parts.map .loadPath ++ after) =
        (batch program).steps (before ++ .loadPath parts.flatten :: after) ∧
      (batch program).steps (before ++ parts.map .files ++ after) =
        (batch program).steps (before ++ .files parts.flatten :: after)) := by
  refine ⟨program_steps _ row, arguments_steps _ row, assignments_steps _ row, ?_,
    states_eq _ row, pairwise_states _ row, ?_⟩
  · intro other harguments hvariables
    exact steps_eq_of_sameKinds _ harguments hvariables
  · intro before after parts
    have hloadPath (first second : List Bytes) : (Step.loadPath (first ++ second)).arguments =
        (Step.loadPath first).arguments ++ (Step.loadPath second).arguments :=
      List.flatMap_append
    exact ⟨steps_split _ before after parts rfl hloadPath fun _ => rfl,
      steps_split _ before after parts rfl (fun _ _ => rfl) fun _ => rfl⟩

/-- A variable that is set first. -/
def variableFirst : List Step :=
  [.setVariable (Utf8.encode "A") (Utf8.encode "x"), .loadPath [Utf8.encode "lisp"],
    .files [Utf8.encode "a.el"]]

/-- The same steps with the variable set last. -/
def variableLast : List Step :=
  [.loadPath [Utf8.encode "lisp"], .files [Utf8.encode "a.el"],
    .setVariable (Utf8.encode "A") (Utf8.encode "x")]

/-- It makes no difference whether a variable is set before or after the arguments are added. -/
theorem batch_steps_of_variable_first_or_last :
    variableFirst ≠ variableLast ∧
    argumentSteps variableFirst = argumentSteps variableLast ∧
    variableSteps variableFirst = variableSteps variableLast ∧
    (batch (Utf8.encode "emacs")).steps variableFirst =
      (batch (Utf8.encode "emacs")).steps variableLast := by
  have harguments : argumentSteps variableFirst = argumentSteps variableLast := rfl
  have hvariables : variableSteps variableFirst = variableSteps variableLast := rfl
  obtain ⟨-, -, -, hmixed, -⟩ := batch_steps_independent (Utf8.encode "emacs") variableFirst
  exact ⟨by decide, harguments, hvariables, hmixed variableLast harguments hvariables⟩

end EmacsBatch.Invocation
