import EmacsBatch.Environment
import EmacsBatch.Log.Event
import EmacsBatch.Log.Rule
import EmacsBatch.Text.Pattern.Automaton

/-!
# Log filters

A filter is a list of rules. An event is shown if the most specific of the static rules
that cover it admits its level, or if it belongs to a run of the interpreter that is itself
followed and a dynamic rule that is for such runs admits the level. An environment variable
can replace the level of the configuration by rules of its own.
-/

namespace EmacsBatch.Log

/-- The environment variable that gives rules of its own. -/
def filterVariable : String := "RUST_LOG"

/-- The rules of a filter, in order. -/
abbrev Filter := List Rule

namespace Filter

/-- The filter that a comma-separated list of items stands for; empty items are passed over,
and an empty list shows errors only. -/
def read? (list : String) : Option Filter :=
  match (list.toList.splitOn ',').filter (· ≠ []) with
  | [] => some [{ limit := some .error }]
  | items => items.mapM fun item => Rule.read? (String.ofList item)

/-- The filter of a configured level: it holds for the program's own targets. -/
def ofWord (word : String) : Filter :=
  ["elisp_hooks", "elisp_hooks_core", "elisp_hooks_cli"].map fun target =>
    { target, limit := Level.ofName? word }

/-- The filter under a configured level: the environment's if it gives a readable one. -/
def effective (environment : Environment) (word : String) : Filter :=
  ((environment.text? filterVariable).bind read?).getD (ofWord word)

/-- The rules that no later rule replaces. -/
def current : Filter → Filter
  | [] => []
  | rule :: rest =>
    if rest.any rule.sameScope then current rest else rule :: current rest

/-- The greatest of some limits. -/
def greatest (limits : List Limit) : Limit :=
  limits.foldl (fun best limit => if best.rank < limit.rank then limit else best) none

/-- The limit beyond which nothing is shown: the greatest of all rules, replaced ones
included. There is none if a rule asks for the value of a field. -/
def ceiling (filter : Filter) : Limit :=
  if filter.any Rule.hasValue then some .trace else greatest (filter.map Rule.limit)

/-- The most specific of some static rules. -/
def mostSpecific? (rules : List Rule) : Option Rule :=
  rules.foldl
    (fun best rule =>
      match best with
      | some other => if rule.lessSpecific other then some other else some rule
      | none => some rule)
    none

/-- The limit that the static rules set for what they cover. -/
def staticLimit (filter : Filter) (covers : Rule → Bool) : Limit :=
  ((mostSpecific? (filter.current.filter fun rule => rule.isStatic && covers rule)).map
    Rule.limit).getD none

/-- The name of the span that a run of the interpreter is. -/
def runName : String := "run"

/-- The level of a run of the interpreter. -/
def runLevel : Level := .info

/-- The field of a run that holds the program's name. -/
def runField : String := "program"

/-- Whether a rule is a dynamic one that is for runs of the interpreter, the value of the
field aside. -/
def coversRun (rule : Rule) : Bool :=
  rule.isDynamic && rule.coversTarget Source.runner.target
    && rule.span.all (· = runName) && rule.coversFields [runField]

/-- Whether runs of the interpreter are followed, so that their events name them. The
fields that a static rule asks for do not matter here. -/
def followsRuns (filter : Filter) : Bool :=
  filter.ceiling.admits runLevel
    && (filter.any coversRun
      || (filter.staticLimit fun rule => rule.coversTarget Source.runner.target).admits runLevel)

/-- Whether a rule's test of a value holds for the name of a program, which is a text and
so no constant. -/
def passes (rule : Rule) (program : String) : Bool :=
  match rule.field.bind (·.value) with
  | none => true
  | some .constant => false
  | some (.pattern _ pattern) => pattern.fits program

/-- The limit that dynamic rules set within the run of a program. -/
def runLimit (filter : Filter) (program : String) : Limit :=
  greatest ((filter.current.filter fun rule => coversRun rule && passes rule program).map
    Rule.limit)

/-- The limit that the static rules set for an event. -/
def eventLimit (filter : Filter) (event : Event) : Limit :=
  filter.staticLimit fun rule =>
    rule.coversTarget event.source.target
      && rule.coversFields ("message" :: event.fields.map (·.1))

/-- Whether an event is shown. -/
def shows (filter : Filter) (event : Event) : Bool :=
  filter.ceiling.admits event.level
    && ((filter.eventLimit event).admits event.level
      || (filter.followsRuns
        && event.run.any fun program => (filter.runLimit program).admits event.level))

/-- The text of an event under a filter, which is empty for an event that is not shown. -/
def text (filter : Filter) (event : Event) : String :=
  if filter.shows event then event.line filter.followsRuns else ""

end Filter

end EmacsBatch.Log
