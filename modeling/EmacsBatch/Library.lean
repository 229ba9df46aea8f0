import EmacsBatch.Failure
import EmacsBatch.Trace

/-!
# The helper library

The Emacs Lisp file that defines the functions the hooks call. It is looked for at the
configured path, if there is one, and then at a fallback path; the first of the two that is
a regular file is taken as it is written.
-/

namespace EmacsBatch

/-- Where the helper library is looked for. -/
structure LibraryLocator where
  configured : Option Bytes
  fallback : Bytes
  deriving DecidableEq

namespace LibraryLocator

/-- The paths that are looked at, in order. -/
def candidates (locator : LibraryLocator) : List Bytes :=
  locator.configured.toList ++ [locator.fallback]

/-- An event about a path. -/
def event (level : Log.Level) (message : String) (path : Bytes) : Log.Event where
  level := level
  source := .library
  message := message
  fields := [("library", Utf8.lossy path)]

/-- Look at the fallback path, after other paths were searched in vain. -/
def resolveFallback (locator : LibraryLocator) (world : World) (searched : List Bytes) :
    Traced (Except Failure Bytes) :=
  if world.isFile locator.fallback then do
    Traced.log (event .debug "Using default helper library" locator.fallback)
    return .ok locator.fallback
  else return .error (.libraryNotFound (searched ++ [locator.fallback]))

/-- Find the helper library, and tell the log which one it is. -/
def resolve (locator : LibraryLocator) (world : World) : Traced (Except Failure Bytes) :=
  match locator.configured with
  | none => locator.resolveFallback world []
  | some path =>
    if world.isFile path then do
      Traced.log (event .debug "Using configured helper library" path)
      return .ok path
    else do
      Traced.log
        (event .warn "Configured helper library does not exist, falling back to default" path)
      locator.resolveFallback world [path]

/-- The library found is the first candidate that is a regular file. -/
theorem resolve_value (locator : LibraryLocator) (world : World) :
    (locator.resolve world).value =
      match locator.candidates.find? world.isFile with
      | some path => .ok path
      | none => .error (.libraryNotFound locator.candidates) := by
  obtain ⟨configured, fallback⟩ := locator
  cases configured with
  | none => by_cases h : world.isFile fallback <;> simp [resolve, resolveFallback, candidates, h]
  | some path =>
    by_cases hp : world.isFile path <;> by_cases h : world.isFile fallback <;>
      simp [resolve, resolveFallback, candidates, hp, h]

end LibraryLocator

end EmacsBatch
