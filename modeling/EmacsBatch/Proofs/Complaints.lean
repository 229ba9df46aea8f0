import EmacsBatch.Doctor
import EmacsBatch.Proofs.Masking

/-!
# What hooks and the doctor say of a bad configuration

A hook and the doctor load the configuration in the same way, and where there is none both end
at once with the status 1 and one message on the standard error. A hook shows the failure. The
doctor shows a failure with the causes behind it, and for a missing working directory the cause
alone. The message of an error of the operating system names its cause already, so the doctor
repeats it, and both say the same only if the configuration is invalid.
-/

namespace EmacsBatch

/-- There is no configuration for some settings, with the failure of a hook and the complaint of
the doctor: the working directory is gone, or the configuration cannot be loaded in it. -/
inductive Settings.FailsToLoad (settings : Settings) (world : World) :
    Failure → Doctor.Complaint → Prop where
  | directory {cause : SystemError} (gone : world.currentDirectory = .error cause) :
    FailsToLoad settings world (.io cause) (.noDirectory cause)
  | config {directory : Bytes} {failure : Failure} (here : world.currentDirectory = .ok directory)
    (fails : settings.loadConfig world directory = .error failure) :
    FailsToLoad settings world failure (.noConfig failure)

/-- All that a command does is to end with the status 1 and a message on the standard error,
where nothing else appears, whatever is logged. -/
structure OnlyComplains (environment : Environment) (command : Traced Int) (message : String) :
    Prop where
  children : childrenOf command.trace = []
  stdout : stdoutOf command.trace = []
  status : command.value = 1
  stderr : loggedStderrOf environment none command.trace = Utf8.encode (Hook.reportLine message)

variable {settings : Settings} {world : World} {failure : Failure}
  {complaint : Doctor.Complaint}

/-- A hook without a configuration shows the failure and does nothing else. -/
theorem Hook.onlyComplains (h : settings.FailsToLoad world failure complaint) (hook : Hook)
    (files : List Bytes) (fallback : Bytes) (runner : Runner) :
    OnlyComplains world.environment (hook.execute ⟨files, settings⟩ fallback runner world)
      failure.message := by
  have hattempt : hook.attempt ⟨files, settings⟩ fallback runner world = ⟨.error failure, []⟩ := by
    cases h with
    | directory gone =>
      simp only [attempt, gone]
      rfl
    | config here fails =>
      simp only [attempt, here, fails]
      rfl
  have hstatus : failure.exitCode = 1 := by
    cases h with
    | directory gone => rfl
    | config here fails =>
      rcases Settings.isLoading_of_loadConfig fails with ⟨cause, rfl⟩ | ⟨message, rfl⟩ <;> rfl
  rw [execute, hattempt]
  exact ⟨rfl, rfl, hstatus, List.append_nil _⟩

/-- The doctor without a configuration shows its complaint and does nothing else. -/
theorem Doctor.onlyComplains (h : settings.FailsToLoad world failure complaint) (json : Bool)
    (fallback : Bytes) :
    OnlyComplains world.environment (Doctor.execute settings json fallback world)
      complaint.message := by
  have hrun : Doctor.run settings json fallback world = ⟨.error complaint, []⟩ := by
    cases h with
    | directory gone =>
      simp only [run, gone]
      rfl
    | config here fails =>
      simp only [run, here, fails]
      rfl
  rw [execute, hrun]
  exact ⟨rfl, rfl, rfl, List.append_nil _⟩

/-- Different messages are written differently. -/
theorem Hook.encode_reportLine_inj {message other : String} :
    Utf8.encode (reportLine message) = Utf8.encode (reportLine other) ↔ message = other := by
  constructor
  · intro h
    have hlist := congrArg String.toList (Utf8.encode_injective h)
    simp only [reportLine, String.toList_append, List.append_cancel_left_eq,
      List.append_cancel_right_eq] at hlist
    exact String.toList_inj.1 hlist
  · rintro rfl
    rfl

/-- The doctor shows the message of a hook only if the configuration is invalid. -/
theorem Settings.FailsToLoad.message_eq_iff (h : settings.FailsToLoad world failure complaint) :
    failure.message = complaint.message ↔ ∃ message, failure = .invalidConfig message := by
  -- A text that is longer than another one is not the same.
  have longer {text other : String} (hlength : text.length ≠ other.length) : text ≠ other :=
    fun heq => hlength (congrArg String.length heq)
  cases h with
  | @directory cause gone =>
    refine iff_of_false (longer ?_) nofun
    change ("IO error: " ++ cause.message).length ≠ cause.message.length
    rw [String.length_append]
    have : "IO error: ".length = 10 := by decide
    omega
  | config here fails =>
    rcases isLoading_of_loadConfig fails with ⟨cause, rfl⟩ | ⟨message, rfl⟩
    · refine iff_of_false (longer ?_) nofun
      change (Failure.io cause).message.length ≠
        ((Failure.io cause).message ++ ": " ++ cause.message).length
      rw [String.length_append, String.length_append]
      have : ": ".length = 2 := by decide
      omega
    · exact iff_of_true rfl ⟨message, rfl⟩

/-- Where there is no configuration, a hook and the doctor start no child, print nothing, end
with the status 1 and show one message each: the failure, and the complaint. These are the same
exactly if the configuration is invalid, and not if the operating system gave an error. -/
theorem Doctor.complains_as_hook_iff (h : settings.FailsToLoad world failure complaint)
    (hook : Hook) (files : List Bytes) (fallback bundled : Bytes) (runner : Runner) (json : Bool) :
    OnlyComplains world.environment (hook.execute ⟨files, settings⟩ fallback runner world)
      failure.message ∧
    OnlyComplains world.environment (Doctor.execute settings json bundled world)
      complaint.message ∧
    (loggedStderrOf world.environment none
        (hook.execute ⟨files, settings⟩ fallback runner world).trace =
      loggedStderrOf world.environment none (Doctor.execute settings json bundled world).trace ↔
        ∃ message, failure = .invalidConfig message) := by
  have hhook := hook.onlyComplains h files fallback runner
  have hdoctor := Doctor.onlyComplains h json bundled
  refine ⟨hhook, hdoctor, ?_⟩
  rw [hhook.stderr, hdoctor.stderr, Hook.encode_reportLine_inj, h.message_eq_iff]

/-- Both say the same of an unknown level in the environment. -/
theorem Doctor.complains_as_hook_of_unknown_level :
    Settings.FailsToLoad {} (Settings.bare.withVariable logVariable "loud")
      (.invalidConfig (Config.Problem.unknownLevel "loud").message)
      (.noConfig (.invalidConfig (Config.Problem.unknownLevel "loud").message)) ∧
    loggedStderrOf (Settings.bare.withVariable logVariable "loud").environment none
        (Hook.checkParens.execute ⟨[Utf8.encode "a.el"], {}⟩ [] .process
          (Settings.bare.withVariable logVariable "loud")).trace =
      loggedStderrOf (Settings.bare.withVariable logVariable "loud").environment none
        (Doctor.execute {} false [] (Settings.bare.withVariable logVariable "loud")).trace := by
  have fails : Settings.loadConfig {} (Settings.bare.withVariable logVariable "loud")
      Settings.root = .error (.invalidConfig (Config.Problem.unknownLevel "loud").message) := by
    decide +kernel
  have h : Settings.FailsToLoad {} (Settings.bare.withVariable logVariable "loud") _ _ :=
    .config rfl fails
  have hsame := (Doctor.complains_as_hook_iff h .checkParens [Utf8.encode "a.el"] [] [] .process
    false).2.2
  exact ⟨h, hsame.2 ⟨_, rfl⟩⟩

/-- Of a missing configuration file, a hook names the cause once and the doctor twice. -/
theorem Doctor.complains_twice_of_missing_file :
    loggedStderrOf Settings.bare.environment none
        (Hook.checkParens.execute ⟨[Utf8.encode "a.el"], { configFile := some (Utf8.encode "c") }⟩
          [] .process Settings.bare).trace =
      Utf8.encode (Hook.reportLine ("IO error: " ++ SystemError.noEntry.message)) ∧
    loggedStderrOf Settings.bare.environment none
        (Doctor.execute { configFile := some (Utf8.encode "c") } false [] Settings.bare).trace =
      Utf8.encode (Hook.reportLine ("IO error: " ++ SystemError.noEntry.message ++ ": " ++
        SystemError.noEntry.message)) ∧
    loggedStderrOf Settings.bare.environment none
        (Hook.checkParens.execute ⟨[Utf8.encode "a.el"], { configFile := some (Utf8.encode "c") }⟩
          [] .process Settings.bare).trace ≠
      loggedStderrOf Settings.bare.environment none
        (Doctor.execute { configFile := some (Utf8.encode "c") } false [] Settings.bare).trace := by
  have fails : Settings.loadConfig { configFile := some (Utf8.encode "c") } Settings.bare
      Settings.root = .error (.io .noEntry) := by decide +kernel
  have h : Settings.FailsToLoad { configFile := some (Utf8.encode "c") } Settings.bare _ _ :=
    .config rfl fails
  have hhook := (Hook.checkParens.onlyComplains h [Utf8.encode "a.el"] [] .process).stderr
  have hdoctor := (Doctor.onlyComplains h false []).stderr
  refine ⟨hhook, hdoctor, ?_⟩
  rw [hhook, hdoctor, ne_eq, Hook.encode_reportLine_inj, h.message_eq_iff]
  rintro ⟨message, ⟨⟩⟩

end EmacsBatch
