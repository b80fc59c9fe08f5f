import ServiceDoubles.Act
import ServiceDoubles.Config.Options

/-!
# ServiceDoubles.Config.Cache

The configuration of a process. It is read from the environment when it is first asked for, and the
first reading that succeeds stays for good. A reading that fails is reported and leaves no trace, so
that the next one starts afresh.
-/

namespace ServiceDoubles.Config

/-- The configuration that was read, if any. -/
abbrev Cache := Option Config

/-- The place that events of the configuration name. -/
def target : String := "stubkit::config"

/-- The event of tests that reach the real service. -/
def chargesEvent : Event :=
  ⟨.warn, target, "Tests will call real AWS services and may incur charges", []⟩

/-- The configuration of the process, read from the environment `env` if there is none yet. -/
def load (env : Environment) : Act Cache Config := fun cache =>
  match cache with
  | some config => ⟨.ok config, some config, []⟩
  | none =>
    match ofEnvironment env with
    | .error cause => ⟨.fault cause, none, []⟩
    | .ok config =>
      ⟨.ok config, some config, if config.useRealService then [chargesEvent] else []⟩

end ServiceDoubles.Config
