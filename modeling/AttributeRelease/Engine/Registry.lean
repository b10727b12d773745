import AttributeRelease.Compile.Basic

/-!
# Registries

A registry holds the engine that is in service. It starts without one; engines can be installed until
it is shut down, and each replaces the one before it.
-/

namespace AttributeRelease

/-- The engine in service, if there is one. -/
inductive Registry where
  | empty
  | running (engine : Engine)
  | shutDown

namespace Registry

/-- Puts an engine in service, unless the registry was shut down. -/
def install (engine : Engine) : Registry → Registry
  | shutDown => shutDown
  | _ => running engine

/-- Compiles a configuration and puts its engine in service. If that fails, all stays as it is. -/
def reload (config : Config) (host : ScriptHost) (registry : Registry) :
    Registry × Option BuildError :=
  match config.compile host with
  | .ok engine => (registry.install engine, none)
  | .error e => (registry, some e)

/-- Takes the engine out of service for good. -/
def shutdown (_ : Registry) : Registry := shutDown

/-- The engine in service. -/
def current? : Registry → Option Engine
  | running engine => some engine
  | _ => none

/-- Whether the registry was shut down. -/
def isShutDown : Registry → Bool
  | shutDown => true
  | _ => false

/-- Filters the request of a context with the engine in service. Without one, the context stays as it
is. -/
def filter (registry : Registry) (context : FilterContext) :
    FilterContext × Option FilterError :=
  match registry with
  | running engine => engine.filter context
  | empty => (context, some .notInstalled)
  | shutDown => (context, some .shutDown)

/-- What can be done with a registry. -/
inductive Use where
  | install (engine : Engine)
  | reload (config : Config) (host : ScriptHost)
  | shutdown
  | filter (context : FilterContext)

/-- The registry after it was used. Filtering only reads which engine is in service. -/
def use (registry : Registry) : Use → Registry
  | .install engine => registry.install engine
  | .reload config host => (registry.reload config host).1
  | .shutdown => registry.shutdown
  | .filter _ => registry

/-- The registry after several uses, one after the other. -/
def after (registry : Registry) (uses : List Use) : Registry := uses.foldl use registry

end Registry

end AttributeRelease
