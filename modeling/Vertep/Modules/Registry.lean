import Vertep.Lib.Cycles
import Vertep.Lib.Dict
import Vertep.Lib.Reach

/-!
# The registry of modules

Embedding of `core/module/registry.py`. Of a manifest only what the registry reads is kept. The versions of `packaging`
are a parameter: `Version` reads one from a text, or raises, and versions are in a linear order. The limit of the
interpreter on the depth of a recursion is left out.
-/

namespace Vertep.Modules
open Lib Relation

/-- A dependency; one that is given by its name has no bounds. -/
structure Dependency where
  name : String
  minVersion : Option String := none
  maxVersion : Option String := none
deriving DecidableEq

structure ModuleManifest where
  name : String
  version : String
  capabilities : List String := []
  dependencies : List Dependency := []
deriving DecidableEq

structure ModuleRegistry where
  modules : Dict String ModuleManifest := ∅
  capabilityIndex : Dict String (List String) := ∅
  systemVersions : Dict String String := ∅
deriving DecidableEq

inductive Failure where
  /-- `InvalidVersion`. -/
  | invalidVersion (text : String)
  | value (message : String)
  | key (name : String)
  | type
  /-- `OSError`. -/
  | os
  /-- `UnicodeEncodeError`. -/
  | unicode
  /-- `InvalidSignature`, or what the reader of a key or of base64 raises. -/
  | security
deriving DecidableEq

def isSystemDependency (name : String) : Bool :=
  name ∈ ["core_runtime", "python_runtime", "docker_runtime", "gpu_runtime"]

def given (bound : Option String) : Option String := bound.filter (· ≠ "")

section
variable {V : Type} [LinearOrder V] (Version : String → Option V)

def parse (text : String) : Except Failure V :=
  match Version text with
  | some version => .ok version
  | none => .error (.invalidVersion text)

/-- A version is not below the lower bound. -/
def notBelow (version : String) : Option String → Except Failure Bool
  | none => .ok true
  | some bound => do
    let version ← parse Version version
    let bound ← parse Version bound
    .ok (¬ version < bound)

/-- A version is not above the upper bound. -/
def notAbove (version : String) : Option String → Except Failure Bool
  | none => .ok true
  | some bound => do
    let version ← parse Version version
    let bound ← parse Version bound
    .ok (¬ bound < version)

/-- The bounds of a dependency hold of a version; there may be none. -/
def fits (version : Option String) (dependency : Dependency) : Except Failure Bool :=
  if given dependency.minVersion = none ∧ given dependency.maxVersion = none then .ok true
  else
    match version with
    | none => .ok false
    | some version => do
      if ← notBelow Version version (given dependency.minVersion) then
        notAbove Version version (given dependency.maxVersion)
      else .ok false

namespace ModuleRegistry

variable (r : ModuleRegistry)

/-- The version that a dependency is compared with. -/
def versionOf (name : String) : Option String :=
  match r.modules.get? name with
  | some manifest => some manifest.version
  | none => r.systemVersions.get? name

/-- One dependency of a manifest is met. -/
def meets (name : String) (dependency : Dependency) : Except Failure Bool :=
  if dependency.name = name then .ok false
  else if ¬ r.modules.contains dependency.name ∧ ¬ isSystemDependency dependency.name then .ok false
  else fits Version (r.versionOf dependency.name) dependency

/-- The dependencies are met, up to the first that is not. -/
def meetsAll (name : String) : List Dependency → Except Failure Bool
  | [] => .ok true
  | dependency :: dependencies => do
    if ← r.meets Version name dependency then meetsAll name dependencies else .ok false

/-- The graph of the dependencies. -/
def graph (node : String) : List String :=
  match r.modules.get? node with
  | some manifest => manifest.dependencies.map Dependency.name
  | none => []

/-- A module is no longer among the ones of a capability. -/
def withdraw (name : String) (index : Dict String (List String)) (capability : String) : Dict String (List String) :=
  let modules := ((index.get? capability).getD []).filter (· ≠ name)
  if modules = [] then index.pop capability else index.set capability modules

/-- A module is among the ones of a capability. -/
def provide (name : String) (index : Dict String (List String)) (capability : String) : Dict String (List String) :=
  let modules := (index.get? capability).getD []
  index.set capability (if name ∈ modules then modules else modules ++ [name])

/-- The module takes its place, and the one of its name that is there before loses it. -/
def place (manifest : ModuleManifest) : ModuleRegistry :=
  let old := ((r.modules.get? manifest.name).map ModuleManifest.capabilities).getD []
  { r with
    modules := r.modules.set manifest.name manifest
    capabilityIndex := manifest.capabilities.foldl (provide manifest.name)
      (old.foldl (withdraw manifest.name) r.capabilityIndex) }

def registerModule (manifest : ModuleManifest) (force : Bool) : Except Failure Bool × ModuleRegistry :=
  let next := { r with modules := r.modules.set manifest.name manifest }
  if cyclicFrom next.graph next.modules.keys manifest.name then (.ok false, r)
  else
    match r.meetsAll Version manifest.name manifest.dependencies with
    | .error failure => (.error failure, r)
    | .ok false => (.ok false, r)
    | .ok true =>
      if ¬ force ∧ (r.modules.get? manifest.name).map ModuleManifest.version = some manifest.version then (.ok false, r)
      else (.ok true, r.place manifest)

def needed (name : String) : Bool :=
  r.modules.values.any fun other => other.name ≠ name ∧ other.dependencies.any (·.name = name)

def unregisterModule (name : String) : Bool × ModuleRegistry :=
  match r.modules.get? name with
  | none => (false, r)
  | some manifest =>
    if r.needed name then (false, r)
    else
      (true, { r with
        modules := r.modules.pop name
        capabilityIndex := manifest.capabilities.foldl (withdraw name) r.capabilityIndex })

end ModuleRegistry
end

end Vertep.Modules
