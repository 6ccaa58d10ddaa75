import Mathlib.Data.String.Basic
import Vertep.Core.Plan
import Vertep.Lib.Text
import Vertep.Modules.Registry

/-!
# Module packages

Embedding of `core/module/manifest.py` and of `core/module/packages.py`. The files of the directory are kept under the
names of the modules, as the code names them. Keys, signatures and encodings are parameters.
-/

namespace Vertep.Modules
open Lib

/-- A value that is read from JSON. -/
inductive Value where
  | null
  | bool (b : Bool)
  | int (n : ℤ)
  | float (text : String)
  | str (text : String)
  | list (items : List Value)
  | dict (items : List (String × Value))

/-- `value.get(key)`. -/
def Value.get? (key : String) : Value → Option Value
  | .dict items => (items.find? (·.1 = key)).map Prod.snd
  | _ => none

/-- `value[key]`. -/
def Value.field (key : String) : Value → Except Failure Value
  | .dict items =>
    match (items.find? (·.1 = key)).map Prod.snd with
    | some value => .ok value
    | none => .error (.key key)
  | _ => .error .type

def Value.text? : Value → Option String
  | .str text => some text
  | _ => none

/-- A signed package. -/
structure Package where
  manifest : Value
  files : List (String × Value)
  signer : String
  signature : String
  others : Value := .null

inductive PublicKey (κ : Type) where
  | ed25519 (key : κ)
  | other

/-- What the packages are given from outside. -/
structure Env (V : Type) where
  Version : String → Option V
  /-- The type of the keys, and of bytes. -/
  Key : Type
  Bytes : Type
  keys : Dict String Bytes
  loadPemPublicKey : Bytes → Except Failure (PublicKey Key)
  /-- `json.dumps` of a manifest and files, encoded. -/
  canonical : Value → List (String × Value) → Except Failure Bytes
  b64decode : Value → Except Failure Bytes
  verifies : Key → Bytes → Bytes → Bool
  /-- A decimal digit that is none of the ASCII digits. -/
  digit : Char → Bool
  repr : Value → String
  /-- The text of a record can be encoded. -/
  encodes : Package → Bool
  systemVersions : Dict String String

variable {V : Type} (env : Env V)

/-! ## Manifests -/

/-- `\d+`. -/
def Env.isNumber (digits : List Char) : Bool := digits ≠ [] && digits.all fun c => c.isDigit || env.digit c

def validateVersion (version : Value) : Except Failure String :=
  let failure : Failure := .value ("Invalid version format: " ++ env.repr version ++ ". Expected SemVer or legacy A.B.C.D")
  match version with
  | .str text =>
    let parts := text.toList.splitOn '.'
    if (parts.length = 3 ∨ parts.length = 4) ∧ parts.all env.isNumber then .ok text else .error failure
  | _ => .error failure

/-- A bound of a dependency, where there is one. -/
def readBound (dependency : Value) (field : String) : Except Failure (Option String) :=
  match dependency.get? field with
  | none => .ok none
  | some version => do
    let text ← validateVersion env version
    .ok (some text)

def readDependency : Value → Except Failure Dependency
  | .str name => if name = "" then .error (.value "Invalid module dependency") else .ok ⟨name, none, none⟩
  | dependency => do
    match (dependency.get? "name").bind Value.text? with
    | none => .error (.value "Invalid module dependency")
    | some name =>
      if name = "" then .error (.value "Invalid module dependency")
      else do
        let lower ← readBound env dependency "min_version"
        let upper ← readBound env dependency "max_version"
        .ok ⟨name, lower, upper⟩

/-- The check of one resource requirement. -/
def checkResource (requirements : Value) (key : String) : Except Failure Unit :=
  match (requirements.get? key).getD (.int 0) with
  | .int n => if n < 0 then .error (.value ("Invalid module resource requirement: " ++ key)) else .ok ()
  | _ => .error (.value ("Invalid module resource requirement: " ++ key))

def readCapability (capability : Value) : Except Failure String :=
  match capability.text?.filter (· ≠ "") with
  | some text => .ok text
  | none => .error (.value "Capabilities must be nonempty strings")

def readList (failure : Failure) : Value → Except Failure (List Value)
  | .list items => .ok items
  | _ => .error failure

def fromDict (data : Value) : Except Failure ModuleManifest := do
  let data := (data.get? "manifest").getD data
  let name ← data.field "name"
  let version ← data.field "version"
  let name ← match name.text?.filter (Core.strip · ≠ "") with
    | some name => .ok name
    | none => .error (.value "Module name must be a nonempty string")
  let capabilities ← readList (.value "Capabilities must be nonempty strings") ((data.get? "capabilities").getD (.list []))
  let capabilities ← capabilities.mapM readCapability
  let dependencies ← readList (.value "Dependencies must be a list") ((data.get? "dependencies").getD (.list []))
  let dependencies ← dependencies.mapM (readDependency env)
  let requirements := (data.get? "resource_requirements").getD (.dict [])
  match requirements with
  | .dict _ =>
    checkResource requirements "min_vram_mb"
    checkResource requirements "min_cpu_cores"
    checkResource requirements "min_ram_mb"
    let version ← validateVersion env version
    .ok ⟨name, version, capabilities, dependencies⟩
  | _ => .error (.value "Resource requirements must be an object")

/-! ## Verification -/

/-- A path that no archive may have. -/
def unsafePath (name : String) : Bool :=
  name = "" || name.toList.contains '\\' || ((name.toList.splitOn '/').any fun part => part ∈ [[], ['.'], ['.', '.']]) ||
    name.toList.contains ':'

/-- `[A-Za-z0-9][A-Za-z0-9_.-]*`. -/
def safeName (name : String) : Bool :=
  match name.toList with
  | [] => false
  | first :: rest => first.isAlphanum && rest.all fun c => c.isAlphanum || c ∈ ['_', '.', '-']

def checkFile (file : String × Value) : Except Failure Unit :=
  if unsafePath file.1 then .error (.value "Unsafe module file path")
  else do
    let _ ← env.b64decode file.2
    .ok ()

def verify (package : Package) : Except Failure ModuleManifest := do
  let raw ← env.canonical package.manifest package.files
  let pem ← match env.keys.get? package.signer with
    | some pem => .ok pem
    | none => .error (.key package.signer)
  match ← env.loadPemPublicKey pem with
  | .other => .error (.value "Module signer must use Ed25519")
  | .ed25519 key => do
    let signature ← env.b64decode (.str package.signature)
    if ¬ env.verifies key signature raw then .error .security
    else do
      package.files.forM (checkFile env)
      let manifest ← fromDict env package.manifest
      if safeName manifest.name then .ok manifest else .error (.value "Unsafe module name")

/-! ## Installed modules -/

/-- What is saved of a module. -/
structure Record where
  name : String
  enabled : Bool
  package : Package

structure ModulePackages where
  records : Dict String Record := ∅
  registry : ModuleRegistry

section
variable [LinearOrder V]

/-- One round over the modules that are pending, each with its name: those that are left, and the registry. -/
def loadRound : List (String × ModuleManifest) → ModuleRegistry → Except Failure (List (String × ModuleManifest) × ModuleRegistry)
  | [], registry => .ok ([], registry)
  | (name, manifest) :: pending, registry =>
    match registry.registerModule env.Version manifest false with
    | (.error failure, _) => .error failure
    | (.ok true, registry) => loadRound pending registry
    | (.ok false, registry) => do
      let (left, registry) ← loadRound pending registry
      .ok ((name, manifest) :: left, registry)

/-- The rounds; each loads a module, so there are no more than modules. -/
def loadAll : ℕ → List (String × ModuleManifest) → ModuleRegistry → Except Failure ModuleRegistry
  | _, [], registry => .ok registry
  | 0, _ :: _, _ => .error (.value "Installed module dependencies are incompatible or cyclic")
  | rounds + 1, pending, registry => do
    let (left, registry) ← loadRound env pending registry
    if left.length = pending.length then .error (.value "Installed module dependencies are incompatible or cyclic")
    else loadAll rounds left registry

/-- The files are read, one after the other. -/
def readFile (read : Dict String Record × Dict String ModuleManifest) (record : Record) :
    Except Failure (Dict String Record × Dict String ModuleManifest) :=
  let records := read.1.set record.name record
  if record.enabled then do
    let manifest ← verify env record.package
    .ok (records, read.2.set record.name manifest)
  else .ok (records, read.2)

/-- `ModulePackages(root, …)`, for the files in the order in which they are enumerated. -/
def load (files : List Record) : Except Failure ModulePackages := do
  let (records, pending) ← files.foldlM (readFile env) (∅, ∅)
  let registry ← loadAll env pending.entries.length pending.entries { systemVersions := env.systemVersions }
  .ok ⟨records, registry⟩

/-- How the write of a record ends, if its text can be encoded. -/
inductive Write where
  | done | failed
deriving DecidableEq

/-- The packages of the process and the files they are saved in. -/
structure World where
  disk : Dict String Record := ∅
  packages : ModulePackages

def save (w : World) (record : Record) (write : Write) : Except Failure Unit × World :=
  if ¬ env.encodes record.package then (.error .unicode, w)
  else
    match write with
    | .done => (.ok (), { w with disk := w.disk.set record.name record })
    | .failed => (.error .os, w)

def World.setRegistry (w : World) (registry : ModuleRegistry) : World :=
  { w with packages := { w.packages with registry := registry } }

def World.setRecord (w : World) (record : Record) : World :=
  { w with packages := { w.packages with records := w.packages.records.set record.name record } }

def install (w : World) (package : Package) (write : Write) : Except Failure ModuleManifest × World :=
  match verify env package with
  | .error failure => (.error failure, w)
  | .ok manifest =>
    if (w.packages.records.get? manifest.name).any Record.enabled then
      (.error (.value "Module already installed; unload before replacement"), w)
    else
      match w.packages.registry.registerModule env.Version manifest false with
      | (.error failure, _) => (.error failure, w)
      | (.ok false, _) => (.error (.value "Module dependencies are not satisfied"), w)
      | (.ok true, registry) =>
        let w := w.setRegistry registry
        let record : Record := ⟨manifest.name, true, package⟩
        match save env w record write with
        | (.ok _, w) => (.ok manifest, w.setRecord record)
        | (.error .os, w) => (.error .os, w.setRegistry (w.packages.registry.unregisterModule manifest.name).2)
        | (.error failure, w) => (.error failure, w)

def uninstall (w : World) (name : String) (write : Write) : Except Failure Unit × World :=
  match w.packages.registry.modules.get? name, w.packages.registry.unregisterModule name with
  | some previous, (true, registry) =>
    let w := w.setRegistry registry
    match w.packages.records.get? name with
    | none => (.error (.key name), w)
    | some record =>
      let record := { record with enabled := false }
      match save env w record write with
      | (.ok _, w) => (.ok (), w.setRecord record)
      | (.error .os, w) => (.error .os, w.setRegistry (w.packages.registry.registerModule env.Version previous true).2)
      | (.error failure, w) => (.error failure, w)
  | _, _ => (.error (.value "Module missing or required by another module"), w)

end

end Vertep.Modules
