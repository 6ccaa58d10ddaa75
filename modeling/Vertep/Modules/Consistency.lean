import Vertep.Modules.Registry

/-!
# The registry is consistent (`core/module/registry.py`)

The index and the graph are right after any calls. The bounds that other modules declare are looked at when these are
registered, but not when the module they depend on is replaced: they are met as long as each replacement meets them.
-/

namespace Vertep.Modules
open Lib Relation

variable {V : Type} [LinearOrder V] (Version : String → Option V)

/-- A version meets the bounds of a dependency. -/
structure Satisfies (version : String) (dependency : Dependency) : Prop where
  notBelow : ∀ bound, given dependency.minVersion = some bound →
    ∃ v b, Version version = some v ∧ Version bound = some b ∧ b ≤ v
  notAbove : ∀ bound, given dependency.maxVersion = some bound →
    ∃ v b, Version version = some v ∧ Version bound = some b ∧ v ≤ b

namespace ModuleRegistry

def getCapabilities (r : ModuleRegistry) (capability : String) : List String := (r.capabilityIndex.get? capability).getD []

/-- The index has each capability with the modules that declare it, no dependencies are circular, and all are met. -/
structure Consistent (r : ModuleRegistry) : Prop where
  named : ∀ name manifest, r.modules.get? name = some manifest → manifest.name = name
  listed : ∀ capability modules, r.capabilityIndex.get? capability = some modules → modules ≠ [] ∧ modules.Nodup
  indexed : ∀ capability name, name ∈ r.getCapabilities capability ↔
    ∃ manifest, r.modules.get? name = some manifest ∧ capability ∈ manifest.capabilities
  acyclic : Acyclic r.graph
  met : ∀ name manifest, r.modules.get? name = some manifest → ∀ dependency ∈ manifest.dependencies,
    isSystemDependency dependency.name ∨
      ∃ other, r.modules.get? dependency.name = some other ∧ Satisfies Version other.version dependency

end ModuleRegistry

/-- A call of `ModuleRegistry` that writes. -/
inductive Call where
  | register (manifest : ModuleManifest) (force : Bool)
  | unregister (name : String)

def Call.run (r : ModuleRegistry) : Call → ModuleRegistry
  | .register manifest force => (r.registerModule Version manifest force).2
  | .unregister name => (r.unregisterModule name).2

/-- A module that others depend on is registered in a version that they accept. -/
def Call.Accepted (r : ModuleRegistry) : Call → Prop
  | .register manifest _ => ∀ name other, r.modules.get? name = some other → name ≠ manifest.name →
    ∀ dependency ∈ other.dependencies, dependency.name = manifest.name →
      isSystemDependency manifest.name ∨ Satisfies Version manifest.version dependency
  | .unregister _ => True

/-- The registries after any calls that meet `C`. -/
def Runs (C : ModuleRegistry → Call → Prop) : ModuleRegistry → Prop :=
  Reach (fun r => ∃ versions, r = { systemVersions := versions }) fun r r' => ∃ call, C r call ∧ r' = call.run Version r

/-! ## The index -/

/-- An index of the pairs of which `P` holds. -/
structure Indexes (index : Dict String (List String)) (P : String → String → Prop) : Prop where
  listed : ∀ capability modules, index.get? capability = some modules → modules ≠ [] ∧ modules.Nodup
  mem : ∀ capability name, name ∈ (index.get? capability).getD [] ↔ P capability name

variable {index : Dict String (List String)} {P : String → String → Prop} {name : String}

lemma Indexes.nodup (indexes : Indexes index P) (capability : String) : ((index.get? capability).getD []).Nodup := by
  rcases is : index.get? capability with _ | modules
  · exact List.nodup_nil
  · exact (indexes.listed capability modules is).2

lemma Indexes.withdraw (indexes : Indexes index P) (capability : String) :
    Indexes (ModuleRegistry.withdraw name index capability) fun c n => P c n ∧ ¬ (n = name ∧ c = capability) := by
  have lookup : ∀ c, (ModuleRegistry.withdraw name index capability).get? c =
      if capability = c then
        if ((index.get? capability).getD []).filter (· ≠ name) = [] then none
        else some (((index.get? capability).getD []).filter (· ≠ name))
      else index.get? c := by
    intro c
    simp only [ModuleRegistry.withdraw]
    split
    · rw [Dict.get?_pop]
    · rw [Dict.get?_set]
  refine ⟨fun c modules is => ?_, fun c n => ?_⟩
  · rw [lookup] at is
    split at is
    · split at is
      · cases is
      · rename_i some
        cases is
        exact ⟨some, (indexes.nodup capability).filter _⟩
    · exact indexes.listed c modules is
  · rw [lookup]
    split
    · rename_i same
      subst same
      have mem : n ∈ ((index.get? capability).getD []).filter (· ≠ name) ↔ P capability n ∧ n ≠ name := by
        rw [List.mem_filter, indexes.mem capability n, decide_eq_true_eq]
      split
      · rename_i none
        rw [none] at mem
        simpa using mem
      · simpa using mem
    · rename_i other
      rw [indexes.mem c n]
      exact ⟨fun holds => ⟨holds, fun same => other same.2.symm⟩, And.left⟩

lemma Indexes.provide (indexes : Indexes index P) (capability : String) :
    Indexes (ModuleRegistry.provide name index capability) fun c n => P c n ∨ n = name ∧ c = capability := by
  refine ⟨fun c modules is => ?_, fun c n => ?_⟩
  · simp only [ModuleRegistry.provide, Dict.get?_set] at is
    split at is
    · cases is
      split
      · rename_i there
        exact ⟨List.ne_nil_of_mem there, indexes.nodup capability⟩
      · rename_i new
        refine ⟨by simp, ?_⟩
        exact List.Nodup.append (indexes.nodup capability) (List.nodup_singleton name) (by simpa using new)
    · exact indexes.listed c modules is
  · simp only [ModuleRegistry.provide, Dict.get?_set]
    split
    · rename_i same
      subst same
      rw [Option.getD_some]
      split
      · rename_i there
        rw [indexes.mem capability n]
        refine ⟨.inl, ?_⟩
        rintro (holds | ⟨rfl, -⟩)
        · exact holds
        · exact (indexes.mem capability n).1 there
      · rw [List.mem_append, List.mem_singleton, indexes.mem capability n]
        simp
    · rename_i other
      rw [indexes.mem c n]
      exact ⟨.inl, fun holds => holds.resolve_right fun same => other same.2.symm⟩

lemma Indexes.congr (indexes : Indexes index P) {P' : String → String → Prop} (same : ∀ c n, P c n ↔ P' c n) :
    Indexes index P' := ⟨indexes.listed, fun c n => (indexes.mem c n).trans (same c n)⟩

lemma Indexes.withdrawAll (indexes : Indexes index P) (capabilities : List String) :
    Indexes (capabilities.foldl (ModuleRegistry.withdraw name) index) fun c n => P c n ∧ ¬ (n = name ∧ c ∈ capabilities) := by
  induction capabilities generalizing index P with
  | nil => exact indexes.congr (by simp)
  | cons capability capabilities ih =>
    refine (ih (indexes.withdraw capability)).congr fun c n => ?_
    rw [List.mem_cons]
    tauto

lemma Indexes.provideAll (indexes : Indexes index P) (capabilities : List String) :
    Indexes (capabilities.foldl (ModuleRegistry.provide name) index) fun c n => P c n ∨ n = name ∧ c ∈ capabilities := by
  induction capabilities generalizing index P with
  | nil => exact indexes.congr (by simp)
  | cons capability capabilities ih =>
    refine (ih (indexes.provide capability)).congr fun c n => ?_
    rw [List.mem_cons]
    tauto

/-! ## The bounds -/

variable {Version} {r : ModuleRegistry}

variable {version : String}

lemma notBelow_eq_true {bound : Option String} : notBelow Version version bound = .ok true ↔
    ∀ b, bound = some b → ∃ v b', Version version = some v ∧ Version b = some b' ∧ b' ≤ v := by
  rcases bound with _ | bound
  · simp [notBelow]
  · simp only [notBelow, parse]
    rcases Version version with _ | v <;> rcases is : Version bound with _ | b <;> simp [is, bind, Except.bind]

lemma notAbove_eq_true {bound : Option String} : notAbove Version version bound = .ok true ↔
    ∀ b, bound = some b → ∃ v b', Version version = some v ∧ Version b = some b' ∧ v ≤ b' := by
  rcases bound with _ | bound
  · simp [notAbove]
  · simp only [notAbove, parse]
    rcases Version version with _ | v <;> rcases is : Version bound with _ | b <;> simp [is, bind, Except.bind]

lemma fits_eq_true {dependency : Dependency} :
    fits Version (some version) dependency = .ok true ↔ Satisfies Version version dependency := by
  have both : Satisfies Version version dependency ↔ notBelow Version version (given dependency.minVersion) = .ok true ∧
      notAbove Version version (given dependency.maxVersion) = .ok true := by
    rw [notBelow_eq_true, notAbove_eq_true]
    exact ⟨fun h => ⟨h.notBelow, h.notAbove⟩, fun h => ⟨h.1, h.2⟩⟩
  rw [both, fits]
  split
  · rename_i none
    rw [none.1, none.2]
    exact ⟨fun _ => ⟨rfl, rfl⟩, fun _ => rfl⟩
  · rcases notBelow Version version (given dependency.minVersion) with failure | _ | _ <;> simp [bind, Except.bind]

lemma meets_eq_true {dependency : Dependency} (met : r.meets Version name dependency = .ok true) :
    dependency.name ≠ name ∧ (isSystemDependency dependency.name ∨
      ∃ other, r.modules.get? dependency.name = some other ∧ Satisfies Version other.version dependency) := by
  rw [ModuleRegistry.meets] at met
  split at met
  · cases met
  rename_i other
  refine ⟨other, ?_⟩
  split at met
  · cases met
  rename_i there
  by_cases system : isSystemDependency dependency.name = true
  · exact .inl system
  · obtain ⟨manifest, is⟩ : ∃ manifest, r.modules.get? dependency.name = some manifest := by
      rw [← Option.isSome_iff_exists]
      by_contra none
      exact there ⟨none, system⟩
    rw [ModuleRegistry.versionOf, is] at met
    exact .inr ⟨manifest, is, fits_eq_true.1 met⟩

lemma meetsAll_eq_true {dependencies : List Dependency} (met : r.meetsAll Version name dependencies = .ok true) :
    ∀ dependency ∈ dependencies, r.meets Version name dependency = .ok true := by
  induction dependencies with
  | nil => exact List.forall_mem_nil _
  | cons first dependencies ih =>
    rw [ModuleRegistry.meetsAll] at met
    rcases is : r.meets Version name first with failure | _ | _
    all_goals rw [is] at met
    · cases met
    · cases met
    · exact List.forall_mem_cons.2 ⟨is, ih met⟩

/-! ## Calls -/

lemma registerModule_cases {manifest : ModuleManifest} {force : Bool} :
    (r.registerModule Version manifest force).2 = r ∨
    (r.registerModule Version manifest force).2 = r.place manifest ∧
      cyclicFrom ({ r with modules := r.modules.set manifest.name manifest } : ModuleRegistry).graph
        (r.modules.set manifest.name manifest).keys manifest.name = false ∧
      r.meetsAll Version manifest.name manifest.dependencies = .ok true := by
  rw [ModuleRegistry.registerModule]
  dsimp only
  split
  · exact .inl rfl
  rename_i acyclic
  split
  · exact .inl rfl
  · exact .inl rfl
  rename_i met
  split
  · exact .inl rfl
  · exact .inr ⟨rfl, Bool.eq_false_iff.2 acyclic, met⟩

namespace ModuleRegistry

lemma Consistent.indexes (consistent : r.Consistent Version) : Indexes r.capabilityIndex fun capability name =>
    ∃ manifest, r.modules.get? name = some manifest ∧ capability ∈ manifest.capabilities :=
  ⟨consistent.listed, consistent.indexed⟩

lemma mem_declared {capability : String} : (∃ manifest, r.modules.get? name = some manifest ∧
    capability ∈ manifest.capabilities) ↔
    capability ∈ ((r.modules.get? name).map ModuleManifest.capabilities).getD [] := by
  rcases r.modules.get? name with _ | manifest <;> simp

lemma indexes_place (consistent : r.Consistent Version) (manifest : ModuleManifest) :
    Indexes (r.place manifest).capabilityIndex fun capability name =>
      ∃ other, (r.place manifest).modules.get? name = some other ∧ capability ∈ other.capabilities := by
  refine ((consistent.indexes.withdrawAll _).provideAll manifest.capabilities).congr fun c n => ?_
  simp only [place, Dict.get?_set]
  split
  · rename_i same
    subst same
    rw [mem_declared]
    simp
  · rename_i other
    have ne : ¬ n = manifest.name := fun same => other same.symm
    simp [ne]

lemma graph_set (manifest : ModuleManifest) (node : String) :
    ({ r with modules := r.modules.set manifest.name manifest } : ModuleRegistry).graph node =
      if manifest.name = node then manifest.dependencies.map Dependency.name else r.graph node := by
  simp only [graph, Dict.get?_set]
  by_cases same : manifest.name = node
  · rw [if_pos same, if_pos same]
  · rw [if_neg same, if_neg same]

lemma Consistent.place (consistent : r.Consistent Version) {manifest : ModuleManifest}
    (acyclic : cyclicFrom ({ r with modules := r.modules.set manifest.name manifest } : ModuleRegistry).graph
      (r.modules.set manifest.name manifest).keys manifest.name = false)
    (met : r.meetsAll Version manifest.name manifest.dependencies = .ok true)
    (accepted : Call.Accepted Version r (.register manifest true)) : (r.place manifest).Consistent Version where
  named n other is := by
    simp only [ModuleRegistry.place, Dict.get?_set] at is
    split at is
    · rename_i same
      cases is
      exact same
    · exact consistent.named n other is
  listed := (indexes_place consistent manifest).listed
  indexed := (indexes_place consistent manifest).mem
  acyclic := by
    refine consistent.acyclic.update (fun node other => ?_) fun node => not_cyclic_of_search acyclic
    exact (graph_set manifest node).trans (if_neg other.symm)
  met n other is dependency within := by
    simp only [ModuleRegistry.place, Dict.get?_set] at is ⊢
    split at is
    · -- the dependencies of the module itself have been looked at
      cases is
      obtain ⟨apart, there⟩ := meets_eq_true (meetsAll_eq_true met dependency within)
      rwa [if_neg apart.symm]
    · rename_i ne
      split
      · rename_i same
        rcases accepted n other is (Ne.symm ne) dependency within same.symm with system | satisfies
        · exact .inl (same ▸ system)
        · exact .inr ⟨manifest, rfl, satisfies⟩
      · exact consistent.met n other is dependency within

lemma needed_eq_false (none : r.needed name = false) {n : String} {other : ModuleManifest} (is : r.modules.get? n = some other)
    (ne : other.name ≠ name) : ∀ dependency ∈ other.dependencies, dependency.name ≠ name := by
  intro dependency within same
  have found : r.needed name = true :=
    List.any_eq_true.2 ⟨other, Dict.mem_values_iff.2 ⟨n, is⟩, decide_eq_true ⟨ne, List.any_eq_true.2 ⟨dependency, within, decide_eq_true same⟩⟩⟩
  rw [none] at found
  cases found

lemma Consistent.unregister (consistent : r.Consistent Version) (name : String) :
    (r.unregisterModule name).2.Consistent Version := by
  rw [unregisterModule]
  split
  · exact consistent
  rename_i manifest there
  split
  · exact consistent
  rename_i free
  have free : r.needed name = false := Bool.eq_false_iff.2 free
  have indexes : Indexes (manifest.capabilities.foldl (withdraw name) r.capabilityIndex) fun capability n =>
      ∃ other, (r.modules.pop name).get? n = some other ∧ capability ∈ other.capabilities := by
    refine (consistent.indexes.withdrawAll manifest.capabilities).congr fun c n => ?_
    rw [Dict.get?_pop]
    split
    · rename_i same
      subst same
      simp [there]
    · rename_i ne
      have ne : ¬ n = name := fun same => ne same.symm
      simp [ne]
  refine ⟨fun n other is => ?_, indexes.listed, indexes.mem, fun node path => ?_, fun n other is dependency within => ?_⟩
  · simp only [Dict.get?_pop] at is
    split at is
    · cases is
    · exact consistent.named n other is
  · refine consistent.acyclic node (TransGen.mono (fun x y edge => ?_) _ _ path)
    simp only [Edge, graph, Dict.get?_pop] at edge ⊢
    split at edge
    · rename_i other is
      split at is
      · cases is
      · rw [is]
        exact edge
    · cases edge
  · simp only [Dict.get?_pop] at is ⊢
    split at is
    · cases is
    · rename_i ne
      have apart := needed_eq_false free is (by rw [consistent.named n other is]; exact Ne.symm ne) dependency within
      rw [if_neg apart.symm]
      exact consistent.met n other is dependency within

lemma Consistent.run (consistent : r.Consistent Version) {call : Call} (accepted : call.Accepted Version r) :
    (call.run Version r).Consistent Version := by
  cases call with
  | register manifest force =>
    have outcome : (r.registerModule Version manifest force).2 = r ∨ _ := registerModule_cases
    rcases outcome with same | ⟨placed, acyclic, met⟩
    · rw [Call.run, same]
      exact consistent
    · rw [Call.run, placed]
      exact consistent.place acyclic met accepted
  | unregister name => exact consistent.unregister name

end ModuleRegistry

lemma consistent_empty (versions : Dict String String) :
    ({ systemVersions := versions } : ModuleRegistry).Consistent Version := by
  refine ⟨fun _ _ is => (by cases is), fun _ _ is => (by cases is), fun c n => ?_, fun node path => ?_,
    fun _ _ is => (by cases is)⟩
  · simp [ModuleRegistry.getCapabilities]
  · obtain ⟨_, edge, -⟩ := TransGen.head'_iff.1 path
    cases edge

/-- **The registry is consistent** after any calls in which a module that others depend on is registered in a version that
they accept. -/
theorem registry_consistent {V : Type} [LinearOrder V] (Version : String → Option V) :
    ∀ r, Runs Version (Call.Accepted Version) r → r.Consistent Version := by
  intro r runs
  refine runs.invariant ?_ ?_
  · rintro _ ⟨versions, rfl⟩
    exact consistent_empty versions
  · rintro r _ consistent ⟨call, accepted, rfl⟩
    exact consistent.run accepted

/-! ## Replacements -/

def versions (text : String) : Option ℕ :=
  if text = "1.0.0" then some 1 else if text = "2.0.0" then some 2 else none

def speech (version : String) : ModuleManifest := ⟨"speech", version, ["tts"], []⟩

def narrator : ModuleManifest := ⟨"narrator", "1.0.0", ["story"], [⟨"speech", some "2.0.0", none⟩]⟩

def registered (calls : List Call) : ModuleRegistry := calls.foldl (Call.run versions) {}

theorem registry_consistent_registered :
    (registered [.register (speech "2.0.0") false, .register narrator false]).Consistent versions := by
  refine registry_consistent versions _ (.step (.step (.init ⟨∅, rfl⟩) ⟨.register (speech "2.0.0") false, ?_, rfl⟩)
    ⟨.register narrator false, ?_, rfl⟩)
  · exact fun _ _ is => by cases is
  · -- nothing depends on the new module
    intro name other is
    have is : (if "speech" = name then some (speech "2.0.0") else none) = some other := by
      rw [← is]
      exact (Dict.get?_set ∅ "speech" name (speech "2.0.0")).symm
    split at is
    · cases is
      exact fun _ _ within => absurd within List.not_mem_nil
    · cases is

/-- **A module is replaced by a version that another one does not accept.** -/
theorem registry_breaks_bounds : ∃ r, Runs versions (fun _ _ => True) r ∧ ¬ r.Consistent versions := by
  refine ⟨registered [.register (speech "2.0.0") false, .register narrator false, .register (speech "1.0.0") false],
    .step (.step (.step (.init ⟨∅, rfl⟩) ⟨.register (speech "2.0.0") false, trivial, rfl⟩)
      ⟨.register narrator false, trivial, rfl⟩) ⟨.register (speech "1.0.0") false, trivial, rfl⟩, fun consistent => ?_⟩
  have met := consistent.met "narrator" narrator (by decide) ⟨"speech", some "2.0.0", none⟩ (by decide)
  rcases met with system | ⟨other, is, satisfies⟩
  · exact absurd system (by decide)
  · have is' : some (speech "1.0.0") = some other := by
      rw [← is]
      decide
    cases is'
    obtain ⟨v, b, low, high, le⟩ := satisfies.notBelow "2.0.0" (by decide)
    have low : v = 1 := (Option.some.inj low).symm
    have high : b = 2 := (Option.some.inj high).symm
    omega

end Vertep.Modules
