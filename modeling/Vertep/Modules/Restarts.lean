import Vertep.Modules.Reload

/-!
# Runs of the packages (`core/module/packages.py`)

Installations, removals and restarts, one after the other; a write of a record may fail. What is installed is what the
disk has, and what a restart loads.
-/

namespace Vertep.Modules
open Lib Relation

variable {V : Type} [LinearOrder V]

inductive Request where
  | install (package : Package) (write : Write)
  | uninstall (name : String) (write : Write)
  /-- The directory is read again, with its files in any order. -/
  | restart (files : List Record)

/-- An administrator's request is handled, or the process starts anew. -/
inductive Step (env : Env V) : Request → World → World → Prop where
  | install (w : World) (package : Package) (write : Write) :
    Step env (.install package write) w (Vertep.Modules.install env w package write).2
  | uninstall (w : World) (name : String) (write : Write) :
    Step env (.uninstall name write) w (Vertep.Modules.uninstall env w name write).2
  | restart (w : World) (files : List Record) (packages : ModulePackages) :
    files.Perm w.disk.values → load env files = .ok packages → Step env (.restart files) w { w with packages := packages }

def World.fresh (env : Env V) : World := { packages := { registry := { systemVersions := env.systemVersions } } }

/-- The worlds after any requests that meet `C`. -/
def Reached (env : Env V) (C : Request → World → Prop) : World → Prop :=
  Reach (· = World.fresh env) fun w w' => ∃ request, C request w ∧ Step env request w w'

/-- The record of a package can be written as a text. Where modules depend on the name of its module, as one of the
system, they accept its version, and the record is written; and where it depends on such a module, the version of the
system can be compared with. -/
def Request.Orderly (env : Env V) : Request → World → Prop
  | .install package write, w => ∀ manifest, verify env package = .ok manifest →
    env.encodes package ∧
    (∀ name other, w.packages.registry.modules.get? name = some other → name ≠ manifest.name →
      ∀ d ∈ other.dependencies, d.name = manifest.name → write = .done ∧ Satisfies env.Version manifest.version d) ∧
    ∀ d ∈ manifest.dependencies, w.packages.registry.modules.contains d.name → isSystemDependency d.name →
      ∀ failure, fits env.Version (env.systemVersions.get? d.name) d ≠ .error failure
  | .uninstall .., _ | .restart _, _ => True

variable {env : Env V} {w : World}

/-- The modules that are registered are those whose records are enabled, on the disk as in memory. -/
structure Installed (env : Env V) (w : World) : Prop where
  steady : Steady env w.packages.registry
  disk : ∀ name, w.disk.get? name = w.packages.records.get? name
  named : ∀ name record, w.packages.records.get? name = some record → record.name = name ∧ env.encodes record.package = true
  verified : ∀ name record, w.packages.records.get? name = some record → record.enabled →
    ∃ manifest, verify env record.package = .ok manifest ∧ w.packages.registry.modules.get? name = some manifest
  enabled : ∀ name manifest, w.packages.registry.modules.get? name = some manifest →
    ∃ record, w.packages.records.get? name = some record ∧ record.enabled

/-! ## Restarts -/

variable {files : List Record}

omit [LinearOrder V] in
lemma readFiles_spec (nodup : (files.map Record.name).Nodup)
    (verified : ∀ record ∈ files, record.enabled → ∃ manifest, verify env record.package = .ok manifest)
    (read : Dict String Record × Dict String ModuleManifest) :
    ∃ out, files.foldlM (readFile env) read = .ok out ∧
      (∀ name, name ∉ files.map Record.name → out.1.get? name = read.1.get? name ∧ out.2.get? name = read.2.get? name) ∧
      ∀ record ∈ files, out.1.get? record.name = some record ∧
        (record.enabled → ∀ manifest, verify env record.package = .ok manifest → out.2.get? record.name = some manifest) ∧
        (¬ record.enabled → out.2.get? record.name = read.2.get? record.name) := by
  induction files generalizing read with
  | nil => exact ⟨read, rfl, fun _ _ => ⟨rfl, rfl⟩, fun record within => by cases within⟩
  | cons first files ih =>
    rw [List.map_cons, List.nodup_cons] at nodup
    rw [List.forall_mem_cons] at verified
    -- the first file is read into its own name only
    obtain ⟨next, reads, records, waits, idle, others⟩ : ∃ next, readFile env read first = .ok next ∧
        next.1.get? first.name = some first ∧
        (first.enabled → ∀ manifest, verify env first.package = .ok manifest → next.2.get? first.name = some manifest) ∧
        (¬ first.enabled → next.2 = read.2) ∧
        ∀ name, name ≠ first.name → next.1.get? name = read.1.get? name ∧ next.2.get? name = read.2.get? name := by
      by_cases on : first.enabled = true
      · obtain ⟨manifest, is⟩ := verified.1 on
        refine ⟨(read.1.set first.name first, read.2.set first.name manifest), ?_, ?_, fun _ other is' => ?_,
          fun off => absurd on off, fun name ne => ⟨?_, ?_⟩⟩
        · rw [readFile, if_pos on, is]
          rfl
        · rw [Dict.get?_set, if_pos rfl]
        · rw [is] at is'
          cases is'
          rw [Dict.get?_set, if_pos rfl]
        · rw [Dict.get?_set, if_neg ne.symm]
        · rw [Dict.get?_set, if_neg ne.symm]
      · refine ⟨(read.1.set first.name first, read.2), ?_, ?_, fun is => absurd is on, fun _ => rfl, fun name ne => ⟨?_, rfl⟩⟩
        · rw [readFile, if_neg on]
        · rw [Dict.get?_set, if_pos rfl]
        · rw [Dict.get?_set, if_neg ne.symm]
    obtain ⟨out, rest, untouched, each⟩ := ih nodup.2 verified.2 next
    refine ⟨out, ?_, fun name new => ?_, fun record within => ?_⟩
    · rw [List.foldlM_cons, reads]
      exact rest
    · rw [List.map_cons, List.mem_cons, not_or] at new
      obtain ⟨same, same'⟩ := untouched name new.2
      obtain ⟨was, was'⟩ := others name new.1
      exact ⟨same.trans was, same'.trans was'⟩
    · rcases List.mem_cons.1 within with rfl | within
      · obtain ⟨same, same'⟩ := untouched record.name nodup.1
        exact ⟨same.trans records, fun on manifest is => same'.trans (waits on manifest is), fun off => by rw [same', idle off]⟩
      · obtain ⟨there, on, off⟩ := each record within
        have ne : record.name ≠ first.name := fun same => nodup.1 (same ▸ List.mem_map_of_mem within)
        exact ⟨there, on, fun no => (off no).trans (others record.name ne).2⟩

lemma Installed.names (installed : Installed env w) (perm : files.Perm w.disk.values) :
    (files.map Record.name).Nodup := by
  have keys : w.disk.values.map Record.name = w.disk.keys := by
    rw [Dict.values, Dict.keys, List.map_map]
    refine List.map_congr_left fun e within => ?_
    have is : w.disk.get? e.1 = some e.2 := Dict.mem_entries_iff.1 within
    exact (installed.named e.1 e.2 ((installed.disk e.1).symm.trans is)).1
  rw [(perm.map Record.name).nodup_iff, keys]
  exact w.disk.nodup

lemma Installed.mem_files (installed : Installed env w) (perm : files.Perm w.disk.values) {record : Record} :
    record ∈ files ↔ w.packages.records.get? record.name = some record := by
  rw [perm.mem_iff, Dict.mem_values_iff, ← installed.disk]
  constructor
  · rintro ⟨name, is⟩
    rwa [(installed.named name record ((installed.disk name).symm.trans is)).1]
  · exact fun is => ⟨record.name, is⟩

lemma Installed.load (installed : Installed env w) (perm : files.Perm w.disk.values) :
    ∃ packages, load env files = .ok packages ∧
      (∀ name, packages.records.get? name = w.packages.records.get? name) ∧
      (∀ name, packages.registry.modules.get? name = w.packages.registry.modules.get? name) ∧
      packages.registry.systemVersions = env.systemVersions ∧ packages.registry.Consistent env.Version := by
  have nodup := installed.names perm
  obtain ⟨out, read, untouched, each⟩ := readFiles_spec nodup (fun record within on => by
    obtain ⟨manifest, is, -⟩ := installed.verified record.name record ((installed.mem_files perm).1 within) on
    exact ⟨manifest, is⟩) (∅, ∅)
  have records : ∀ name, out.1.get? name = w.packages.records.get? name := by
    intro name
    by_cases there : name ∈ files.map Record.name
    · obtain ⟨record, within, rfl⟩ := List.mem_map.1 there
      rw [(each record within).1, (installed.mem_files perm).1 within]
    · rw [(untouched name there).1]
      rcases is : w.packages.records.get? name with _ | record
      · rfl
      · have named := (installed.named name record is).1
        subst named
        exact absurd (List.mem_map_of_mem ((installed.mem_files perm).2 is)) there
  have pending : ∀ name manifest, out.2.get? name = some manifest ↔ w.packages.registry.modules.get? name = some manifest := by
    intro name manifest
    by_cases there : name ∈ files.map Record.name
    · obtain ⟨record, within, rfl⟩ := List.mem_map.1 there
      have is := (installed.mem_files perm).1 within
      by_cases on : record.enabled = true
      · obtain ⟨manifest', verifies, registered⟩ := installed.verified _ _ is on
        rw [(each record within).2.1 on manifest' verifies, registered]
      · rw [(each record within).2.2 on]
        refine ⟨fun none => (by cases none), fun registered => ?_⟩
        obtain ⟨record', is', on'⟩ := installed.enabled _ _ registered
        rw [is] at is'
        cases is'
        exact absurd on' on
    · rw [(untouched name there).2]
      refine ⟨fun none => (by cases none), fun registered => ?_⟩
      obtain ⟨record, is, -⟩ := installed.enabled _ _ registered
      have named := (installed.named name record is).1
      subst named
      exact absurd (List.mem_map_of_mem ((installed.mem_files perm).2 is)) there
  have start : Loading env w.packages.registry { systemVersions := env.systemVersions } out.2.entries := by
    refine ⟨⟨consistent_empty _, rfl, fun n other is => by cases is⟩, fun e within => ?_, out.2.nodup, fun n other is => ?_⟩
    · exact ⟨(pending e.1 e.2).1 (Dict.mem_entries_iff.1 within), rfl⟩
    · exact .inr (Dict.mem_entries_iff.2 ((pending n other).2 is))
  obtain ⟨registry, loads, loading⟩ := loadAll_spec installed.steady start le_rfl
  refine ⟨⟨out.1, registry⟩, ?_, records, fun name => ?_, loading.partly.versions, loading.partly.consistent⟩
  · rw [Modules.load, read]
    simp only [bind, Except.bind]
    rw [loads]
  · rcases is : w.packages.registry.modules.get? name with _ | manifest
    · rcases there : registry.modules.get? name with _ | manifest
      · rfl
      · rw [loading.partly.within _ _ there] at is
        cases is
    · exact (loading.all name manifest is).resolve_right List.not_mem_nil

lemma Steady.congr {r r' : ModuleRegistry} (steady : Steady env r) (consistent : r'.Consistent env.Version)
    (versions : r'.systemVersions = env.systemVersions) (same : ∀ name, r'.modules.get? name = r.modules.get? name) :
    Steady env r' := by
  refine ⟨consistent, versions, fun name manifest is d within => ?_⟩
  rw [Met, same]
  exact steady.met name manifest (same name ▸ is) d within

lemma Installed.congr (installed : Installed env w) (packages : ModulePackages)
    (records : ∀ name, packages.records.get? name = w.packages.records.get? name)
    (modules : ∀ name, packages.registry.modules.get? name = w.packages.registry.modules.get? name)
    (versions : packages.registry.systemVersions = env.systemVersions) (consistent : packages.registry.Consistent env.Version) :
    Installed env { w with packages := packages } where
  steady := installed.steady.congr consistent versions modules
  disk name := (installed.disk name).trans (records name).symm
  named name record is := installed.named name record (records name ▸ is)
  verified name record is on := by
    obtain ⟨manifest, verifies, registered⟩ := installed.verified name record (records name ▸ is) on
    exact ⟨manifest, verifies, (modules name).trans registered⟩
  enabled name manifest is := by
    obtain ⟨record, there, on⟩ := installed.enabled name manifest (modules name ▸ is)
    exact ⟨record, (records name).trans there, on⟩

/-! ## Requests -/

omit [LinearOrder V] in
lemma save_cases (w : World) (record : Record) (write : Write) (encodes : env.encodes record.package = true) :
    write = .done ∧ save env w record write = (.ok (), { w with disk := w.disk.set record.name record }) ∨
    write = .failed ∧ save env w record write = (.error .os, w) := by
  simp only [save, encodes, not_true_eq_false, if_false]
  cases write
  · exact .inl ⟨rfl, rfl⟩
  · exact .inr ⟨rfl, rfl⟩

variable {modules : Dict String ModuleManifest}

lemma get?_set_pop {name : String} {manifest : ModuleManifest}
    (is : modules.get? name = some manifest) (n : String) : ((modules.pop name).set name manifest).get? n = modules.get? n := by
  rw [Dict.get?_set]
  split
  · rename_i same
    rw [← same, is]
  · rename_i ne
    rw [Dict.get?_pop, if_neg ne]

lemma get?_pop_set {name : String} {manifest : ModuleManifest}
    (none : modules.get? name = none) (n : String) : ((modules.set name manifest).pop name).get? n = modules.get? n := by
  rw [Dict.get?_pop]
  split
  · rename_i same
    rw [← same, none]
  · rename_i ne
    rw [Dict.get?_set, if_neg ne]

namespace Installed

lemma not_registered (installed : Installed env w) {name : String}
    (off : ¬ (w.packages.records.get? name).any Record.enabled = true) : w.packages.registry.modules.get? name = none := by
  rcases is : w.packages.registry.modules.get? name with _ | manifest
  · rfl
  · obtain ⟨record, there, on⟩ := installed.enabled name manifest is
    rw [there] at off
    exact absurd on off

variable {package : Package} {write : Write} {manifest : ModuleManifest}

lemma register (installed : Installed env w) (orderly : Request.Orderly env (.install package write) w)
    (verifies : verify env package = .ok manifest) (new : w.packages.registry.modules.get? manifest.name = none)
    {registry : ModuleRegistry}
    (registers : w.packages.registry.registerModule env.Version manifest false = (.ok true, registry)) :
    Steady env registry ∧ (∀ n, registry.modules.get? n = (w.packages.registry.modules.set manifest.name manifest).get? n) := by
  obtain ⟨-, accepts, compares⟩ := orderly manifest verifies
  have accepted : Call.Accepted env.Version w.packages.registry (.register manifest false) :=
    fun name other is ne d within same => .inr (accepts name other is ne d within same).2
  have consistent := installed.steady.consistent.run accepted
  have outcome : w.packages.registry.registerModule env.Version manifest false = (.ok true, w.packages.registry.place manifest) ∧
      w.packages.registry.meetsAll env.Version manifest.name manifest.dependencies = .ok true := by
    rw [ModuleRegistry.registerModule] at registers ⊢
    dsimp only at registers ⊢
    split at registers
    · cases registers
    rename_i free
    rw [if_neg free]
    rcases met : w.packages.registry.meetsAll env.Version manifest.name manifest.dependencies with failure | _ | _
    all_goals simp only [met] at registers
    · cases registers
    · cases registers
    · split at registers
      · cases registers
      · rename_i other
        exact ⟨if_neg other, rfl⟩
  rw [Call.run, outcome.1] at consistent
  rw [outcome.1] at registers
  cases registers
  refine ⟨⟨consistent, installed.steady.versions, fun n other is d within => ?_⟩, fun n => rfl⟩
  have get? : ∀ n, (w.packages.registry.place manifest).modules.get? n =
      if manifest.name = n then some manifest else w.packages.registry.modules.get? n :=
    fun n => Dict.get?_set w.packages.registry.modules manifest.name n manifest
  have met : Met env w.packages.registry d ∧ (d.name = manifest.name → isSystemDependency d.name ∧
      Satisfies env.Version manifest.version d ∧ ∀ failure, fits env.Version (env.systemVersions.get? d.name) d ≠ .error failure) := by
    rw [get?] at is
    split at is
    · -- the dependencies of the new module have been looked at
      cases is
      have meets := meetsAll_eq_true outcome.2 d within
      obtain ⟨apart, met⟩ := met_of_meets installed.steady.versions meets (compares d within)
      exact ⟨met, fun same => absurd same apart⟩
    · rename_i ne
      have met := installed.steady.met n other is d within
      refine ⟨met, fun same => ?_⟩
      rcases met with ⟨other', there, -⟩ | ⟨-, system, fit⟩
      · rw [same, new] at there
        cases there
      · refine ⟨system, (accepts n other is (Ne.symm ne) d within same).2, fun failure raised => ?_⟩
        rw [fit] at raised
        cases raised
  rw [Met, get?]
  split
  · rename_i same
    obtain ⟨-, satisfies, raises⟩ := met.2 same.symm
    exact .inl ⟨manifest, rfl, fits_eq_true.2 satisfies, fun _ => raises⟩
  · exact met.1

lemma install (installed : Installed env w) (orderly : Request.Orderly env (.install package write) w) :
    Installed env (Modules.install env w package write).2 := by
  rw [Modules.install]
  split
  · exact installed
  rename_i manifest verifies
  split
  · exact installed
  rename_i off
  have new := installed.not_registered off
  split
  · exact installed
  · exact installed
  rename_i registry registers
  obtain ⟨encodes, accepts, -⟩ := orderly manifest verifies
  obtain ⟨steady, modules⟩ := installed.register orderly verifies new registers
  dsimp only
  rcases save_cases (w.setRegistry registry) ⟨manifest.name, true, package⟩ write encodes with
    ⟨-, saved⟩ | ⟨failed, saved⟩
  · rw [saved]
    refine ⟨steady, fun name => ?_, fun name record is => ?_, fun name record is on => ?_, fun name other is => ?_⟩
    · simp only [World.setRecord, World.setRegistry, Dict.get?_set, installed.disk]
    · simp only [World.setRecord, World.setRegistry, Dict.get?_set] at is
      split at is
      · rename_i same
        cases is
        exact ⟨same, encodes⟩
      · exact installed.named name record is
    · simp only [World.setRecord, World.setRegistry, Dict.get?_set] at is ⊢
      rw [modules, Dict.get?_set]
      split at is
      · cases is
        exact ⟨manifest, verifies, by rw [if_pos ‹_›]⟩
      · obtain ⟨other, verifies', there⟩ := installed.verified name record is on
        exact ⟨other, verifies', by rw [if_neg ‹_›, there]⟩
    · simp only [World.setRecord, World.setRegistry, Dict.get?_set] at is ⊢
      rw [modules, Dict.get?_set] at is
      by_cases same : manifest.name = name
      · exact ⟨_, if_pos same, rfl⟩
      · rw [if_neg same] at is ⊢
        exact installed.enabled name other is
  · -- nothing depends on the new module, so that it is taken back
    rw [saved]
    dsimp only [World.setRegistry]
    have consistent := steady.consistent.unregister manifest.name
    have free : registry.needed manifest.name = false := by
      rw [← Bool.not_eq_true]
      intro needed
      obtain ⟨other, within, depends⟩ := List.any_eq_true.1 needed
      obtain ⟨n, is⟩ := Dict.mem_values_iff.1 within
      obtain ⟨ne, depends⟩ := of_decide_eq_true depends
      obtain ⟨d, within', same⟩ := List.any_eq_true.1 depends
      have named := steady.consistent.named n other is
      rw [modules, Dict.get?_set, if_neg (by rw [← named]; exact ne.symm)] at is
      have done := (accepts n other is (by rw [← named]; exact ne) d within' (of_decide_eq_true same)).1
      rw [failed] at done
      cases done
    have there : registry.modules.get? manifest.name = some manifest := by rw [modules, Dict.get?_set, if_pos rfl]
    have removed : (registry.unregisterModule manifest.name).2 =
        { registry with
          modules := registry.modules.pop manifest.name
          capabilityIndex := manifest.capabilities.foldl (ModuleRegistry.withdraw manifest.name) registry.capabilityIndex } := by
      rw [ModuleRegistry.unregisterModule, there]
      simp only [free, Bool.false_eq_true, if_false]
    refine installed.congr ⟨w.packages.records, (registry.unregisterModule manifest.name).2⟩ (fun _ => rfl)
      (fun n => ?_) (by rw [removed]; exact steady.versions) consistent
    rw [removed]
    have popped : (registry.modules.pop manifest.name).get? n =
        ((w.packages.registry.modules.set manifest.name manifest).pop manifest.name).get? n := by
      rw [Dict.get?_pop, Dict.get?_pop, modules]
    exact popped.trans (get?_pop_set new n)

lemma uninstall (installed : Installed env w) (name : String) (write : Write) :
    Installed env (Modules.uninstall env w name write).2 := by
  rw [Modules.uninstall]
  split
  swap
  · exact installed
  rename_i previous registry is removal
  have consistent := installed.steady.consistent.unregister name
  obtain ⟨registry', removed⟩ : ∃ registry', registry' = (w.packages.registry.unregisterModule name).2 := ⟨_, rfl⟩
  rw [removal] at removed
  have removed : registry' = registry := removed
  subst removed
  rw [removal] at consistent
  -- the module leaves, and nothing else changes
  have popped : (∀ n, registry'.modules.get? n = (w.packages.registry.modules.pop name).get? n) ∧
      registry'.systemVersions = w.packages.registry.systemVersions ∧ w.packages.registry.needed name = false := by
    simp only [ModuleRegistry.unregisterModule, is] at removal
    split at removal
    · cases removal
    · rename_i free
      cases removal
      exact ⟨fun _ => rfl, rfl, Bool.eq_false_iff.2 free⟩
  obtain ⟨modules, versions, free⟩ := popped
  have partly : Partly env w.packages.registry registry' := by
    refine ⟨consistent, versions.trans installed.steady.versions, fun n other there => ?_⟩
    rw [modules, Dict.get?_pop] at there
    split at there
    · cases there
    · exact there
  have steady : Steady env registry' := by
    refine ⟨consistent, partly.versions, fun n other there d within => ?_⟩
    have ne : n ≠ name := by
      rintro rfl
      rw [modules, Dict.get?_pop, if_pos rfl] at there
      cases there
    have before := partly.within n other there
    have apart := ModuleRegistry.needed_eq_false free before
      (by rw [installed.steady.consistent.named n other before]; exact ne) d within
    rw [Met, modules, Dict.get?_pop, if_neg apart.symm]
    exact installed.steady.met n other before d within
  obtain ⟨record, there, on⟩ := installed.enabled name previous is
  obtain ⟨named, encodes⟩ := installed.named name record there
  dsimp only [World.setRegistry]
  rw [there]
  dsimp only
  rcases save_cases { w with packages := { w.packages with registry := registry' } } { record with enabled := false } write
    encodes with ⟨-, saved⟩ | ⟨-, saved⟩
  · rw [saved]
    refine ⟨steady, fun n => ?_, fun n other is' => ?_, fun n other is' on' => ?_, fun n other is' => ?_⟩
    · simp only [World.setRecord, Dict.get?_set, installed.disk]
    · simp only [World.setRecord, Dict.get?_set] at is'
      split at is'
      · rename_i same
        cases is'
        exact ⟨same, encodes⟩
      · exact installed.named n other is'
    · simp only [World.setRecord, Dict.get?_set] at is' ⊢
      split at is'
      · cases is'
        cases on'
      · rename_i ne
        obtain ⟨m, verifies, registered⟩ := installed.verified n other is' on'
        rw [named] at ne
        exact ⟨m, verifies, by rw [modules, Dict.get?_pop, if_neg ne, registered]⟩
    · simp only [World.setRecord, Dict.get?_set] at is' ⊢
      rw [named]
      rw [modules, Dict.get?_pop] at is'
      split at is'
      · cases is'
      · rename_i ne
        rw [if_neg ne]
        exact installed.enabled n other is'
  · -- it is registered again, since what it depends on has stayed
    rw [saved]
    dsimp only [World.setRegistry]
    have named' := installed.steady.consistent.named name previous is
    have is' : w.packages.registry.modules.get? previous.name = some previous := named' ▸ is
    rcases partly.register installed.steady is' true (.inl rfl) with ⟨registers, partly'⟩ | ⟨-, d, within, other, there', gone⟩
    · rw [registers]
      refine installed.congr ⟨w.packages.records, registry'.place previous⟩ (fun _ => rfl) (fun n => ?_) partly'.versions
        partly'.consistent
      have placed : (registry'.place previous).modules.get? n =
          ((w.packages.registry.modules.pop name).set name previous).get? n := by
        rw [ModuleRegistry.place, Dict.get?_set, Dict.get?_set, modules, named']
      exact placed.trans (get?_set_pop is n)
    · refine absurd ?_ gone
      rw [modules, Dict.get?_pop, if_neg, there']
      exact (not_self installed.steady.consistent is d within).symm

end Installed

/-! ## Runs -/

lemma Step.installed {request : Request} {w' : World} (step : Step env request w w') (orderly : request.Orderly env w)
    (installed : Installed env w) : Installed env w' := by
  cases step with
  | install _ package write => exact installed.install orderly
  | uninstall _ name write => exact installed.uninstall name write
  | restart _ files packages perm loads =>
    obtain ⟨packages', loads', records, modules, versions, consistent⟩ := installed.load perm
    rw [loads] at loads'
    cases loads'
    exact installed.congr packages records modules versions consistent

lemma installed_fresh : Installed env (World.fresh env) where
  steady := ⟨consistent_empty _, rfl, fun _ _ is => by cases is⟩
  disk _ := rfl
  named _ _ is := by cases is
  verified _ _ is := by cases is
  enabled _ _ is := by cases is

/-- **Installed modules survive a restart**: in any order of the files, it loads the modules that are registered, and the
same of them provide each capability. -/
theorem modules_survive_restart {V : Type} [LinearOrder V] (env : Env V) : ∀ w, Reached env (Request.Orderly env) w →
    ∀ files, files.Perm w.disk.values → ∃ packages, load env files = .ok packages ∧
      (∀ name, packages.registry.modules.get? name = w.packages.registry.modules.get? name) ∧
      ∀ capability name, name ∈ packages.registry.getCapabilities capability ↔
        name ∈ w.packages.registry.getCapabilities capability := by
  intro w reached files perm
  have installed : Installed env w := by
    refine reached.invariant ?_ ?_
    · rintro _ rfl
      exact installed_fresh
    · rintro w w' installed ⟨request, orderly, step⟩
      exact step.installed orderly installed
  obtain ⟨packages, loads, -, modules, -, consistent⟩ := installed.load perm
  refine ⟨packages, loads, modules, fun capability name => ?_⟩
  rw [consistent.indexed, installed.steady.consistent.indexed, modules]

/-! ## Played runs -/

/-- Keys and encodings with which everything is verified. -/
def signed : Env ℕ where
  Version := versions
  Key := Unit
  Bytes := Unit
  keys := (∅ : Dict String Unit).set "owner" ()
  loadPemPublicKey _ := .ok (.ed25519 ())
  canonical _ _ := .ok ()
  b64decode _ := .ok ()
  verifies _ _ _ := true
  digit _ := false
  repr _ := ""
  encodes _ := true
  systemVersions := (∅ : Dict String String).set "core_runtime" "2.0.0"

/-- A package of a module that depends on the system, and one of a module that is named like it. -/
def narratorPackage : Package where
  manifest := .dict [("name", .str "narrator"), ("version", .str "1.0.0"), ("dependencies", .list [.str "core_runtime"])]
  files := []
  signer := "owner"
  signature := ""

def corePackage : Package where
  manifest := .dict [("name", .str "core_runtime"), ("version", .str "1.0.0")]
  files := []
  signer := "owner"
  signature := ""

def narrated : World := (install signed (World.fresh signed) narratorPackage .done).2

theorem modules_survive_restart_narrated : ∃ packages, load signed narrated.disk.values = .ok packages ∧
    (∀ name, packages.registry.modules.get? name = narrated.packages.registry.modules.get? name) ∧
    ∀ capability name, name ∈ packages.registry.getCapabilities capability ↔
      name ∈ narrated.packages.registry.getCapabilities capability := by
  refine modules_survive_restart signed narrated (.step (.init rfl)
    ⟨.install narratorPackage .done, fun manifest _ => ⟨rfl, fun _ _ is => ?_, fun _ _ there => ?_⟩, .install _ _ _⟩)
    _ (List.Perm.refl _)
  · cases is
  · cases there

def stuck : World := (install signed narrated corePackage .failed).2

/-- **A module that could not be saved stays registered**, since another one depends on its name; a restart forgets it. -/
theorem modules_lost_by_restart : ∃ w, Reached signed (fun _ _ => True) w ∧ ∃ files, files.Perm w.disk.values ∧
    ¬ ∃ packages, load signed files = .ok packages ∧
      ∀ name, packages.registry.modules.get? name = w.packages.registry.modules.get? name := by
  refine ⟨stuck, .step (.step (.init rfl) ⟨.install narratorPackage .done, trivial, .install _ _ _⟩)
    ⟨.install corePackage .failed, trivial, .install _ _ _⟩, _, List.Perm.refl _, ?_⟩
  rintro ⟨packages, loads, same⟩
  have loaded : (load signed stuck.disk.values).toOption.map (fun p => p.registry.modules.get? "core_runtime") = some none := by
    decide +kernel
  have running : (stuck.packages.registry.modules.get? "core_runtime").isSome = true := by decide +kernel
  have loaded : packages.registry.modules.get? "core_runtime" = none := by
    rw [loads] at loaded
    exact Option.some.inj loaded
  rw [← same, loaded] at running
  cases running

end Vertep.Modules
