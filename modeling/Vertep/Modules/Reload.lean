import Vertep.Modules.Consistency
import Vertep.Modules.Packages

/-!
# Installed modules survive a restart (`core/module/packages.py`)

The modules that are registered are those whose records are enabled, on the disk as in memory. A module that the loader
comes to before one that it depends on waits for the next round, and there is always one that waits for none: so the
order of the files does not matter. The exception are modules that are named like a dependency on the system, since a
module that depends on the name may be registered without them.
-/

namespace Vertep.Modules
open Lib Relation

variable {V : Type} [LinearOrder V] {env : Env V}

/-! ## The dependencies of what is registered -/

/-- A dependency is met by the module that is registered, or by the system; and where it may be the system it can be
compared with it. -/
def Met (env : Env V) (r : ModuleRegistry) (d : Dependency) : Prop :=
  (∃ other, r.modules.get? d.name = some other ∧ fits env.Version (some other.version) d = .ok true ∧
    (isSystemDependency d.name → ∀ failure, fits env.Version (env.systemVersions.get? d.name) d ≠ .error failure)) ∨
  r.modules.get? d.name = none ∧ isSystemDependency d.name ∧ fits env.Version (env.systemVersions.get? d.name) d = .ok true

/-- What is registered is consistent, whatever is a system dependency. -/
structure Steady (env : Env V) (r : ModuleRegistry) : Prop where
  consistent : r.Consistent env.Version
  versions : r.systemVersions = env.systemVersions
  met : ∀ name manifest, r.modules.get? name = some manifest → ∀ d ∈ manifest.dependencies, Met env r d

variable {R r : ModuleRegistry} {manifest : ModuleManifest} {name : String}

lemma not_self (consistent : r.Consistent env.Version) (is : r.modules.get? name = some manifest) :
    ∀ d ∈ manifest.dependencies, d.name ≠ name := by
  intro d within same
  refine consistent.acyclic name (.single ?_)
  rw [Edge, ModuleRegistry.graph, is]
  exact List.mem_map.2 ⟨d, within, same⟩

lemma meetsAll_of_meets {dependencies : List Dependency} (met : ∀ d ∈ dependencies, r.meets env.Version name d = .ok true) :
    r.meetsAll env.Version name dependencies = .ok true := by
  induction dependencies with
  | nil => rfl
  | cons d dependencies ih =>
    rw [List.forall_mem_cons] at met
    rw [ModuleRegistry.meetsAll, met.1]
    exact ih met.2

lemma meetsAll_ok {dependencies : List Dependency} (ok : ∀ d ∈ dependencies, ∃ b, r.meets env.Version name d = .ok b) :
    ∃ b, r.meetsAll env.Version name dependencies = .ok b := by
  induction dependencies with
  | nil => exact ⟨true, rfl⟩
  | cons d dependencies ih =>
    rw [List.forall_mem_cons] at ok
    obtain ⟨b, is⟩ := ok.1
    rw [ModuleRegistry.meetsAll, is]
    cases b
    · exact ⟨false, rfl⟩
    · exact ih ok.2

lemma contains_iff {d : String} : r.modules.contains d = true ↔ ∃ other, r.modules.get? d = some other := by
  rw [Dict.contains, Option.isSome_iff_exists]

lemma met_of_meets (versions : r.systemVersions = env.systemVersions) {d : Dependency}
    (meets : r.meets env.Version name d = .ok true)
    (compares : r.modules.contains d.name → isSystemDependency d.name →
      ∀ failure, fits env.Version (env.systemVersions.get? d.name) d ≠ .error failure) : d.name ≠ name ∧ Met env r d := by
  rw [ModuleRegistry.meets] at meets
  split at meets
  · cases meets
  rename_i apart
  refine ⟨apart, ?_⟩
  split at meets
  · cases meets
  rename_i there
  rcases is : r.modules.get? d.name with _ | other
  · rw [ModuleRegistry.versionOf, is, versions] at meets
    have system : isSystemDependency d.name = true := by
      by_contra no
      refine there ⟨?_, no⟩
      rw [contains_iff, is]
      rintro ⟨_, none⟩
      cases none
    exact .inr ⟨is, system, meets⟩
  · rw [ModuleRegistry.versionOf, is] at meets
    exact .inl ⟨other, is, meets, compares (contains_iff.2 ⟨other, is⟩)⟩

/-! ## A module among those that are loaded -/

lemma acyclic_of_within (steady : Steady env R)
    (within : ∀ n other, r.modules.get? n = some other → R.modules.get? n = some other) : Acyclic r.graph := by
  intro node path
  refine steady.consistent.acyclic node (TransGen.mono (fun x y edge => ?_) _ _ path)
  simp only [Edge, ModuleRegistry.graph] at edge ⊢
  rcases is : r.modules.get? x with _ | other
  · rw [is] at edge
    cases edge
  · rw [is] at edge
    rw [within x other is]
    exact edge

lemma not_cyclic (acyclic : Acyclic r.graph) : cyclicFrom r.graph r.modules.keys name = false := by
  refine acyclic.search (fun node some => ?_) name
  rw [Dict.mem_keys_iff]
  rcases is : r.modules.get? node with _ | other
  · rw [ModuleRegistry.graph, is] at some
    exact absurd rfl some
  · exact ⟨other, rfl⟩

/-- Some of the modules of a steady registry are loaded. -/
structure Partly (env : Env V) (R r : ModuleRegistry) : Prop where
  consistent : r.Consistent env.Version
  versions : r.systemVersions = env.systemVersions
  within : ∀ n other, r.modules.get? n = some other → R.modules.get? n = some other

lemma Partly.set_within (partly : Partly env R r) (is : R.modules.get? manifest.name = some manifest) :
    ∀ n other, (r.modules.set manifest.name manifest).get? n = some other → R.modules.get? n = some other := by
  intro n other there
  rw [Dict.get?_set] at there
  split at there
  · rename_i same
    cases there
    exact same ▸ is
  · exact partly.within n other there

lemma Partly.meets (steady : Steady env R) (partly : Partly env R r) (is : R.modules.get? manifest.name = some manifest)
    {d : Dependency} (within : d ∈ manifest.dependencies) :
    (∃ b, r.meets env.Version manifest.name d = .ok b) ∧
    ((∀ other, R.modules.get? d.name = some other → r.modules.get? d.name = some other) →
      r.meets env.Version manifest.name d = .ok true) := by
  have apart : d.name ≠ manifest.name := not_self steady.consistent is d within
  have unfolded : r.meets env.Version manifest.name d =
      if ¬ r.modules.contains d.name ∧ ¬ isSystemDependency d.name then .ok false
      else fits env.Version (r.versionOf d.name) d := by
    rw [ModuleRegistry.meets, if_neg apart]
  rw [unfolded]
  rcases there : r.modules.get? d.name with _ | other
  · have absent : ¬ r.modules.contains d.name = true := by
      rw [contains_iff, there]
      rintro ⟨_, none⟩
      cases none
    have version : r.versionOf d.name = env.systemVersions.get? d.name := by
      rw [ModuleRegistry.versionOf, there, partly.versions]
    rw [version]
    rcases steady.met _ _ is d within with ⟨other, registered, -, compares⟩ | ⟨-, system, met⟩
    · refine ⟨?_, fun loaded => by cases (loaded other registered)⟩
      split
      · exact ⟨false, rfl⟩
      · rename_i known
        have system : isSystemDependency d.name = true := by
          by_contra no
          exact known ⟨absent, no⟩
        rcases outcome : fits env.Version (env.systemVersions.get? d.name) d with failure | b
        · exact absurd outcome (compares system failure)
        · exact ⟨b, rfl⟩
    · rw [if_neg (fun no => no.2 system), met]
      exact ⟨⟨true, rfl⟩, fun _ => rfl⟩
  · have version : r.versionOf d.name = some other.version := by rw [ModuleRegistry.versionOf, there]
    rw [version, if_neg (fun no => no.1 (contains_iff.2 ⟨other, there⟩))]
    rcases steady.met _ _ is d within with ⟨other', registered, fit, -⟩ | ⟨none, -, -⟩
    · rw [partly.within _ _ there] at registered
      cases registered
      exact ⟨⟨true, fit⟩, fun _ => fit⟩
    · rw [partly.within _ _ there] at none
      cases none

lemma Partly.accepted (steady : Steady env R) (partly : Partly env R r) (is : R.modules.get? manifest.name = some manifest)
    (force : Bool) : Call.Accepted env.Version r (.register manifest force) := by
  intro n other there _ d within same
  rcases steady.met _ _ (partly.within n other there) d within with ⟨other', registered, fit, -⟩ | ⟨none, -, -⟩
  · rw [same, is] at registered
    cases registered
    exact .inr (fits_eq_true.1 fit)
  · rw [same, is] at none
    cases none

lemma Partly.place (steady : Steady env R) (partly : Partly env R r) (is : R.modules.get? manifest.name = some manifest)
    (met : r.meetsAll env.Version manifest.name manifest.dependencies = .ok true) : Partly env R (r.place manifest) where
  consistent := partly.consistent.place
    (not_cyclic (acyclic_of_within (r := { r with modules := r.modules.set manifest.name manifest }) steady (partly.set_within is)))
    met (partly.accepted steady is true)
  versions := partly.versions
  within := partly.set_within is

lemma Partly.register (steady : Steady env R) (partly : Partly env R r) (is : R.modules.get? manifest.name = some manifest)
    (force : Bool) (new : force = true ∨ r.modules.get? manifest.name = none) :
    r.registerModule env.Version manifest force = (.ok true, r.place manifest) ∧ Partly env R (r.place manifest) ∨
    r.registerModule env.Version manifest force = (.ok false, r) ∧
      ∃ d ∈ manifest.dependencies, ∃ other, R.modules.get? d.name = some other ∧ r.modules.get? d.name ≠ some other := by
  have free : cyclicFrom ({ r with modules := r.modules.set manifest.name manifest } : ModuleRegistry).graph
      (r.modules.set manifest.name manifest).keys manifest.name = false :=
    not_cyclic (acyclic_of_within steady (partly.set_within is))
  obtain ⟨b, outcome⟩ := meetsAll_ok fun d within => (partly.meets steady is within).1
  have registers : r.registerModule env.Version manifest force =
      if b then (.ok true, r.place manifest) else (.ok false, r) := by
    rw [ModuleRegistry.registerModule]
    dsimp only
    rw [free, if_neg Bool.false_ne_true, outcome]
    cases b with
    | false => rfl
    | true =>
      refine if_neg ?_
      rintro ⟨other, same⟩
      rcases new with rfl | none
      · exact other rfl
      · rw [none] at same
        cases same
  rw [registers]
  cases b with
  | true => exact .inl ⟨rfl, partly.place steady is outcome⟩
  | false =>
    refine .inr ⟨rfl, ?_⟩
    by_contra none
    push Not at none
    have met := meetsAll_of_meets fun d within => (partly.meets steady is within).2 (none d within)
    rw [met] at outcome
    cases outcome

/-! ## The rounds -/

/-- The rest of the modules of a steady registry is pending. -/
structure Loading (env : Env V) (R r : ModuleRegistry) (pending : List (String × ModuleManifest)) : Prop where
  partly : Partly env R r
  waiting : ∀ e ∈ pending, R.modules.get? e.1 = some e.2 ∧ r.modules.get? e.1 = none
  nodup : (pending.map Prod.fst).Nodup
  all : ∀ n other, R.modules.get? n = some other → r.modules.get? n = some other ∨ (n, other) ∈ pending

variable {pending left kept todo : List (String × ModuleManifest)}

/-- A round that has come to `todo`, and has kept back some modules. -/
lemma loadRound_spec (steady : Steady env R) (loading : Loading env R r (kept ++ todo)) :
    ∃ left r', loadRound env todo r = .ok (left, r') ∧ Loading env R r' (kept ++ left) ∧ left.Sublist todo ∧
      ∀ e ∈ todo, (∀ d ∈ e.2.dependencies, ∀ other, R.modules.get? d.name = some other →
        r.modules.get? d.name = some other) → e ∉ left := by
  induction todo generalizing r kept with
  | nil => exact ⟨[], r, rfl, loading, List.Sublist.refl _, fun e within => by cases within⟩
  | cons first todo ih =>
    obtain ⟨n, m⟩ := first
    obtain ⟨is, new⟩ := loading.waiting (n, m) (List.mem_append_right _ List.mem_cons_self)
    have named : m.name = n := steady.consistent.named n m is
    subst named
    have distinct := loading.nodup
    rw [List.map_append, List.map_cons, List.nodup_middle, List.nodup_cons, ← List.map_append] at distinct
    rcases loading.partly.register steady is false (.inr new) with ⟨registers, partly⟩ | ⟨registers, d, within, other, there, missing⟩
    · have next : Loading env R (r.place m) (kept ++ todo) := by
        refine ⟨partly, fun e within => ?_, distinct.2, fun n' other there => ?_⟩
        · have before : e ∈ kept ++ (m.name, m) :: todo :=
            (List.Sublist.append_left (List.sublist_cons_self _ _) kept).subset within
          refine ⟨(loading.waiting e before).1, ?_⟩
          have ne : ¬ m.name = e.1 := fun same => distinct.1 (List.mem_map.2 ⟨e, within, same.symm⟩)
          exact (Dict.get?_set r.modules m.name e.1 m).trans ((if_neg ne).trans (loading.waiting e before).2)
        · have placed : (r.place m).modules.get? n' = if m.name = n' then some m else r.modules.get? n' :=
            Dict.get?_set r.modules m.name n' m
          rw [placed]
          by_cases same : m.name = n'
          · subst same
            rw [is] at there
            exact .inl (by rw [if_pos rfl, there])
          · rw [if_neg same]
            rcases loading.all n' other there with loaded | waits
            · exact .inl loaded
            · refine .inr ?_
              rcases List.mem_append.1 waits with before | after
              · exact List.mem_append_left _ before
              · rcases List.mem_cons.1 after with first | later
                · exact absurd (Prod.mk.inj first).1.symm same
                · exact List.mem_append_right _ later
      obtain ⟨left, r', round, loading', fewer, done⟩ := ih next
      refine ⟨left, r', ?_, loading', fewer.cons _, fun e within ready => ?_⟩
      · rw [loadRound, registers]
        exact round
      · rcases List.mem_cons.1 within with rfl | within
        · exact fun there => distinct.1 (List.mem_map_of_mem (List.mem_append_right _ (fewer.subset there)))
        · refine done e within fun d within other there => ?_
          have loaded := ready d within other there
          have ne : ¬ m.name = d.name := fun same => by
            rw [← same, new] at loaded
            cases loaded
          exact (Dict.get?_set r.modules m.name d.name m).trans ((if_neg ne).trans loaded)
    · have split : kept ++ (m.name, m) :: todo = (kept ++ [(m.name, m)]) ++ todo := by simp
      rw [split] at loading
      obtain ⟨left, r', round, loading', fewer, done⟩ := ih loading
      refine ⟨(m.name, m) :: left, r', ?_, by simpa using loading', fewer.cons_cons _, fun e within ready => ?_⟩
      · rw [loadRound, registers]
        simp [round, bind, Except.bind]
      · rcases List.mem_cons.1 within with rfl | within
        · exact absurd (ready d ‹d ∈ m.dependencies› other there) missing
        · intro there'
          rcases List.mem_cons.1 there' with rfl | later
          · have twice : m.name ∈ (kept ++ todo).map Prod.fst := List.mem_map_of_mem (List.mem_append_right _ within)
            exact distinct.1 twice
          · exact done e within ready later

lemma loadAll_spec (steady : Steady env R) {rounds : ℕ} (loading : Loading env R r pending) (enough : pending.length ≤ rounds) :
    ∃ r', loadAll env rounds pending r = .ok r' ∧ Loading env R r' [] := by
  induction rounds generalizing pending r with
  | zero =>
    have none : pending = [] := List.length_eq_zero_iff.1 (Nat.le_zero.1 enough)
    subst none
    exact ⟨r, by rw [loadAll], loading⟩
  | succ rounds ih =>
    rcases pending with _ | ⟨first, others⟩
    · exact ⟨r, by rw [loadAll], loading⟩
    have start : Loading env R r ([] ++ first :: others) := loading
    obtain ⟨left, r', round, loading', fewer, done⟩ := loadRound_spec steady start
    have some : (first :: others).map Prod.fst ≠ [] := by simp
    obtain ⟨_, named, waits⟩ := steady.consistent.acyclic.minimal some
    obtain ⟨⟨n, m⟩, within, rfl⟩ := List.mem_map.1 named
    have is := (loading.waiting (n, m) within).1
    have gone : (n, m) ∉ left := by
      refine done (n, m) within fun d within other there => ?_
      refine (loading.all d.name other there).resolve_right fun pending => ?_
      refine waits d.name ?_ (List.mem_map.2 ⟨_, pending, rfl⟩)
      rw [ModuleRegistry.graph, is]
      exact List.mem_map.2 ⟨d, within, rfl⟩
    have shorter : left.length < (first :: others).length := by
      refine lt_of_le_of_ne fewer.length_le fun same => gone ?_
      rw [fewer.eq_of_length same]
      exact within
    have loading' : Loading env R r' left := loading'
    obtain ⟨r'', rest, loading''⟩ := ih loading' (by omega)
    refine ⟨r'', ?_, loading''⟩
    rw [loadAll]
    · simp only [round, bind, Except.bind]
      rw [if_neg (by omega), rest]
    · simp

end Vertep.Modules
