import Vertep.Core.Inputs
import Vertep.Core.Plan

/-!
# The inputs of a re-assembly

Embedding of `_collect_reassembly_inputs` (`core/pipeline.py`), which a video regeneration renders from, beside
`_ordered_scene_files`, which the first assembly and its retries render from. `hashlib` is a parameter; of the event only
its text is kept.
-/

namespace Vertep.Core
open Lib

/-! ## The code -/

/-- An artifact record, with what a re-assembly checks. -/
structure RenderArtifact extends PlannedArtifact where
  filename : String
  sha256 : String
deriving DecidableEq

/-- A Job, by what both traversals read of it. -/
structure RenderJob where
  jobId : String
  taskType : String := "image"
  scenes : List PlannedScene := []
  artifacts : List RenderArtifact := []

variable {scene : PlannedScene} {f : PlannedScene → String} {scenes : List PlannedScene} {found : Dict ℕ String}

namespace RenderJob

variable (job : RenderJob)

/-- The Job as the first assembly sees it. -/
def planned : PlannedJob where
  jobId := job.jobId
  taskType := job.taskType
  scenes := job.scenes
  artifacts := job.artifacts.map RenderArtifact.toPlannedArtifact

/-- The one kind in `accepted`. -/
def accepted : String := if job.taskType = "video" then "video_scene" else "image"

/-- `by_id`: of artifacts with one id a dict keeps the last. -/
def byId (id : String) : Option RenderArtifact := job.artifacts.reverse.find? fun a => a.artifactId = id

def resolved (scene : PlannedScene) : List RenderArtifact := scene.artifactIds.filterMap job.byId

def registered (scene : PlannedScene) : List RenderArtifact := (job.resolved scene).filter fun a => a.kind = job.accepted

def inOrder : List PlannedScene := job.scenes.mergeSort fun a b => a.index ≤ b.index

variable (d : JobDirectory) (digest : ByteArray → String)

/-- The input of a scene, or why there is none. -/
def input (scene : PlannedScene) : Except String String :=
  if scene.artifactIds.getLast?.any fun newest => (job.byId newest).isNone then
    .error ("scene " ++ toString scene.index ++ " (current artifact id unresolved)")
  else
    match (job.registered scene).getLast? with
    | none =>
      if job.resolved scene = [] then .error ("scene " ++ toString scene.index ++ " (no registered artifact)")
      else .error ("scene " ++ toString scene.index ++ " (no required \x7b'" ++ job.accepted ++ "'\x7d artifact)")
    | some current =>
      match d.read current.path with
      | none => .error (current.artifactId ++ " (missing)")
      | some data =>
        if current.sha256 ≠ "" ∧ digest data ≠ current.sha256 then .error (current.filename ++ " (integrity)")
        else .ok current.path

/-- A scene is looked at. -/
def collectScene (found : Dict ℕ String × List String) (scene : PlannedScene) : Dict ℕ String × List String :=
  match job.input d digest scene with
  | .error why => (found.1, found.2 ++ [why])
  | .ok path => (found.1.set scene.index path, found.2)

/-- `_collect_reassembly_inputs`: the inputs, and the event if there is one. -/
def collect : List String × Option String :=
  let found := job.inOrder.foldl (job.collectScene d digest) (∅, [])
  if found.2 ≠ [] then ([], some ("RE-ASSEMBLY ARTIFACTS REJECTED: " ++ ", ".intercalate found.2))
  else ((found.1.keys.mergeSort (· ≤ ·)).filterMap found.1.get?, none)

/-! ## What is claimed -/

/-- The file of an artifact is what was registered. -/
def Intact (a : RenderArtifact) : Prop := ∃ data, d.read a.path = some data ∧ digest data = a.sha256

/-- Every scene has artifacts, whose files are what was registered. -/
structure Registered : Prop where
  ids : (job.artifacts.map fun a => a.artifactId).Nodup
  scenes : ∀ scene ∈ job.scenes, scene.artifactIds ≠ [] ∧
    ∀ id ∈ scene.artifactIds, ∃ a ∈ job.artifacts, a.artifactId = id ∧ Intact d digest a

/-- Both traversals return the current artifacts of the scenes, one of each scene in their order. -/
def SameInputs : Prop := (job.collect d digest).1 = sceneFiles job.planned d ∧
  List.Forall₂ (fun scene file => ((job.registered scene).getLast?).map (fun a => a.path) = some file) job.inOrder
    (job.collect d digest).1

/-- Each scene has an index of its own and one artifact of the kind. -/
structure Single : Prop where
  indices : (job.scenes.map PlannedScene.index).Nodup
  one : ∀ scene ∈ job.scenes, (job.registered scene).length = 1

/-! ## One scene -/

variable {job d digest}

lemma byId_of_mem (reg : job.Registered d digest) {a : RenderArtifact} (within : a ∈ job.artifacts) :
    job.byId a.artifactId = some a := by
  have nodup : (job.artifacts.reverse.map fun a => a.artifactId).Nodup := by
    rw [List.map_reverse]
    exact List.nodup_reverse.2 reg.ids
  obtain ⟨b, found⟩ := Option.isSome_iff_exists.1 (List.find?_isSome (p := fun b : RenderArtifact => b.artifactId = a.artifactId)
    |>.2 ⟨a, List.mem_reverse.2 within, by simp⟩)
  have same : b.artifactId = a.artifactId := by simpa using List.find?_some found
  rw [byId, found, List.inj_on_of_nodup_map nodup (List.mem_of_find?_eq_some found) (List.mem_reverse.2 within) same]

lemma find?_planned (reg : job.Registered d digest) {a : RenderArtifact} (within : a ∈ job.artifacts) :
    (job.planned.artifacts.find? fun b => b.artifactId = a.artifactId ∧ b.kind = job.accepted) =
      if a.kind = job.accepted then some a.toPlannedArtifact else none := by
  rw [planned, List.find?_map]
  split
  · rename_i kind
    obtain ⟨b, found⟩ := Option.isSome_iff_exists.1 (List.find?_isSome
      (p := (fun b : PlannedArtifact => decide (b.artifactId = a.artifactId ∧ b.kind = job.accepted)) ∘
        RenderArtifact.toPlannedArtifact) |>.2 ⟨a, within, by simp [kind]⟩)
    have same := List.find?_some found
    simp only [Function.comp_apply, decide_eq_true_eq] at same
    rw [found, List.inj_on_of_nodup_map reg.ids (List.mem_of_find?_eq_some found) within same.1]
    rfl
  · rename_i kind
    rw [List.find?_eq_none.2]
    · rfl
    · intro b there same
      simp only [Function.comp_apply, decide_eq_true_eq] at same
      rw [List.inj_on_of_nodup_map reg.ids there within same.1] at same
      exact kind same.2

lemma registered_eq (reg : job.Registered d digest) (within : scene ∈ job.scenes) :
    (scene.artifactIds.filterMap fun id =>
      ((job.planned.artifacts.find? fun a => a.artifactId = id ∧ a.kind = job.accepted).map
        PlannedArtifact.path).filter fun path => (d.read path).isSome) = (job.registered scene).map fun a => a.path := by
  obtain ⟨-, ids⟩ := reg.scenes scene within
  rw [registered, resolved]
  generalize scene.artifactIds = known at ids
  induction known with
  | nil => rfl
  | cons id known ih =>
    obtain ⟨a, there, rfl, data, file, -⟩ := ids id List.mem_cons_self
    have rest := ih fun id within => ids id (List.mem_cons_of_mem _ within)
    rw [List.filterMap_cons, List.filterMap_cons, find?_planned reg there, byId_of_mem reg there]
    by_cases kind : a.kind = job.accepted
    · rw [if_pos kind]
      simp only [Option.map_some, Option.filter_some, file, Option.isSome_some, if_true, rest]
      rw [List.filter_cons_of_pos (by simpa using kind), List.map_cons]
    · rw [if_neg kind]
      simp only [Option.map_none, Option.filter_none, rest]
      rw [List.filter_cons_of_neg (by simpa using kind)]

lemma sceneFiles_eq (reg : job.Registered d digest) :
    sceneFiles job.planned d = job.inOrder.flatMap fun scene => (job.registered scene).map fun a => a.path := by
  rw [sceneFiles, inOrder]
  refine List.flatMap_congr fun scene within => ?_
  exact registered_eq reg (List.mem_mergeSort.1 within)

lemma input_eq (reg : job.Registered d digest) (within : scene ∈ job.scenes) :
    (∃ a, (job.registered scene).getLast? = some a ∧ job.input d digest scene = .ok a.path) ∨
    (job.registered scene).getLast? = none ∧ ∃ why, job.input d digest scene = .error why := by
  obtain ⟨-, ids⟩ := reg.scenes scene within
  have known : (scene.artifactIds.getLast?.any fun newest => (job.byId newest).isNone) = false := by
    rcases last : scene.artifactIds.getLast? with _ | newest
    · rfl
    · obtain ⟨a, there, rfl, -⟩ := ids newest (List.mem_of_getLast? last)
      simp [byId_of_mem reg there]
  rw [input, known]
  simp only [Bool.false_eq_true, if_false]
  rcases last : (job.registered scene).getLast? with _ | a
  · refine .inr ⟨rfl, ?_⟩
    dsimp only
    split
    · exact ⟨_, rfl⟩
    · exact ⟨_, rfl⟩
  · have chosen := List.mem_of_getLast? last
    rw [registered, List.mem_filter, resolved, List.mem_filterMap] at chosen
    obtain ⟨⟨id, named, found⟩, -⟩ := chosen
    obtain ⟨b, there, rfl, data, file, same⟩ := ids id named
    obtain rfl := Option.some.inj (found.symm.trans (byId_of_mem reg there))
    refine .inl ⟨a, rfl, ?_⟩
    simp [file, same]

/-! ## All scenes -/

lemma mem_inOrder : scene ∈ job.inOrder ↔ scene ∈ job.scenes := List.mem_mergeSort

lemma inOrder_perm : job.inOrder.Perm job.scenes := List.mergeSort_perm _ _

lemma collect_found (has : ∀ scene ∈ scenes, job.input d digest scene = .ok (f scene)) (found : Dict ℕ String) :
    scenes.foldl (job.collectScene d digest) (found, []) =
      (scenes.foldl (fun found scene => found.set scene.index (f scene)) found, []) := by
  induction scenes generalizing found with
  | nil => rfl
  | cons scene scenes ih =>
    rw [List.foldl_cons, List.foldl_cons, collectScene, has scene List.mem_cons_self]
    exact ih (fun other within => has other (List.mem_cons_of_mem _ within)) _

lemma keys_foldl_set {index : ℕ}
    (within : index ∈ (scenes.foldl (fun found scene => found.set scene.index (f scene)) found).keys) :
    index ∈ found.keys ∨ index ∈ scenes.map PlannedScene.index := by
  induction scenes generalizing found with
  | nil => exact .inl within
  | cons scene scenes ih =>
    rw [List.map_cons, List.mem_cons]
    rcases ih within with there | later
    · rcases Dict.mem_keys_set.1 there with rfl | before
      · exact .inr (.inl rfl)
      · exact .inl before
    · exact .inr (.inr later)

lemma entries_foldl_set (apart : (found.keys ++ scenes.map PlannedScene.index).Nodup) :
    (scenes.foldl (fun found scene => found.set scene.index (f scene)) found).entries =
      found.entries ++ scenes.map fun scene => (scene.index, f scene) := by
  induction scenes generalizing found with
  | nil => rw [List.map_nil, List.append_nil]; rfl
  | cons scene scenes ih =>
    rw [List.map_cons, ← List.singleton_append, ← List.append_assoc] at apart
    have new : scene.index ∉ found.keys := by
      have := (List.nodup_append.1 apart).1
      intro within
      exact (List.nodup_append.1 this).2.2 _ within _ (List.mem_singleton.2 rfl) rfl
    have entries := Dict.entries_set_of_not_mem (v := f scene) new
    have keys : (found.set scene.index (f scene)).keys = found.keys ++ [scene.index] := by
      rw [Dict.keys, entries, List.map_append]
      rfl
    rw [List.foldl_cons, ih (keys ▸ apart), entries, List.append_assoc]
    rfl

lemma collect_eq (has : ∀ scene ∈ job.scenes, job.input d digest scene = .ok (f scene)) :
    ∃ found : Dict ℕ String, found = job.inOrder.foldl (fun found scene => found.set scene.index (f scene)) ∅ ∧
      (job.collect d digest).1 = (found.keys.mergeSort (· ≤ ·)).filterMap found.get? := by
  refine ⟨_, rfl, ?_⟩
  rw [collect, collect_found (f := f) fun scene within => has scene (mem_inOrder.1 within)]
  rfl

lemma filterMap_get?_length {indices : List ℕ} (sub : indices ⊆ found.keys) :
    (indices.filterMap found.get?).length = indices.length := by
  induction indices with
  | nil => rfl
  | cons index indices ih =>
    obtain ⟨path, is⟩ := Dict.mem_keys_iff.1 (sub List.mem_cons_self)
    rw [List.filterMap_cons, is]
    exact congrArg Nat.succ (ih (List.subset_of_cons_subset sub))

lemma nodup_of_collect (has : ∀ scene ∈ job.scenes, job.input d digest scene = .ok (f scene))
    (all : (job.collect d digest).1.length = job.scenes.length) : (job.scenes.map PlannedScene.index).Nodup := by
  obtain ⟨found, is, collects⟩ := collect_eq has
  have sub : found.keys ⊆ job.scenes.map PlannedScene.index := by
    intro index within
    rw [is] at within
    rcases keys_foldl_set within with there | there
    · cases there
    · exact (inOrder_perm.map _).subset there
  have perm := List.mergeSort_perm found.keys (· ≤ ·)
  rw [collects, filterMap_get?_length perm.subset, perm.length_eq] at all
  have same := (List.subperm_of_subset found.nodup sub).perm_of_length_le (by rw [List.length_map]; exact all.ge)
  exact same.nodup_iff.1 found.nodup

lemma collect_of_nodup (has : ∀ scene ∈ job.scenes, job.input d digest scene = .ok (f scene))
    (indices : (job.scenes.map PlannedScene.index).Nodup) : (job.collect d digest).1 = job.inOrder.map f := by
  obtain ⟨found, is, collects⟩ := collect_eq has
  have nodup : (job.inOrder.map PlannedScene.index).Nodup := ((inOrder_perm.map _).nodup_iff).2 indices
  have entries : found.entries = job.inOrder.map fun scene => (scene.index, f scene) := by
    rw [is, entries_foldl_set (by exact nodup)]
    rfl
  have keys : found.keys = job.inOrder.map PlannedScene.index := by
    rw [Dict.keys, entries, List.map_map]
    rfl
  have sorted : (job.inOrder.map PlannedScene.index).Pairwise fun a b => decide (a ≤ b) = true := by
    rw [List.pairwise_map]
    apply List.pairwise_mergeSort
    · intro a b c le le'
      simp only [decide_eq_true_eq] at le le' ⊢
      exact le.trans le'
    · intro a b
      simp only [Bool.or_eq_true, decide_eq_true_eq]
      exact Nat.le_total _ _
  rw [collects, keys, List.mergeSort_of_pairwise sorted, List.filterMap_map]
  have each : ∀ scene ∈ job.inOrder, (found.get? ∘ PlannedScene.index) scene = some (f scene) := by
    intro scene within
    refine Dict.mem_entries_iff.1 ?_
    rw [entries]
    exact List.mem_map_of_mem within
  rw [List.filterMap_congr each, List.filterMap_eq_map']

/-- The Job as `Core.Inputs` reads it. -/
def inputsJob (job : RenderJob) : Inputs.Job where
  taskType := job.taskType
  scenes := job.scenes.map fun scene => ⟨scene.index, scene.artifactIds⟩
  artifacts := job.artifacts.map fun a => ⟨a.artifactId, a.kind, a.path, a.filename, a.sha256⟩

lemma inputsJob_byId (id : String) :
    job.inputsJob.byId id = (job.byId id).map fun a => ⟨a.artifactId, a.kind, a.path, a.filename, a.sha256⟩ := by
  rw [Inputs.Job.byId, inputsJob, ← List.map_reverse, List.find?_map]
  rfl

lemma inputsJob_resolved (index : ℤ) : job.inputsJob.resolved ⟨index, scene.artifactIds⟩ =
    (job.resolved scene).map fun a => ⟨a.artifactId, a.kind, a.path, a.filename, a.sha256⟩ := by
  rw [Inputs.Job.resolved, resolved, List.map_filterMap]
  exact List.filterMap_congr fun id _ => inputsJob_byId id

lemma inputsJob_registered (index : ℤ) : job.inputsJob.registered ⟨index, scene.artifactIds⟩ =
    (job.registered scene).map fun a => ⟨a.artifactId, a.kind, a.path, a.filename, a.sha256⟩ := by
  rw [Inputs.Job.registered, inputsJob_resolved, registered, List.filter_map]
  rfl

/-- The files a re-assembly reads, as `Core.Inputs` reads them. -/
def filesOf (d : JobDirectory) (digest : ByteArray → String) (some : ∀ data, digest data ≠ "") : Inputs.Files :=
  fun path => (d.read path).map fun data => ⟨digest data, some data⟩

lemma inputsJob_input (some : ∀ data, digest data ≠ "") (scene : PlannedScene) :
    job.inputsJob.input (filesOf d digest some) ⟨scene.index, scene.artifactIds⟩ = job.input d digest scene := by
  rw [Inputs.Job.input, input]
  simp only [inputsJob_byId, inputsJob_resolved, inputsJob_registered, Option.isNone_map, List.map_eq_nil_iff,
    List.getLast?_map]
  split
  · rfl
  · rcases (job.registered scene).getLast? with _ | current
    · dsimp only [Option.map_none]
      split
      · rfl
      · rfl
    · simp only [Option.map_some, filesOf]
      cases d.read current.path with
      | none => rfl
      | some data => rfl

lemma inputsJob_distinct (indices : (job.scenes.map PlannedScene.index).Nodup) :
    (job.inputsJob.scenes.map (·.index)).Nodup := by
  have apart := indices.map (f := fun index : ℕ => (index : ℤ)) fun _ _ => Int.ofNat.inj
  rw [inputsJob, List.map_map]
  rwa [List.map_map] at apart

lemma inputsJob_ordered (indices : (job.scenes.map PlannedScene.index).Nodup) :
    job.inputsJob.ordered = job.inOrder.map fun scene => ⟨scene.index, scene.artifactIds⟩ := by
  have perm : (job.inOrder.map fun scene => (⟨scene.index, scene.artifactIds⟩ : Inputs.SceneRecord)).Perm
      job.inputsJob.scenes := inOrder_perm.map _
  have distinct := inputsJob_distinct indices
  have sorted : job.inOrder.Pairwise fun a b => decide (a.index ≤ b.index) = true :=
    List.pairwise_mergeSort (fun a b c ab bc => by simp only [decide_eq_true_eq] at *; omega)
      (fun a b => by simp only [Bool.or_eq_true, decide_eq_true_eq]; omega) _
  -- both are sorted by indexes that are distinct
  refine @List.Perm.eq_of_pairwise _ (fun a b => a.index ≤ b.index) _ _ (fun a b there there' le le' => ?_)
    (List.pairwise_insertionSort _ _) ?_ ((List.perm_insertionSort _ _).trans perm.symm)
  · exact List.inj_on_of_nodup_map distinct ((List.mem_insertionSort _).1 there) (perm.subset there') (le_antisymm le le')
  · rw [List.pairwise_map]
    exact sorted.imp fun le => Int.ofNat_le.2 (of_decide_eq_true le)

lemma foldl_rejected {found : Dict ℕ String × List String}
    (bad : found.2 ≠ [] ∨ ∃ scene ∈ scenes, ∃ why, job.input d digest scene = .error why) :
    (scenes.foldl (job.collectScene d digest) found).2 ≠ [] := by
  induction scenes generalizing found with
  | nil => exact bad.resolve_right fun ⟨_, within, _⟩ => absurd within List.not_mem_nil
  | cons scene scenes ih =>
    rw [List.foldl_cons]
    refine ih ?_
    rw [collectScene]
    cases is : job.input d digest scene with
    | error why => exact .inl (List.append_ne_nil_of_right_ne_nil _ (List.cons_ne_nil _ _))
    | ok path =>
      refine bad.imp_right fun ⟨other, within, why, rejects⟩ => ?_
      rcases List.mem_cons.1 within with rfl | within
      · cases is.symm.trans rejects
      · exact ⟨other, within, why, rejects⟩

/-- The two embeddings of `_collect_reassembly_inputs` are one function of a Job whose scenes have indexes of their own. -/
theorem collect_eq_collectReassemblyInputs (some : ∀ data, digest data ≠ "")
    (indices : (job.scenes.map PlannedScene.index).Nodup) :
    (job.collect d digest).1 = Inputs.collectReassemblyInputs job.inputsJob (filesOf d digest some) := by
  -- what `Core.Inputs` says of a scene, of this input
  have each (scene : PlannedScene) := @inputsJob_input job d _ some scene ▸
    @Inputs.input_cases job.inputsJob (filesOf d digest some) ⟨scene.index, scene.artifactIds⟩
  rcases Inputs.inputs_cases job.inputsJob (filesOf d digest some) (inputsJob_distinct indices) with
    ⟨⟨_, there, blocked⟩, none_⟩ | ⟨as, all, made⟩
  · obtain ⟨scene, within, rfl⟩ := List.mem_map.1 there
    have rejects : ∃ why, job.input d digest scene = .error why := by
      rcases each scene with ⟨rejects, -⟩ | ⟨a, -, chosen⟩
      · exact rejects
      · exact absurd blocked chosen.not_blocked
    rw [none_, collect, if_pos (foldl_rejected (.inr ⟨scene, mem_inOrder.2 within, rejects⟩))]
  · rw [inputsJob_ordered indices, List.forall₂_map_left_iff] at all
    have same : List.Forall₂ (fun scene a => job.input d digest scene = .ok a.path) job.inOrder as := by
      refine all.imp fun scene a chosen => ?_
      rcases each scene with ⟨-, blocked⟩ | ⟨b, is, chosen'⟩
      · exact absurd blocked chosen.not_blocked
      · rw [is, Option.some.inj (chosen.current.symm.trans chosen'.current)]
    have has : ∀ scene ∈ job.scenes, job.input d digest scene = .ok ((job.input d digest scene).toOption.getD "") := by
      intro scene within
      obtain ⟨a, is⟩ := Inputs.exists_of_forall₂ same (mem_inOrder.2 within)
      rw [is]
      rfl
    rw [made, collect_of_nodup has indices]
    rw [← List.forall₂_eq_eq_eq, List.forall₂_map_left_iff, List.forall₂_map_right_iff]
    refine same.imp fun scene a is => ?_
    rw [is]
    rfl

lemma length_one_of_flatMap {files : PlannedScene → List String}
    (some : ∀ scene ∈ scenes, files scene ≠ []) (all : (scenes.flatMap files).length = scenes.length) :
    ∀ scene ∈ scenes, (files scene).length = 1 := by
  have least : ∀ scenes : List PlannedScene, (∀ scene ∈ scenes, files scene ≠ []) →
      scenes.length ≤ (scenes.flatMap files).length := by
    intro scenes some
    induction scenes with
    | nil => exact le_rfl
    | cons scene scenes ih =>
      have rest := ih fun other within => some other (List.mem_cons_of_mem _ within)
      have first := List.length_pos_iff.2 (some scene List.mem_cons_self)
      rw [List.flatMap_cons, List.length_append, List.length_cons]
      omega
  induction scenes with
  | nil => exact List.forall_mem_nil _
  | cons scene scenes ih =>
    have rest := fun other within => some other (List.mem_cons_of_mem scene within)
    have first := List.length_pos_iff.2 (some scene List.mem_cons_self)
    have more := least scenes rest
    rw [List.flatMap_cons, List.length_append, List.length_cons] at all
    refine List.forall_mem_cons.2 ⟨by omega, ih rest (by omega)⟩

variable (job d digest)

/-- **A re-assembly renders from the inputs of the first assembly**, one of each scene, if and only if each scene has an
index of its own and one artifact of the kind. -/
theorem reassembly_inputs_same (reg : job.Registered d digest) : job.SameInputs d digest ↔ job.Single := by
  constructor
  · intro ⟨same, each⟩
    have current : ∀ scene ∈ job.inOrder, ∃ a, (job.registered scene).getLast? = some a := by
      have all := List.forall₂_iff_get.1 each
      intro scene within
      obtain ⟨n, less, rfl⟩ := List.mem_iff_getElem.1 within
      have is := all.2 n less (all.1 ▸ less)
      obtain ⟨a, last, -⟩ := Option.map_eq_some_iff.1 is
      exact ⟨a, last⟩
    have some : ∀ scene ∈ job.inOrder, ((job.registered scene).map fun a => a.path) ≠ [] := by
      intro scene within empty
      obtain ⟨a, last⟩ := current scene within
      rw [List.map_eq_nil_iff.1 empty] at last
      cases last
    have count : (job.collect d digest).1.length = job.inOrder.length := each.length_eq.symm
    have ones := length_one_of_flatMap some (by rw [← sceneFiles_eq reg, ← same, count])
    have has : ∀ scene ∈ job.scenes, job.input d digest scene =
        .ok ((((job.registered scene).getLast?).map fun a => a.path).getD "") := by
      intro scene within
      obtain ⟨a, last⟩ := current scene (mem_inOrder.2 within)
      rcases input_eq reg within with ⟨b, last', is⟩ | ⟨empty, -⟩
      · rw [is, last']
        rfl
      · rw [last] at empty
        cases empty
    refine ⟨nodup_of_collect has (count.trans inOrder_perm.length_eq), fun scene within => ?_⟩
    have one := ones scene (mem_inOrder.2 within)
    rwa [List.length_map] at one
  · intro ⟨indices, one⟩
    have current : ∀ scene ∈ job.scenes, ∃ a, job.registered scene = [a] := fun scene within =>
      List.length_eq_one_iff.1 (one scene within)
    have has : ∀ scene ∈ job.scenes, job.input d digest scene =
        .ok ((((job.registered scene).getLast?).map fun a => a.path).getD "") := by
      intro scene within
      obtain ⟨a, is⟩ := current scene within
      rcases input_eq reg within with ⟨b, last, is'⟩ | ⟨empty, -⟩
      · rw [is', last]
        rfl
      · rw [is] at empty
        cases empty
    have collects := collect_of_nodup has indices
    refine ⟨?_, ?_⟩
    · rw [collects, sceneFiles_eq reg, List.map_eq_flatMap]
      refine List.flatMap_congr fun scene within => ?_
      obtain ⟨a, is⟩ := current scene (mem_inOrder.1 within)
      rw [is]
      rfl
    · rw [collects]
      refine List.forall₂_map_right_iff.2 (List.forall₂_same.2 fun scene within => ?_)
      obtain ⟨a, is⟩ := current scene (mem_inOrder.1 within)
      rw [is]
      rfl

end RenderJob

def imageOf (id : String) : RenderArtifact := ⟨⟨id, "image", "images/" ++ id ++ ".png"⟩, id ++ ".png", "0"⟩

def imageJob (ids : List String) : RenderJob := { jobId := "j", scenes := [⟨1, ids⟩], artifacts := ids.map imageOf }

def everyFile : JobDirectory := { read := fun _ => some ByteArray.empty, audio := [], distinct := List.nodup_nil }

/-- Two scenes with an image each, the second one listed first. -/
def imagesJob : RenderJob :=
  { jobId := "j", scenes := [⟨2, ["b"]⟩, ⟨1, ["a"]⟩], artifacts := ["a", "b"].map imageOf }

lemma images_registered {job : RenderJob} {ids : List String} (artifacts : job.artifacts = ids.map imageOf)
    (nodup : ids.Nodup) (scenes : ∀ scene ∈ job.scenes, scene.artifactIds ≠ [] ∧ scene.artifactIds ⊆ ids) :
    job.Registered everyFile fun _ => "0" where
  ids := by
    rw [artifacts, List.map_map]
    exact nodup.map fun _ _ same => same
  scenes scene within := by
    refine ⟨(scenes scene within).1, fun id named => ⟨imageOf id, ?_, rfl, _, rfl, rfl⟩⟩
    rw [artifacts]
    exact List.mem_map_of_mem ((scenes scene within).2 named)

theorem reassembly_inputs_same_two : imagesJob.SameInputs everyFile fun _ => "0" :=
  (RenderJob.reassembly_inputs_same _ _ _ (images_registered rfl (by decide) (by decide))).2 ⟨by decide, by decide⟩

/-- **A second image of a scene** is rendered by the first assembly and not by a re-assembly. -/
theorem reassembly_inputs_differ : (imageJob ["a", "b"]).Registered everyFile (fun _ => "0") ∧
    sceneFiles (imageJob ["a", "b"]).planned everyFile = ["images/a.png", "images/b.png"] ∧
    ((imageJob ["a", "b"]).collect everyFile fun _ => "0").1 = ["images/b.png"] ∧
    ¬ (imageJob ["a", "b"]).SameInputs everyFile fun _ => "0" := by
  have first : sceneFiles (imageJob ["a", "b"]).planned everyFile = ["images/a.png", "images/b.png"] := by
    simp [sceneFiles, RenderJob.planned, imageJob, imageOf, everyFile]
  have again : ((imageJob ["a", "b"]).collect everyFile fun _ => "0").1 = ["images/b.png"] := by
    have order : (imageJob ["a", "b"]).inOrder = [⟨1, ["a", "b"]⟩] := List.mergeSort_singleton _
    rw [RenderJob.collect_of_nodup (f := fun _ => "images/b.png") (fun scene within => ?_) (by decide), order]
    · rfl
    · rw [List.mem_singleton.1 within]
      decide
  refine ⟨images_registered rfl (by decide) (by decide), first, again, fun same => ?_⟩
  have both := same.1
  rw [first, again] at both
  exact absurd both (by decide)

end Vertep.Core
