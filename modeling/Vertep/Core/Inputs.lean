import Mathlib.Data.List.Sort
import Mathlib.Algebra.Order.Ring.Int
import Vertep.Lib.Dict

/-!
# The inputs of a re-assembly

Embedding of `_collect_reassembly_inputs` (`core/pipeline.py`): which file of each scene a video is rendered from again.
Of an artifact it reads the id, the kind, the path, the name and the recorded checksum. What it reads of the disk is the
digest of each file, by its path in the directory of the Job, and a hexadecimal digest is never the empty text.
-/

namespace Vertep.Core.Inputs
open Lib

structure ArtifactRecord where
  artifactId : String
  kind : String
  path : String
  filename : String
  sha256 : String
deriving DecidableEq

structure SceneRecord where
  index : ℤ
  artifactIds : List String

structure Job where
  taskType : String
  scenes : List SceneRecord
  artifacts : List ArtifactRecord

/-- `_digest` of the files that are there. -/
abbrev Files := String → Option {digest : String // digest ≠ ""}

/-- The one kind in `accepted`. -/
def Job.accepted (job : Job) : String := if job.taskType = "video" then "video_scene" else "image"

/-- `by_id`: of two records with one id the later one. -/
def Job.byId (job : Job) (id : String) : Option ArtifactRecord := job.artifacts.reverse.find? (·.artifactId = id)

def Job.resolved (job : Job) (scene : SceneRecord) : List ArtifactRecord := scene.artifactIds.filterMap job.byId

def Job.registered (job : Job) (scene : SceneRecord) : List ArtifactRecord :=
  (job.resolved scene).filter (·.kind = job.accepted)

/-- One turn of the loop: the path of the scene, or why it is rejected. -/
def Job.input (job : Job) (files : Files) (scene : SceneRecord) : Except String String :=
  if scene.artifactIds.getLast?.any fun id => (job.byId id).isNone then
    .error s!"scene {scene.index} (current artifact id unresolved)"
  else
    match (job.registered scene).getLast? with
    | none =>
      if job.resolved scene = [] then .error s!"scene {scene.index} (no registered artifact)"
      else .error (s!"scene {scene.index} (no required \x7b'" ++ job.accepted ++ "'\x7d artifact)")
    | some current =>
      match files current.path with
      | none => .error s!"{current.artifactId} (missing)"
      | some digest =>
        if current.sha256 ≠ "" ∧ digest.1 ≠ current.sha256 then .error s!"{current.filename} (integrity)"
        else .ok current.path

/-- `inputs` and `rejected`. -/
structure Collected where
  inputs : Dict ℤ String := ∅
  rejected : List String := []

def Collected.add (c : Collected) (index : ℤ) : Except String String → Collected
  | .ok path => { c with inputs := c.inputs.set index path }
  | .error why => { c with rejected := c.rejected ++ [why] }

/-- `sorted(job.scenes, key=lambda value: value.index)`. -/
def Job.ordered (job : Job) : List SceneRecord := job.scenes.insertionSort (·.index ≤ ·.index)

def Job.collect (job : Job) (files : Files) : Collected :=
  job.ordered.foldl (fun c scene => c.add scene.index (job.input files scene)) {}

def collectReassemblyInputs (job : Job) (files : Files) : List String :=
  let c := job.collect files
  if c.rejected ≠ [] then [] else (c.inputs.keys.insertionSort (· ≤ ·)).filterMap c.inputs.get?

/-! ## Scenes that are rejected -/

/-- The scene has no artifact that could be used: its last id names no record, no record it names is of the required
kind, or the file of the last such record is not there or is not what was recorded. -/
inductive Blocked (job : Job) (files : Files) (scene : SceneRecord) : Prop
  | unresolved (id : String) (last : scene.artifactIds.getLast? = some id) (gone : job.byId id = none)
  | without (none_ : job.registered scene = [])
  | missing (a : ArtifactRecord) (current : (job.registered scene).getLast? = some a) (gone : files a.path = none)
  | corrupted (a : ArtifactRecord) (current : (job.registered scene).getLast? = some a)
    (digest : {d : String // d ≠ ""}) (there : files a.path = some digest) (recorded : a.sha256 ≠ "") (other : digest.1 ≠ a.sha256)

/-- The artifact a scene is rendered from when it is not blocked. -/
structure Chosen (job : Job) (files : Files) (scene : SceneRecord) (a : ArtifactRecord) : Prop where
  current : (job.registered scene).getLast? = some a
  resolved : ∀ id, scene.artifactIds.getLast? = some id → (job.byId id).isSome
  intact : ∃ digest, files a.path = some digest ∧ (a.sha256 = "" ∨ digest.1 = a.sha256)

variable {a : ArtifactRecord}

section
variable {job : Job} {files : Files} {scene : SceneRecord}

lemma input_cases : (∃ why, job.input files scene = .error why) ∧ Blocked job files scene ∨
    ∃ a, job.input files scene = .ok a.path ∧ Chosen job files scene a := by
  rw [Job.input]
  split
  · rename_i unresolved
    cases last : scene.artifactIds.getLast? with
    | none =>
      rw [last] at unresolved
      cases unresolved
    | some id =>
      rw [last, Option.any_some, Option.isNone_iff_eq_none] at unresolved
      exact .inl ⟨⟨_, rfl⟩, .unresolved id last unresolved⟩
  · rename_i resolved
    have named : ∀ id, scene.artifactIds.getLast? = some id → (job.byId id).isSome := by
      intro id last
      rw [last, Option.any_some, Bool.not_eq_true, Option.isNone_eq_false_iff] at resolved
      exact resolved
    cases current : (job.registered scene).getLast? with
    | none =>
      refine .inl ⟨?_, .without (List.getLast?_eq_none_iff.1 current)⟩
      dsimp only
      split
      · exact ⟨_, rfl⟩
      · exact ⟨_, rfl⟩
    | some a =>
      dsimp only
      cases there : files a.path with
      | none => exact .inl ⟨⟨_, rfl⟩, .missing a current there⟩
      | some digest =>
        dsimp only
        split
        · rename_i bad
          exact .inl ⟨⟨_, rfl⟩, .corrupted a current digest there bad.1 bad.2⟩
        · rename_i fine
          refine .inr ⟨a, rfl, current, named, digest, there, ?_⟩
          rw [not_and_or, not_not, not_not] at fine
          exact fine

lemma Chosen.not_blocked (chosen : Chosen job files scene a) : ¬ Blocked job files scene := by
  intro blocked
  obtain ⟨digest, there, fine⟩ := chosen.intact
  cases blocked with
  | unresolved id last gone =>
    have some_ := chosen.resolved id last
    rw [gone] at some_
    cases some_
  | without none_ =>
    have current := chosen.current
    rw [none_] at current
    cases current
  | missing a' current gone =>
    obtain rfl := Option.some.inj (chosen.current.symm.trans current)
    rw [there] at gone
    cases gone
  | corrupted a' current digest' there' recorded other =>
    obtain rfl := Option.some.inj (chosen.current.symm.trans current)
    obtain rfl := Option.some.inj (there.symm.trans there')
    exact fine.elim recorded other

lemma Chosen.newest (chosen : Chosen job files scene a) {id : String} {newest : ArtifactRecord}
    (last : scene.artifactIds.getLast? = some id) (found : job.byId id = some newest)
    (kind : newest.kind = job.accepted) : a = newest := by
  obtain ⟨before, split_⟩ : ∃ before, scene.artifactIds = before ++ [id] := by
    exact ⟨_, (List.dropLast_append_getLast? id last).symm⟩
  have registered : job.registered scene = (before.filterMap job.byId).filter (·.kind = job.accepted) ++ [newest] := by
    rw [Job.registered, Job.resolved, split_, List.filterMap_append, List.filter_append]
    simp [found, kind]
  have current := chosen.current
  rw [registered, List.getLast?_concat] at current
  exact (Option.some.inj current).symm

end

/-! ## The loop -/

lemma add_rejected {c : Collected} (index : ℤ) (x : Except String String) (some_ : c.rejected ≠ []) :
    (c.add index x).rejected ≠ [] := by
  cases x with
  | ok path => exact some_
  | error why => exact List.append_ne_nil_of_left_ne_nil some_ _

lemma exists_of_forall₂ {α β : Type} {R : α → β → Prop} {as : List α} {bs : List β} (all : List.Forall₂ R as bs) {a : α}
    (within : a ∈ as) : ∃ b, R a b := by
  induction all with
  | nil => cases within
  | cons head tail ih =>
    rcases List.mem_cons.1 within with rfl | within
    · exact ⟨_, head⟩
    · exact ih within

section
variable (job : Job) (files : Files)

lemma collect_rejected (scenes : List SceneRecord) {c : Collected} (some_ : c.rejected ≠ []) :
    (scenes.foldl (fun c scene => c.add scene.index (job.input files scene)) c).rejected ≠ [] := by
  induction scenes generalizing c with
  | nil => exact some_
  | cons scene scenes ih => exact ih (add_rejected _ _ some_)

lemma collect_cases (scenes : List SceneRecord) (c : Collected) (distinct : (scenes.map (·.index)).Nodup)
    (fresh : ∀ scene ∈ scenes, scene.index ∉ c.inputs.keys) :
    let after := scenes.foldl (fun c scene => c.add scene.index (job.input files scene)) c
    (∃ scene ∈ scenes, Blocked job files scene) ∧ after.rejected ≠ [] ∨
      ∃ as, List.Forall₂ (Chosen job files) scenes as ∧ after.rejected = c.rejected ∧
        after.inputs.entries = c.inputs.entries ++ List.zipWith (fun scene a => (scene.index, a.path)) scenes as := by
  induction scenes generalizing c with
  | nil => exact .inr ⟨[], .nil, rfl, (List.append_nil _).symm⟩
  | cons scene scenes ih =>
    obtain ⟨apart, distinct⟩ := List.nodup_cons.1 distinct
    have first : (∃ why, job.input files scene = .error why) ∧ Blocked job files scene ∨
        ∃ a, job.input files scene = .ok a.path ∧ Chosen job files scene a := input_cases
    rcases first with ⟨⟨why, rejects⟩, blocked⟩ | ⟨a, takes, chosen⟩
    · refine .inl ⟨⟨scene, List.mem_cons_self, blocked⟩, ?_⟩
      rw [List.foldl_cons, rejects]
      exact collect_rejected job files scenes (List.append_ne_nil_of_right_ne_nil _ (List.cons_ne_nil _ _))
    · have new : scene.index ∉ c.inputs.keys := fresh scene List.mem_cons_self
      have still : ∀ scene' ∈ scenes, scene'.index ∉ (c.add scene.index (.ok a.path)).inputs.keys := by
        intro scene' within filed
        rcases Dict.mem_keys_set.1 filed with same | old
        · exact apart (List.mem_map.2 ⟨scene', within, same⟩)
        · exact fresh scene' (List.mem_cons_of_mem _ within) old
      simp only [List.foldl_cons, takes]
      rcases ih (c.add scene.index (.ok a.path)) distinct still with
        ⟨⟨other, within, blocked⟩, some_⟩ | ⟨as, all, same, filed⟩
      · exact .inl ⟨⟨other, List.mem_cons_of_mem _ within, blocked⟩, some_⟩
      · refine .inr ⟨a :: as, .cons chosen all, same, ?_⟩
        rw [filed, Collected.add, Dict.entries_set_of_not_mem new, List.zipWith_cons_cons, List.append_assoc]
        rfl

lemma zipWith_columns {scenes : List SceneRecord} {as : List ArtifactRecord}
    (all : List.Forall₂ (Chosen job files) scenes as) :
    (List.zipWith (fun scene a => (scene.index, a.path)) scenes as).map Prod.fst = scenes.map (·.index) ∧
      (List.zipWith (fun scene a => (scene.index, a.path)) scenes as).map Prod.snd = as.map (·.path) := by
  induction all with
  | nil => exact ⟨rfl, rfl⟩
  | cons head tail ih => exact ⟨congrArg _ ih.1, congrArg _ ih.2⟩

lemma inputs_cases (distinct : (job.scenes.map (·.index)).Nodup) :
    (∃ scene ∈ job.scenes, Blocked job files scene) ∧ collectReassemblyInputs job files = [] ∨
      ∃ as, List.Forall₂ (Chosen job files) job.ordered as ∧ collectReassemblyInputs job files = as.map (·.path) := by
  have perm : job.ordered.Perm job.scenes := List.perm_insertionSort _ _
  have ordered : (job.ordered.map (·.index)).Nodup := (perm.map _).nodup_iff.2 distinct
  rcases collect_cases job files job.ordered {} ordered (fun _ _ => List.not_mem_nil) with
    ⟨⟨scene, within, blocked⟩, some_⟩ | ⟨as, all, none_, filed⟩
  · refine .inl ⟨⟨scene, perm.mem_iff.1 within, blocked⟩, ?_⟩
    exact if_pos some_
  · refine .inr ⟨as, all, ?_⟩
    change (job.collect files).rejected = [] at none_
    change (job.collect files).inputs.entries = _ at filed
    have columns : (job.collect files).inputs.keys = job.ordered.map (·.index) ∧
        (job.collect files).inputs.values = as.map (·.path) := by
      rw [Dict.keys, Dict.values, filed]
      exact zipWith_columns job files all
    have sorted : ((job.collect files).inputs.keys).Pairwise (· ≤ ·) := by
      rw [columns.1, List.pairwise_map]
      exact List.pairwise_insertionSort _ _
    rw [collectReassemblyInputs, if_neg (not_not.2 none_), sorted.insertionSort_eq, Dict.filterMap_keys, columns.2]

end

/-! ## The newest artifact of every scene -/

/-- The path is that of the artifact the last id names; it is of the required kind and what was recorded. -/
def Newest (job : Job) (files : Files) (scene : SceneRecord) (path : String) : Prop :=
  ∃ id a, scene.artifactIds.getLast? = some id ∧ job.byId id = some a ∧ a.kind = job.accepted ∧ path = a.path ∧
    ∃ digest, files a.path = some digest ∧ digest.1 = a.sha256

/-- There are no inputs, or each scene has one, in the order of the indexes. -/
def Faithful (job : Job) (files : Files) (paths : List String) : Prop :=
  paths = [] ∨ ∃ order : List SceneRecord, order.Perm job.scenes ∧ order.Pairwise (·.index < ·.index) ∧
    List.Forall₂ (Newest job files) order paths

/-- What the last id names is of the required kind and was recorded with a checksum. -/
def Current (job : Job) (scene : SceneRecord) : Prop :=
  ∀ id a, scene.artifactIds.getLast? = some id → job.byId id = some a → a.kind = job.accepted ∧ a.sha256 ≠ ""

lemma Chosen.is_newest {job : Job} {files : Files} {scene : SceneRecord}
    (chosen : Chosen job files scene a) (current : Current job scene) : Newest job files scene a.path := by
  cases last : scene.artifactIds.getLast? with
  | none =>
    have there := chosen.current
    rw [Job.registered, Job.resolved, List.getLast?_eq_none_iff.1 last] at there
    cases there
  | some id =>
    obtain ⟨newest, found⟩ := Option.isSome_iff_exists.1 (chosen.resolved id last)
    obtain ⟨kind, recorded⟩ := current id newest last found
    obtain rfl := chosen.newest last found kind
    obtain ⟨digest, there, fine⟩ := chosen.intact
    exact ⟨id, a, last, found, kind, rfl, digest, there, fine.resolve_left recorded⟩

/-- **The newest artifacts, or none.** -/
theorem reassembly_inputs_newest (job : Job) (files : Files) (distinct : (job.scenes.map (·.index)).Nodup) :
    Faithful job files (collectReassemblyInputs job files) ↔
      (∃ scene ∈ job.scenes, Blocked job files scene) ∨ ∀ scene ∈ job.scenes, Current job scene := by
  have perm : job.ordered.Perm job.scenes := List.perm_insertionSort _ _
  constructor
  · rintro faithful
    rcases inputs_cases job files distinct with ⟨blocked, -⟩ | ⟨as, all, made⟩
    · exact .inl blocked
    · refine .inr fun scene within id a last found => ?_
      rcases faithful with none_ | ⟨order, same, -, each⟩
      · rw [made, List.map_eq_nil_iff] at none_
        rw [none_] at all
        rw [← perm.mem_iff, List.forall₂_nil_right_iff.1 all] at within
        cases within
      · obtain ⟨path, id', a', last', found', kind, -, digest, -, recorded⟩ :=
          exists_of_forall₂ each (same.mem_iff.2 within)
        obtain rfl := Option.some.inj (last.symm.trans last')
        obtain rfl := Option.some.inj (found.symm.trans found')
        exact ⟨kind, fun empty => digest.2 (recorded.trans empty)⟩
  · intro when_
    rcases inputs_cases job files distinct with ⟨-, none_⟩ | ⟨as, all, made⟩
    · exact .inl none_
    · rcases when_ with ⟨scene, within, blocked⟩ | current
      · obtain ⟨a, chosen⟩ := exists_of_forall₂ all (perm.mem_iff.2 within)
        exact absurd blocked chosen.not_blocked
      · refine .inr ⟨job.ordered, perm, ?_, ?_⟩
        · have sorted : job.ordered.Pairwise (·.index ≤ ·.index) := List.pairwise_insertionSort _ _
          have apart : job.ordered.Pairwise (·.index ≠ ·.index) :=
            List.pairwise_map.1 ((perm.map _).nodup_iff.2 distinct)
          exact (sorted.and apart).imp fun h => lt_of_le_of_ne h.1 h.2
        · rw [made, List.forall₂_map_right_iff]
          have all' : List.Forall₂ (fun scene a => Current job scene ∧ Chosen job files scene a) job.ordered as :=
            (List.forall₂_and_left _ _).2 ⟨fun scene within => current scene (perm.mem_iff.1 within), all⟩
          exact all'.imp fun scene a both => both.2.is_newest both.1

/-- An image, and a recording that is filed with one of the two scenes. -/
def recorded (artifactIds : List String) : Job where
  taskType := "image"
  scenes := [⟨1, artifactIds⟩]
  artifacts := [⟨"a", "image", "images/a.png", "a.png", "5d"⟩, ⟨"b", "audio", "audio/b.wav", "b.wav", "7f"⟩]

/-- Both files are there. -/
def bothThere : Files := fun path =>
  if path = "images/a.png" then some ⟨"5d", by decide⟩
  else if path = "audio/b.wav" then some ⟨"7f", by decide⟩ else none

/-- A scene whose last artifact is the image. -/
theorem reassembly_inputs_newest_image :
    Faithful (recorded ["b", "a"]) bothThere (collectReassemblyInputs (recorded ["b", "a"]) bothThere) := by
  apply (reassembly_inputs_newest (recorded ["b", "a"]) bothThere (by decide)).2
  refine .inr fun scene within id a last found => ?_
  obtain rfl := List.mem_singleton.1 within
  obtain rfl := Option.some.inj last
  obtain rfl : _ = a := Option.some.inj found
  decide

/-- The older image is taken. -/
theorem stale_input : ¬ ∀ (job : Job) (files : Files), (job.scenes.map (·.index)).Nodup →
    Faithful job files (collectReassemblyInputs job files) := by
  intro claim
  have taken : collectReassemblyInputs (recorded ["a", "b"]) bothThere = ["images/a.png"] := by decide +kernel
  rcases claim (recorded ["a", "b"]) bothThere (by decide) with none_ | ⟨order, perm, -, each⟩
  · rw [taken] at none_
    cases none_
  · obtain rfl := List.perm_singleton.1 perm
    rw [taken] at each
    obtain ⟨id, a, last, found, kind, -⟩ := (List.forall₂_cons.1 each).1
    obtain rfl := Option.some.inj last
    obtain rfl : _ = a := Option.some.inj found
    exact absurd kind (by decide)

end Vertep.Core.Inputs
