import Vertep.Backup.Reproduces

/-!
# Snapshots that are restored (`services/backup_service.py`)

A restore brings back what the archive has taken of the sources.
-/

namespace Vertep.Backup
open Lib Script Relation

variable {env : Env} {snapshotId : String} {label : String} {snapshot extracted : Tree} {sources : List Source}
  {dumps : List (String × Bytes)} {source : Source} {live : Trees}

/-! ## The archive -/

/-- The labels are distinct, and none is that of the dumps. -/
structure Distinct (sources : List Source) (dumps : List (String × Bytes)) : Prop where
  labels : (sources.map Source.label).Nodup
  db : dumps ≠ [] → "db" ∉ sources.map Source.label

lemma of_mem_members {item : Item} (within : item ∈ members label snapshot) :
    (∃ path, item.1 = label :: path ∧ (path, item.2) ∈ snapshot.listing ∧ name path ∉ SNAPSHOT_EXCLUDED) ∨
      item = ([label], .dir) := by
  have added : ∀ item ∈ (snapshot.listing.filter fun item => name item.1 ∉ SNAPSHOT_EXCLUDED).map fun item =>
      (label :: item.1, item.2), ∃ path, item.1 = label :: path ∧ (path, item.2) ∈ snapshot.listing ∧
        name path ∉ SNAPSHOT_EXCLUDED := by
    intro item within
    obtain ⟨⟨path, node⟩, kept, rfl⟩ := List.mem_map.1 within
    obtain ⟨there, allowed⟩ := List.mem_filter.1 kept
    exact ⟨path, rfl, there, by simpa using allowed⟩
  simp only [members] at within
  split at within
  · exact .inl (added item within)
  · rcases List.mem_append.1 within with there | here
    · exact .inl (added item there)
    · exact .inr (List.mem_singleton.1 here)

lemma mem_members {path : Path} {node : Node Bytes} (there : (path, node) ∈ snapshot.listing)
    (allowed : name path ∉ SNAPSHOT_EXCLUDED) : (label :: path, node) ∈ members label snapshot := by
  have added : (label :: path, node) ∈ (snapshot.listing.filter fun item => name item.1 ∉ SNAPSHOT_EXCLUDED).map
      fun item => (label :: item.1, item.2) :=
    List.mem_map.2 ⟨(path, node), List.mem_filter.2 ⟨there, by simpa using allowed⟩, rfl⟩
  simp only [members]
  split
  · exact added
  · exact List.mem_append_left _ added

lemma dir_mem_members (label : String) (snapshot : Tree) : ∃ item ∈ members label snapshot,
    item.2 = .dir ∧ [label] <+: item.1 := by
  simp only [members]
  split
  · rename_i some
    obtain ⟨item, within, isDir⟩ := List.any_eq_true.1 some
    refine ⟨item, within, by simpa using isDir, ?_⟩
    obtain ⟨other, -, rfl⟩ := List.mem_map.1 within
    exact ⟨other.1, rfl⟩
  · exact ⟨([label], .dir), List.mem_append_right _ List.mem_cons_self, rfl, List.prefix_rfl⟩

lemma head_members {item : Item} (within : item ∈ source.members) : item.1.head? = some source.label := by
  rw [Source.members] at within
  split at within
  · cases within
  · rcases of_mem_members within with ⟨path, is, -⟩ | rfl
    · rw [is]
      rfl
    · rfl

lemma Distinct.mem_archive (distinct : Distinct sources dumps) (within : source ∈ sources) {item : Item}
    (there : item ∈ archive sources dumps) (head : item.1.head? = some source.label) : item ∈ source.members := by
  rcases List.mem_append.1 there with there | there
  · obtain ⟨other, within', there⟩ := List.mem_flatMap.1 there
    have same : other.label = source.label := Option.some.inj ((head_members there).symm.trans head)
    rwa [List.inj_on_of_nodup_map distinct.labels within' within same] at there
  · obtain ⟨dump, dumped, rfl⟩ := List.mem_map.1 there
    refine absurd ?_ (distinct.db (List.ne_nil_of_mem dumped))
    rw [show "db" = source.label from Option.some.inj head]
    exact List.mem_map_of_mem within

@[simp] lemma get?_sourceRoot (extracted : Tree) (label : String) (path : Path) :
    (sourceRoot extracted label).get? path = extracted.get? (label :: path) := by
  have is : ∀ p, labelled label p = some path ↔ p = label :: path := by
    intro p
    rw [labelled]
    rcases p with _ | ⟨a, p⟩
    · simp
    · by_cases h : a = label <;> simp [h]
  refine Option.ext fun node => ?_
  rw [sourceRoot, Dict.get?_reKey]
  simp [is]

lemma extracted_archive (done : safeExtract (archive sources dumps) = .ok extracted) :
    Files.Extracted (archive sources dumps) extracted := by
  rw [safeExtract] at done
  split at done
  · cases done
  · split at done
    · rename_i all
      cases done
      exact Files.extracted all
    · cases done

lemma not_dir_of_none (distinct : Distinct sources dumps) (done : safeExtract (archive sources dumps) = .ok extracted)
    (within : source ∈ sources) (none : source.tree = none) : extracted.isDir [source.label] = false := by
  refine Bool.eq_false_iff.2 fun isDir => ?_
  obtain ⟨item, there, rest, below⟩ := (extracted_archive done).dirs _ (Files.isDir_iff.1 isDir)
  have of_source := distinct.mem_archive within there (by rw [← below]; rfl)
  rw [Source.members, none] at of_source
  cases of_source

variable (distinct : Distinct sources dumps) (done : safeExtract (archive sources dumps) = .ok extracted)
  (within : source ∈ sources) (there : source.tree = some snapshot)

include done within there in
lemma isDir_sourceRoot : extracted.isDir [source.label] = true := by
  obtain ⟨⟨path, node⟩, member, rfl, below⟩ := dir_mem_members source.label snapshot
  have archived : (path, .dir) ∈ archive sources dumps :=
    List.mem_append_left _ (List.mem_flatMap.2 ⟨source, within, by rwa [Source.members, there]⟩)
  have extracts := extracted_archive done
  have isDir := extracts.dir path archived (by rintro rfl; simp at below)
  by_cases same : [source.label] = path
  · rw [same]
    exact Files.isDir_iff.2 isDir
  · exact Files.isDir_iff.2 (extracts.closed _ path _ isDir below same (by simp))

include distinct done within there in
lemma brought_archive : Brought snapshot (sourceRoot extracted source.label) := by
  have extracts := extracted_archive done
  have of_source : ∀ path node, (source.label :: path, node) ∈ archive sources dumps → path ≠ [] →
      (path, node) ∈ snapshot.listing ∧ name path ∉ SNAPSHOT_EXCLUDED := by
    intro path node archived some
    have member := distinct.mem_archive within archived rfl
    rw [Source.members, there] at member
    rcases of_mem_members member with ⟨path', is, listed, allowed⟩ | is
    · obtain ⟨-, rfl⟩ := List.cons.inj is
      exact ⟨listed, allowed⟩
    · exact absurd (List.cons.inj (Prod.mk.inj is).1).2 some
  have archived : ∀ path node, (path, node) ∈ snapshot.listing → name path ∉ SNAPSHOT_EXCLUDED →
      (source.label :: path, node) ∈ archive sources dumps := fun path node listed allowed =>
    List.mem_append_left _ (List.mem_flatMap.2 ⟨source, within, by
      rw [Source.members, there]; exact mem_members listed allowed⟩)
  have file : ∀ path content, (sourceRoot extracted source.label).file path = some content ↔
      extracted.file (source.label :: path) = some content := by
    intro path content
    rw [Files.file_eq_some, Files.file_eq_some, get?_sourceRoot]
  have of_file : ∀ path content, (source.label :: path, .file content) ∈ archive sources dumps → path ≠ [] := by
    rintro path content there' rfl
    have member := distinct.mem_archive within there' rfl
    rw [Source.members, there] at member
    rcases of_mem_members member with ⟨path', is, listed, -⟩ | is
    · obtain ⟨-, rfl⟩ := List.cons.inj is
      exact (Files.mem_listing.1 listed).2 rfl
    · cases is
  refine ⟨fun path content => ?_, fun path some is => ?_, fun path some allowed is => ?_, fun path path' node is below proper some => ?_⟩
  · rw [file]
    constructor
    · intro is
      have archived' := extracts.files _ _ is
      have some := of_file path content archived'
      obtain ⟨listed, allowed⟩ := of_source path _ archived' some
      exact ⟨Files.file_eq_some.2 (Files.mem_listing.1 listed).1, some, allowed⟩
    · rintro ⟨is, some, allowed⟩
      refine extracts.file _ _ (archived path _ (Files.mem_listing.2 ⟨Files.file_eq_some.1 is, some⟩) allowed) ?_
      intro content' archived'
      have listed := (of_source path _ archived' some).1
      rw [Files.file_eq_some, (Files.mem_listing.1 listed).1] at is
      exact Node.file.inj (Option.some.inj is)
  · rw [get?_sourceRoot] at is
    obtain ⟨⟨_, node⟩, archived', rest, rfl⟩ := extracts.dirs _ is
    obtain ⟨listed, -⟩ := of_source (path ++ rest) node archived' (by simp [some])
    have is' := (Files.mem_listing.1 listed).1
    by_cases last : rest = []
    · subst last
      rw [List.append_nil] at is'
      rcases node with content | _
      · have archived'' : (source.label :: path, .file content) ∈ archive sources dumps := by simpa using archived'
        have other := extracts.file _ _ archived'' fun content' also => by
          have listed' := (of_source path _ also some).1
          rw [(Files.mem_listing.1 listed').1] at is'
          exact Node.file.inj (Option.some.inj is')
        rw [Files.file_eq_none_of_dir is] at other
        cases other
      · exact is'
    · exact source.closed snapshot there path _ node is' (List.prefix_append _ _) (by simpa using last) some
  · rw [get?_sourceRoot]
    exact extracts.dir _ (archived path _ (Files.mem_listing.2 ⟨is, some⟩) allowed) (by simp)
  · rw [get?_sourceRoot] at is ⊢
    exact extracts.closed _ _ node is (List.cons_prefix_cons.2 ⟨rfl, below⟩) (by simpa using proper) (by simp)

/-! ## The restore -/

/-- What a restore is to spare. -/
def ToSpare (env : Env) (snapshotId : String) (sources : List Source) (live : Trees) (label : String) (path : Path) : Prop :=
  ∃ source ∈ sources, source.label = label ∧ ∃ snapshot, source.tree = some snapshot ∧
    Clear env snapshotId snapshot (live label) ∧ path ≠ [] ∧ Excluded env snapshotId (live label) path

/-- What a source is to hold when it has been restored. -/
def Settled (env : Env) (snapshotId : String) (live s : Trees) (source : Source) : Prop :=
  ∀ snapshot, source.tree = some snapshot →
    (Reproduced env snapshotId snapshot (live source.label) (s source.label) ↔
      Clear env snapshotId snapshot (live source.label))

lemma settled_sure (distinct : Distinct sources dumps) (done : safeExtract (archive sources dumps) = .ok extracted)
    (within : source ∈ sources) {s : Trees} (same : s source.label = live source.label) :
    (restoreSource env snapshotId extracted source.label).Sure (machine (archive sources dumps)) Eq
      (Spares (ToSpare env snapshotId sources live))
      (fun _ _ s' => Settled env snapshotId live s' source ∧ ∀ label, label ≠ source.label → s' label = s label)
      (fun _ _ _ => True) () s := by
  rcases there : source.tree with _ | snapshot
  · rw [restoreSource, if_neg (by simp [not_dir_of_none distinct done within there])]
    refine (sure_pure _).2 ?_
    rintro _ rfl
    refine ⟨fun snapshot is => ?_, fun _ _ => rfl⟩
    rw [there] at is
    cases is
  · have brought := brought_archive distinct done within there
    have keeps : ∀ path, ToSpare env snapshotId sources live source.label path →
        Clear env snapshotId snapshot (s source.label) ∧ path ≠ [] ∧ Excluded env snapshotId (s source.label) path := by
      rintro path ⟨other, within', label_, snapshot', there', holds⟩
      obtain rfl := List.inj_on_of_nodup_map distinct.labels within' within label_
      obtain rfl := Option.some.inj (there.symm.trans there')
      rwa [same]
    have along : Along env (Protected env snapshotId (s source.label)) (ToSpare env snapshotId sources live source.label)
        (Held env snapshotId (s source.label) (sourceRoot extracted source.label)) :=
      held_along brought fun path kept => ⟨(keeps path kept).1.allGood brought, (keeps path kept).2.2⟩
    refine (restoreSource_sure (isDir_sourceRoot done within there) along (held_start env snapshotId _ _) ?_).mono
      (fun _ _ => id) ?_ (by simp)
    · intro tree path held kept
      obtain ⟨clear, some, excludes⟩ := keeps path kept
      obtain ⟨items, -, copied, -⟩ := held
      refine (clear.protected some excludes).imp .inl fun free => ?_
      rw [(copied (clear.allGood brought)).excluded path excludes, free]
    · rintro _ _ _ ⟨tree, tree', held, rfl, files⟩
      refine ⟨fun snapshot' is => ?_, fun label other => put_of_ne s tree' other⟩
      obtain rfl := Option.some.inj (there.symm.trans is)
      have restored : Restored env snapshotId (s source.label) (sourceRoot extracted source.label) tree tree' :=
        ⟨held, fun path some => (files path some).1, fun path some => (files path some).2⟩
      rw [put_self, ← same]
      exact restored.reproduced_iff brought

lemma restoreSources_sure (distinct : Distinct sources dumps) (done : safeExtract (archive sources dumps) = .ok extracted)
    (pending : List Source) (within : pending ⊆ sources) (once : (pending.map Source.label).Nodup) {s : Trees}
    (left : ∀ source ∈ pending, s source.label = live source.label)
    (settled : ∀ source ∈ sources, source ∉ pending → Settled env snapshotId live s source) :
    (restoreSources env snapshotId extracted (pending.map Source.label)).Sure (machine (archive sources dumps)) Eq
      (Spares (ToSpare env snapshotId sources live))
      (fun _ _ s' => ∀ source ∈ sources, Settled env snapshotId live s' source) (fun _ _ _ => True) () s := by
  induction pending generalizing s with
  | nil =>
    refine (sure_pure _).2 ?_
    rintro _ rfl
    exact fun source within' => settled source within' (List.not_mem_nil)
  | cons source pending ih =>
    rw [List.map_cons, List.nodup_cons] at once
    have here := within List.mem_cons_self
    refine (sure_bind _ _).2 ((settled_sure distinct done here (left source List.mem_cons_self)).mono (fun _ _ => id) ?_
      (by simp))
    rintro ⟨⟩ _ s' ⟨now, others⟩
    have apart : ∀ other ∈ sources, other ≠ source → s' other.label = s other.label := fun other within' ne =>
      others _ fun same => ne (List.inj_on_of_nodup_map distinct.labels within' here same)
    refine ih (fun _ within' => within (List.mem_cons_of_mem _ within')) once.2 (fun other within' => ?_)
      fun other within' out => ?_
    · rw [apart other (within (List.mem_cons_of_mem _ within'))]
      · exact left other (List.mem_cons_of_mem _ within')
      · rintro rfl
        exact once.1 (List.mem_map_of_mem within')
    · by_cases same : other = source
      · rwa [same]
      · intro snapshot is
        rw [apart other within' same]
        exact settled other within' (by simp [same, out]) snapshot is

lemma restoreSnapshot_sure (distinct : Distinct sources dumps) (env : Env) (snapshotId : String) (live : Trees) :
    (restoreSnapshot env snapshotId (sources.map Source.label)).Sure (machine (archive sources dumps)) Eq
      (Spares (ToSpare env snapshotId sources live))
      (fun _ _ s' => ∀ source ∈ sources, Settled env snapshotId live s' source) (fun _ _ _ => True) () live := by
  refine sure_ask_bind.2 ⟨fun _ cut => (by cases cut), fun reply s' ran => ?_⟩
  cases ran with
  | notDecrypted => exact ⟨.refl _, sure_require_bind.2 (by simp)⟩
  | decrypt =>
    refine ⟨.refl _, sure_require_bind.2 ⟨fun members is => ?_, by simp⟩⟩
    obtain rfl := Except.ok.inj is
    refine sure_require_bind.2 ⟨fun extracted done => ?_, by simp⟩
    refine (sure_bind _ _).2 ((restoreSources_sure distinct done sources (List.Subset.refl _) distinct.labels
      (fun _ _ => rfl) fun _ within out => absurd within out).mono (fun _ _ => id) ?_ (by simp))
    rintro ⟨⟩ _ s settled
    refine sure_ask_bind.2 ⟨fun _ cut => (by cases cut), fun reply s' ran => ?_⟩
    cases ran
    refine ⟨.refl _, sure_require_bind.2 ⟨fun _ _ => ?_, by simp⟩⟩
    refine sure_ask_bind.2 ⟨fun _ cut => (by cases cut), fun reply s' ran => ?_⟩
    cases ran
    exact ⟨.refl _, by simpa using fun _ _ => settled⟩

lemma restoreFailed_sure {keep : String → Path → Prop} (failure : Failure) (s : Trees) :
    (restoreFailed failure).Sure (machine (archive sources dumps)) Eq (Spares keep) (fun _ _ _ => False)
      (fun _ _ _ => True) () s := by
  refine sure_ask_bind.2 ⟨fun _ cut => (by cases cut), fun reply s' ran => ?_⟩
  cases ran
  refine ⟨.refl _, sure_require_bind.2 ⟨fun _ _ => ?_, by simp⟩⟩
  cases failure <;> simp

lemma executeRestore_sure (distinct : Distinct sources dumps) (env : Env) (snapshotId : String) (live : Trees) :
    (executeRestore env snapshotId (sources.map Source.label)).Sure (machine (archive sources dumps)) Eq
      (Spares (ToSpare env snapshotId sources live))
      (fun _ _ s' => ∀ source ∈ sources, Settled env snapshotId live s' source) (fun _ _ _ => True) () live := by
  refine sure_ask_bind.2 ⟨fun _ cut => (by cases cut), fun reply s' ran => ?_⟩
  cases ran
  refine ⟨.refl _, sure_require_bind.2 ⟨fun _ _ => ?_, by simp⟩⟩
  have body : (rescue (restoreSnapshot env snapshotId (sources.map Source.label)) restoreFailed).Sure
      (machine (archive sources dumps)) Eq (Spares (ToSpare env snapshotId sources live))
      (fun _ _ s' => ∀ source ∈ sources, Settled env snapshotId live s' source) (fun _ _ _ => True) () live := by
    refine (sure_rescue _ _).2 ((restoreSnapshot_sure distinct env snapshotId live).mono (fun _ _ => id) ?_ ?_)
    · rintro _ _ s settled _ rfl
      exact settled
    · intro failure _ s _
      exact (restoreFailed_sure failure s).mono (fun _ _ => id) (fun _ _ _ => False.elim) (by simp)
  refine (sure_andFinally _ _).2 (body.mono (fun _ _ => id) ?_ ?_)
  · intro _ _ s settled
    refine sure_ask_bind.2 ⟨fun _ cut => (by cases cut), fun reply s' ran => ?_⟩
    cases ran
    exact ⟨.refl _, by simpa using fun _ _ => settled⟩
  · intro failure _ s _
    refine sure_ask_bind.2 ⟨fun _ cut => (by cases cut), fun reply s' ran => ?_⟩
    cases ran
    exact ⟨.refl _, by simp⟩

lemma spares_of_calls {keep : String → Path → Prop} {s s' : Trees} (calls : ReflTransGen (Spares keep) s s') :
    Spares keep s s' := by
  induction calls with
  | refl => exact .refl _
  | tail _ call ih => exact fun label path kept => (call label path kept).trans (ih label path kept)

/-- What the calls answer that succeed. -/
def Call.succeeds (archive : List Item) : (c : Call) → Trees → c.Reply × Trees
  | .begin, s => (.ok (), s)
  | .decrypt, s => (.ok archive, s)
  | .mkdir _, s => (.ok (), s)
  | .rglob label, s => ((s label).listing.map Prod.fst, s)
  | .readText label path, s => ((s label).file path, s)
  | .mkdirs label path, s =>
    match (s label).mkdirs path with
    | some tree => (.ok (), s.put label tree)
    | none => (.error (.other ""), s)
  | .copy2 label content target name, s =>
    match (s label).copy content target name with
    | some tree => (.ok (), s.put label tree)
    | none => (.error (.other ""), s)
  | .replace label source target, s =>
    match (s label).rename source target with
    | some tree => (.ok (), s.put label tree)
    | none => (.error (.other ""), s)
  | .isFile label path, s => (((s label).file path).isSome, s)
  | .unlink label path, s => (.ok (), s.put label ((s label).unlink path))
  | .database, s => (.ok (), s)
  | .verify, s => (.ok (), s)
  | .finalizeFailure, s => (.ok (), s)
  | .releaseGuard, s => (.ok (), s)

lemma Call.succeeds_run (archive : List Item) (c : Call) (s : Trees) :
    (machine archive).run c s (c.succeeds archive s).1 (c.succeeds archive s).2 := by
  cases c <;> simp only [Call.succeeds, machine]
  case mkdirs label path =>
    split
    · exact .mkdirs s label path _ ‹_›
    · exact .notMade s label path _
  case copy2 label content target name =>
    split
    · exact .copy2 s label content target name _ ‹_›
    · exact .notCopied s label content target name _
  case replace label source target =>
    split
    · exact .replace s label source target _ ‹_›
    · exact .notReplaced s label source target _
  all_goals constructor

def plain : Env := ⟨fun _ => .ok none, 7⟩

/-- A source of one file. -/
def configuration : Source where
  label := "config"
  tree := some ((∅ : Tree).set ["x"] (.file [2]))
  closed t is p q n there within proper some := by
    obtain rfl := Option.some.inj is
    rw [Dict.get?_set] at there
    split at there
    · rename_i same
      subst same
      rcases p with _ | ⟨a, p⟩
      · exact absurd rfl some
      · obtain ⟨rfl, below⟩ := List.cons_prefix_cons.1 within
        rw [List.prefix_nil.1 below] at proper
        exact absurd rfl proper
    · cases there

/-- The root as it is before the restore: its key is there, and a file that is to go. -/
def before : Trees := fun _ => ((∅ : Tree).set ["backup.key"] (.file [1])).set ["y"] (.file [3])

def restored (live : Trees) : Trees :=
  ((executeRestore plain "s" ["config"] ()).play (Call.succeeds (archive [configuration] [])) live).2

lemma exec_restored (live : Trees) (done : (((executeRestore plain "s" ["config"] ()).play
      (Call.succeeds (archive [configuration] [])) live).1.1.toOption = some ())) :
    Program.Exec (machine (archive [configuration] [])) (executeRestore plain "s" ([configuration].map Source.label) ())
      live (some (.ok (), ())) (restored live) := by
  have played := Program.Exec.play (M := machine (archive [configuration] [])) (Call.succeeds_run _)
    (executeRestore plain "s" ["config"] ()) live
  rcases is : ((executeRestore plain "s" ["config"] ()).play (Call.succeeds (archive [configuration] [])) live).1 with
    ⟨failure | ⟨⟨⟩⟩, ⟨⟩⟩
  · rw [is] at done
    cases done
  · rw [is] at played
    exact played

lemma distinct_configuration : Distinct [configuration] [] := ⟨by simp, by simp⟩

lemma clear_before : Clear plain "s" ((∅ : Tree).set ["x"] (.file [2])) (before "config") where
  keys path _ there := by
    rcases is : (before "config").get? path with _ | node
    · rw [Files.file, is] at there
      exact absurd rfl there
    · have within : path ∈ (before "config").keys := Dict.mem_keys_iff.2 ⟨node, is⟩
      simp only [before, Dict.mem_keys_set] at within
      rcases within with rfl | rfl | none
      · exact Nat.le_refl 1
      · exact Nat.le_refl 1
      · cases none
  temporary path content is _ _ := by
    rw [Files.file_eq_some, Dict.get?_set] at is
    split at is
    · rename_i same
      subst same
      exact ⟨by decide +kernel, fun there => absurd (by decide +kernel) there⟩
    · cases is

def buried : Trees := fun _ => ((∅ : Tree).set ["a"] .dir).set ["a", "backup.key"] (.file [1])

/-- A root with a directory where a file is copied to before it is put in its place. -/
def blocked : Trees := fun _ => (∅ : Tree).set [".x.restore-7"] .dir

end Vertep.Backup
