import Vertep.Backup.Restore

/-!
# What the restore does to a root (`services/backup_service.py`)

The script against the operations on trees: what each call spares, and what a source root holds when its items have been
copied and the other files removed.
-/

namespace Vertep.Backup
open Lib Script

variable {env : Env} {snapshotId : String} {archive : List Item} {keep : String → Path → Prop} {s : Trees}
  {label : String}

def Spares (keep : String → Path → Prop) (s s' : Trees) : Prop :=
  ∀ label path, keep label path → (s' label).file path = (s label).file path

lemma Spares.refl (s : Trees) : Spares keep s s := fun _ _ _ => rfl

variable {tree tree' : Tree}

lemma spares_put (same : ∀ path, keep label path → tree.file path = (s label).file path) :
    Spares keep s (s.put label tree) := by
  intro other path kept
  by_cases h : other = label
  · subst h
    simpa [Trees.put] using same path kept
  · simp [Trees.put, h]

@[simp] lemma put_self (s : Trees) (label : String) (tree : Tree) : s.put label tree label = tree := by simp [Trees.put]

@[simp] lemma put_put (s : Trees) (label : String) (tree tree' : Tree) :
    (s.put label tree).put label tree' = s.put label tree' := by simp [Trees.put]

lemma put_of_ne {label' : String} (s : Trees) (tree : Tree) (other : label' ≠ label) : s.put label tree label' = s label' := by
  simp [Trees.put, other]

def Protected (env : Env) (snapshotId : String) (live : Tree) (path : Path) : Prop :=
  path ∈ SNAPSHOT_EXCLUDED.map ([·]) ∨ Fence env snapshotId live path

/-! ## One item -/

/-- An item is copied to its place. -/
def placed (env : Env) (tree : Tree) (item : Item) : Option Tree :=
  match item.2 with
  | .dir => tree.mkdirs item.1
  | .file content => (tree.mkdirs item.1.dropLast).bind fun tree =>
    (tree.copy content (temporary env item.1) (name item.1)).bind fun tree => tree.rename (temporary env item.1) item.1

/-- What is copied spares the path: it is not its place, and not the file that it is copied to before, which is one. -/
def Passes (env : Env) (tree : Tree) (item : Item) (path : Path) : Prop :=
  ∀ content, item.2 = .file content →
    tree.isDir (temporary env item.1) = false ∧ temporary env item.1 ≠ path ∧ item.1 ≠ path

lemma temporary_not_prefix (env : Env) (path : Path) : ¬ temporary env path <+: path.dropLast := by
  intro within
  have longer := within.length_le
  simp [temporary] at longer

variable {path : Path}

lemma get?_temporary (made : tree.mkdirs path.dropLast = some tree') :
    tree'.get? (temporary env path) = tree.get? (temporary env path) := by
  rw [Files.get?_mkdirs made, if_neg]
  exact fun within => temporary_not_prefix env path within.1

lemma isDir_temporary (made : tree.mkdirs path.dropLast = some tree') :
    tree'.isDir (temporary env path) = tree.isDir (temporary env path) := by
  rw [Files.isDir, Files.isDir, get?_temporary made]

lemma cut_mkdirs {s' : Trees} (cut : Call.Cut (.mkdirs label path) s s') : Spares keep s s' := by
  cases cut with
  | mkdirs _ _ _ path' tree _ made => exact spares_put fun p _ => Files.file_mkdirs made p

lemma cut_copy2 {content : Bytes} {target : Path} {file : String} {s' : Trees}
    (apart : ∀ path, keep label path → (s label).isDir target = false ∧ target ≠ path)
    (cut : Call.Cut (.copy2 label content target file) s s') : Spares keep s s' := by
  cases cut with
  | copy2 _ _ _ content' _ _ tree copied =>
    refine spares_put fun path kept => ?_
    obtain ⟨isFile, other⟩ := apart path kept
    rw [Files.copy_of_not_dir isFile] at copied
    rw [Files.file_write copied, if_neg other]

lemma mkdirs_sure {Q : Unit → Unit → Trees → Prop} (path : Path) {f : Process Unit}
    (rest : ∀ tree, (s label).mkdirs path = some tree →
      f.Sure (machine archive) Eq (Spares keep) Q (fun _ _ _ => True) () (s.put label tree)) :
    (do
      require (← ask (.mkdirs label path))
      f : Process Unit).Sure (machine archive) Eq (Spares keep) Q (fun _ _ _ => True) () s := by
  refine sure_ask_bind.2 ⟨fun _ cut => cut_mkdirs cut, fun reply s' ran => ?_⟩
  cases ran with
  | mkdirs _ _ _ tree made =>
    exact ⟨spares_put fun p _ => Files.file_mkdirs made p, sure_require_bind.2 ⟨fun _ _ => rest tree made, by simp⟩⟩
  | notMade => exact ⟨.refl s, sure_require_bind.2 (by simp)⟩
  | madePart _ _ _ _ failure cut => exact ⟨cut_mkdirs cut, sure_require_bind.2 (by simp)⟩

lemma copyItem_sure (item : Item) (passes : ∀ path, keep label path → Passes env (s label) item path) :
    (copyItem env label item).Sure (machine archive) Eq (Spares keep)
      (fun _ _ s' => ∃ tree, placed env (s label) item = some tree ∧ s' = s.put label tree) (fun _ _ _ => True) () s := by
  obtain ⟨path, content | _⟩ := item
  · refine mkdirs_sure path.dropLast fun tree made => ?_
    have apart : ∀ p, keep label p → tree.isDir (temporary env path) = false ∧ temporary env path ≠ p := by
      intro p kept
      obtain ⟨isFile, other, -⟩ := passes p kept content rfl
      exact ⟨(isDir_temporary made).trans isFile, other⟩
    have apart' : ∀ p, keep label p →
        (s.put label tree label).isDir (temporary env path) = false ∧ temporary env path ≠ p := by simpa using apart
    refine sure_ask_bind.2 ⟨fun _ cut => cut_copy2 apart' cut, fun reply s' ran => ?_⟩
    cases ran with
    | notCopied => exact ⟨.refl _, sure_require_bind.2 (by simp)⟩
    | copiedPart _ _ _ _ _ _ _ cut => exact ⟨cut_copy2 apart' cut, sure_require_bind.2 (by simp)⟩
    | copy2 _ _ _ _ _ tree' copied =>
      rw [put_self] at copied
      refine ⟨spares_put fun p kept => ?_, sure_require_bind.2 ⟨fun _ _ => ?_, by simp⟩⟩
      · rw [Files.copy_of_not_dir (apart p kept).1] at copied
        rw [Files.file_write copied, if_neg (apart p kept).2, put_self]
      · rw [put_put]
        refine sure_ask_bind.2 ⟨fun _ cut => (by cases cut), fun reply s' ran => ?_⟩
        cases ran with
        | notReplaced => exact ⟨.refl _, by simp⟩
        | replace _ _ _ _ tree'' renamed =>
          rw [put_self] at renamed
          refine ⟨spares_put fun p kept => ?_, ?_⟩
          · rw [Files.copy_of_not_dir (apart p kept).1] at copied
            have is : tree'.get? (temporary env path) = some (.file content) := by rw [Files.get?_write copied, if_pos rfl]
            rw [put_self]
            refine Files.file_of_get? ?_
            obtain ⟨-, other, other'⟩ := passes p kept content rfl
            rw [Files.get?_rename is renamed, if_neg other', if_neg other]
          · have all : placed env (s label) (path, .file content) = some tree'' := by
              simp [placed, made, copied, renamed]
            simp [all]
  · refine sure_ask_bind.2 ⟨fun _ cut => cut_mkdirs cut, fun reply s' ran => ?_⟩
    cases ran with
    | mkdirs _ _ _ tree made => exact ⟨spares_put fun p _ => Files.file_mkdirs made p, by simp [placed, made]⟩
    | notMade => exact ⟨.refl s, by simp⟩
    | madePart _ _ _ _ failure cut => exact ⟨cut_mkdirs cut, by simp⟩

/-! ## The items of a source -/

/-- What holds before each item, if copying it keeps that. -/
structure Along (env : Env) (P keep : Path → Prop) (I : List Item → Tree → Prop) : Prop where
  skip : ∀ item items tree, I (item :: items) tree → P item.1 → I items tree
  passes : ∀ item items tree, I (item :: items) tree → ¬ P item.1 → ∀ path, keep path → Passes env tree item path
  place : ∀ item items tree tree', I (item :: items) tree → ¬ P item.1 → placed env tree item = some tree' →
    I items tree'

lemma copyItems_sure {protected_ : List Path} {P : Path → Prop} (is : ∀ path, path ∈ protected_ ↔ P path)
    {I : List Item → Tree → Prop} (along : Along env P (keep label) I) (items : List Item) (kept : List Path)
    (start : I items (s label)) :
    (copyItems env label protected_ items kept).Sure (machine archive) Eq (Spares keep)
      (fun kept' _ s' => (∃ tree, I [] tree ∧ s' = s.put label tree) ∧
        ∀ path, path ∈ kept' ↔ path ∈ kept ∨ ¬ P path ∧ path ∈ items.map Prod.fst)
      (fun _ _ _ => True) () s := by
  induction items generalizing kept s with
  | nil =>
    refine (sure_pure _).2 ?_
    rintro _ rfl
    exact ⟨⟨s label, start, by simp [Trees.put]⟩, by simp⟩
  | cons item items ih =>
    rw [copyItems]
    split
    · rename_i skips
      refine (ih kept (along.skip _ _ _ start ((is _).1 skips))).mono (fun _ _ => id) ?_ (by simp)
      rintro kept' _ s' ⟨tree, kept_⟩
      refine ⟨tree, fun path => (kept_ path).trans ?_⟩
      have there : path = item.1 → P path := fun same => (is _).1 (same ▸ skips)
      simp only [List.map_cons, List.mem_cons]
      tauto
    · rename_i copies
      have free : ¬ P item.1 := fun holds => copies ((is _).2 holds)
      refine (sure_bind _ _).2 ((copyItem_sure item (along.passes _ _ _ start free)).mono (fun _ _ => id) ?_ (by simp))
      rintro ⟨⟩ _ _ ⟨tree, places, rfl⟩
      have next : I items (s.put label tree label) := by simpa using along.place _ _ _ _ start free places
      refine (ih (item.1 :: kept) next).mono (fun _ _ => id) ?_ (by simp)
      rintro kept' _ _ ⟨⟨tree', done, rfl⟩, kept_⟩
      refine ⟨⟨tree', done, put_put s label tree tree'⟩, fun path => (kept_ path).trans ?_⟩
      have there : path = item.1 → ¬ P path := fun same => same ▸ free
      simp only [List.map_cons, List.mem_cons]
      tauto

/-! ## A source -/

lemma fences_sure (paths : List Path) :
    (fences env snapshotId label paths).Sure (machine archive) Eq (Spares keep)
      (fun live _ s' => s' = s ∧ ∀ path, path ∈ live ↔ path ∈ paths ∧ ∃ bytes, (s label).file path = some bytes ∧
        env.operationId bytes = .ok (some ("restore:" ++ snapshotId))) (fun _ _ _ => True) () s := by
  induction paths with
  | nil => simp [fences]
  | cons path paths ih =>
    refine sure_ask_bind.2 ⟨fun _ cut => (by cases cut), fun text s' ran => ?_⟩
    cases ran
    refine ⟨.refl s, sure_require_bind.2 ⟨fun operation reads => ?_, by simp⟩⟩
    refine (sure_bind _ _).2 (ih.mono (fun _ _ => id) ?_ (by simp))
    rintro others _ s' ⟨rfl, found⟩
    refine (sure_pure _).2 ?_
    rintro _ rfl
    refine ⟨rfl, fun other => ?_⟩
    have here : (∃ bytes, (s' label).file path = some bytes ∧ env.operationId bytes = .ok (some ("restore:" ++ snapshotId))) ↔
        operation = some ("restore:" ++ snapshotId) := by
      rcases is : (s' label).file path with _ | bytes
      · rw [is] at reads
        cases reads
        simp
      · rw [is] at reads
        have reads' : env.operationId bytes = .ok operation := reads
        simp [reads']
    split
    · rename_i holds
      rw [List.mem_cons, List.mem_cons, found]
      refine ⟨?_, ?_⟩
      · rintro (rfl | ⟨within, fence⟩)
        · exact ⟨.inl rfl, here.2 holds⟩
        · exact ⟨.inr within, fence⟩
      · rintro ⟨rfl | within, fence⟩
        · exact .inl rfl
        · exact .inr ⟨within, fence⟩
    · rename_i fails
      rw [List.mem_cons, found]
      refine ⟨fun there => ⟨.inr there.1, there.2⟩, ?_⟩
      rintro ⟨rfl | within, fence⟩
      · exact absurd (here.1 fence) fails
      · exact ⟨within, fence⟩

lemma clear_sure {kept : List Path} (paths : List Path)
    (spared : ∀ path, keep label path → path ∈ kept ∨ (s label).file path = none) :
    (clear label kept paths).Sure (machine archive) Eq (Spares keep)
      (fun _ _ s' => ∃ tree, s' = s.put label tree ∧
        ∀ path, tree.file path = if path ∈ paths ∧ path ∉ kept then none else (s label).file path)
      (fun _ _ _ => True) () s := by
  induction paths generalizing s with
  | nil => simpa [clear] using ⟨s label, by simp [Trees.put]⟩
  | cons existing paths ih =>
    rw [clear]
    split
    · rename_i keeps
      refine (ih spared).mono (fun _ _ => id) ?_ (by simp)
      rintro _ _ _ ⟨tree, rfl, files⟩
      refine ⟨tree, rfl, fun path => (files path).trans ?_⟩
      have : path = existing → path ∈ kept := fun same => same ▸ keeps
      simp only [List.mem_cons]
      exact if_congr (by tauto) rfl rfl
    · rename_i drops
      refine sure_ask_bind.2 ⟨fun _ cut => (by cases cut), fun file s' ran => ?_⟩
      cases ran
      refine ⟨.refl s, ?_⟩
      split
      · refine sure_ask_bind.2 ⟨fun _ cut => (by cases cut), fun reply s' ran => ?_⟩
        cases ran with
        | notUnlinked => exact ⟨.refl s, sure_require_bind.2 (by simp)⟩
        | unlink =>
          refine ⟨spares_put fun path keeps => ?_, sure_require_bind.2 ⟨fun _ _ => ?_, by simp⟩⟩
          · rw [Files.file_unlink]
            split
            · rename_i same
              subst same
              exact ((spared _ keeps).resolve_left drops).symm
            · rfl
          · refine (ih fun path keeps => ?_).mono (fun _ _ => id) ?_ (by simp)
            · refine (spared path keeps).imp_right fun free => ?_
              simp [free]
            · rintro _ _ _ ⟨tree, rfl, files⟩
              refine ⟨tree, put_put s label _ tree, fun path => (files path).trans ?_⟩
              by_cases same : existing = path
              · subst same
                simp [drops]
              · simp [same, Ne.symm same]
      · rename_i free
        refine (ih spared).mono (fun _ _ => id) ?_ (by simp)
        rintro _ _ _ ⟨tree, rfl, files⟩
        refine ⟨tree, rfl, fun path => (files path).trans ?_⟩
        by_cases same : path = existing
        · subst same
          have free_ : (s label).file path = none := by simpa using free
          simp [free_]
        · simp [same]

def Kept (env : Env) (snapshotId : String) (live : Tree) (items : List Item) (path : Path) : Prop :=
  Protected env snapshotId live path ∨ path ∈ items.map Prod.fst

lemma mem_paths : path ∈ tree.listing.map Prod.fst ↔ tree.get? path ≠ none ∧ path ≠ [] := by
  simp only [List.mem_map, Prod.exists, exists_and_right, exists_eq_right, Files.mem_listing, ← Option.ne_none_iff_exists']

lemma restoreSource_sure {extracted : Tree} (there : extracted.isDir [label] = true) {I : List Item → Tree → Prop}
    (along : Along env (Protected env snapshotId (s label)) (keep label) I)
    (start : I (sourceRoot extracted label).listing (s label))
    (spared : ∀ tree path, I [] tree → keep label path →
      Kept env snapshotId (s label) (sourceRoot extracted label).listing path ∨ tree.file path = none) :
    (restoreSource env snapshotId extracted label).Sure (machine archive) Eq (Spares keep)
      (fun _ _ s' => ∃ tree tree', I [] tree ∧ s' = s.put label tree' ∧ ∀ path, path ≠ [] →
        (Kept env snapshotId (s label) (sourceRoot extracted label).listing path → tree'.file path = tree.file path) ∧
        (¬ Kept env snapshotId (s label) (sourceRoot extracted label).listing path → tree'.file path = none))
      (fun _ _ _ => True) () s := by
  rw [restoreSource, if_pos there]
  refine sure_ask_bind.2 ⟨fun _ cut => (by cases cut), fun reply s' ran => ?_⟩
  cases ran
  refine ⟨.refl s, sure_require_bind.2 ⟨fun _ _ => ?_, by simp⟩⟩
  refine sure_ask_bind.2 ⟨fun _ cut => (by cases cut), fun existing s' ran => ?_⟩
  cases ran
  refine ⟨.refl s, (sure_bind _ _).2 ((fences_sure _).mono (fun _ _ => id) ?_ (by simp))⟩
  rintro live _ s' ⟨rfl, found⟩
  have guarded : ∀ path, path ∈ live ++ SNAPSHOT_EXCLUDED.map ([·]) ↔ Protected env snapshotId (s' label) path := by
    intro path
    rw [List.mem_append, found, or_comm]
    refine or_congr Iff.rfl ?_
    rw [Fence, List.mem_filter, mem_paths]
    constructor
    · rintro ⟨⟨-, is⟩, fence⟩
      exact ⟨by simpa using is, fence⟩
    · rintro ⟨is, bytes, holds, operation⟩
      refine ⟨⟨⟨?_, ?_⟩, by simpa using is⟩, bytes, holds, operation⟩
      · rw [Files.file_eq_some.1 holds]
        simp
      · rintro rfl
        simp [name] at is
  refine (sure_bind _ _).2 ((copyItems_sure guarded along _ _ start).mono (fun _ _ => id) ?_ (by simp))
  rintro kept _ _ ⟨⟨tree, done, rfl⟩, keeps⟩
  have kept_ : ∀ path, path ∈ kept ↔ Kept env snapshotId (s' label) (sourceRoot extracted label).listing path := by
    intro path
    rw [keeps, guarded, Kept]
    tauto
  refine sure_ask_bind.2 ⟨fun _ cut => (by cases cut), fun existing s'' ran => ?_⟩
  cases ran
  refine ⟨.refl _, (clear_sure _ fun path keeps => ?_).mono (fun _ _ => id) ?_ (by simp)⟩
  · rw [kept_, put_self]
    exact spared tree path done keeps
  · rintro _ _ _ ⟨tree', rfl, files⟩
    refine ⟨tree, tree', done, put_put s' label tree tree', fun path some => ⟨fun keeps => ?_, fun drops => ?_⟩⟩
    · rw [files, put_self, if_neg]
      exact fun ⟨_, drops⟩ => drops ((kept_ path).2 keeps)
    · rw [files, put_self]
      split
      · rfl
      · rename_i out
        have absent : tree.get? path = none := by
          by_contra present
          exact out ⟨mem_paths.2 ⟨present, some⟩, fun keeps => drops ((kept_ path).1 keeps)⟩
        rw [Files.file, absent]

end Vertep.Backup
