import Vertep.Backup.Copying

/-!
# What a restore reproduces (`services/backup_service.py`)

The items of a source are copied in order. Where the file that each is copied to before is no directory, and nothing that
the snapshot has brought before, the files of the snapshot are there in the end, and what it excludes has been spared;
else one of them is lost. And a key below the root is removed, whatever the snapshot holds.
-/

namespace Vertep.Backup
open Lib Script

variable {env : Env} {snapshotId : String} {label : String} {live root snapshot tree tree' : Tree} {path : Path}

/-! ## Names -/

@[simp] lemma name_append (path : Path) (last : String) : name (path ++ [last]) = last := by simp [name]

lemma name_temporary (env : Env) (path : Path) : (name (temporary env path)).toList.head? = some '.' := by
  rw [temporary, name_append]
  simp

lemma temporary_not_excluded (env : Env) (path : Path) : ¬ Excluded env snapshotId live (temporary env path) := by
  have dot := name_temporary env path
  rintro (key | ⟨fence, -⟩)
  · rw [SNAPSHOT_EXCLUDED, List.mem_singleton] at key
    rw [key] at dot
    revert dot
    decide
  · rw [fence] at dot
    revert dot
    decide

lemma Protected.excluded (guards : Protected env snapshotId live path) : Excluded env snapshotId live path := by
  rcases guards with key | fence
  · obtain ⟨key, is, rfl⟩ := List.mem_map.1 key
    exact .inl (by simpa [name] using is)
  · exact .inr fence

lemma temporary_ne (env : Env) (path : Path) : temporary env path ≠ path := by
  intro same
  have names := congrArg (fun path => (name path).length) same
  rw [temporary, name_append] at names
  have dot : ".".length = 1 := rfl
  simp at names
  omega

/-! ## What the snapshot brings -/

/-- The root of a source in the archive against what it was made of. -/
structure Brought (snapshot root : Tree) : Prop where
  file : ∀ path content, root.file path = some content ↔
    snapshot.file path = some content ∧ path ≠ [] ∧ name path ∉ SNAPSHOT_EXCLUDED
  dir : ∀ path, path ≠ [] → root.get? path = some .dir → snapshot.get? path = some .dir
  kept : ∀ path, path ≠ [] → name path ∉ SNAPSHOT_EXCLUDED → snapshot.get? path = some .dir → root.get? path = some .dir
  closed : root.Closed

lemma Brought.present (brought : Brought snapshot root) (some : path ≠ []) (allowed : name path ∉ SNAPSHOT_EXCLUDED) :
    root.get? path ≠ none ↔ snapshot.get? path ≠ none := by
  constructor
  · intro there
    rcases is : root.get? path with _ | content | _
    · exact absurd is there
    · rw [Files.file_eq_some.1 ((brought.file path content).1 (Files.file_eq_some.2 is)).1]
      simp
    · rw [brought.dir path some is]
      simp
  · intro there
    rcases is : snapshot.get? path with _ | content | _
    · exact absurd is there
    · rw [Files.file_eq_some.1 ((brought.file path content).2 ⟨Files.file_eq_some.2 is, some, allowed⟩)]
      simp
    · rw [brought.kept path some allowed is]
      simp

def Good (env : Env) (root live : Tree) (path : Path) : Prop :=
  live.isDir (temporary env path) = false ∧ (root.get? (temporary env path) ≠ none → path < temporary env path)

lemma temporary_ne_nil (env : Env) (path : Path) : temporary env path ≠ [] := by simp [temporary]

lemma Brought.good (brought : Brought snapshot root) : Good env root live path ↔
    live.isDir (temporary env path) = false ∧ (snapshot.get? (temporary env path) ≠ none → path < temporary env path) := by
  rw [Good, brought.present (temporary_ne_nil env path)]
  have free : ¬ Excluded env "" (∅ : Tree) (temporary env path) := temporary_not_excluded env path
  exact fun key => free (.inl key)

/-! ## One item -/

variable {content : Bytes}

lemma get?_placed (isFile : tree.isDir (temporary env path) = false)
    (places : placed env tree (path, .file content) = some tree') (q : Path) :
    tree'.get? q = if path = q then some (.file content) else if temporary env path = q then none
      else if q <+: path.dropLast ∧ q ≠ [] then some .dir else tree.get? q := by
  obtain ⟨t₁, made, places⟩ := Option.bind_eq_some_iff.1 places
  obtain ⟨t₂, copied, renamed⟩ := Option.bind_eq_some_iff.1 places
  rw [Files.copy_of_not_dir ((isDir_temporary made).trans isFile)] at copied
  rw [Files.get?_rename (by rw [Files.get?_write copied, if_pos rfl]) renamed, Files.get?_write copied,
    Files.get?_mkdirs made]
  by_cases h : path = q
  · rw [if_pos h, if_pos h]
  · by_cases h' : temporary env path = q <;> simp [h, h']

lemma file_of_placed (isFile : tree.isDir (temporary env path) = false)
    (places : placed env tree (path, .file content) = some tree') (q : Path) :
    tree'.file q = if path = q then some content else if temporary env path = q then none else tree.file q := by
  obtain ⟨t₁, made, -⟩ := Option.bind_eq_some_iff.1 places
  have is := get?_placed isFile places q
  rw [← Files.file_mkdirs made q, Files.file, Files.file, is, Files.get?_mkdirs made]
  by_cases h : path = q
  · simp [h]
  · by_cases h' : temporary env path = q <;> simp [h, h']

lemma not_dir_of_placed (isFile : tree.isDir (temporary env path) = false)
    (places : placed env tree (path, .file content) = some tree') : tree.get? path ≠ some .dir := by
  intro is
  obtain ⟨t₁, made, places⟩ := Option.bind_eq_some_iff.1 places
  obtain ⟨t₂, copied, renamed⟩ := Option.bind_eq_some_iff.1 places
  rw [Files.copy_of_not_dir ((isDir_temporary made).trans isFile)] at copied
  have temporary_ : t₂.get? (temporary env path) = some (.file content) := by rw [Files.get?_write copied, if_pos rfl]
  have there : t₂.get? path = some .dir := by
    rw [Files.get?_write copied, if_neg (temporary_ne env path)]
    exact Files.dir_mkdirs made is
  rw [Files.rename, temporary_] at renamed
  refine Files.not_dir_of_write renamed ?_
  rw [Dict.get?_pop, if_neg (temporary_ne env path)]
  exact there

lemma dir_of_placed (isDir : tree.isDir (temporary env path) = true)
    (places : placed env tree (path, .file content) = some tree') : tree'.file path = none := by
  obtain ⟨t₁, made, places⟩ := Option.bind_eq_some_iff.1 places
  obtain ⟨t₂, copied, renamed⟩ := Option.bind_eq_some_iff.1 places
  have isDir' : t₁.isDir (temporary env path) = true := (isDir_temporary made).trans isDir
  rw [Files.copy, if_pos isDir'] at copied
  refine Files.file_eq_none_of_dir (Files.dir_rename ?_ renamed)
  rw [Files.get?_write copied, if_neg (by simp)]
  exact Files.isDir_iff.1 isDir'

lemma file_placed {item : Item} (places : placed env tree item = some tree') (apart : ¬ item.1 <+: path)
    (free : tree.file path = none) : tree'.file path = none := by
  obtain ⟨p, content | _⟩ := item
  · by_cases isFile : tree.isDir (temporary env p) = false
    · rw [Files.file, get?_placed isFile places, if_neg (by rintro rfl; exact apart List.prefix_rfl)]
      by_cases same : temporary env p = path
      · rw [if_pos same]
      · rw [if_neg same]
        split_ifs
        · rfl
        · exact free
    · obtain ⟨t₁, made, places⟩ := Option.bind_eq_some_iff.1 places
      obtain ⟨t₂, copied, renamed⟩ := Option.bind_eq_some_iff.1 places
      have isDir : t₁.isDir (temporary env p) = true := (isDir_temporary made).trans (by simpa using isFile)
      rw [Files.copy, if_pos isDir] at copied
      have still : t₂.get? (temporary env p) = some .dir := by
        rw [Files.get?_write copied, if_neg (by simp)]
        exact Files.isDir_iff.1 isDir
      by_cases below : temporary env p <+: path
      · rw [Files.file, Files.get?_rename_below still renamed below apart]
      · refine Files.file_rename renamed apart ?_
        rw [Files.file_write copied, if_neg, Files.file_mkdirs made]
        · exact free
        · rintro rfl
          exact below (List.prefix_append _ _)
  · rw [Files.file_mkdirs (t := tree) (p := p) places]
    exact free

/-! ## The items of a source -/

/-- The items that have been copied come before those that are left. -/
structure Split (root : Tree) (items rest : List Item) : Prop where
  all : root.listing = items ++ rest

variable {items rest : List Item}

lemma Split.lt (split : Split root items rest) {item item' : Item} (before : item ∈ items)
    (after : item' ∈ rest) : item.1 < item'.1 :=
  (List.pairwise_append.1 (split.all ▸ Files.listing_lt root)).2.2 item before item' after

lemma Split.mem_root (split : Split root items rest) {node : Node Bytes}
    (within : (path, node) ∈ items ++ rest) : root.get? path = some node ∧ path ≠ [] :=
  Files.mem_listing.1 (split.all ▸ within)

lemma Split.copied {item : Item} (split : Split root items (item :: rest)) {node : Node Bytes}
    (is : root.get? path = some node) (some : path ≠ []) (before : path < item.1) : (path, node) ∈ items := by
  have within : (path, node) ∈ items ++ item :: rest := split.all ▸ Files.mem_listing.2 ⟨is, some⟩
  rcases List.mem_append.1 within with done | left
  · exact done
  · rcases List.mem_cons.1 left with rfl | later
    · exact absurd before (lt_irrefl _)
    · have sorted := (List.pairwise_append.1 (split.all ▸ Files.listing_lt root)).2.1
      exact absurd before (not_lt.2 (le_of_lt ((List.pairwise_cons.1 sorted).1 _ later)))

lemma Split.next {item : Item} (split : Split root items (item :: rest)) :
    Split root (items ++ [item]) rest := ⟨by simpa using split.all⟩

variable (env snapshotId) in
/-- The items are in their places, what is excluded is as it was, and a directory is one that was there or has come. -/
structure Copied (live root : Tree) (items rest : List Item) (tree : Tree) : Prop where
  file : ∀ path content, (path, .file content) ∈ items → ¬ Protected env snapshotId live path →
    tree.file path = some content
  excluded : ∀ path, Excluded env snapshotId live path → tree.file path = live.file path
  dir : ∀ path, path ≠ [] → tree.get? path = some .dir →
    live.get? path = some .dir ∨ root.get? path = some .dir ∧ ∀ item ∈ rest, path < item.1

variable (env snapshotId) in
def Lost (live : Tree) (items : List Item) (tree : Tree) : Prop :=
  ∃ path content, (path, .file content) ∈ items ∧ ¬ Protected env snapshotId live path ∧ tree.file path = none

variable (env snapshotId) in
/-- Every directory has stayed, and nothing has stood in the way of a file. -/
structure Grown (live root : Tree) (items : List Item) (tree : Tree) : Prop where
  stays : ∀ path, live.get? path = some .dir → tree.get? path = some .dir
  dir : ∀ path, (path, .dir) ∈ items → ¬ Protected env snapshotId live path → tree.get? path = some .dir
  good : ∀ path content, (path, .file content) ∈ items → ¬ Protected env snapshotId live path → Good env root live path

lemma Copied.passes {item : Item} (copied : Copied env snapshotId live root items (item :: rest) tree)
    (brought : Brought snapshot root) (split : Split root items (item :: rest))
    (good : ∀ content, item.2 = .file content → Good env root live item.1)
    (free : ¬ Protected env snapshotId live item.1) {path : Path} (excludes : Excluded env snapshotId live path) :
    Passes env tree item path := by
  obtain ⟨p, node⟩ := item
  rintro content rfl
  obtain ⟨isFile, before⟩ := good content rfl
  refine ⟨?_, ?_, ?_⟩
  · refine Bool.eq_false_iff.2 fun isDir => ?_
    rcases copied.dir _ (temporary_ne_nil env p) (Files.isDir_iff.1 isDir) with there | ⟨there, first⟩
    · rw [Files.isDir_iff.2 there] at isFile
      cases isFile
    · exact lt_asymm (before (by simp [there])) (first _ List.mem_cons_self)
  · rintro rfl
    exact temporary_not_excluded env p excludes
  · rintro rfl
    have is : root.get? p = some (.file content) := (split.mem_root (List.mem_append_right _ List.mem_cons_self)).1
    rcases excludes with key | fence
    · exact ((brought.file p content).1 (Files.file_eq_some.2 is)).2.2 key
    · exact free (.inr fence)

lemma Copied.skip {item : Item} (copied : Copied env snapshotId live root items (item :: rest) tree)
    (guards : Protected env snapshotId live item.1) : Copied env snapshotId live root (items ++ [item]) rest tree where
  file path content within free := by
    rcases List.mem_append.1 within with there | here
    · exact copied.file path content there free
    · rw [← List.mem_singleton.1 here] at guards
      exact absurd guards free
  excluded := copied.excluded
  dir path some is := (copied.dir path some is).imp_right fun ⟨there, first⟩ =>
    ⟨there, fun item within => first item (List.mem_cons_of_mem _ within)⟩

lemma Copied.place {item : Item} (copied : Copied env snapshotId live root items (item :: rest) tree)
    (brought : Brought snapshot root) (split : Split root items (item :: rest))
    (good : ∀ content, item.2 = .file content → Good env root live item.1)
    (free : ¬ Protected env snapshotId live item.1) (places : placed env tree item = some tree') :
    Copied env snapshotId live root (items ++ [item]) rest tree' := by
  have later : ∀ item' ∈ rest, item.1 < item'.1 := fun item' within =>
    split.next.lt (List.mem_append_right _ List.mem_cons_self) within
  -- a directory that is made for the item is one of the snapshot, and comes before it
  have made : ∀ path, path <+: item.1 → path ≠ [] → (path = item.1 → item.2 = .dir) →
      root.get? path = some .dir ∧ ∀ item' ∈ rest, path < item'.1 := by
    intro path within some last
    have here : root.get? item.1 = Option.some item.2 := (split.mem_root (List.mem_append_right _ List.mem_cons_self)).1
    refine ⟨?_, fun item' left => lt_of_le_of_lt (Files.le_of_prefix within) (later item' left)⟩
    by_cases same : path = item.1
    · rw [same, here, last same]
    · exact brought.closed path item.1 _ here within same some
  have still : ∀ path, path ≠ [] → tree.get? path = some .dir →
      live.get? path = some .dir ∨ root.get? path = some .dir ∧ ∀ item' ∈ rest, path < item'.1 := fun path some is =>
    (copied.dir path some is).imp_right fun ⟨there, first⟩ =>
      ⟨there, fun item' within => first item' (List.mem_cons_of_mem _ within)⟩
  obtain ⟨p, content | _⟩ := item
  · have isFile : tree.isDir (temporary env p) = false := by
      refine Bool.eq_false_iff.2 fun isDir => ?_
      rcases copied.dir _ (temporary_ne_nil env p) (Files.isDir_iff.1 isDir) with there | ⟨there, first⟩
      · rw [← Files.isDir_iff, (good content rfl).1] at there
        cases there
      · exact lt_asymm ((good content rfl).2 (by simp [there])) (first _ List.mem_cons_self)
    refine ⟨fun path content' within free' => ?_, fun path excludes => ?_, fun path some is => ?_⟩
    · rw [file_of_placed isFile places]
      rcases List.mem_append.1 within with there | here
      · have before : path < p := split.lt there List.mem_cons_self
        have root_ := (split.mem_root (List.mem_append_left _ there)).1
        rw [if_neg (ne_of_gt before), if_neg]
        · exact copied.file path content' there free'
        · rintro rfl
          exact lt_asymm before ((good content rfl).2 (by simp [root_]))
      · obtain ⟨rfl, same⟩ := Prod.mk.inj (List.mem_singleton.1 here)
        rw [if_pos rfl, Node.file.inj same]
    · obtain ⟨-, other, other'⟩ := copied.passes brought split good free excludes content rfl
      rw [file_of_placed isFile places, if_neg other', if_neg other]
      exact copied.excluded path excludes
    · rw [get?_placed isFile places] at is
      by_cases same : p = path
      · rw [if_pos same] at is
        cases is
      · rw [if_neg same] at is
        by_cases same' : temporary env p = path
        · rw [if_pos same'] at is
          cases is
        · rw [if_neg same'] at is
          by_cases new : path <+: p.dropLast ∧ path ≠ []
          · exact .inr (made path (new.1.trans (List.dropLast_prefix p)) some fun same'' => absurd same''.symm same)
          · rw [if_neg new] at is
            exact still path some is
  · have makes : tree.mkdirs p = some tree' := places
    refine ⟨fun path content' within free' => ?_, fun path excludes => ?_, fun path some is => ?_⟩
    · rw [Files.file_mkdirs makes]
      exact copied.file path content' (by simpa using within) free'
    · rw [Files.file_mkdirs makes]
      exact copied.excluded path excludes
    · rw [Files.get?_mkdirs makes] at is
      split_ifs at is with new
      · exact .inr (made path new.1 some fun _ => rfl)
      · exact still path some is

lemma Lost.place {item : Item} (lost : Lost env snapshotId live items tree)
    (split : Split root items (item :: rest)) (places : placed env tree item = some tree') : Lost env snapshotId live (items ++ [item]) tree' := by
  obtain ⟨path, content, within, free, gone⟩ := lost
  refine ⟨path, content, List.mem_append_left _ within, free, file_placed places (fun below => ?_) gone⟩
  have before : path < item.1 := split.lt within List.mem_cons_self
  exact absurd (Files.le_of_prefix below) (not_le.2 before)

lemma Grown.place {item : Item} (grown : Grown env snapshotId live root items tree)
    (split : Split root items (item :: rest)) (free : ¬ Protected env snapshotId live item.1)
    (places : placed env tree item = some tree') :
    Lost env snapshotId live (items ++ [item]) tree' ∨ Grown env snapshotId live root (items ++ [item]) tree' := by
  obtain ⟨p, content | _⟩ := item
  · by_cases isFile : tree.isDir (temporary env p) = false
    · have keeps : ∀ path, tree.get? path = some .dir → tree'.get? path = some .dir := by
        intro path is
        rw [get?_placed isFile places, if_neg, if_neg]
        · split_ifs
          · rfl
          · exact is
        · rintro rfl
          rw [← Files.isDir_iff, isFile] at is
          cases is
        · rintro rfl
          exact not_dir_of_placed isFile places is
      by_cases clash : root.get? (temporary env p) ≠ none ∧ ¬ p < temporary env p
      · obtain ⟨there, late⟩ := clash
        have before : temporary env p < p := lt_of_le_of_ne (not_lt.1 late) (temporary_ne env p)
        have free' : ¬ Protected env snapshotId live (temporary env p) := fun guards =>
          temporary_not_excluded env p guards.excluded
        rcases is : root.get? (temporary env p) with _ | content' | _
        · exact absurd is there
        · refine .inl ⟨temporary env p, content', ?_, free', ?_⟩
          · exact List.mem_append_left _ (split.copied is (temporary_ne_nil env p) before)
          · rw [file_of_placed isFile places, if_neg (temporary_ne env p).symm, if_pos rfl]
        · have isDir := grown.dir _ (split.copied is (temporary_ne_nil env p) before) free'
          rw [← Files.isDir_iff, isFile] at isDir
          cases isDir
      · refine .inr ⟨fun path is => keeps path (grown.stays path is), fun path within free' => ?_,
          fun path content' within free' => ?_⟩
        · exact keeps path (grown.dir path (by simpa using within) free')
        · rcases List.mem_append.1 within with there | here
          · exact grown.good path content' there free'
          · obtain ⟨rfl, -⟩ := Prod.mk.inj (List.mem_singleton.1 here)
            refine ⟨Bool.eq_false_iff.2 fun isDir => ?_, fun there => ?_⟩
            · rw [Files.isDir_iff.2 (grown.stays _ (Files.isDir_iff.1 isDir))] at isFile
              cases isFile
            · by_contra late
              exact clash ⟨there, late⟩
    · exact .inl ⟨p, content, List.mem_append_right _ List.mem_cons_self, free,
        dir_of_placed (by simpa using isFile) places⟩
  · have makes : tree.mkdirs p = some tree' := places
    refine .inr ⟨fun path is => Files.dir_mkdirs makes (grown.stays path is), fun path within free' => ?_,
      fun path content' within free' => grown.good path content' (by simpa using within) free'⟩
    rcases List.mem_append.1 within with there | here
    · exact Files.dir_mkdirs makes (grown.dir path there free')
    · obtain ⟨rfl, -⟩ := Prod.mk.inj (List.mem_singleton.1 here)
      rw [Files.get?_mkdirs makes, if_pos]
      exact ⟨List.prefix_rfl, (split.mem_root (List.mem_append_right _ List.mem_cons_self)).2⟩

variable (env snapshotId) in
def AllGood (live root : Tree) : Prop :=
  ∀ path content, root.file path = some content → ¬ Protected env snapshotId live path → Good env root live path

variable (env snapshotId) in
/-- What holds before the items that are left. -/
def Held (live root : Tree) (rest : List Item) (tree : Tree) : Prop :=
  ∃ items, Split root items rest ∧
    (AllGood env snapshotId live root → Copied env snapshotId live root items rest tree) ∧
    (Lost env snapshotId live items tree ∨ Grown env snapshotId live root items tree)

lemma AllGood.item {item : Item} (all : AllGood env snapshotId live root)
    (split : Split root items (item :: rest)) (free : ¬ Protected env snapshotId live item.1) (content : Bytes)
    (is : item.2 = .file content) : Good env root live item.1 := by
  refine all item.1 content (Files.file_eq_some.2 ?_) free
  rw [← is]
  exact (split.mem_root (List.mem_append_right _ List.mem_cons_self)).1

lemma held_start (env : Env) (snapshotId : String) (live root : Tree) : Held env snapshotId live root root.listing live := by
  refine ⟨[], ⟨rfl⟩, fun _ => ⟨fun _ _ within => ?_, fun _ _ => rfl, fun _ _ is => .inl is⟩,
    .inr ⟨fun _ is => is, fun _ within => ?_, fun _ _ within => ?_⟩⟩ <;> simp at within

lemma held_along (brought : Brought snapshot root) {keep : Path → Prop}
    (keeps : ∀ path, keep path → AllGood env snapshotId live root ∧ Excluded env snapshotId live path) :
    Along env (Protected env snapshotId live) keep (Held env snapshotId live root) where
  skip item rest tree held guards := by
    obtain ⟨items, split, copied, lost | grown⟩ := held
    · obtain ⟨path, content, within, gone⟩ := lost
      exact ⟨items ++ [item], split.next, fun all => (copied all).skip guards,
        .inl ⟨path, content, List.mem_append_left _ within, gone⟩⟩
    · refine ⟨items ++ [item], split.next, fun all => (copied all).skip guards, .inr ⟨grown.stays, ?_, ?_⟩⟩
      · intro path within free
        rcases List.mem_append.1 within with there | here
        · exact grown.dir path there free
        · rw [← List.mem_singleton.1 here] at guards
          exact absurd guards free
      · intro path content within free
        rcases List.mem_append.1 within with there | here
        · exact grown.good path content there free
        · rw [← List.mem_singleton.1 here] at guards
          exact absurd guards free
  passes item rest tree held free path kept := by
    obtain ⟨items, split, copied, -⟩ := held
    obtain ⟨all, excludes⟩ := keeps path kept
    exact (copied all).passes brought split (all.item split free) free excludes
  place item rest tree tree' held free places := by
    obtain ⟨items, split, copied, lost | grown⟩ := held
    · exact ⟨items ++ [item], split.next, fun all => (copied all).place brought split (all.item split free) free places,
        .inl (lost.place split places)⟩
    · exact ⟨items ++ [item], split.next, fun all => (copied all).place brought split (all.item split free) free places,
        grown.place split free places⟩

/-! ## A source that is restored -/

lemma Clear.allGood (clear : Clear env snapshotId snapshot live) (brought : Brought snapshot root) :
    AllGood env snapshotId live root := by
  intro path content is free
  obtain ⟨there, some, allowed⟩ := (brought.file path content).1 is
  refine brought.good.2 (clear.temporary path content there some ?_)
  rintro (key | fence)
  · exact allowed key
  · exact free (.inr fence)

lemma Clear.protected (clear : Clear env snapshotId snapshot live) (some : path ≠ [])
    (excludes : Excluded env snapshotId live path) : Protected env snapshotId live path ∨ live.file path = none := by
  rcases excludes with key | fence
  · by_cases there : live.file path = none
    · exact .inr there
    · left
      left
      have short := clear.keys path key there
      rcases path with _ | ⟨file, _ | ⟨_, _⟩⟩
      · exact absurd rfl some
      · exact List.mem_map.2 ⟨file, by simpa [name] using key, rfl⟩
      · simp at short
  · exact .inl (.inr fence)

variable {snapshotId : String}

/-- What a restored root holds: of what is kept, what the items have left, and nothing else. -/
structure Restored (env : Env) (snapshotId : String) (live root tree tree' : Tree) : Prop where
  held : Held env snapshotId live root [] tree
  kept : ∀ path, path ≠ [] → Kept env snapshotId live root.listing path → tree'.file path = tree.file path
  others : ∀ path, path ≠ [] → ¬ Kept env snapshotId live root.listing path → tree'.file path = none

lemma Brought.not_excluded (brought : Brought snapshot root) (is : root.file path = some content)
    (free : ¬ Protected env snapshotId live path) : ¬ Excluded env snapshotId live path := by
  rintro (key | fence)
  · exact ((brought.file path content).1 is).2.2 key
  · exact free (.inr fence)

lemma Restored.not_lost (restored : Restored env snapshotId live root tree tree') (brought : Brought snapshot root)
    (same : Reproduced env snapshotId snapshot live tree') : Grown env snapshotId live root root.listing tree := by
  obtain ⟨items, split, -, lost | grown⟩ := restored.held
  · obtain ⟨path, content, within, free, gone⟩ := lost
    obtain ⟨is, some⟩ := split.mem_root (List.mem_append_left _ within)
    have is := Files.file_eq_some.2 is
    have kept : Kept env snapshotId live root.listing path :=
      .inr (List.mem_map.2 ⟨(path, .file content), by rw [split.all]; exact List.mem_append_left _ within, rfl⟩)
    have reproduced := (same path some).2 (brought.not_excluded is free)
    rw [restored.kept path some kept, gone, ((brought.file path content).1 is).1] at reproduced
    cases reproduced
  · have all : items = root.listing := by simpa using split.all.symm
    rwa [all] at grown

lemma Restored.reproduced_iff (restored : Restored env snapshotId live root tree tree') (brought : Brought snapshot root) :
    Reproduced env snapshotId snapshot live tree' ↔ Clear env snapshotId snapshot live := by
  constructor
  · intro same
    have grown := restored.not_lost brought same
    refine ⟨fun path key there => ?_, fun path content is some allowed => ?_⟩
    · by_contra long
      have some : path ≠ [] := by
        rintro rfl
        simp at long
      have reproduced := (same path some).1 (.inl key)
      have kept : Kept env snapshotId live root.listing path := by
        by_contra drops
        exact there (reproduced.symm.trans (restored.others path some drops))
      have free : ¬ Protected env snapshotId live path := by
        rintro (key' | ⟨fence, -⟩)
        · obtain ⟨file, -, rfl⟩ := List.mem_map.1 key'
          simp at long
        · rw [fence] at key
          revert key
          decide
      rcases kept with guards | within
      · exact free guards
      · obtain ⟨⟨_, content | _⟩, listed, rfl⟩ := List.mem_map.1 within
        · have is := Files.file_eq_some.2 (Files.mem_listing.1 listed).1
          exact ((brought.file _ content).1 is).2.2 key
        · have isDir := grown.dir _ listed free
          rw [restored.kept _ some (.inr within), Files.file_eq_none_of_dir isDir] at reproduced
          exact there reproduced.symm
    · have is' : root.file path = Option.some content :=
        (brought.file path content).2 ⟨is, some, fun key => allowed (.inl key)⟩
      refine brought.good.1 (grown.good path content (Files.mem_listing.2 ⟨Files.file_eq_some.1 is', some⟩) ?_)
      exact fun guards => allowed guards.excluded
  · intro clear path some
    obtain ⟨items, split, copied, lost_or⟩ := restored.held
    have copied := copied (clear.allGood brought)
    have all : items = root.listing := by simpa using split.all.symm
    subst all
    refine ⟨fun excludes => ?_, fun allowed => ?_⟩
    · by_cases kept : Kept env snapshotId live root.listing path
      · rw [restored.kept path some kept]
        exact copied.excluded path excludes
      · rw [restored.others path some kept]
        exact ((clear.protected some excludes).resolve_left fun guards => kept (.inl guards)).symm
    · have free : ¬ Protected env snapshotId live path := fun guards => allowed guards.excluded
      rcases is : snapshot.file path with _ | content
      · by_cases kept : Kept env snapshotId live root.listing path
        · rw [restored.kept path some kept]
          rcases kept with guards | within
          · exact absurd guards free
          · obtain ⟨⟨_, content | _⟩, listed, rfl⟩ := List.mem_map.1 within
            · have there := ((brought.file _ content).1 (Files.file_eq_some.2 (Files.mem_listing.1 listed).1)).1
              rw [is] at there
              cases there
            · rcases lost_or with ⟨path', content, within', free', gone⟩ | grown
              · rw [copied.file path' content within' free'] at gone
                cases gone
              · exact Files.file_eq_none_of_dir (grown.dir _ listed free)
        · exact restored.others path some kept
      · have is' : root.file path = Option.some content :=
          (brought.file path content).2 ⟨is, some, fun key => allowed (.inl key)⟩
        have within : (path, .file content) ∈ root.listing := Files.mem_listing.2 ⟨Files.file_eq_some.1 is', some⟩
        rw [restored.kept path some (.inr (List.mem_map_of_mem within))]
        exact copied.file path content within free

end Vertep.Backup
