import Mathlib.Data.Char
import Mathlib.Data.List.Infix
import Mathlib.Data.List.Lex
import Mathlib.Data.List.Sort
import Vertep.Lib.Dict

/-!
# File trees

What stands at the paths below a root, and the operations of a file system on it. A path is the list of its components;
the root itself is always there, and has no entry. An operation that fails leaves nothing.
-/

namespace Lib

/-- What stands at a path. -/
inductive Node (β : Type) where
  | file (content : β)
  | dir
deriving DecidableEq

abbrev Files (κ β : Type) := Dict (List κ) (Node β)

namespace Files

variable {κ β : Type} [DecidableEq κ] {t t' : Files κ β} {p q : List κ} {b : β}

/-- The content of the regular file at a path. -/
def file (t : Files κ β) (p : List κ) : Option β :=
  match t.get? p with
  | some (.file b) => some b
  | _ => none

lemma file_eq_some : t.file p = some b ↔ t.get? p = some (.file b) := by
  rw [file]
  split <;> simp_all

lemma file_of_get? (same : t.get? p = t'.get? p) : t.file p = t'.file p := by rw [file, file, same]

lemma file_eq_none_of_dir (is : t.get? p = some .dir) : t.file p = none := by rw [file, is]

/-- A directory stands at the path. -/
def isDir (t : Files κ β) (p : List κ) : Bool :=
  match t.get? p with
  | some .dir => true
  | _ => false

@[simp] lemma isDir_iff : t.isDir p = true ↔ t.get? p = some .dir := by
  rw [isDir]
  split <;> simp_all

def Closed (t : Files κ β) : Prop :=
  ∀ p q n, t.get? q = some n → p <+: q → p ≠ q → p ≠ [] → t.get? p = some .dir

/-! ## Directories -/

def makeDir (t : Files κ β) (p : List κ) : Files κ β := if t.contains p then t else t.set p .dir

/-- `mkdir -p`. -/
def mkdirs (t : Files κ β) (p : List κ) : Option (Files κ β) :=
  if p.inits.any fun q => (t.file q).isSome then none
  else some ((p.inits.filter (· ≠ [])).foldl makeDir t)

lemma get?_makeDir (t : Files κ β) (p q : List κ) :
    (t.makeDir p).get? q = if q = p then some ((t.get? q).getD .dir) else t.get? q := by
  rw [makeDir]
  cases is : t.get? p with
  | none =>
    have absent : t.contains p = false := by simp [Dict.contains, is]
    by_cases h : q = p
    · simp [absent, h, is]
    · simp [absent, h, Ne.symm h]
  | some n =>
    have present : t.contains p = true := by simp [Dict.contains, is]
    by_cases h : q = p <;> simp [present, h, is]

lemma get?_foldl_makeDir (ps : List (List κ)) (t : Files κ β) (q : List κ) :
    (ps.foldl makeDir t).get? q = if q ∈ ps then some ((t.get? q).getD .dir) else t.get? q := by
  induction ps generalizing t with
  | nil => simp
  | cons p ps ih =>
    rw [List.foldl_cons, ih, get?_makeDir]
    by_cases h : q = p <;> by_cases h' : q ∈ ps <;> simp [h, h']

/-- What `mkdir -p` leaves. -/
lemma get?_mkdirs (made : t.mkdirs p = some t') (q : List κ) :
    t'.get? q = if q <+: p ∧ q ≠ [] then some .dir else t.get? q := by
  rw [mkdirs] at made
  split at made
  · cases made
  · rename_i free
    obtain rfl := Option.some.inj made
    rw [get?_foldl_makeDir]
    by_cases h : q <+: p ∧ q ≠ []
    · have free_ : t.file q = none := by
        simp only [List.any_eq_true, List.mem_inits, not_exists, not_and] at free
        simpa using free q h.1
      have is : (t.get? q).getD .dir = .dir := by
        rcases there : t.get? q with _ | _ | _
        · rfl
        · rw [file, there] at free_
          cases free_
        · rfl
      simp [h, is]
    · rw [if_neg h, if_neg]
      simpa using h

lemma file_of_mkdirs (made : t.mkdirs p = some t') (within : q <+: p) : t.file q = none := by
  rw [mkdirs] at made
  split at made
  · cases made
  · rename_i free
    simp only [List.any_eq_true, List.mem_inits, not_exists, not_and] at free
    simpa using free q within

@[simp] lemma file_mkdirs (made : t.mkdirs p = some t') (q : List κ) : t'.file q = t.file q := by
  by_cases h : q <+: p ∧ q ≠ []
  · rw [file_of_mkdirs made h.1, file_eq_none_of_dir]
    rw [get?_mkdirs made, if_pos h]
  · exact file_of_get? ((get?_mkdirs made q).trans (if_neg h))

lemma dir_mkdirs (made : t.mkdirs p = some t') (is : t.get? q = some .dir) : t'.get? q = some .dir := by
  rw [get?_mkdirs made]
  split
  · rfl
  · exact is

/-! ## Files -/

/-- A file is written; the directory that is to hold it is there. -/
def write (t : Files κ β) (p : List κ) (b : β) : Option (Files κ β) :=
  if t.isDir p then none else some (t.set p (.file b))

/-- A file is copied to a path, or into it where it is a directory. -/
def copy (t : Files κ β) (b : β) (p : List κ) (name : κ) : Option (Files κ β) :=
  t.write (if t.isDir p then p ++ [name] else p) b

lemma copy_of_not_dir (other : t.isDir p = false) (name : κ) : t.copy b p name = t.write p b := by
  rw [copy, other, if_neg Bool.false_ne_true]

def moved (p p' q : List κ) : Option (List κ) :=
  if p <+: q then some (p' ++ q.drop p.length) else if p' <+: q then none else some q

lemma moved_injective (p p' : List κ) (k k' j : List κ) (h : moved p p' k = some j) (h' : moved p p' k' = some j) :
    k = k' := by
  unfold moved at h h'
  split_ifs at h h' with below below' other other
  · obtain ⟨l, rfl⟩ := below
    obtain ⟨l', rfl⟩ := below'
    simp only [List.drop_left, Option.some.injEq] at h h'
    rw [List.append_cancel_left (h.trans h'.symm)]
  · simp only [Option.some.injEq] at h h'
    subst h h'
    simp at other
  · simp only [Option.some.injEq] at h h'
    subst h h'
    simp at other
  · exact Option.some.inj (h.trans h'.symm)

/-- `rename(2)`, of siblings. -/
def rename (t : Files κ β) (p p' : List κ) : Option (Files κ β) :=
  match t.get? p with
  | none => none
  | some (.file b) => write (t.pop p) p' b
  | some .dir =>
    if (t.file p').isSome ∨ ∃ q ∈ t.keys, p' <+: q ∧ q ≠ p' then none
    else some (t.reKey (moved p p') (moved_injective p p'))

/-- `unlink`, where nothing is unlinked there is nothing to do. -/
def unlink (t : Files κ β) (p : List κ) : Files κ β := if (t.file p).isSome then t.pop p else t

lemma get?_write (wrote : t.write p b = some t') (q : List κ) :
    t'.get? q = if p = q then some (.file b) else t.get? q := by
  rw [write] at wrote
  split at wrote
  · cases wrote
  · obtain rfl := Option.some.inj wrote
    exact Dict.get?_set t p q _

lemma not_dir_of_write (wrote : t.write p b = some t') : t.get? p ≠ some .dir := by
  intro is
  simp [write, is] at wrote

lemma file_write (wrote : t.write p b = some t') (q : List κ) : t'.file q = if p = q then some b else t.file q := by
  rw [file, get?_write wrote]
  by_cases h : p = q
  · simp [h]
  · rw [if_neg h, if_neg h]
    rfl

lemma get?_rename {p' : List κ} (is : t.get? p = some (.file b)) (renames : t.rename p p' = some t') (q : List κ) :
    t'.get? q = if p' = q then some (.file b) else if p = q then none else t.get? q := by
  rw [rename, is] at renames
  rw [get?_write renames]
  simp

lemma dir_rename {p' : List κ} (is : t.get? p = some .dir) (renames : t.rename p p' = some t') :
    t'.get? p' = some .dir := by
  rw [rename, is] at renames
  simp only at renames
  split at renames
  · cases renames
  · obtain rfl := Option.some.inj renames
    refine Dict.get?_reKey.2 ⟨p, ?_, is⟩
    simp [moved]

lemma get?_rename_below {p' : List κ} (is : t.get? p = some .dir) (renames : t.rename p p' = some t') (below : p <+: q)
    (apart : ¬ p' <+: q) : t'.get? q = none := by
  rw [rename, is] at renames
  simp only at renames
  split at renames
  · cases renames
  · obtain rfl := Option.some.inj renames
    refine Option.eq_none_iff_forall_ne_some.2 fun n there => ?_
    obtain ⟨k, is, -⟩ := Dict.get?_reKey.1 there
    unfold moved at is
    split_ifs at is with below'
    · exact apart (Option.some.inj is ▸ List.prefix_append _ _)
    · exact below' (Option.some.inj is ▸ below)

lemma file_rename {p' : List κ} (renames : t.rename p p' = some t') (apart : ¬ p' <+: q) (free : t.file q = none) :
    t'.file q = none := by
  rcases is : t.get? p with _ | b | _
  · rw [rename, is] at renames
    cases renames
  · have other : p' ≠ q := by
      rintro rfl
      exact apart List.prefix_rfl
    rw [file, get?_rename is renames, if_neg other]
    by_cases h : p = q
    · rw [if_pos h]
    · rw [if_neg h]
      exact free
  · rw [rename, is] at renames
    simp only at renames
    split at renames
    · cases renames
    · obtain rfl := Option.some.inj renames
      refine Option.eq_none_iff_forall_ne_some.2 fun b there => ?_
      obtain ⟨k, is, was⟩ := Dict.get?_reKey.1 (file_eq_some.1 there)
      unfold moved at is
      split_ifs at is with below
      · exact apart (Option.some.inj is ▸ List.prefix_append _ _)
      · obtain rfl := Option.some.inj is
        rw [file_eq_some.2 was] at free
        cases free

@[simp] lemma file_unlink (t : Files κ β) (p q : List κ) : (t.unlink p).file q = if p = q then none else t.file q := by
  rw [unlink]
  by_cases h : p = q
  · subst h
    rw [if_pos rfl]
    rcases is : t.file p with _ | b
    · simpa using is
    · simp [file]
  · rw [if_neg h]
    split
    · exact file_of_get? (by simp [h])
    · rfl

/-! ## Archives -/

/-- A member of an archive is extracted; the directories that are to hold it are made. -/
def extract (t : Files κ β) (member : List κ × Node β) : Option (Files κ β) :=
  match member.2 with
  | .dir => t.mkdirs member.1
  | .file b => (t.mkdirs member.1.dropLast).bind fun t => t.write member.1 b

def extractAll (members : List (List κ × Node β)) : Option (Files κ β) := members.foldlM extract ∅

omit [DecidableEq κ] in
lemma prefix_dropLast {l l' : List κ} (within : l <+: l') (proper : l ≠ l') : l <+: l'.dropLast := by
  obtain ⟨k, rfl⟩ := within
  have more : k ≠ [] := by
    rintro rfl
    simp at proper
  rw [List.dropLast_append_of_ne_nil more]
  exact List.prefix_append _ _

/-- What is extracted is the members, and the directories that hold them. -/
structure Extracted (members : List (List κ × Node β)) (t : Files κ β) : Prop where
  files : ∀ p b, t.file p = some b → (p, .file b) ∈ members
  dirs : ∀ p, t.get? p = some .dir → ∃ member ∈ members, p <+: member.1
  closed : t.Closed
  file : ∀ p b, (p, .file b) ∈ members → (∀ b', (p, .file b') ∈ members → b' = b) → t.file p = some b
  dir : ∀ p, (p, .dir) ∈ members → p ≠ [] → t.get? p = some .dir

lemma Closed.mkdirs (closed : t.Closed) (made : t.mkdirs p = some t') : t'.Closed := by
  intro q r n there within proper some
  rw [get?_mkdirs made] at there
  split at there
  · rename_i new
    rw [get?_mkdirs made, if_pos ⟨within.trans new.1, some⟩]
  · exact dir_mkdirs made (closed q r n there within proper some)

lemma Closed.write (closed : t.Closed) (wrote : t.write p b = some t')
    (below : ∀ q, q <+: p → q ≠ p → q ≠ [] → t.get? q = some .dir) : t'.Closed := by
  intro q r n there within proper some
  have apart : t.get? q = Option.some .dir → t'.get? q = Option.some .dir := by
    intro is
    rw [get?_write wrote, if_neg]
    · exact is
    · rintro rfl
      exact not_dir_of_write wrote is
  rw [get?_write wrote] at there
  split at there
  · rename_i same
    subst same
    exact apart (below q within proper some)
  · exact apart (closed q r n there within proper some)

lemma Extracted.step {members : List (List κ × Node β)} (extracted : Extracted members t) {member : List κ × Node β}
    (put : t.extract member = some t') : Extracted (members ++ [member]) t' := by
  obtain ⟨p, _ | _⟩ := member
  · rename_i b
    obtain ⟨t₁, made, wrote⟩ := Option.bind_eq_some_iff.1 put
    refine ⟨fun q b' is => ?_, fun q is => ?_, ?_, fun q b' within unique => ?_, fun q within some => ?_⟩
    · rw [file_write wrote, file_mkdirs made] at is
      split at is
      · rename_i same
        subst same
        obtain rfl := Option.some.inj is
        exact List.mem_append_right _ List.mem_cons_self
      · exact List.mem_append_left _ (extracted.files q b' is)
    · rw [get?_write wrote] at is
      split at is
      · cases is
      · rw [get?_mkdirs made] at is
        split at is
        · rename_i new
          exact ⟨_, List.mem_append_right _ List.mem_cons_self, new.1.trans (List.dropLast_prefix p)⟩
        · obtain ⟨member, within, below⟩ := extracted.dirs q is
          exact ⟨member, List.mem_append_left _ within, below⟩
    · refine (extracted.closed.mkdirs made).write wrote fun q within proper some => ?_
      rw [get?_mkdirs made, if_pos ⟨prefix_dropLast within proper, some⟩]
    · rw [file_write wrote, file_mkdirs made]
      split
      · rename_i same
        subst same
        rw [unique b (List.mem_append_right _ List.mem_cons_self)]
      · rename_i other
        refine extracted.file q b' ?_ fun b'' there => unique b'' (List.mem_append_left _ there)
        rcases List.mem_append.1 within with there | there
        · exact there
        · obtain ⟨rfl, -⟩ := Prod.mk.inj (List.mem_singleton.1 there)
          exact absurd rfl other
    · have there : (q, .dir) ∈ members := by simpa using within
      have is := dir_mkdirs made (extracted.dir q there some)
      rw [get?_write wrote, if_neg]
      · exact is
      · rintro rfl
        exact not_dir_of_write wrote is
  · have made : t.mkdirs p = some t' := put
    refine ⟨fun q b' is => ?_, fun q is => ?_, extracted.closed.mkdirs made, fun q b' within unique => ?_,
      fun q within some => ?_⟩
    · rw [file_mkdirs made] at is
      exact List.mem_append_left _ (extracted.files q b' is)
    · rw [get?_mkdirs made] at is
      split at is
      · rename_i new
        exact ⟨_, List.mem_append_right _ List.mem_cons_self, new.1⟩
      · obtain ⟨member, within, below⟩ := extracted.dirs q is
        exact ⟨member, List.mem_append_left _ within, below⟩
    · rw [file_mkdirs made]
      exact extracted.file q b' (by simpa using within) fun b'' there => unique b'' (List.mem_append_left _ there)
    · rcases List.mem_append.1 within with there | there
      · exact dir_mkdirs made (extracted.dir q there some)
      · obtain ⟨rfl, -⟩ := Prod.mk.inj (List.mem_singleton.1 there)
        rw [get?_mkdirs made, if_pos ⟨List.prefix_rfl, some⟩]

lemma extracted {members : List (List κ × Node β)} (all : extractAll members = some t) : Extracted members t := by
  induction members using List.reverseRecOn generalizing t with
  | nil =>
    cases all
    refine ⟨fun p b is => ?_, fun p is => ?_, fun p q n is => ?_, fun p b within => ?_, fun p within => ?_⟩
    · cases is
    · cases is
    · cases is
    · cases within
    · cases within
  | append_singleton members member ih =>
    rw [extractAll, List.foldlM_append] at all
    obtain ⟨t₁, before, put⟩ := Option.bind_eq_some_iff.1 all
    exact (ih before).step (by simpa using put)

/-! ## Listings -/

section
variable [LinearOrder κ]

def listing (t : Files κ β) : List (List κ × Node β) :=
  (t.entries.filter fun e => e.1 ≠ []).insertionSort fun e e' => e.1 ≤ e'.1

lemma mem_listing {n : Node β} : (p, n) ∈ t.listing ↔ t.get? p = some n ∧ p ≠ [] := by
  rw [listing, List.mem_insertionSort, List.mem_filter, Dict.mem_entries_iff]
  simp

omit [DecidableEq κ] in
lemma listing_lt (t : Files κ β) : t.listing.Pairwise fun e e' => e.1 < e'.1 := by
  have sorted : t.listing.Pairwise fun e e' => e.1 ≤ e'.1 := List.pairwise_insertionSort _ _
  have once : (t.listing.map Prod.fst).Nodup :=
    (((List.perm_insertionSort _ _).map Prod.fst).nodup_iff).2 (t.nodup.sublist (List.filter_sublist.map Prod.fst))
  exact (sorted.and (List.pairwise_map.1 once)).imp fun ⟨le, ne⟩ => lt_of_le_of_ne le ne

omit [DecidableEq κ] in
lemma le_of_prefix {l l' : List κ} (within : l <+: l') : l ≤ l' := by
  obtain ⟨k, rfl⟩ := within
  induction l with
  | nil => exact not_lt.1 (List.not_lt_nil k)
  | cons a l ih => exact List.cons_le_cons a ih

end

end Files

end Lib
