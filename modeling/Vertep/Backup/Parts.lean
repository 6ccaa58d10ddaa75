import Mathlib.Data.Char
import Mathlib.Data.List.Flatten
import Mathlib.Data.List.Lex
import Mathlib.Data.List.Sort
import Mathlib.Data.Nat.Log
import Vertep.Lib.Bytes
import Vertep.Lib.Dict
import Vertep.Lib.Text

/-!
# The parts of a snapshot

Embedding of the file format of `services/backup_service.py`: `_encrypt`, `_split_parts`, `_snapshot_files`, the renames
of `_create_snapshot`, and what `restore` joins and gives to `_decrypt`. Writer and reader agree on the order of the
parts through their names only, and the names sort by their numbers as long as these have four digits.
-/

namespace Vertep.Backup.Parts
open Lib

abbrev Text := List Char

/-! ## Files -/

/-- A directory: the bytes of its files, by their names. -/
abbrev Directory := Dict Text Bytes

/-- The bytes of a file that is there. -/
def read (d : Directory) (name : Text) : Bytes := (d.get? name).getD []

/-- The last digits of a number. -/
def digits : ℕ → ℕ → Text
  | 0, _ => []
  | k + 1, n => Nat.digitChar (n / 10 ^ k % 10) :: digits k n

/-- `f"{number:04d}"`. -/
def padded (number : ℕ) : Text := digits (max 4 (Nat.log 10 number + 1)) number

/-- The names that the pattern of `_snapshot_files` allows begin with this. -/
def stem (first : Text) : Text := first ++ ".part".toList

def part (first : Text) (number : ℕ) : Text := stem first ++ padded number

/-- `_snapshot_files`. The names have no character that a pattern gives a meaning. -/
def snapshotFiles (d : Directory) (first : Text) : List Text :=
  first :: (d.keys.filter fun name => stem first <+: name).insertionSort (· ≤ ·)

/-- `str.replace`, of the first occurrence. -/
def replaceOnce (old new : Text) : Text → Text
  | [] => if old = [] then new else []
  | c :: cs => if old <+: c :: cs then new ++ (c :: cs).drop old.length else c :: replaceOnce old new cs

/-! ## Chunks -/

/-- What is read at once. -/
def CHUNK : ℕ := 1024 * 1024

/-- The chunks that are read until `remaining` bytes are, or the source ends, and what is left of the source. -/
def readChunks (remaining : ℕ) (source : Bytes) : List Bytes × Bytes :=
  if _ : remaining = 0 ∨ source = [] then ([], source)
  else
    let chunk := source.take (min CHUNK remaining)
    let (chunks, rest) := readChunks (remaining - chunk.length) (source.drop (min CHUNK remaining))
    (chunk :: chunks, rest)
termination_by source.length
decreasing_by
  rename_i more
  rw [not_or, ← List.length_eq_zero_iff] at more
  rw [List.length_drop, CHUNK]
  omega

lemma readChunks_eq (remaining : ℕ) (source : Bytes) : (readChunks remaining source).1.flatten = source.take remaining ∧
    (readChunks remaining source).2 = source.drop remaining := by
  fun_induction readChunks remaining source with
  | case1 remaining source done => rcases done with rfl | rfl <;> simp
  | case2 remaining source more chunk chunks rest is ih =>
    rw [is] at ih
    rw [List.flatten_cons, ih.1, ih.2]
    rcases le_total (min CHUNK remaining) source.length with fits | short
    · have length : chunk.length = min CHUNK remaining := List.length_take_of_le fits
      rw [length, ← List.take_add, List.drop_drop, Nat.add_sub_cancel' (min_le_right _ _)]
      exact ⟨rfl, rfl⟩
    · have all : chunk = source := List.take_of_length_le short
      have within : source.length ≤ remaining := short.trans (min_le_right _ _)
      rw [List.drop_of_length_le short, all, List.take_nil, List.drop_nil, List.append_nil,
        List.take_of_length_le within, List.drop_of_length_le within]
      exact ⟨rfl, rfl⟩

lemma readChunks_eq_nil {remaining : ℕ} {source : Bytes} :
    (readChunks remaining source).1 = [] ↔ remaining = 0 ∨ source = [] := by
  rw [readChunks]
  split <;> simp [*]

/-- `iter(lambda: file.read(…), b"")`. -/
def chunksOf (source : Bytes) : List Bytes := (readChunks source.length source).1

@[simp] lemma flatten_chunksOf (source : Bytes) : (chunksOf source).flatten = source := by
  rw [chunksOf, (readChunks_eq _ _).1, List.take_length]

/-! ## The cipher -/

/-- AES-GCM: a key stream, which a key and a nonce determine, goes over the bytes, and a tag over the ciphertext. -/
structure Gcm where
  keystream : Bytes → Bytes → ℕ → UInt8
  tag : Bytes → Bytes → Bytes → Bytes
  length_tag : ∀ key nonce ciphertext, (tag key nonce ciphertext).length = 16

namespace Gcm
variable (c : Gcm) (key nonce : Bytes)

/-- `update`, of an encryptor or a decryptor that has `n` bytes behind it. -/
def update (n : ℕ) (chunk : Bytes) : Bytes := chunk.mapIdx fun i b => b ^^^ c.keystream key nonce (n + i)

/-- What the updates of a stream give, one after the other. -/
def updates (chunks : List Bytes) : Bytes :=
  chunks.foldl (fun output chunk => output ++ c.update key nonce output.length chunk) []

@[simp] lemma length_update (n : ℕ) (chunk : Bytes) : (c.update key nonce n chunk).length = chunk.length :=
  List.length_mapIdx

lemma updates_eq (chunks : List Bytes) : c.updates key nonce chunks = c.update key nonce 0 chunks.flatten := by
  induction chunks using List.reverseRecOn with
  | nil => rfl
  | append_singleton chunks chunk ih =>
    have behind : c.updates key nonce (chunks ++ [chunk]) = c.updates key nonce chunks ++
        c.update key nonce (c.updates key nonce chunks).length chunk := by
      rw [updates, List.foldl_concat]
      rfl
    rw [behind, ih, length_update, List.flatten_append, List.flatten_singleton]
    simp only [update, List.mapIdx_append, Nat.zero_add, Nat.add_comm chunks.flatten.length]

@[simp] lemma update_update (n : ℕ) (chunk : Bytes) : c.update key nonce n (c.update key nonce n chunk) = chunk := by
  rw [update, update, List.mapIdx_mapIdx, List.mapIdx_eq_iff]
  intro i
  cases chunk[i]? <;> simp [UInt8.xor_assoc]

end Gcm

/-! ## Writing and reading a snapshot -/

def MAGIC : Bytes := "VERTEP-BACKUP-v1".toList.map (fun c => UInt8.ofNat c.toNat) ++ [0]

section
variable (c : Gcm) (key : Bytes)

/-- `_encrypt`, the bytes that it writes. -/
def encrypt (nonce archive : Bytes) : Bytes :=
  let output := c.updates key nonce (chunksOf archive)
  MAGIC ++ nonce ++ output ++ c.tag key nonce output

/-- `_decrypt`, the bytes that it writes, or the error. -/
def decrypt (source : Bytes) : Except String Bytes :=
  if source.take MAGIC.length ≠ MAGIC then .error "Invalid backup magic"
  else
    let nonce := slice source MAGIC.length 12
    if source.length < MAGIC.length + nonce.length + 16 then .error "Backup payload is truncated"
    else
      let size := source.length - (MAGIC.length + nonce.length + 16)
      let tag := slice source (source.length - 16) 16
      let chunks := (readChunks size (source.drop (MAGIC.length + nonce.length))).1
      if chunks.flatten.length < size then .error "Backup ciphertext is truncated"
      else if c.tag key nonce chunks.flatten ≠ tag then .error "InvalidTag"
      else .ok (c.updates key nonce chunks)

variable {c key} {nonce archive source : Bytes}

lemma encrypt_eq : encrypt c key nonce archive = MAGIC ++ (nonce ++ (c.update key nonce 0 archive ++
    c.tag key nonce (c.update key nonce 0 archive))) := by
  simp only [encrypt, c.updates_eq, flatten_chunksOf, List.append_assoc]

lemma length_encrypt (twelve : nonce.length = 12) : (encrypt c key nonce archive).length = 45 + archive.length := by
  simp only [encrypt_eq, List.length_append, c.length_update, c.length_tag, twelve, show MAGIC.length = 17 from rfl]
  omega

lemma decrypt_encrypt (twelve : nonce.length = 12) : decrypt c key (encrypt c key nonce archive) = .ok archive := by
  have length : (encrypt c key nonce archive).length = 45 + archive.length := length_encrypt twelve
  rw [encrypt_eq] at length ⊢
  generalize is : c.update key nonce 0 archive = body at length ⊢
  have many : body.length = archive.length := by rw [← is, c.length_update]
  generalize whole : MAGIC ++ (nonce ++ (body ++ c.tag key nonce body)) = source at length ⊢
  have front : source.take MAGIC.length = MAGIC := by rw [← whole, List.take_left]
  have second : slice source MAGIC.length 12 = nonce := by rw [← whole, ← twelve, slice_append]
  have third : source.drop (MAGIC.length + nonce.length) = body ++ c.tag key nonce body := by
    rw [← whole, ← List.append_assoc, List.drop_left' List.length_append]
  have last : slice source (source.length - 16) 16 = c.tag key nonce body := by
    have : source.length - 16 = (MAGIC ++ nonce ++ body).length := by
      rw [length, List.length_append, List.length_append, twelve, many, show MAGIC.length = 17 from rfl]
      omega
    rw [this, ← whole, ← c.length_tag key nonce body]
    have := slice_append (MAGIC ++ nonce ++ body) (c.tag key nonce body) []
    simpa only [List.append_assoc, List.append_nil] using this
  have size : source.length - (MAGIC.length + nonce.length + 16) = body.length := by
    rw [length, twelve, many, show MAGIC.length = 17 from rfl]
    omega
  have enough : ¬ source.length < MAGIC.length + nonce.length + 16 := by
    rw [length, twelve, show MAGIC.length = 17 from rfl]
    omega
  have read : (readChunks body.length (body ++ c.tag key nonce body)).1.flatten = body := by
    rw [(readChunks_eq _ _).1, List.take_left]
  simp only [decrypt, front, second, third, last, size, read, enough, c.updates_eq, ne_eq, not_true, if_false,
    lt_irrefl]
  rw [← is, c.update_update]

/-- What decrypts is what is encrypted to it. -/
lemma of_decrypt (decrypts : decrypt c key source = .ok archive) :
    source = encrypt c key (slice source MAGIC.length 12) archive := by
  simp only [decrypt] at decrypts
  split at decrypts
  · cases decrypts
  · rename_i magic
    split at decrypts
    · cases decrypts
    · rename_i enough
      split at decrypts
      · cases decrypts
      · split at decrypts
        · cases decrypts
        · rename_i tag
          rw [Except.ok.injEq, c.updates_eq] at decrypts
          rw [not_not] at magic tag
          rw [encrypt_eq, ← decrypts, c.update_update, tag]
          have seventeen : MAGIC.length = 17 := rfl
          have twelve : (slice source MAGIC.length 12).length = 12 := by
            rw [slice, List.length_take, List.length_drop] at enough ⊢
            omega
          rw [twelve] at enough ⊢
          rw [(readChunks_eq _ _).1]
          have behind : source.drop (source.length - 16) = slice source (source.length - 16) 16 :=
            (List.take_of_length_le (by rw [List.length_drop]; omega)).symm
          have start : MAGIC.length + 12 + (source.length - (MAGIC.length + 12 + 16)) = source.length - 16 := by omega
          have cut := List.take_append_drop (source.length - (MAGIC.length + 12 + 16)) (source.drop (MAGIC.length + 12))
          rw [List.drop_drop, start, behind] at cut
          rw [cut, ← drop_eq_slice]
          exact (List.take_append_drop MAGIC.length source).symm.trans (by rw [magic])

end

section
variable (size : ℕ)

/-- The continuations that the loop of `_split_parts` writes: their numbers and bytes. -/
def continuations (number : ℕ) (source : Bytes) : List (ℕ × Bytes) :=
  if _ : (readChunks size source).1 = [] then []
  else
    (number, (readChunks size source).1.flatten) :: continuations (number + 1) (readChunks size source).2
termination_by source.length
decreasing_by
  rename_i some
  rw [readChunks_eq_nil, not_or, ← List.length_eq_zero_iff] at some
  rw [(readChunks_eq _ _).2, List.length_drop]
  omega

/-- `_split_parts`, of a file of its directory. -/
def splitParts (name : Text) (d : Directory) : Directory :=
  if (read d name).length ≤ size then d
  else
    let written := (continuations size 1 ((read d name).drop size)).foldl (fun d e => d.set (part name e.1) e.2) d
    written.set name ((read d name).take size)

end

structure Receipt (δ : Type) where
  sha256 : δ
  size : ℕ
  file : Text
  parts : List Text

/-- The name that a snapshot has until it is complete. -/
def TEMPORARY : Text := "snapshot.vtbackup".toList

/-- `_create_snapshot` from an archive on, as far as its files go. -/
def createSnapshot {δ : Type} (sha256 : Bytes → δ) (c : Gcm) (size : ℕ) (key nonce archive : Bytes) (snapshotId : Text)
    (root : Directory) : Receipt δ × Directory :=
  let encrypted := encrypt c key nonce archive
  let temporary := splitParts size TEMPORARY (Dict.set ∅ TEMPORARY encrypted)
  let destination := snapshotId ++ ".vtbackup".toList
  let moved := (snapshotFiles temporary TEMPORARY).tail.foldl
    (fun root name => root.set (replaceOnce TEMPORARY destination name) (read temporary name)) root
  let root := moved.set destination (read temporary TEMPORARY)
  ({ sha256 := sha256 encrypted, size := encrypted.length, file := destination,
     parts := snapshotFiles root destination }, root)

/-- What a restore joins. -/
def joined (d : Directory) (first : Text) : Bytes := (snapshotFiles d first).flatMap (read d)

/-! ## The order of the names -/

variable {k a b m : ℕ}

lemma digits_lt (less : a % 10 ^ k < b % 10 ^ k) : digits k a < digits k b := by
  have char_lt : ∀ m < 10, ∀ n < m, Nat.digitChar n < Nat.digitChar m := by decide
  induction k with
  | zero => omega
  | succ k ih =>
    rw [digits, digits, List.cons_lt_cons_iff]
    rw [Nat.mod_pow_succ, Nat.mod_pow_succ] at less
    have behind := Nat.mod_lt a (Nat.pow_pos (n := k) (show 0 < 10 by decide))
    have behind' := Nat.mod_lt b (Nat.pow_pos (n := k) (show 0 < 10 by decide))
    rcases lt_trichotomy (a / 10 ^ k % 10) (b / 10 ^ k % 10) with front | front | front
    · exact .inl (char_lt _ (Nat.mod_lt _ (by decide)) _ front)
    · rw [front] at less ⊢
      exact .inr ⟨rfl, ih (by omega)⟩
    · have := Nat.mul_le_mul_left (10 ^ k) (Nat.succ_le_of_lt front)
      rw [Nat.succ_eq_add_one, Nat.mul_add] at this
      omega

@[simp] lemma length_digits (k n : ℕ) : (digits k n).length = k := by
  induction k with
  | zero => rfl
  | succ k ih => rw [digits, List.length_cons, ih]

lemma padded_injective : padded.Injective := by
  apply Function.Injective.of_lt_imp_ne
  intro a b less same
  have width := congrArg List.length same
  rw [padded, padded] at same
  rw [padded, padded, length_digits, length_digits] at width
  have below (n : ℕ) : n < 10 ^ max 4 (Nat.log 10 n + 1) :=
    (Nat.lt_pow_succ_log_self (by decide) n).trans_le (Nat.pow_le_pow_right (by decide) (le_max_right _ _))
  have a_below := below a
  have b_below := below b
  rw [← width] at same b_below
  rw [← Nat.mod_eq_of_lt a_below, ← Nat.mod_eq_of_lt b_below] at less
  have := digits_lt less
  rw [same] at this
  exact List.lt_irrefl _ this

/-- The names sort by their numbers as long as these have four digits. -/
lemma padded_lt (less : a < b) (four : b < 10000) : padded a < padded b := by
  have width {n : ℕ} (four : n < 10000) : max 4 (Nat.log 10 n + 1) = 4 := by
    have : Nat.log 10 n < 4 := Nat.log_lt_of_lt_pow' (by decide) four
    omega
  rw [padded, padded, width four, width (less.trans four)]
  have whole {n : ℕ} (four : n < 10000) : n % 10 ^ 4 = n := Nat.mod_eq_of_lt four
  exact digits_lt (by rwa [whole four, whole (less.trans four)])

/-- A number of five digits stands before a smaller one of four. -/
lemma padded_overflow : padded 10000 < padded 1001 := by decide

/-- The numbers of `m` continuations, in the order in which they are listed. -/
def order (m : ℕ) : List ℕ := (List.range' 1 m).insertionSort fun a b => padded a ≤ padded b

/-! ## Parts of a file -/

section
variable {size : ℕ} {bytes : Bytes} {d : Directory} {first name : Text}

/-- The bytes that the continuation with a number has, and for zero the file itself. -/
def piece (size : ℕ) (bytes : Bytes) (number : ℕ) : Bytes := slice bytes (number * size) size

lemma continuations_eq (some : 0 < size) (number : ℕ) (source : Bytes) : continuations size number source =
    (List.range' number ((source.length + size - 1) / size)).map fun k => (k, piece size source (k - number)) := by
  fun_induction continuations size number source with
  | case1 number source none =>
    rcases readChunks_eq_nil.1 none with zero | rfl
    · omega
    · rw [List.length_nil, Nat.zero_add, Nat.div_eq_of_lt (by omega)]
      rfl
  | case2 number source more ih =>
    rw [readChunks_eq_nil, not_or, ← List.length_eq_zero_iff] at more
    have count : (source.length + size - 1) / size = ((source.drop size).length + size - 1) / size + 1 := by
      rw [List.length_drop, ← Nat.add_div_right _ some]
      rcases le_total size source.length with fits | short
      · congr 1
        omega
      · rw [Nat.sub_eq_zero_of_le short, Nat.div_eq_of_lt_le (k := 1) (by omega) (by omega)]
        exact (Nat.div_eq_of_lt_le (by omega) (by omega)).symm
    rw [ih, (readChunks_eq _ _).1, (readChunks_eq _ _).2, count, List.range'_succ, List.map_cons]
    congr 1
    · rw [Nat.sub_self, piece, slice, Nat.zero_mul]
      rfl
    · apply List.map_congr_left
      intro k within
      obtain ⟨k, rfl⟩ := Nat.exists_eq_add_of_le (List.mem_range'_1.1 within).1
      have : number + 1 + k - number = k + 1 := by omega
      rw [this, Nat.add_sub_cancel_left, piece, piece, slice, slice, List.drop_drop, Nat.add_mul, Nat.one_mul,
        Nat.add_comm size]

/-- How many continuations a file has. -/
def count (size : ℕ) (bytes : Bytes) : ℕ := (bytes.length - 1) / size

/-- A file and its continuations are in a directory, and nothing else has such a name. -/
structure Holds (d : Directory) (first : Text) (size : ℕ) (bytes : Bytes) : Prop where
  start : d.get? first = some (piece size bytes 0)
  behind : ∀ k, 1 ≤ k → k ≤ count size bytes → d.get? (part first k) = some (piece size bytes k)
  listed : ∀ name ∈ d.keys, stem first <+: name → ∃ k, 1 ≤ k ∧ k ≤ count size bytes ∧ name = part first k

lemma part_injective (first : Text) : (part first).Injective := fun _ _ same =>
  padded_injective (List.append_cancel_left same)

lemma mem_order : k ∈ order m ↔ 1 ≤ k ∧ k ≤ m := by
  rw [order, List.mem_insertionSort, List.mem_range'_1]
  omega

lemma order_nodup (m : ℕ) : (order m).Nodup := (List.perm_insertionSort _ _).nodup_iff.2 List.nodup_range'

lemma padded_sorted (numbers : List ℕ) :
    (numbers.insertionSort fun a b => padded a ≤ padded b).Pairwise fun a b => padded a ≤ padded b := by
  have : Std.Total fun a b => padded a ≤ padded b := ⟨fun a b => le_total _ _⟩
  have : IsTrans ℕ fun a b => padded a ≤ padded b := ⟨fun a b c => le_trans⟩
  exact List.pairwise_insertionSort _ _

lemma order_sorted (m : ℕ) : (order m).Pairwise fun a b => padded a ≤ padded b := padded_sorted _

lemma append_le_append (front : Text) {s t : Text} (le : s ≤ t) : front ++ s ≤ front ++ t := by
  induction front with
  | nil => exact le
  | cons c front ih => exact List.cons_le_cons c ih

/-- The continuations are listed in the order of their padded numbers. -/
lemma Holds.files (holds : Holds d first size bytes) :
    snapshotFiles d first = first :: (order (count size bytes)).map (part first) := by
  rw [snapshotFiles]
  congr 1
  apply List.Perm.eq_of_pairwise' (List.pairwise_insertionSort _ _)
  · apply List.pairwise_map.2
    exact (order_sorted _).imp (append_le_append _)
  · apply (List.perm_insertionSort _ _).trans
    apply (List.perm_ext_iff_of_nodup (d.nodup.filter _) ((order_nodup _).map (part_injective first))).2
    intro name
    constructor
    · intro there
      obtain ⟨within, begins⟩ := List.mem_filter.1 there
      obtain ⟨k, one, le, rfl⟩ := holds.listed name within (of_decide_eq_true begins)
      exact List.mem_map_of_mem (mem_order.2 ⟨one, le⟩)
    · intro there
      obtain ⟨k, within, rfl⟩ := List.mem_map.1 there
      obtain ⟨one, le⟩ := mem_order.1 within
      exact List.mem_filter.2 ⟨Dict.mem_keys_iff.2 ⟨_, holds.behind k one le⟩, decide_eq_true (List.prefix_append _ _)⟩

lemma Holds.joined (holds : Holds d first size bytes) :
    joined d first = piece size bytes 0 ++ (order (count size bytes)).flatMap (piece size bytes) := by
  rw [Parts.joined, holds.files, List.flatMap_cons, List.flatMap_map, read, holds.start, Option.getD_some]
  congr 1
  apply List.flatMap_congr
  intro k within
  obtain ⟨one, le⟩ := mem_order.1 within
  rw [read, holds.behind k one le, Option.getD_some]

/-! ## What is written -/

/-- No name in the directory is one that a continuation could have. -/
def Fresh (d : Directory) (first : Text) : Prop := ∀ name ∈ d.keys, ¬ stem first <+: name

lemma stem_not_before (first : Text) : ¬ stem first <+: first := by
  intro begins
  have := begins.length_le
  rw [stem, List.length_append, show ".part".toList.length = 5 from rfl] at this
  omega

lemma part_ne (first : Text) (k : ℕ) : part first k ≠ first := by
  intro is
  have begins : stem first <+: part first k := List.prefix_append _ _
  rw [is] at begins
  exact stem_not_before first begins

/-- The continuations under the given numbers, with the given bytes. -/
def writeParts (first : Text) (bytesOf : ℕ → Bytes) (numbers : List ℕ) (d : Directory) : Directory :=
  numbers.foldl (fun d k => d.set (part first k) (bytesOf k)) d

variable {bytesOf : ℕ → Bytes} {numbers : List ℕ}

lemma get?_writeParts (within : k ∈ numbers) :
    (writeParts first bytesOf numbers d).get? (part first k) = some (bytesOf k) := by
  induction numbers using List.reverseRecOn with
  | nil => cases within
  | append_singleton numbers number ih =>
    rw [writeParts, List.foldl_concat, Dict.get?_set]
    split
    · rename_i same
      rw [part_injective first same]
    · rename_i other
      rcases List.mem_append.1 within with before | is
      · exact ih before
      · rw [List.mem_singleton.1 is] at other
        exact absurd rfl other

lemma mem_keys_writeParts (within : name ∈ (writeParts first bytesOf numbers d).keys) :
    name ∈ d.keys ∨ ∃ k ∈ numbers, name = part first k := by
  induction numbers using List.reverseRecOn with
  | nil => exact .inl within
  | append_singleton numbers number ih =>
    rw [writeParts, List.foldl_concat, Dict.mem_keys_set] at within
    rcases within with is | before
    · exact .inr ⟨number, List.mem_append_right _ List.mem_cons_self, is⟩
    · rcases ih before with old | ⟨k, member, is⟩
      · exact .inl old
      · exact .inr ⟨k, List.mem_append_left _ member, is⟩

lemma holds_writeParts (fresh : Fresh d first) (all : ∀ k, k ∈ numbers ↔ 1 ≤ k ∧ k ≤ count size bytes)
    (is : ∀ k ∈ numbers, bytesOf k = piece size bytes k) :
    Holds ((writeParts first bytesOf numbers d).set first (piece size bytes 0)) first size bytes := by
  constructor
  · rw [Dict.get?_set, if_pos rfl]
  · intro k one le
    have within := (all k).2 ⟨one, le⟩
    rw [Dict.get?_set, if_neg (part_ne first k).symm, get?_writeParts within, is k within]
  · intro name within begins
    rcases Dict.mem_keys_set.1 within with rfl | within
    · exact absurd begins (stem_not_before _)
    · rcases mem_keys_writeParts within with old | ⟨k, member, rfl⟩
      · exact absurd begins (fresh name old)
      · obtain ⟨one, le⟩ := (all k).1 member
        exact ⟨k, one, le, rfl⟩

/-- What `_split_parts` leaves. -/
lemma holds_splitParts (fresh : Fresh d first) (there : d.get? first = some bytes) (some : 0 < size) :
    Holds (splitParts size first d) first size bytes := by
  have is : read d first = bytes := by rw [read, there, Option.getD_some]
  have zero : piece size bytes 0 = bytes.take size := by rw [piece, slice, Nat.zero_mul, List.drop_zero]
  rw [splitParts, is]
  split
  · rename_i small
    have none : count size bytes = 0 := by
      rw [count]
      exact Nat.div_eq_of_lt (by omega)
    constructor
    · rw [zero, List.take_of_length_le small, there]
    · intro k one le
      omega
    · intro name within begins
      exact absurd begins (fresh name within)
  · rename_i large
    have counts : (bytes.drop size).length + size - 1 = bytes.length - 1 := by
      rw [List.length_drop]
      omega
    rw [continuations_eq some, counts, List.foldl_map, ← zero]
    apply holds_writeParts fresh
    · intro k
      rw [List.mem_range'_1, count]
      omega
    · intro k within
      obtain ⟨k, rfl⟩ := Nat.exists_eq_add_of_le (List.mem_range'_1.1 within).1
      rw [Nat.add_sub_cancel_left, piece, piece, slice, slice, List.drop_drop, Nat.add_mul, Nat.one_mul]

@[simp] lemma replaceOnce_append (old new rest : Text) : replaceOnce old new (old ++ rest) = new ++ rest := by
  rcases old with _ | ⟨c, old⟩
  · cases rest <;> simp [replaceOnce]
  · have behind : ((c :: old) ++ rest).drop (c :: old).length = rest := List.drop_left
    exact (if_pos (List.prefix_append (c :: old) rest)).trans (congrArg _ behind)

/-- What `_create_snapshot` leaves. -/
lemma holds_createSnapshot {δ : Type} {sha256 : Bytes → δ} {c : Gcm} {key nonce archive : Bytes} {snapshotId : Text}
    (fresh : Fresh d (snapshotId ++ ".vtbackup".toList)) (some : 0 < size) :
    Holds (createSnapshot sha256 c size key nonce archive snapshotId d).2 (snapshotId ++ ".vtbackup".toList) size
      (encrypt c key nonce archive) := by
  have temporary : Holds (splitParts size TEMPORARY (Dict.set ∅ TEMPORARY (encrypt c key nonce archive))) TEMPORARY size
      (encrypt c key nonce archive) := by
    apply holds_splitParts _ _ some
    · intro name within
      rcases Dict.mem_keys_set.1 within with rfl | none
      · exact stem_not_before _
      · cases none
    · rw [Dict.get?_set, if_pos rfl]
  have renamed (k : ℕ) : replaceOnce TEMPORARY (snapshotId ++ ".vtbackup".toList) (part TEMPORARY k) =
      part (snapshotId ++ ".vtbackup".toList) k := by
    simp only [part, stem, List.append_assoc, replaceOnce_append]
  simp only [createSnapshot, temporary.files, List.tail_cons, List.foldl_map, renamed]
  rw [read, temporary.start, Option.getD_some]
  apply holds_writeParts fresh
  · exact fun k => mem_order
  · intro k within
    obtain ⟨one, le⟩ := mem_order.1 within
    rw [read, temporary.behind k one le, Option.getD_some]

/-! ## Joining the parts again -/

/-- What is read of the parts, one after the other as they are listed. -/
def relisted (size : ℕ) (bytes : Bytes) : Bytes :=
  piece size bytes 0 ++ (order (count size bytes)).flatMap (piece size bytes)

lemma flatMap_piece (size : ℕ) (bytes : Bytes) (n : ℕ) :
    (List.range n).flatMap (piece size bytes) = bytes.take (n * size) := by
  induction n with
  | zero => rw [Nat.zero_mul]; rfl
  | succ n ih =>
    rw [List.range_succ, List.flatMap_append, ih, List.flatMap_singleton, Nat.succ_mul, List.take_add]
    rfl

lemma piece_append (size : ℕ) (bytes : Bytes) (m : ℕ) :
    piece size bytes 0 ++ (List.range' 1 m).flatMap (piece size bytes) = bytes.take ((m + 1) * size) := by
  rw [← flatMap_piece, List.range_eq_range', List.range'_succ, List.flatMap_cons]

lemma take_count (some : 0 < size) (bytes : Bytes) : bytes.take ((count size bytes + 1) * size) = bytes := by
  apply List.take_of_length_le
  have := Nat.lt_mul_div_succ (bytes.length - 1) some
  rw [count, Nat.mul_comm]
  omega

lemma order_of_few (few : m ≤ 9999) : order m = List.range' 1 m := by
  apply List.Pairwise.insertionSort_eq
  refine List.Pairwise.imp_of_mem ?_ List.pairwise_lt_range'
  intro a b _ within less
  rw [List.mem_range'_1] at within
  exact le_of_lt (padded_lt less (by omega))

lemma relisted_of_few (some : 0 < size) (few : count size bytes ≤ 9999) : relisted size bytes = bytes := by
  rw [relisted, order_of_few few, piece_append, take_count some]

/-- A number of three digits stands before every one of more. -/
lemma padded_lt_of_three (three : a < 1000) (more : 1000 ≤ b) : padded a < padded b := by
  have log_a : Nat.log 10 a < 3 := Nat.log_lt_of_lt_pow' (by decide) three
  have log_b : 3 ≤ Nat.log 10 b := Nat.le_log_of_pow_le (by decide) more
  have nonzero : ∀ n < 10, n ≠ 0 → Nat.digitChar 0 < Nat.digitChar n := by decide
  have cons (k n : ℕ) : digits (k + 1) n = Nat.digitChar (n / 10 ^ k % 10) :: digits k n := rfl
  rw [padded, padded, show max 4 (Nat.log 10 a + 1) = 3 + 1 by omega,
    show max 4 (Nat.log 10 b + 1) = Nat.log 10 b + 1 by omega, cons 3 a, cons _ b, List.cons_lt_cons_iff]
  have front := Nat.div_pos (Nat.pow_log_le_self 10 (x := b) (by omega)) (Nat.pow_pos (show 0 < 10 by decide))
  have one_digit : b / 10 ^ Nat.log 10 b < 10 :=
    Nat.div_lt_of_lt_mul ((Nat.lt_pow_succ_log_self (by decide) b).trans_eq (Nat.pow_succ ..))
  rw [Nat.div_eq_of_lt (show a < 10 ^ 3 from three), Nat.mod_eq_of_lt one_digit]
  exact .inl (nonzero _ one_digit front.ne')

lemma order_of_many (many : 999 ≤ m) :
    ∃ rest, order m = List.range' 1 999 ++ rest ∧ ∀ k, k ∈ rest ↔ 1000 ≤ k ∧ k ≤ m := by
  let rest := (List.range' 1000 (m - 999)).insertionSort fun a b => padded a ≤ padded b
  have mem_rest (k : ℕ) : k ∈ rest ↔ 1000 ≤ k ∧ k ≤ m := by
    rw [List.mem_insertionSort, List.mem_range'_1]
    omega
  refine ⟨rest, ?_, mem_rest⟩
  apply List.Perm.eq_of_pairwise (fun a b _ _ le ge => padded_injective (le_antisymm le ge)) (order_sorted m)
  · apply List.pairwise_append.2
    refine ⟨?_, padded_sorted _, ?_⟩
    · rw [← order_of_few (by decide)]
      exact order_sorted 999
    · intro a within b within'
      rw [List.mem_range'_1] at within
      exact le_of_lt (padded_lt_of_three (by omega) ((mem_rest b).1 within').1)
  · have split := List.range'_append_1 (s := 1) (m := 999) (n := m - 999)
    rw [Nat.add_sub_cancel' many] at split
    rw [order, ← split]
    exact (List.perm_insertionSort _ _).trans ((List.perm_insertionSort _ _).symm.append_left _)

lemma length_piece (size : ℕ) (bytes : Bytes) (k : ℕ) :
    (piece size bytes k).length = min size (bytes.length - k * size) := by
  rw [piece, slice, List.length_take, List.length_drop]

lemma length_le_of_subset {numbers others : List ℕ} (distinct : numbers.Nodup) (f : ℕ → Bytes)
    (within : numbers ⊆ others) : (numbers.flatMap f).length ≤ (others.flatMap f).length := by
  obtain ⟨same, perm, sub⟩ := List.subperm_of_subset distinct within
  rw [← (perm.flatMap_right f).length_eq]
  exact (sub.flatMap f).length_le

lemma length_relisted (some : 0 < size) (bytes : Bytes) : (relisted size bytes).length = bytes.length := by
  rw [relisted, order, List.length_append, ((List.perm_insertionSort _ _).flatMap_right _).length_eq,
    ← List.length_append, piece_append, take_count some]

/-- With ten thousand continuations and more, the bytes from number 1001 on are read too late, but before the tag. -/
lemma misplaced (bytes : Bytes) (some : 0 < size) (many : 10000 ≤ (bytes.length - 1) / size) :
    ∃ p, 1001 * size < p ∧ p + 17 ≤ bytes.length ∧ ∀ bytes' : Bytes, bytes'.length = bytes.length →
      (relisted size bytes')[p]? = bytes'[1001 * size]? ∧ (relisted size bytes').take 29 = bytes'.take 29 := by
  obtain ⟨rest, is, mem_rest⟩ := order_of_many (show 999 ≤ (bytes.length - 1) / size by omega)
  obtain ⟨early, late, rfl⟩ := List.append_of_mem ((mem_rest 1001).2 (by omega))
  have sorted := (List.pairwise_append.1 (is ▸ order_sorted _)).2.1
  rw [List.pairwise_append, List.pairwise_cons] at sorted
  have mem_early {k : ℕ} (more : 1000 ≤ k) (le : k ≤ (bytes.length - 1) / size) (less : padded k < padded 1001) :
      k ∈ early := by
    rcases List.mem_append.1 ((mem_rest k).2 ⟨more, le⟩) with before | there
    · exact before
    · rcases List.mem_cons.1 there with rfl | after
      · exact absurd less (List.lt_irrefl _)
      · exact absurd less (not_lt.2 (sorted.2.1.1 k after))
  have mem_late {k : ℕ} (more : 1000 ≤ k) (le : k ≤ (bytes.length - 1) / size) (less : padded 1001 < padded k) :
      k ∈ late := by
    rcases List.mem_append.1 ((mem_rest k).2 ⟨more, le⟩) with before | there
    · exact absurd less (not_lt.2 (sorted.2.2 k before 1001 List.mem_cons_self))
    · rcases List.mem_cons.1 there with rfl | after
      · exact absurd less (List.lt_irrefl _)
      · exact after
  have enough : 10000 * size ≤ bytes.length - 1 := (Nat.le_div_iff_mul_le some).1 many
  have full {k : ℕ} (le : k ≤ 9999) : (piece size bytes k).length = size := by
    have := Nat.mul_le_mul_right size (Nat.succ_le_succ le)
    rw [Nat.succ_mul] at this
    rw [length_piece]
    omega
  have relisted_eq (bytes' : Bytes) (length : bytes'.length = bytes.length) : relisted size bytes' =
      bytes'.take (1000 * size) ++ (early.flatMap (piece size bytes') ++
        (piece size bytes' 1001 ++ late.flatMap (piece size bytes'))) := by
    rw [relisted, count, length, is, List.flatMap_append, ← List.append_assoc, piece_append, List.flatMap_append,
      List.flatMap_cons]
  have early_length : size + 1 ≤ (early.flatMap (piece size bytes)).length := by
    have within : [1000, 10000] ⊆ early := by
      intro k within
      rcases List.mem_pair.1 within with rfl | rfl
      · exact mem_early (by decide) (by omega) (padded_lt (by decide) (by decide))
      · exact mem_early (by decide) (by omega) padded_overflow
    have both := length_le_of_subset (by decide) (piece size bytes) within
    rw [List.flatMap_cons, List.flatMap_singleton, List.length_append, full (by decide), length_piece] at both
    omega
  have late_length : 16 * size ≤ (late.flatMap (piece size bytes)).length := by
    have within : List.range' 1002 16 ⊆ late := by
      intro k within
      rw [List.mem_range'_1] at within
      exact mem_late (by omega) (by omega) (padded_lt (by omega) (by omega))
    have all := length_le_of_subset List.nodup_range' (piece size bytes) within
    have each : (List.range' 1002 16).map (fun k => (piece size bytes k).length) = List.replicate 16 size :=
      List.map_eq_replicate_iff.2 fun k within => full (by rw [List.mem_range'_1] at within; omega)
    rwa [List.length_flatMap, each, List.sum_replicate_nat] at all
  have length := length_relisted some bytes
  rw [relisted_eq bytes rfl, List.length_append, List.length_append, List.length_append, full (by decide),
    List.length_take_of_le (by omega)] at length
  refine ⟨1000 * size + (early.flatMap (piece size bytes)).length, by omega, by omega, fun bytes' same => ⟨?_, ?_⟩⟩
  · have lengths : (early.flatMap (piece size bytes')).length = (early.flatMap (piece size bytes)).length := by
      simp only [List.length_flatMap, length_piece, same]
    have front : (bytes'.take (1000 * size) ++ early.flatMap (piece size bytes')).length =
        1000 * size + (early.flatMap (piece size bytes)).length := by
      rw [List.length_append, lengths, List.length_take_of_le (by omega)]
    have some' : 0 < (piece size bytes' 1001).length := by
      rw [length_piece, same, ← length_piece, full (by decide)]
      exact some
    rw [relisted_eq bytes' same, ← List.append_assoc, ← front, List.getElem?_append_right le_rfl, Nat.sub_self,
      List.getElem?_append_left some', piece, slice, List.getElem?_take_of_lt some, List.getElem?_drop, Nat.add_zero]
  · rw [relisted_eq bytes' same, List.take_append_of_le_length, List.take_take]
    · congr 1
      omega
    · rw [List.length_take, same]
      omega

end

section
variable {δ : Type} {sha256 : Bytes → δ} {c : Gcm} {size n : ℕ} {key nonce archive : Bytes} {snapshotId : Text}
  {root : Directory}

/-- The parts of a snapshot, joined as they are listed, decrypt to its archive and are what its receipt says. -/
def RoundTrip (sha256 : Bytes → δ) (c : Gcm) (size : ℕ) (key nonce archive : Bytes) (snapshotId : Text)
    (root : Directory) : Prop :=
  let (receipt, left) := createSnapshot sha256 c size key nonce archive snapshotId root
  decrypt c key (joined left receipt.file) = .ok archive ∧
    sha256 (joined left receipt.file) = receipt.sha256 ∧ (joined left receipt.file).length = receipt.size

lemma roundTrip_iff_relisted (fresh : Fresh root (snapshotId ++ ".vtbackup".toList)) (some : 0 < size) :
    RoundTrip sha256 c size key nonce archive snapshotId root ↔
      decrypt c key (relisted size (encrypt c key nonce archive)) = .ok archive ∧
        sha256 (relisted size (encrypt c key nonce archive)) = sha256 (encrypt c key nonce archive) ∧
        (relisted size (encrypt c key nonce archive)).length = (encrypt c key nonce archive).length := by
  have is : joined (createSnapshot sha256 c size key nonce archive snapshotId root).2 _ = _ :=
    (holds_createSnapshot fresh some).joined
  rw [← relisted] at is
  rw [← is]
  exact Iff.rfl

lemma getElem?_encrypt (twelve : nonce.length = 12) {i : ℕ} (within : i < archive.length) :
    (encrypt c key nonce archive)[29 + i]? = (c.update key nonce 0 archive)[i]? := by
  have front : (MAGIC ++ nonce).length = 29 := by rw [List.length_append, twelve]; rfl
  rw [encrypt_eq, ← List.append_assoc, ← front, List.getElem?_append_right (Nat.le_add_right _ _),
    Nat.add_sub_cancel_left, List.getElem?_append_left (by rwa [c.length_update])]

/-- The nonce is read of the first bytes. -/
lemma slice_nonce (twelve : nonce.length = 12) {source : Bytes}
    (front : source.take 29 = (encrypt c key nonce archive).take 29) : slice source MAGIC.length 12 = nonce := by
  have length : (MAGIC ++ nonce).length = 29 := by rw [List.length_append, twelve]; rfl
  rw [encrypt_eq, ← List.append_assoc, List.take_left' length] at front
  have cut : slice source MAGIC.length 12 = (source.take 29).drop MAGIC.length := by rw [List.drop_take]; rfl
  rw [cut, front, List.drop_left]

variable (twelve : nonce.length = 12) (some : 0 < size) (fresh : Fresh root (snapshotId ++ ".vtbackup".toList))
include twelve some fresh

lemma roundTrip_of_few (few : 45 + archive.length ≤ 10000 * size) :
    RoundTrip sha256 c size key nonce archive snapshotId root := by
  have length : (encrypt c key nonce archive).length = 45 + archive.length := length_encrypt twelve
  have counts : count size (encrypt c key nonce archive) ≤ 9999 := by
    rw [count, length, ← Nat.lt_succ_iff, Nat.div_lt_iff_lt_mul some]
    omega
  rw [roundTrip_iff_relisted fresh some, relisted_of_few some counts]
  exact ⟨decrypt_encrypt twelve, rfl, rfl⟩

/-- An archive of that size for which the bytes of a continuation that is listed too late can be told from those that
stand in their place. -/
lemma not_roundTrip_of_many (sha256 : Bytes → δ) (c : Gcm) (key : Bytes) (many : 10000 * size < 45 + n) :
    ∃ archive : Bytes, archive.length = n ∧ ¬ RoundTrip sha256 c size key nonce archive snapshotId root := by
  have length (archive : Bytes) (is : archive.length = n) : (encrypt c key nonce archive).length = 45 + n := by
    rw [length_encrypt twelve, is]
  have zero := length (List.replicate n 0) List.length_replicate
  obtain ⟨p, above, below, late⟩ := misplaced (encrypt c key nonce (List.replicate n 0)) some (by
    rw [zero, Nat.le_div_iff_mul_le some]
    omega)
  rw [zero] at below late
  let body : Bytes := (List.replicate n 0).set (p - 29) 1
  have long : (c.update key nonce 0 body).length = n := by rw [c.length_update, List.length_set, List.length_replicate]
  refine ⟨c.update key nonce 0 body, long, fun trip => ?_⟩
  obtain ⟨misread, front⟩ := late _ (length _ long)
  obtain ⟨decrypts, -⟩ := (roundTrip_iff_relisted fresh some).1 trip
  have is := of_decrypt decrypts
  rw [slice_nonce twelve front] at is
  rw [is] at misread
  have here (i : ℕ) (from_body : 29 ≤ i) (within : i < 29 + n) :
      (encrypt c key nonce (c.update key nonce 0 body))[i]? = body[i - 29]? := by
    obtain ⟨i, rfl⟩ := Nat.exists_eq_add_of_le from_body
    rw [getElem?_encrypt twelve (by omega), c.update_update, Nat.add_sub_cancel_left]
  rw [here p (by omega) (by omega), here (1001 * size) (by omega) (by omega), List.getElem?_set_self (by simp; omega),
    List.getElem?_set_ne (by omega), List.getElem?_replicate, if_pos (by omega)] at misread
  cases misread

/-- The snapshots of all archives of a size can be read again exactly if they have fewer than ten thousand continuations.
The encrypted file is 45 bytes longer than the archive. -/
theorem roundTrip_iff :
    (∀ archive : Bytes, archive.length = n → RoundTrip sha256 c size key nonce archive snapshotId root) ↔
      45 + n ≤ 10000 * size := by
  constructor
  · intro all
    apply Nat.le_of_not_lt
    intro many
    obtain ⟨archive, long, fails⟩ := not_roundTrip_of_many twelve some fresh sha256 c key many
    exact fails (all archive long)
  · intro few archive long
    exact roundTrip_of_few twelve some fresh (by rwa [long])

end

/-- Whatever the cipher and the digest, not all archives of one byte more than there is room for in ten thousand parts of
one byte can be read again. -/
theorem read_too_late : ¬ ∃ (c : Gcm) (sha256 : Bytes → String) (key nonce : Bytes), nonce.length = 12 ∧
    ∀ archive : Bytes, archive.length = 9956 →
      RoundTrip sha256 c 1 key nonce archive "20260101T000000Z-0123456789ab".toList ∅ := by
  rintro ⟨c, sha256, key, nonce, twelve, all⟩
  obtain ⟨archive, long, fails⟩ : ∃ archive : Bytes, archive.length = 9956 ∧
      ¬ RoundTrip sha256 c 1 key nonce archive "20260101T000000Z-0123456789ab".toList ∅ :=
    not_roundTrip_of_many twelve Nat.one_pos (fun _ within => by cases within) sha256 c key (by decide)
  exact fails (all archive long)

/-- The tag that AES-256-GCM has for no bytes under a key and a nonce of zeros. -/
def zeros : Gcm where
  keystream _ _ _ := 0
  tag _ _ _ := [83, 15, 138, 251, 199, 69, 54, 185, 169, 99, 180, 241, 196, 203, 115, 139]
  length_tag _ _ _ := rfl

def digest (_ : Bytes) : String := "048c81c1eb70d6b9e87bca80cf0f6c2bcb0edf0faad0ed2f4250855d540cf55d"

theorem roundTrip_iff_empty :
    (∀ archive : Bytes, archive.length = 0 → RoundTrip digest zeros 8 (List.replicate 32 0) (List.replicate 12 0)
      archive "20260101T000000Z-0123456789ab".toList ∅) ↔ 45 + 0 ≤ 10000 * 8 :=
  roundTrip_iff rfl (by decide) fun _ within => by cases within

end Vertep.Backup.Parts
