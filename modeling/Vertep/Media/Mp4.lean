import Vertep.Lib.Bytes

/-!
# MP4 payloads (`adapters/media_integrity.py`)

`_verify_mp4` walks the boxes of a file, then those of its `moov` box, and looks into the tracks for a video handler.
Where a file has several `moov` boxes the last one counts. A read past the end is an outcome of its own here, and there
is none; a file that is cut short is refused unless the cut is inside the payload of a box that extends to the end.
The interpreter's limit on the depth of a recursion, which boxes within boxes can reach, is left out.
-/

namespace Vertep.Media.Mp4
open Lib

def ftyp : Bytes := [0x66, 0x74, 0x79, 0x70]

def moov : Bytes := [0x6D, 0x6F, 0x6F, 0x76]

def trak : Bytes := [0x74, 0x72, 0x61, 0x6B]

def mdia : Bytes := [0x6D, 0x64, 0x69, 0x61]

def minf : Bytes := [0x6D, 0x69, 0x6E, 0x66]

def stbl : Bytes := [0x73, 0x74, 0x62, 0x6C]

def hdlr : Bytes := [0x68, 0x64, 0x6C, 0x72]

def vide : Bytes := [0x76, 0x69, 0x64, 0x65]

/-! ## The source -/

inductive Fault where
  /-- What `_invalid` says is raised. -/
  | invalid
  | pastEnd
deriving DecidableEq

/-- `data[start:start + n]`, of bytes that are there. -/
def read (rest : Bytes) (start n : ℕ) : Except Fault Bytes :=
  if start + n ≤ rest.length then .ok (slice rest start n) else .error .pastEnd

/-- A box, and what is behind it. -/
structure Box where
  type : Bytes
  payload : Bytes
  tail : Bytes
deriving DecidableEq

def fits (type rest : Bytes) (header size : ℕ) : Option Box :=
  if size < header ∨ rest.length < size then none else some ⟨type, slice rest header (size - header), rest.drop size⟩

/-- The head of the three loops, from the offset up to the end; `none` where the size does not fit. -/
def readBox (rest : Bytes) : Except Fault (Option Box) := do
  let size ← read rest 0 4
  let type ← read rest 4 4
  if big size = 1 then
    if rest.length < 16 then return none
    else return fits type rest 16 (big (← read rest 8 8))
  else return fits type rest 8 (if big size = 0 then rest.length else big size)

variable {box : Box}

lemma fits_smaller {type rest : Bytes} {header size : ℕ} (wide : 8 ≤ header)
    (found : fits type rest header size = some box) :
    box.payload.length < rest.length ∧ box.tail.length < rest.length := by
  rw [fits] at found
  split at found
  · cases found
  · cases found
    rw [length_slice (by omega), List.length_drop]
    omega

lemma readBox_smaller {rest : Bytes} (found : readBox rest = .ok (some box)) :
    box.payload.length < rest.length ∧ box.tail.length < rest.length := by
  simp only [readBox, read, pure, Except.pure, bind, Except.bind] at found
  repeat' split at found
  all_goals first
    | cases found
    | exact fits_smaller (by decide) (Except.ok.inj found)

def boxTreeHasVideoHandler (rest : Bytes) : Except Fault Bool :=
  if rest.length < 8 then .ok false
  else
    match _found : readBox rest with
    | .error fault => .error fault
    | .ok none => .ok false
    | .ok (some box) =>
      if box.type = hdlr then
        if 12 ≤ box.payload.length ∧ slice box.payload 8 4 = vide then .ok true else boxTreeHasVideoHandler box.tail
      else if box.type ∈ [trak, mdia, minf, stbl, moov] then
        match boxTreeHasVideoHandler box.payload with
        | .ok false => boxTreeHasVideoHandler box.tail
        | other => other
      else boxTreeHasVideoHandler box.tail
termination_by rest.length
decreasing_by all_goals first | exact (readBox_smaller _found).1 | exact (readBox_smaller _found).2

section
variable {σ : Type} (step : σ → Box → Except Fault σ)

/-- A loop of `_verify_mp4`, with what is left behind the last box. -/
def walk (rest : Bytes) (s : σ) : Except Fault (σ × Bytes) :=
  if rest.length < 8 then .ok (s, rest)
  else
    match _found : readBox rest with
    | .error fault => .error fault
    | .ok none => .error .invalid
    | .ok (some box) => do walk box.tail (← step s box)
termination_by rest.length
decreasing_by exact (readBox_smaller _found).2

end

/-- The outer loop keeps the payload of a `moov`. -/
def fileStep (payload : Option Bytes) (box : Box) : Except Fault (Option Bytes) :=
  .ok (if box.type = moov then some box.payload else payload)

/-- The inner loop keeps whether there was a track, and one with a video handler. -/
def moovStep (has : Bool × Bool) (box : Box) : Except Fault (Bool × Bool) :=
  if box.type = trak then do return (true, has.2 || (← boxTreeHasVideoHandler box.payload)) else .ok has

def verifyMp4 (data : Bytes) : Except Fault Unit :=
  if data.length < 16 ∨ slice data 4 4 ≠ ftyp then .error .invalid
  else do
    match ← walk fileStep data none with
    | (some payload, []) =>
      match ← walk moovStep payload (false, false) with
      | ((true, true), []) => return
      | _ => .error .invalid
    | _ => .error .invalid

/-! ## Boxes -/

/-- The bytes begin with the box: its size is given, in four bytes or in eight, or it extends to the end. -/
inductive Front (box : Box) : Bytes → Prop where
  | short : box.type.length = 4 → 8 + box.payload.length < 256 ^ 4 →
    Front box (bytesOf 4 (8 + box.payload.length) ++ (box.type ++ (box.payload ++ box.tail)))
  | long : box.type.length = 4 → 16 + box.payload.length < 256 ^ 8 →
    Front box (bytesOf 4 1 ++ (box.type ++ (bytesOf 8 (16 + box.payload.length) ++ (box.payload ++ box.tail))))
  | toEnd : box.type.length = 4 → box.tail = [] → Front box (bytesOf 4 0 ++ (box.type ++ (box.payload ++ box.tail)))

/-- The boxes tile the bytes. -/
inductive Tiles : Bytes → List Box → Prop where
  | nil : Tiles [] []
  | cons {rest box boxes} : Front box rest → Tiles box.tail boxes → Tiles rest (box :: boxes)

/-- Along boxes that contain boxes, there is a video handler. -/
inductive Handler : Bytes → Prop where
  | here {rest box} : Front box rest → box.type = hdlr → 12 ≤ box.payload.length → slice box.payload 8 4 = vide →
    Handler rest
  | inside {rest box} : Front box rest → box.type ∈ [trak, mdia, minf, stbl, moov] → Handler box.payload → Handler rest
  | later {rest box} : Front box rest → Handler box.tail → Handler rest

/-- The payload has children that tile it, and a track with a video handler. -/
def HasVideo (payload : Bytes) : Prop :=
  ∃ children, Tiles payload children ∧ ∃ child ∈ children, child.type = trak ∧ Handler child.payload

/-- A file of boxes with a `moov` that has a video, where `which` says which `moov` may count. -/
def Movie (which : List Box → Box → Prop) (data : Bytes) : Prop :=
  ∃ boxes, Tiles data boxes ∧ boxes.head?.map Box.type = some ftyp ∧
    ∃ box, which (boxes.filter (·.type = moov)) box ∧ HasVideo box.payload

/-- The bytes are cut within a box whose size is given, or within the eight bytes that a box begins with. -/
inductive Cut : Bytes → Bytes → Prop where
  | here {front rest box size} : Front box rest → size = rest.length - box.tail.length → big (slice rest 0 4) ≠ 0 ∨ front.length < 8 →
    front <+: rest → front ≠ [] → front.length < size → Cut front rest
  | later {front whole box} : Front box (whole ++ box.tail) → Cut front box.tail → Cut (whole ++ front) (whole ++ box.tail)

/-! ## Reading a box -/

/-- What `readBox` finds where there are eight bytes. -/
def boxAt (rest : Bytes) : Option Box :=
  if big (slice rest 0 4) = 1 then
    if rest.length < 16 then none else fits (slice rest 4 4) rest 16 (big (slice rest 8 8))
  else fits (slice rest 4 4) rest 8 (if big (slice rest 0 4) = 0 then rest.length else big (slice rest 0 4))

lemma readBox_eq {rest : Bytes} (some_ : 8 ≤ rest.length) : readBox rest = .ok (boxAt rest) := by
  have reads {start n : ℕ} (fits : start + n ≤ rest.length) : read rest start n = .ok (slice rest start n) := if_pos fits
  rw [readBox, boxAt, reads (by omega), reads (by omega)]
  simp only [bind, Except.bind, pure, Except.pure]
  split
  · split
    · rfl
    · rw [reads (by omega)]
  · rfl

lemma fits_eq_some {type rest : Bytes} {header size : ℕ} : fits type rest header size = some box ↔
    (header ≤ size ∧ size ≤ rest.length) ∧ box = ⟨type, slice rest header (size - header), rest.drop size⟩ := by
  rw [fits]
  split
  · simp
    omega
  · simp [eq_comm]
    omega

lemma fits_append (type head payload tail : Bytes) :
    fits type (head ++ (payload ++ tail)) head.length (head.length + payload.length) = some ⟨type, payload, tail⟩ := by
  rw [fits_eq_some]
  refine ⟨⟨Nat.le_add_right _ _, by simp⟩, ?_⟩
  rw [Nat.add_sub_cancel_left, slice_append, ← List.drop_drop, List.drop_left, List.drop_left]

lemma boxAt_of_front {rest : Bytes} (front : Front box rest) : 8 ≤ rest.length ∧ boxAt rest = some box := by
  have size (k n : ℕ) (behind : Bytes) : slice (bytesOf k n ++ behind) 0 k = bytesOf k n := by
    have := slice_append [] (bytesOf k n) behind
    rwa [List.nil_append, length_bytesOf] at this
  have type (n : ℕ) (typed : box.type.length = 4) (behind : Bytes) :
      slice (bytesOf 4 n ++ (box.type ++ behind)) 4 4 = box.type := by
    have := slice_append (bytesOf 4 n) box.type behind
    rwa [length_bytesOf, typed] at this
  have head (n : ℕ) (typed : box.type.length = 4) : (bytesOf 4 n ++ box.type).length = 8 := by
    rw [List.length_append, length_bytesOf, typed]
  cases front with
  | short typed sized =>
    have found := fits_append box.type (bytesOf 4 (8 + box.payload.length) ++ box.type) box.payload box.tail
    rw [head _ typed, List.append_assoc] at found
    refine ⟨by simp only [List.length_append, length_bytesOf, typed]; omega, ?_⟩
    rw [boxAt, size, type _ typed, big_bytesOf sized, if_neg (by omega), if_neg (by omega), found]
  | long typed sized =>
    have wide : slice (bytesOf 4 1 ++ (box.type ++ (bytesOf 8 (16 + box.payload.length) ++ (box.payload ++ box.tail)))) 8 8 =
        bytesOf 8 (16 + box.payload.length) := by
      have := slice_append (bytesOf 4 1 ++ box.type) (bytesOf 8 (16 + box.payload.length)) (box.payload ++ box.tail)
      rwa [head _ typed, length_bytesOf, List.append_assoc] at this
    have found := fits_append box.type (bytesOf 4 1 ++ box.type ++ bytesOf 8 (16 + box.payload.length)) box.payload box.tail
    rw [List.length_append, head _ typed, length_bytesOf, List.append_assoc, List.append_assoc] at found
    refine ⟨by simp only [List.length_append, length_bytesOf, typed]; omega, ?_⟩
    rw [boxAt, size, big_bytesOf (by decide), if_pos rfl,
      if_neg (by simp only [List.length_append, length_bytesOf, typed]; omega), type _ typed, wide, big_bytesOf sized]
    exact found
  | toEnd typed last =>
    have found := fits_append box.type (bytesOf 4 0 ++ box.type) box.payload box.tail
    have whole : (bytesOf 4 0 ++ (box.type ++ (box.payload ++ box.tail))).length = 8 + box.payload.length := by
      simp only [List.length_append, length_bytesOf, typed, last, List.length_nil]
      omega
    rw [head _ typed, List.append_assoc] at found
    refine ⟨by omega, ?_⟩
    rw [boxAt, size, type _ typed, big_bytesOf (by decide), if_neg (by decide), if_pos rfl, whole, found]

lemma front_of_boxAt {rest : Bytes} (some_ : 8 ≤ rest.length) (found : boxAt rest = some box) :
    Front box rest := by
  have typed : (slice rest 4 4).length = 4 := length_slice (by omega)
  have given : bytesOf 4 (big (slice rest 0 4)) = slice rest 0 4 := bytesOf_big_slice (by omega)
  have head : slice rest 0 4 ++ (slice rest 4 4 ++ rest.drop 8) = rest := by
    rw [← drop_eq_slice rest 4 4, ← drop_eq_slice rest 0 4, List.drop_zero]
  have body {header size : ℕ} (fitting : header ≤ size ∧ size ≤ rest.length) :
      slice rest header (size - header) ++ rest.drop size = rest.drop header ∧
        (slice rest header (size - header)).length = size - header := by
    have := drop_eq_slice rest header (size - header)
    rw [Nat.add_sub_cancel' fitting.1] at this
    exact ⟨this.symm, length_slice (by omega)⟩
  have less := big_lt (slice rest 0 4)
  rw [length_slice (by omega)] at less
  rw [boxAt] at found
  split at found
  · next wide =>
    split at found
    · cases found
    next long =>
    obtain ⟨fitting, rfl⟩ := fits_eq_some.1 found
    obtain ⟨parts, length⟩ := body fitting
    have less' := big_lt (slice rest 8 8)
    rw [length_slice (by omega)] at less'
    have sum : 16 + (slice rest 16 (big (slice rest 8 8) - 16)).length = big (slice rest 8 8) := by omega
    have front : Front ⟨slice rest 4 4, slice rest 16 (big (slice rest 8 8) - 16), rest.drop (big (slice rest 8 8))⟩ _ :=
      Front.long typed (by dsimp only; omega)
    dsimp only at front
    rwa [sum, parts, bytesOf_big_slice (by omega), ← drop_eq_slice rest 8 8, ← wide, given, head] at front
  · next narrow =>
    obtain ⟨fitting, rfl⟩ := fits_eq_some.1 found
    obtain ⟨parts, length⟩ := body fitting
    by_cases end_ : big (slice rest 0 4) = 0
    · rw [if_pos end_] at parts ⊢
      have front : Front ⟨slice rest 4 4, slice rest 8 (rest.length - 8), rest.drop rest.length⟩ _ :=
        Front.toEnd typed List.drop_length
      dsimp only at front
      rwa [parts, ← end_, given, head] at front
    · rw [if_neg end_] at parts length fitting ⊢
      have sum : 8 + (slice rest 8 (big (slice rest 0 4) - 8)).length = big (slice rest 0 4) := by omega
      have front : Front ⟨slice rest 4 4, slice rest 8 (big (slice rest 0 4) - 8), rest.drop (big (slice rest 0 4))⟩ _ :=
        Front.short typed (by dsimp only; omega)
      dsimp only at front
      rwa [sum, parts, given, head] at front

lemma readBox_iff {rest : Bytes} (some_ : 8 ≤ rest.length) : readBox rest = .ok (some box) ↔ Front box rest := by
  rw [readBox_eq some_, Except.ok.injEq]
  exact ⟨front_of_boxAt some_, fun front => (boxAt_of_front front).2⟩

/-! ## The loops -/

lemma boxTree_iff (rest : Bytes) : ∃ found, boxTreeHasVideoHandler rest = .ok found ∧ (found = true ↔ Handler rest) := by
  have none_ {rest : Bytes} (no : ∀ box, ¬ Front box rest) : ¬ Handler rest := by
    intro handler
    cases handler with
    | here front | inside front | later front => exact no _ front
  induction size : rest.length using Nat.strongRecOn generalizing rest with
  | _ n ih =>
    rw [boxTreeHasVideoHandler]
    split
    · next short =>
      refine ⟨false, rfl, iff_of_false Bool.false_ne_true (none_ fun box front => ?_)⟩
      exact absurd (boxAt_of_front front).1 (by omega)
    next long =>
    have some_ : 8 ≤ rest.length := by omega
    split
    · next reads => rw [readBox_eq some_] at reads; cases reads
    · next reads =>
      refine ⟨false, rfl, iff_of_false Bool.false_ne_true (none_ fun box front => ?_)⟩
      rw [(readBox_iff some_).2 front] at reads
      cases reads
    next box reads =>
    have front := (readBox_iff some_).1 reads
    have only {box' : Box} (front' : Front box' rest) : box' = box := by
      rw [(readBox_iff some_).2 front'] at reads
      exact Option.some.inj (Except.ok.inj reads)
    obtain ⟨inner, inners, isInner⟩ := ih _ (size ▸ (readBox_smaller reads).1) box.payload rfl
    obtain ⟨later, laters, isLater⟩ := ih _ (size ▸ (readBox_smaller reads).2) box.tail rfl
    -- what the box itself does not show is found behind it
    have go (no : ¬ (box.type = hdlr ∧ 12 ≤ box.payload.length ∧ slice box.payload 8 4 = vide))
        (no' : ¬ (box.type ∈ [trak, mdia, minf, stbl, moov] ∧ Handler box.payload)) :
        later = true ↔ Handler rest := by
      rw [isLater]
      constructor
      · exact .later front
      · intro handler
        cases handler with
        | here front' type long vide => exact absurd ⟨only front' ▸ type, only front' ▸ long, only front' ▸ vide⟩ no
        | inside front' type handler => exact absurd ⟨only front' ▸ type, only front' ▸ handler⟩ no'
        | later front' handler => exact only front' ▸ handler
    split
    · next type =>
      have apart : ¬ (box.type ∈ [trak, mdia, minf, stbl, moov] ∧ Handler box.payload) := by
        rw [type]
        exact fun is => absurd is.1 (by decide)
      split
      · next video => exact ⟨true, rfl, iff_of_true rfl (.here front type video.1 video.2)⟩
      · next no => exact ⟨later, laters, go (fun is => no is.2) apart⟩
    next type =>
    split
    · next container =>
      rw [inners]
      cases inner with
      | true => exact ⟨true, rfl, iff_of_true rfl (.inside front container (isInner.1 rfl))⟩
      | false => exact ⟨later, laters, go (fun is => type is.1) fun is => Bool.false_ne_true (isInner.2 is.2)⟩
    · next no => exact ⟨later, laters, go (fun is => type is.1) fun is => no is.1⟩

section
variable {σ : Type} {step : σ → Box → Except Fault σ}

lemma walk_of_front {rest : Bytes} (front : Front box rest) (s : σ) :
    walk step rest s = step s box >>= walk step box.tail := by
  have some_ := (boxAt_of_front front).1
  rw [walk, if_neg (by omega)]
  split
  · next reads => rw [readBox_eq some_] at reads; cases reads
  · next reads => rw [(readBox_iff some_).2 front] at reads; cases reads
  · next box' reads =>
    rw [(readBox_iff some_).2 front] at reads
    cases reads
    rfl

lemma walk_of_tiles {rest : Bytes} {boxes : List Box} (tiles : Tiles rest boxes) (s : σ) :
    walk step rest s = (boxes.foldlM step s).map (·, []) := by
  induction tiles generalizing s with
  | nil => rw [walk, if_pos (by decide)]; rfl
  | @cons _ box _ front _ ih =>
    rw [walk_of_front front, List.foldlM_cons]
    cases step s box with
    | error fault => rfl
    | ok s' => exact ih s'

lemma tiles_of_walk {rest : Bytes} {s s' : σ} (goes : walk step rest s = .ok (s', [])) :
    ∃ boxes, Tiles rest boxes ∧ boxes.foldlM step s = .ok s' := by
  induction size : rest.length using Nat.strongRecOn generalizing rest s with
  | _ n ih =>
    rw [walk] at goes
    split at goes
    · cases goes
      exact ⟨[], .nil, rfl⟩
    next long =>
    split at goes
    · cases goes
    · cases goes
    next box reads =>
    cases stepped : step s box with
    | error fault => rw [stepped] at goes; cases goes
    | ok s₁ =>
      rw [stepped] at goes
      obtain ⟨boxes, tiles, folds⟩ := ih _ (size ▸ (readBox_smaller reads).2) goes rfl
      refine ⟨box :: boxes, .cons ((readBox_iff (by omega)).1 reads) tiles, ?_⟩
      rw [List.foldlM_cons, stepped]
      exact folds

lemma walk_inside (inside : ∀ s box, step s box ≠ .error .pastEnd) (rest : Bytes) (s : σ) :
    walk step rest s ≠ .error .pastEnd := by
  induction size : rest.length using Nat.strongRecOn generalizing rest s with
  | _ n ih =>
    rw [walk]
    split
    · exact fun is => by cases is
    next long =>
    split
    · next reads => rw [readBox_eq (by omega)] at reads; cases reads
    · exact fun is => by cases is
    next box reads =>
    cases stepped : step s box with
    | error fault =>
      intro is
      cases is
      exact inside s box stepped
    | ok s₁ => exact ih _ (size ▸ (readBox_smaller reads).2) box.tail s₁ rfl

end

lemma foldlM_fileStep (boxes : List Box) (payload : Option Bytes) :
    boxes.foldlM fileStep payload =
      .ok (((boxes.filter (·.type = moov)).getLast?.map Box.payload).or payload) := by
  induction boxes generalizing payload with
  | nil => rfl
  | cons box boxes ih =>
    rw [List.foldlM_cons, fileStep]
    refine (ih _).trans ?_
    by_cases is : box.type = moov
    · rw [if_pos is, List.filter_cons_of_pos (by simpa using is), List.getLast?_cons]
      cases (boxes.filter (·.type = moov)).getLast? <;> rfl
    · rw [if_neg is, List.filter_cons_of_neg (by simpa using is)]

lemma foldlM_moovStep (children : List Box) (has : Bool × Bool) :
    ∃ has', children.foldlM moovStep has = .ok has' ∧
      (has'.1 = true ↔ has.1 = true ∨ ∃ child ∈ children, child.type = trak) ∧
      (has'.2 = true ↔ has.2 = true ∨ ∃ child ∈ children, child.type = trak ∧ Handler child.payload) := by
  induction children generalizing has with
  | nil => exact ⟨has, rfl, by simp, by simp⟩
  | cons child children ih =>
    obtain ⟨found, founds, isFound⟩ := boxTree_iff child.payload
    by_cases type : child.type = trak
    · obtain ⟨has', folds, track, video⟩ := ih (true, has.2 || found)
      refine ⟨has', ?_, by simp [track, type], ?_⟩
      · rw [List.foldlM_cons, moovStep, if_pos type, founds]
        exact folds
      · rw [video, Bool.or_eq_true, isFound]
        simp [type, or_assoc]
    · obtain ⟨has', folds, track, video⟩ := ih has
      refine ⟨has', ?_, by simp [track, type], by simp [video, type]⟩
      rw [List.foldlM_cons, moovStep, if_neg type]
      exact folds

lemma moovStep_inside (has : Bool × Bool) (box : Box) : moovStep has box ≠ .error .pastEnd := by
  obtain ⟨found, founds, -⟩ := boxTree_iff box.payload
  rw [moovStep, founds]
  split <;> exact fun is => by cases is

/-! ## Files -/

lemma front_parts {rest : Bytes} (front : Front box rest) :
    box.type = slice rest 4 4 ∧ 8 + box.tail.length ≤ rest.length := by
  have found := (boxAt_of_front front).2
  rw [boxAt] at found
  have parts {header size : ℕ} (wide : 8 ≤ header) (found : fits (slice rest 4 4) rest header size = some box) :
      box.type = slice rest 4 4 ∧ 8 + box.tail.length ≤ rest.length := by
    obtain ⟨fitting, rfl⟩ := fits_eq_some.1 found
    refine ⟨rfl, ?_⟩
    rw [List.length_drop]
    omega
  split at found
  · split at found
    · cases found
    · exact parts (by decide) found
  · exact parts (by decide) found

lemma length_of_tiles {rest : Bytes} {boxes : List Box} (tiles : Tiles rest boxes) : 8 * boxes.length ≤ rest.length := by
  induction tiles with
  | nil => exact Nat.le_refl 0
  | cons front _ ih =>
    have := (front_parts front).2
    rw [List.length_cons]
    omega

def Last (boxes : List Box) (box : Box) : Prop := boxes.getLast? = some box

lemma verifyMp4_iff (data : Bytes) : verifyMp4 data = .ok () ↔ Movie Last data := by
  constructor
  · intro accepts
    rw [verifyMp4] at accepts
    split at accepts
    · cases accepts
    next begins =>
    rw [not_or, not_not] at begins
    cases outer : walk fileStep data none with
    | error fault => rw [outer] at accepts; cases accepts
    | ok left =>
      rw [outer] at accepts
      simp only [bind, Except.bind] at accepts
      split at accepts
      · next payload =>
        obtain ⟨boxes, tiles, folds⟩ := tiles_of_walk outer
        cases inner : walk moovStep payload (false, false) with
        | error fault => rw [inner] at accepts; cases accepts
        | ok left' =>
          rw [inner] at accepts
          dsimp only at accepts
          split at accepts
          · obtain ⟨children, tiles', folds'⟩ := tiles_of_walk inner
            obtain ⟨has', same, -, video⟩ := foldlM_moovStep children (false, false)
            cases Except.ok.inj (same.symm.trans folds')
            rw [foldlM_fileStep, Option.or_none] at folds
            obtain ⟨box, last, rfl⟩ := Option.map_eq_some_iff.1 (Except.ok.inj folds)
            refine ⟨boxes, tiles, ?_, box, last, children, tiles', ?_⟩
            · cases tiles with
              | nil => exact absurd begins.1 (by decide)
              | cons front _ => exact congrArg some ((front_parts front).1.trans begins.2)
            · simpa using video.1 rfl
          · cases accepts
      · cases accepts
  · rintro ⟨boxes, tiles, first, box, last, children, tiles', child, member, type, handler⟩
    obtain ⟨has', folds, track, video⟩ := foldlM_moovStep children (false, false)
    have has : has' = (true, true) :=
      Prod.ext (track.2 (.inr ⟨child, member, type⟩)) (video.2 (.inr ⟨child, member, type, handler⟩))
    have begins : ¬ (data.length < 16 ∨ slice data 4 4 ≠ ftyp) := by
      rw [not_or, not_not]
      have long := length_of_tiles tiles
      cases tiles with
      | nil => cases first
      | @cons _ box₁ others front _ =>
        have type₁ : box₁.type = ftyp := Option.some.inj first
        refine ⟨?_, (front_parts front).1.symm.trans type₁⟩
        cases others with
        | nil =>
          rw [Last, List.filter_cons_of_neg (by simp [type₁, ftyp, moov])] at last
          cases last
        | cons box₂ others =>
          rw [List.length_cons, List.length_cons] at long
          omega
    have payload : ((boxes.filter (·.type = moov)).getLast?.map Box.payload).or none = some box.payload := by
      rw [show (boxes.filter (·.type = moov)).getLast? = some box from last]
      rfl
    rw [verifyMp4, if_neg begins, walk_of_tiles tiles, foldlM_fileStep, payload]
    simp only [Except.map, bind, Except.bind]
    rw [walk_of_tiles tiles', folds, has]
    rfl

lemma verifyMp4_inside (data : Bytes) : verifyMp4 data ≠ .error .pastEnd := by
  have outer : walk fileStep data none ≠ .error .pastEnd := walk_inside (fun _ _ is => by cases is) data none
  rw [verifyMp4]
  split
  · exact fun is => by cases is
  cases goes : walk fileStep data none with
  | error fault =>
    intro is
    cases is
    exact outer goes
  | ok left =>
    simp only [bind, Except.bind]
    split
    · next payload =>
      have inner := walk_inside moovStep_inside payload (false, false)
      cases goes' : walk moovStep payload (false, false) with
      | error fault =>
        intro is
        cases is
        exact inner goes'
      | ok left' =>
        dsimp only
        split <;> exact fun is => by cases is
    · exact fun is => by cases is

/-! ## Files that are cut -/

lemma Front.before {whole : Bytes} (front : Front box (whole ++ box.tail)) (some_ : box.tail ≠ [])
    (tail : Bytes) : Front { box with tail := tail } (whole ++ tail) := by
  generalize is : whole ++ box.tail = rest at front
  cases front with
  | short typed sized =>
    have : Front { box with tail := tail } _ := Front.short typed sized
    simp only [← List.append_assoc] at is this
    rwa [← List.append_cancel_right is] at this
  | long typed sized =>
    have : Front { box with tail := tail } _ := Front.long typed sized
    simp only [← List.append_assoc] at is this
    rwa [← List.append_cancel_right is] at this
  | toEnd _ last => exact absurd last some_

lemma boxAt_cut {front rest : Bytes} (whole : Front box rest) (given : big (slice rest 0 4) ≠ 0)
    (starts : front <+: rest) (shorter : front.length < rest.length - box.tail.length) (some_ : 8 ≤ front.length) :
    boxAt front = none := by
  obtain ⟨more, rfl⟩ := starts
  have same {start n : ℕ} (fits : start + n ≤ front.length) : slice (front ++ more) start n = slice front start n := by
    rw [slice, slice, List.drop_append_of_le_length (by omega), List.take_append_of_le_length (by rw [List.length_drop]; omega)]
  have missing {type type' : Bytes} {header size : ℕ} (found : fits type (front ++ more) header size = some box) :
      fits type' front header size = none := by
    obtain ⟨fitting, rfl⟩ := fits_eq_some.1 found
    rw [List.length_drop] at shorter
    exact if_pos (.inr (by omega))
  have found := (boxAt_of_front whole).2
  rw [boxAt, same (by omega)] at found
  rw [same (by omega)] at given
  rw [if_neg given] at found
  rw [boxAt]
  split at found
  · next wide =>
    rw [if_pos wide]
    split
    · rfl
    · next long =>
      rw [if_neg (by rw [List.length_append]; omega), show slice (front ++ more) 8 8 = slice front 8 8 from same (by omega)]
        at found
      exact missing found
  · next narrow =>
    rw [if_neg narrow, if_neg given]
    exact missing found

lemma walk_of_cut {front data : Bytes} (cut : Cut front data) (payload : Option Bytes) :
    walk fileStep front payload = .error .invalid ∨
      ∃ payload' left, walk fileStep front payload = .ok (payload', left) ∧ left ≠ [] := by
  induction cut generalizing payload with
  | @here front rest box size whole is given starts some_ shorter =>
    rw [walk]
    split
    · exact .inr ⟨payload, front, rfl, some_⟩
    next long =>
    have none_ := boxAt_cut whole (given.resolve_right long) starts (is ▸ shorter) (by omega)
    split
    · next reads => rw [readBox_eq (by omega)] at reads; cases reads
    · exact .inl rfl
    · next reads =>
      rw [readBox_eq (by omega), none_] at reads
      cases reads
  | @later front whole box begins inner ih =>
    have some_ : box.tail ≠ [] := by
      intro none_
      rw [none_] at inner
      generalize is : ([] : Bytes) = tail at inner
      cases inner with
      | here front | later front _ => exact absurd (boxAt_of_front front).1 (is ▸ by decide)
    rw [walk_of_front (begins.before some_ front)]
    exact ih _

lemma verifyMp4_cut {front data : Bytes} (cut : Cut front data) : verifyMp4 front = .error .invalid := by
  rw [verifyMp4]
  split
  · rfl
  rcases walk_of_cut cut none with goes | ⟨payload, left, goes, some_⟩
  · rw [goes]
    rfl
  · rw [goes]
    cases left with
    | nil => exact absurd rfl some_
    | cons b bytes => cases payload <;> rfl

/-- A file is accepted exactly if boxes tile it, an `ftyp` first, and its last `moov` has a video; nothing is read past
its end, and it is refused when it is cut within a box whose size is given, or within the first bytes of a box. -/
theorem verifyMp4_exact (data : Bytes) :
    verifyMp4 data ≠ .error .pastEnd ∧ (verifyMp4 data = .ok () ↔ Movie Last data) ∧
      ∀ front, Cut front data → verifyMp4 front = .error .invalid :=
  ⟨verifyMp4_inside data, verifyMp4_iff data, fun _ => verifyMp4_cut⟩

/-! ## A file with two `moov` boxes, and one that is open at its end -/

def boxOf (type payload : Bytes) : Bytes := bytesOf 4 (8 + payload.length) ++ (type ++ payload)

def video : Bytes := boxOf trak (boxOf mdia (boxOf hdlr (List.replicate 8 0 ++ vide)))

def twice : Bytes := boxOf ftyp (List.replicate 8 0) ++ (boxOf moov video ++ boxOf moov [])

lemma front_boxOf {type payload : Bytes} (tail : Bytes) (typed : type.length = 4) (sized : 8 + payload.length < 256 ^ 4) :
    Front ⟨type, payload, tail⟩ (boxOf type payload ++ tail) := by
  have : Front ⟨type, payload, tail⟩ _ := Front.short typed sized
  simpa [boxOf] using this

lemma front_single {type payload : Bytes} (typed : type.length = 4) (sized : 8 + payload.length < 256 ^ 4) :
    Front ⟨type, payload, []⟩ (boxOf type payload) := by
  have := front_boxOf [] typed sized
  rwa [List.append_nil] at this

lemma hasVideo_video : HasVideo video := by
  have handler : Handler (boxOf mdia (boxOf hdlr (List.replicate 8 0 ++ vide))) :=
    .inside (front_single rfl (by decide)) (by decide) (.here (front_single rfl (by decide)) rfl (by decide) (by decide))
  exact ⟨_, .cons (front_single rfl (by decide)) .nil, _, List.mem_cons_self, rfl, handler⟩

/-- It has a `moov` with a video, but the last one is empty. -/
theorem twice_refused : ¬ (verifyMp4 twice = .ok () ↔ Movie (fun boxes box => box ∈ boxes) twice) := by
  have tiles : Tiles twice [⟨ftyp, List.replicate 8 0, boxOf moov video ++ boxOf moov []⟩, ⟨moov, video, boxOf moov []⟩,
      ⟨moov, [], []⟩] :=
    .cons (front_boxOf _ rfl (by decide)) (.cons (front_boxOf _ rfl (by decide)) (.cons (front_single rfl (by decide)) .nil))
  have movie : Movie (fun boxes box => box ∈ boxes) twice :=
    ⟨_, tiles, rfl, ⟨moov, video, boxOf moov []⟩, by decide, hasVideo_video⟩
  intro same
  have accepts := same.2 movie
  have begins : ¬ (twice.length < 16 ∨ slice twice 4 4 ≠ ftyp) := by decide
  rw [verifyMp4, if_neg begins, walk_of_tiles tiles, foldlM_fileStep] at accepts
  have empty : walk moovStep [] (false, false) = .ok ((false, false), []) := by
    rw [walk, if_pos (by decide)]
  simp only [Except.map, bind, Except.bind] at accepts
  rw [show (Option.map Box.payload _).or none = some [] from rfl] at accepts
  simp only [empty] at accepts
  cases accepts

def mdat : Bytes := [0x6D, 0x64, 0x61, 0x74]

/-- A movie whose last box extends to the end of the file. -/
def opened (payload : Bytes) : Bytes :=
  boxOf ftyp (List.replicate 8 0) ++ (boxOf moov video ++ (bytesOf 4 0 ++ (mdat ++ payload)))

lemma opened_accepted (payload : Bytes) : verifyMp4 (opened payload) = .ok () := by
  have last : Front ⟨mdat, payload, []⟩ (bytesOf 4 0 ++ (mdat ++ payload)) := by
    have : Front ⟨mdat, payload, []⟩ _ := Front.toEnd rfl rfl
    simpa using this
  have tiles : Tiles (opened payload) [⟨ftyp, List.replicate 8 0, boxOf moov video ++ (bytesOf 4 0 ++ (mdat ++ payload))⟩,
      ⟨moov, video, bytesOf 4 0 ++ (mdat ++ payload)⟩, ⟨mdat, payload, []⟩] :=
    .cons (front_boxOf _ rfl (by decide)) (.cons (front_boxOf _ rfl (by decide)) (.cons last .nil))
  exact (verifyMp4_iff _).2 ⟨_, tiles, rfl, ⟨moov, video, bytesOf 4 0 ++ (mdat ++ payload)⟩, rfl, hasVideo_video⟩

/-- A cut inside the payload of that box is not seen. -/
theorem opened_cut_accepted : opened [1] <+: opened [1, 2] ∧ opened [1] ≠ opened [1, 2] ∧
    verifyMp4 (opened [1, 2]) = .ok () ∧ verifyMp4 (opened [1]) = .ok () :=
  ⟨⟨[2], by decide⟩, by decide, opened_accepted _, opened_accepted _⟩

end Vertep.Media.Mp4
