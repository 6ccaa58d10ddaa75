import Mathlib.Logic.Function.Iterate
import Vertep.Lib.Bytes

/-!
# PNG payloads (`adapters/media_integrity.py`)

`_verify_png` reads chunk after chunk up to the first `IEND`, and says nothing of what stands behind it; a header is
checked wherever it stands, so a second one is taken as well. What is accepted therefore begins with an image that is
complete, but it is such an image, and nothing that is cut off from it is accepted, exactly when nothing follows the
`IEND` and there is one header.
-/

namespace Vertep.Media.Png
open Lib

def signature : Bytes := [0x89, 0x50, 0x4E, 0x47, 0x0D, 0x0A, 0x1A, 0x0A]

def IHDR : Bytes := [0x49, 0x48, 0x44, 0x52]

def IDAT : Bytes := [0x49, 0x44, 0x41, 0x54]

def IEND : Bytes := [0x49, 0x45, 0x4E, 0x44]

/-! ## The source -/

def crcBit (c : UInt32) : UInt32 := if c &&& 1 = 1 then (c >>> 1) ^^^ 0xEDB88320 else c >>> 1

def crcByte (c : UInt32) (b : UInt8) : UInt32 := crcBit^[8] (c ^^^ b.toUInt32)

def crc32 (bytes : Bytes) : ℕ := (bytes.foldl crcByte 0xFFFFFFFF ^^^ 0xFFFFFFFF).toNat

example : crc32 IEND = 0xAE426082 := by decide +kernel

def invalid (suffix : String) : String := s!"{suffix} payload does not match its declared media signature"

def validDepths (colorType : UInt8) : List UInt8 :=
  if colorType = 0 then [1, 2, 4, 8, 16]
  else if colorType = 3 then [1, 2, 4, 8]
  else if colorType ∈ [2, 4, 6] then [8, 16]
  else []

/-- The checks of an `IHDR`. -/
def ValidHeader (payload : Bytes) : Prop :=
  payload.length = 13 ∧ 1 ≤ big (slice payload 0 4) ∧ 1 ≤ big (slice payload 4 4) ∧
    payload.getD 8 0 ∈ validDepths (payload.getD 9 0) ∧ payload.getD 10 0 = 0 ∧ payload.getD 11 0 = 0 ∧
    payload.getD 12 0 ∈ [0, 1]

instance : DecidablePred ValidHeader := fun _ => inferInstanceAs (Decidable (_ ∧ _))

/-- The loop, of what is left from the offset on, with the types of the chunks and the data so far; `none` where it
raises. -/
def walk (rest : Bytes) (chunks : List Bytes) (idat : Bytes) : Option (List Bytes × Bytes) :=
  if rest.length < 8 then some (chunks, idat)
  else
    let length := big (slice rest 0 4)
    let type := slice rest 4 4
    let payload := slice rest 8 length
    if rest.length < 12 + length then none
    else if crc32 (type ++ payload) ≠ big (slice rest (8 + length) 4) then none
    else if type = IHDR ∧ ¬ ValidHeader payload then none
    else
      let idat := if type = IDAT then idat ++ payload else idat
      if type = IEND then some (chunks ++ [type], idat)
      else walk (rest.drop (12 + length)) (chunks ++ [type]) idat
termination_by rest.length
decreasing_by
  rw [List.length_drop]
  omega

/-- `_verify_png`, where `complete` says of which bytes `zlib.decompress` makes something. -/
def verifyPng (complete : Bytes → Bool) (data : Bytes) (suffix mimeType : String) : Except String String :=
  if data.length < 33 ∨ data.take 8 ≠ signature then .error (invalid suffix)
  else
    match walk (data.drop 8) [] [] with
    | none => .error (invalid suffix)
    | some (chunks, idat) =>
      if chunks.head? ≠ some IHDR ∨ IDAT ∉ chunks then .error (invalid suffix)
      else if chunks.getLast? ≠ some IEND then .error (invalid suffix)
      else if complete idat then .ok mimeType
      else .error (invalid suffix)

/-! ## Chunks -/

structure Chunk where
  type : Bytes
  payload : Bytes
  typed : type.length = 4
  sized : payload.length < 256 ^ 4

def Chunk.bytes (c : Chunk) : Bytes :=
  bytesOf 4 c.payload.length ++ (c.type ++ (c.payload ++ bytesOf 4 (crc32 (c.type ++ c.payload))))

def bytesOfAll (chunks : List Chunk) : Bytes := chunks.flatMap Chunk.bytes

def idatOf (chunks : List Chunk) : Bytes := (chunks.filter (·.type = IDAT)).flatMap Chunk.payload

variable (complete : Bytes → Bool)

/-- A chunk stream: valid headers, the first chunk one of them, data that are complete, and one `IEND`, which is last. -/
structure Stream (chunks : List Chunk) : Prop where
  first : chunks.head?.map Chunk.type = some IHDR
  headers : ∀ c ∈ chunks, c.type = IHDR → ValidHeader c.payload
  data : IDAT ∈ chunks.map Chunk.type
  last : ∃ body c, chunks = body ++ [c] ∧ c.type = IEND ∧ IEND ∉ body.map Chunk.type
  complete : complete (idatOf chunks) = true

def OneHeader (chunks : List Chunk) : Prop := (chunks.map Chunk.type).count IHDR = 1

def Image (data : Bytes) : Prop :=
  ∃ chunks, Stream complete chunks ∧ OneHeader chunks ∧ data = signature ++ bytesOfAll chunks

/-- Exactly the images are accepted, and nothing that is cut off from what is accepted. -/
structure Exact (data : Bytes) (suffix mimeType : String) : Prop where
  image : verifyPng complete data suffix mimeType = .ok mimeType ↔ Image complete data
  cut : verifyPng complete data suffix mimeType = .ok mimeType →
    ∀ front, front <+: data → front ≠ data → verifyPng complete front suffix mimeType ≠ .ok mimeType

/-! ## Reading a chunk -/

lemma crc32_lt (bytes : Bytes) : crc32 bytes < 256 ^ 4 := UInt32.toNat_lt _

section
variable (c : Chunk) (tail : Bytes)

lemma Chunk.length_bytes : c.bytes.length = 12 + c.payload.length := by
  simp only [Chunk.bytes, List.length_append, length_bytesOf, c.typed]
  omega

lemma Chunk.slice_length : slice (c.bytes ++ tail) 0 4 = bytesOf 4 c.payload.length := by
  have := slice_append [] (bytesOf 4 c.payload.length)
    (c.type ++ (c.payload ++ bytesOf 4 (crc32 (c.type ++ c.payload))) ++ tail)
  simpa [Chunk.bytes] using this

lemma Chunk.slice_type : slice (c.bytes ++ tail) 4 4 = c.type := by
  have := slice_append (bytesOf 4 c.payload.length) c.type
    ((c.payload ++ bytesOf 4 (crc32 (c.type ++ c.payload))) ++ tail)
  simpa [Chunk.bytes, c.typed] using this

lemma Chunk.slice_payload : slice (c.bytes ++ tail) 8 c.payload.length = c.payload := by
  have := slice_append (bytesOf 4 c.payload.length ++ c.type) c.payload (bytesOf 4 (crc32 (c.type ++ c.payload)) ++ tail)
  simpa [Chunk.bytes, c.typed] using this

lemma Chunk.slice_crc : slice (c.bytes ++ tail) (8 + c.payload.length) 4 = bytesOf 4 (crc32 (c.type ++ c.payload)) := by
  have := slice_append (bytesOf 4 c.payload.length ++ c.type ++ c.payload) (bytesOf 4 (crc32 (c.type ++ c.payload))) tail
  simpa [Chunk.bytes, c.typed, show 8 + c.payload.length = 4 + (4 + c.payload.length) by omega] using this

lemma walk_chunk (chunks : List Bytes) (idat : Bytes) :
    walk (c.bytes ++ tail) chunks idat =
      if c.type = IHDR ∧ ¬ ValidHeader c.payload then none
      else if c.type = IEND then some (chunks ++ [c.type], if c.type = IDAT then idat ++ c.payload else idat)
      else walk tail (chunks ++ [c.type]) (if c.type = IDAT then idat ++ c.payload else idat) := by
  have length : (c.bytes ++ tail).length = 12 + c.payload.length + tail.length := by
    rw [List.length_append, c.length_bytes]
  have behind : (c.bytes ++ tail).drop (12 + c.payload.length) = tail := by
    rw [← c.length_bytes, List.drop_left]
  rw [walk, if_neg (by omega)]
  simp only [c.slice_length, c.slice_type, big_bytesOf c.sized, c.slice_payload, c.slice_crc, big_bytesOf (crc32_lt _)]
  rw [if_neg (by omega), if_neg (not_not.2 rfl), behind]

end

lemma chunk_of_rest {rest : Bytes} (whole : 12 + big (slice rest 0 4) ≤ rest.length)
    (sum : crc32 (slice rest 4 4 ++ slice rest 8 (big (slice rest 0 4))) =
      big (slice rest (8 + big (slice rest 0 4)) 4)) :
    ∃ c : Chunk, c.type = slice rest 4 4 ∧ c.payload = slice rest 8 (big (slice rest 0 4)) ∧
      rest = c.bytes ++ rest.drop (12 + big (slice rest 0 4)) := by
  have less := big_lt (slice rest 0 4)
  rw [length_slice (by omega)] at less
  refine ⟨⟨slice rest 4 4, slice rest 8 (big (slice rest 0 4)), length_slice (by omega), ?_⟩, rfl, rfl, ?_⟩
  · rwa [length_slice (by omega)]
  · rw [Chunk.bytes]
    dsimp only
    rw [length_slice (by omega), bytesOf_big_slice (by omega), sum, bytesOf_big_slice (by omega)]
    have first := drop_eq_slice rest 0 4
    rw [drop_eq_slice rest (0 + 4) 4, drop_eq_slice rest (0 + 4 + 4) (big (slice rest 0 4)),
      drop_eq_slice rest (0 + 4 + 4 + big (slice rest 0 4)) 4] at first
    have end_ : 0 + 4 + 4 + big (slice rest 0 4) + 4 = 12 + big (slice rest 0 4) := by omega
    have start : 0 + 4 + 4 + big (slice rest 0 4) = 8 + big (slice rest 0 4) := by omega
    rw [end_, start] at first
    simpa only [List.drop_zero, List.append_assoc] using first

/-! ## The loop -/

lemma idatOf_cons (c : Chunk) (cs : List Chunk) :
    idatOf (c :: cs) = (if c.type = IDAT then c.payload else []) ++ idatOf cs := by
  by_cases data : c.type = IDAT <;> simp [idatOf, data]

/-- The loop reads chunks with valid headers, and stops behind the first `IEND` or where no chunk can follow. -/
lemma walk_sound {rest : Bytes} {chunks chunks' : List Bytes} {idat idat' : Bytes}
    (reads : walk rest chunks idat = some (chunks', idat')) :
    ∃ cs tail, rest = bytesOfAll cs ++ tail ∧ chunks' = chunks ++ cs.map Chunk.type ∧ idat' = idat ++ idatOf cs ∧
      (∀ c ∈ cs, c.type = IHDR → ValidHeader c.payload) ∧ IEND ∉ (cs.map Chunk.type).dropLast := by
  fun_induction walk rest chunks idat with
  | case1 rest chunks idat short =>
    cases reads
    exact ⟨[], rest, rfl, (List.append_nil _).symm, (List.append_nil _).symm, fun _ => (by cases ·), List.not_mem_nil⟩
  | case2 | case3 | case4 => cases reads
  | case5 rest chunks idat long length type payload whole sum header idat₁ ends =>
    obtain ⟨c, typed, holds, is⟩ : ∃ c : Chunk, c.type = type ∧ c.payload = payload ∧
      rest = c.bytes ++ rest.drop (12 + length) := chunk_of_rest (by omega) (not_not.1 sum)
    obtain ⟨rfl, rfl⟩ := Prod.mk.inj (Option.some.inj reads)
    refine ⟨[c], _, by simpa [bytesOfAll] using is, by rw [← typed]; rfl, ?_, ?_, List.not_mem_nil⟩
    · rw [idatOf_cons, typed, holds]
      simp only [idat₁]
      split <;> simp [idatOf]
    · intro c' within here
      cases List.mem_singleton.1 within
      exact holds ▸ not_not.1 fun no => header ⟨typed.symm.trans here, no⟩
  | case6 rest chunks idat long length type payload whole sum header idat₁ goes ih =>
    obtain ⟨c, typed, holds, is⟩ : ∃ c : Chunk, c.type = type ∧ c.payload = payload ∧
      rest = c.bytes ++ rest.drop (12 + length) := chunk_of_rest (by omega) (not_not.1 sum)
    obtain ⟨cs, tail, are, types, idats, headers, none_⟩ := ih reads
    refine ⟨c :: cs, tail, ?_, ?_, ?_, ?_, ?_⟩
    · rw [is, are, bytesOfAll, bytesOfAll, List.flatMap_cons, List.append_assoc]
    · rw [types, ← typed, List.append_assoc]
      rfl
    · rw [idats, idatOf_cons, typed, holds]
      simp only [idat₁]
      split <;> simp
    · intro c' within here
      rcases List.mem_cons.1 within with rfl | later
      · exact holds ▸ not_not.1 fun no => header ⟨typed.symm.trans here, no⟩
      · exact headers c' later here
    · rw [List.map_cons]
      cases cs with
      | nil => exact List.not_mem_nil
      | cons c' cs =>
        rw [List.map_cons, List.dropLast_cons_of_ne_nil (List.cons_ne_nil _ _), List.mem_cons, not_or]
        exact ⟨fun same => goes (typed.symm.trans same.symm), none_⟩

/-- The loop reads a stream up to its `IEND`. -/
lemma walk_complete {body : List Chunk} {c : Chunk} (headers : ∀ c' ∈ body ++ [c], c'.type = IHDR → ValidHeader c'.payload)
    (ends : c.type = IEND) (none_ : IEND ∉ body.map Chunk.type) (tail : Bytes) (chunks : List Bytes) (idat : Bytes) :
    walk (bytesOfAll (body ++ [c]) ++ tail) chunks idat =
      some (chunks ++ (body ++ [c]).map Chunk.type, idat ++ idatOf (body ++ [c])) := by
  induction body generalizing chunks idat with
  | nil =>
    have no : IEND ≠ IHDR ∧ IEND ≠ IDAT := by decide
    rw [List.nil_append, bytesOfAll, List.flatMap_singleton, walk_chunk, ends, if_neg fun is => no.1 is.1, if_pos rfl,
      idatOf_cons, ends]
    simp [no.2, idatOf, ends]
  | cons c' body ih =>
    rw [List.map_cons, List.mem_cons, not_or] at none_
    have valid := headers c' List.mem_cons_self
    rw [List.cons_append, bytesOfAll, List.flatMap_cons, List.append_assoc, walk_chunk,
      if_neg fun is => is.2 (valid is.1), if_neg (Ne.symm none_.1), ← bytesOfAll,
      ih (fun c within => headers c (List.mem_cons_of_mem _ within)) none_.2, List.map_cons, idatOf_cons]
    split <;> simp

/-! ## What is accepted -/

variable {complete} {data : Bytes} {suffix mimeType : String}

lemma Stream.walk {chunks : List Chunk} (stream : Stream complete chunks) (rest : Bytes) :
    walk (bytesOfAll chunks ++ rest) [] [] = some (chunks.map Chunk.type, idatOf chunks) := by
  obtain ⟨body, c, rfl, ends, none_⟩ := stream.last
  exact walk_complete stream.headers ends none_ rest [] []

lemma Stream.length {chunks : List Chunk} (stream : Stream complete chunks) : 25 ≤ (bytesOfAll chunks).length := by
  cases chunks with
  | nil => exact absurd stream.first (by decide)
  | cons c cs =>
    have header := stream.headers c List.mem_cons_self (Option.some.inj stream.first)
    rw [bytesOfAll, List.flatMap_cons, List.length_append, c.length_bytes, header.1]
    omega

lemma types_ends {cs : List Chunk} (last : (cs.map Chunk.type).getLast? = some IEND)
    (none_ : IEND ∉ (cs.map Chunk.type).dropLast) :
    ∃ body c, cs = body ++ [c] ∧ c.type = IEND ∧ IEND ∉ body.map Chunk.type := by
  rcases List.eq_nil_or_concat cs with rfl | ⟨body, c, rfl⟩
  · cases last
  · rw [List.concat_eq_append, List.map_append, List.map_singleton] at last none_
    rw [List.getLast?_append] at last
    rw [List.dropLast_concat] at none_
    exact ⟨body, c, List.concat_eq_append, Option.some.inj last, none_⟩

lemma verifyPng_iff : verifyPng complete data suffix mimeType = .ok mimeType ↔
    ∃ chunks rest, Stream complete chunks ∧ data = signature ++ (bytesOfAll chunks ++ rest) := by
  constructor
  · intro accepts
    rw [verifyPng] at accepts
    split at accepts
    · cases accepts
    next begins =>
    rw [not_or, not_not] at begins
    have parts : data = signature ++ data.drop 8 := by rw [← begins.2, List.take_append_drop]
    split at accepts
    · cases accepts
    next chunks idat reads =>
    obtain ⟨cs, tail, are, rfl, rfl, headers, none_⟩ := walk_sound reads
    rw [List.nil_append, List.nil_append] at accepts
    split at accepts
    · cases accepts
    next first =>
    rw [not_or, not_not, not_not, List.head?_map] at first
    split at accepts
    · cases accepts
    next last =>
    split at accepts
    · next complete_ =>
      exact ⟨cs, tail, ⟨first.1, headers, first.2, types_ends (not_not.1 last) none_, complete_⟩, are ▸ parts⟩
    · cases accepts
  · rintro ⟨chunks, rest, stream, rfl⟩
    have long := stream.length
    have behind : (signature ++ (bytesOfAll chunks ++ rest)).drop 8 = bytesOfAll chunks ++ rest := rfl
    have begins : ¬ ((signature ++ (bytesOfAll chunks ++ rest)).length < 33 ∨
        (signature ++ (bytesOfAll chunks ++ rest)).take 8 ≠ signature) := by
      rw [not_or, not_not]
      refine ⟨?_, rfl⟩
      simp only [List.length_append, show signature.length = 8 from rfl]
      omega
    have first : ¬ ((chunks.map Chunk.type).head? ≠ some IHDR ∨ IDAT ∉ chunks.map Chunk.type) := by
      rw [not_or, not_not, not_not, List.head?_map]
      exact ⟨stream.first, stream.data⟩
    have last : (chunks.map Chunk.type).getLast? = some IEND := by
      obtain ⟨body, c, rfl, ends, -⟩ := stream.last
      rw [List.map_append, List.getLast?_append]
      exact congrArg some ends
    rw [verifyPng, if_neg begins, behind, stream.walk]
    dsimp only
    rw [if_neg first, if_neg (not_not.2 last), if_pos stream.complete]

/-- A payload is verified exactly where a stream that it begins with is all of it, and has one header. -/
theorem exact_iff (complete : Bytes → Bool) (data : Bytes) (suffix mimeType : String) :
    Exact complete data suffix mimeType ↔
      ∀ chunks rest, Stream complete chunks → data = signature ++ (bytesOfAll chunks ++ rest) →
        rest = [] ∧ OneHeader chunks := by
  constructor
  · intro exact_ chunks rest stream is
    have accepts : verifyPng complete data suffix mimeType = .ok mimeType := verifyPng_iff.2 ⟨chunks, rest, stream, is⟩
    constructor
    · by_contra some_
      apply exact_.cut accepts (signature ++ (bytesOfAll chunks ++ [])) _ _ (verifyPng_iff.2 ⟨chunks, [], stream, rfl⟩)
      · rw [is, List.append_nil]
        exact (List.prefix_append_right_inj signature).2 (List.prefix_append _ _)
      · rw [is]
        exact fun same => some_ (List.append_cancel_left (List.append_cancel_left same)).symm
    · -- the loop reads the same types from both streams
      obtain ⟨chunks', stream', one, is'⟩ := exact_.image.1 accepts
      have same := stream.walk rest
      rw [List.append_cancel_left (is.symm.trans is'), ← List.append_nil (bytesOfAll chunks'), stream'.walk] at same
      rw [OneHeader, ← (Prod.mk.inj (Option.some.inj same)).1]
      exact one
  · intro all
    constructor
    · rw [verifyPng_iff]
      constructor
      · rintro ⟨chunks, rest, stream, is⟩
        obtain ⟨rfl, one⟩ := all chunks rest stream is
        exact ⟨chunks, stream, one, by rw [is, List.append_nil]⟩
      · rintro ⟨chunks, stream, -, is⟩
        exact ⟨chunks, [], stream, by rw [is, List.append_nil]⟩
    · intro _ front starts shorter accepts
      obtain ⟨chunks, rest, stream, rfl⟩ := verifyPng_iff.1 accepts
      obtain ⟨more, is⟩ := starts
      have none_ := (all chunks (rest ++ more) stream (by rw [← is, List.append_assoc, List.append_assoc])).1
      rw [(List.append_eq_nil_iff.1 none_).2, List.append_nil] at is
      exact shorter is

/-! ## A byte too many -/

def zero : Bytes := [0x78, 0x9C, 0x63, 0x60, 0x00, 0x00, 0x00, 0x02, 0x00, 0x01]

def pixel : List Chunk :=
  [⟨IHDR, [0, 0, 0, 1, 0, 0, 0, 1, 8, 0, 0, 0, 0], rfl, by decide⟩, ⟨IDAT, zero, rfl, by decide⟩,
    ⟨IEND, [], rfl, by decide⟩]

/-- An image of one pixel with a byte behind it is accepted. -/
theorem pixel_and_more :
    ¬ Exact (fun bytes => bytes = zero) (signature ++ (bytesOfAll pixel ++ [0])) ".png" "image/png" := by
  have stream : Stream (fun bytes => bytes = zero) pixel :=
    ⟨rfl, by decide +kernel, by decide, ⟨pixel.dropLast, pixel.getLast (by decide), rfl, rfl, by decide⟩, by decide⟩
  intro exact_
  apply exact_.cut (verifyPng_iff.2 ⟨pixel, [0], stream, rfl⟩) (signature ++ (bytesOfAll pixel ++ [])) _ _
    (verifyPng_iff.2 ⟨pixel, [], stream, rfl⟩)
  · rw [List.append_nil]
    exact (List.prefix_append_right_inj signature).2 (List.prefix_append _ _)
  · exact fun same => by cases List.append_cancel_left (List.append_cancel_left same)

end Vertep.Media.Png
