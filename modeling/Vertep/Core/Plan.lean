import Mathlib.Data.List.Nodup
import Mathlib.Data.Rat.Floor
import Vertep.Lib.Joined

/-!
# The inputs of an assembly and its submit key

Embedding of `assembly_plan`, `approved_narration` and `_write_subtitles` (`core/pipeline.py`) and of
`_ordered_scene_files`, `_file_digest`, `_assembly_input_digest` and `_assembly_submit_key`
(`core/api/job_helpers.py`), with the texts and files that the rest of the model keeps opaque. A
directory is enumerated in an order of its own; what an assembly uses must not depend on it.

Seconds are rationals in place of floats. A file that is not there raises, which is `none` here.
-/

namespace Vertep.Core
open Lib

/-! ## The Job and its files -/

/-- A scene of the approved script; a key that is missing or empty is `""`. -/
structure ScriptScene where
  text : String := ""
  voiceover : String := ""
  duration : ℚ := 5
deriving DecidableEq

/-- A scene record, by what an assembly reads of it. -/
structure PlannedScene where
  index : ℕ
  artifactIds : List String
deriving DecidableEq

/-- An artifact record, by what an assembly reads of it. -/
structure PlannedArtifact where
  artifactId : String
  kind : String
  path : String
deriving DecidableEq

/-- A Job, by what an assembly reads of it. -/
structure PlannedJob where
  jobId : String
  taskType : String := "image"
  script : List ScriptScene := []
  scenes : List PlannedScene := []
  artifacts : List PlannedArtifact := []
  videoVersions : List ℕ := []
  aspectRatio : String := ""
  outputPreset : Option String := none
deriving DecidableEq

/-- The directory of a Job: what a path leads to, and the names of `audio/` as they are enumerated.
The watermark is the path the brand names. -/
structure JobDirectory where
  read : String → Option ByteArray
  audio : List String
  distinct : audio.Nodup
  watermark : Option String := none

def JobDirectory.SameContents (d d' : JobDirectory) : Prop :=
  d'.read = d.read ∧ d'.audio.Perm d.audio ∧ d'.watermark = d.watermark

def JobDirectory.write (d : JobDirectory) (path : String) (data : ByteArray) : JobDirectory :=
  { d with read := fun p => if p = path then some data else d.read p }

/-! ## Names -/

/-- `Path.stem` and `Path.suffix`: the name is cut at its last dot, unless that stands first or last. -/
def splitName (name : String) : List Char × List Char :=
  let chars := name.toList
  let after := (chars.reverse.takeWhile (· ≠ '.')).reverse
  let before := chars.take (chars.length - after.length - 1)
  if '.' ∈ chars ∧ before ≠ [] ∧ after ≠ [] then (before, '.' :: after) else (chars, [])

def isAudio (name : String) : Bool :=
  String.ofList ((splitName name).2.map Char.toLower) ∈ [".wav", ".mp3", ".aac", ".m4a", ".ogg"]

/-- `path.stem.startswith`. -/
def stemStarts (start name : String) : Bool := start.toList.isPrefixOf (splitName name).1

def isTrack (start name : String) : Bool := isAudio name ∧ stemStarts start name

/-- `next(path for path in audio_files if …)`. -/
def JobDirectory.track (d : JobDirectory) (start : String) : Option String :=
  ((d.audio.filter isAudio).find? (stemStarts start)).map ("audio/" ++ ·)

/-! ## Texts -/

/-- The characters `str.strip` takes off. -/
def isSpace (c : Char) : Bool :=
  let n := c.toNat
  9 ≤ n ∧ n ≤ 13 ∨ 28 ≤ n ∧ n ≤ 32 ∨ n = 133 ∨ n = 160 ∨ n = 5760 ∨ 8192 ≤ n ∧ n ≤ 8202 ∨
    n = 8232 ∨ n = 8233 ∨ n = 8239 ∨ n = 8287 ∨ n = 12288

def strip (text : String) : String :=
  String.ofList ((text.toList.dropWhile isSpace).reverse.dropWhile isSpace).reverse

def approvedNarration (job : PlannedJob) : String :=
  "\n".intercalate ((job.script.map fun scene => strip scene.text).filter (· ≠ ""))

/-- A number with zeros before it, as `:02d` prints it. -/
def padded (width : ℕ) (n : ℤ) : String :=
  let digits := toString n.natAbs
  let sign := if n < 0 then "-" else ""
  sign ++ String.ofList (List.replicate (width - sign.length - digits.length) '0') ++ digits

/-- The time of a subtitle; the seconds are exact, where a float can be a millisecond off. -/
def stamp (seconds : ℚ) : String :=
  let millis : ℤ := if 0 ≤ seconds then ⌊seconds * 1000⌋ else ⌈seconds * 1000⌉
  padded 2 (millis / 3600000) ++ ":" ++ padded 2 (millis / 60000 % 60) ++ ":" ++
    padded 2 (millis / 1000 % 60) ++ "," ++ padded 3 (millis % 1000)

/-- The blocks of the subtitles from a scene on. -/
def subtitleBlocks : ℕ → ℚ → List ScriptScene → List String
  | _, _, [] => []
  | index, cursor, scene :: scenes =>
    let text := if scene.voiceover ≠ "" then scene.voiceover else scene.text
    let rest := subtitleBlocks (index + 1) (cursor + scene.duration) scenes
    if text = "" then rest
    else (toString index ++ "\n" ++ stamp cursor ++ " --> " ++ stamp (cursor + scene.duration) ++ "\n" ++
      text ++ "\n") :: rest

def writeSubtitles (job : PlannedJob) (d : JobDirectory) : Option String × JobDirectory :=
  let blocks := subtitleBlocks 1 0 job.script
  if blocks = [] then (none, d)
  else
    (some "subtitles/video.srt",
      d.write "subtitles/video.srt" ("\n".intercalate blocks).toUTF8)

/-! ## The plan -/

/-- `_ordered_scene_files`. -/
def sceneFiles (job : PlannedJob) (d : JobDirectory) : List String :=
  let accepted := if job.taskType = "video" then "video_scene" else "image"
  (job.scenes.mergeSort fun a b => a.index ≤ b.index).flatMap fun scene =>
    scene.artifactIds.filterMap fun id =>
      ((job.artifacts.find? fun a => a.artifactId = id ∧ a.kind = accepted).map
        PlannedArtifact.path).filter fun path => (d.read path).isSome

/-- What `assembly_plan` resolves. -/
structure AssemblyPlan where
  materials : List String
  audio : Option String
  music : Option String
  subtitles : Option String
  watermark : Option String
  durations : List ℚ
  aspectRatio : String
  preset : Option String
  taskType : String
  script : String
  version : ℕ
  output : String
deriving DecidableEq

/-- `assembly_plan`, with the directory once the subtitles are written. -/
def assemblyPlan (job : PlannedJob) (d : JobDirectory) (images : List String) :
    AssemblyPlan × JobDirectory :=
  let (subtitles, d') := writeSubtitles job d
  let version := job.videoVersions.foldl max 0 + 1
  ({ materials := images
     audio := d.track "voice"
     music := d.track "music"
     subtitles := subtitles
     watermark := d.watermark.filter (· ≠ "")
     durations := job.script.map ScriptScene.duration
     aspectRatio := job.aspectRatio
     preset := job.outputPreset
     taskType := job.taskType
     script := approvedNarration job
     version := version
     output := "final/video-v" ++ toString version ++ ".mp4" }, d')

/-! ## Digests -/

/-- SHA-256, taken as free of collisions: texts of hexadecimal digits, one for each content. -/
structure Sha256 where
  hexdigest : ByteArray → String
  collisionFree : Function.Injective hexdigest
  hexadecimal : ∀ data, ∀ c ∈ (hexdigest data).toList, c ∈ "0123456789abcdef".toList

variable (sha : Sha256)

def fileDigest (d : JobDirectory) : Option String → Option String
  | none => some "-"
  | some path => (d.read path).map sha.hexdigest

/-- `_file_digest` of each of the materials. -/
def materialDigests (d : JobDirectory) : List String → Option (List String)
  | [] => some []
  | path :: paths => do
    let digest ← fileDigest sha d (some path)
    let digests ← materialDigests d paths
    pure (digest :: digests)

/-- The digests of the inputs of a plan. -/
structure InputDigests where
  script : String
  audio : String
  music : String
  subtitles : String
  watermark : String
  materials : List String
deriving DecidableEq

/-- The inputs of a plan, each by its digest. -/
def AssemblyPlan.digests (plan : AssemblyPlan) (d : JobDirectory) : Option InputDigests := do
  let audio ← fileDigest sha d plan.audio
  let music ← fileDigest sha d plan.music
  let subtitles ← fileDigest sha d plan.subtitles
  let watermark ← fileDigest sha d plan.watermark
  let materials ← materialDigests sha d plan.materials
  pure ⟨sha.hexdigest plan.script.toUTF8, audio, music, subtitles, watermark, materials⟩

/-- The labelled parts that are joined. -/
def InputDigests.parts (x : InputDigests) : List String :=
  ["script:" ++ x.script, "audio:" ++ x.audio, "music:" ++ x.music, "subtitles:" ++ x.subtitles,
    "watermark:" ++ x.watermark] ++ x.materials.map ("material:" ++ ·)

/-- `_assembly_input_digest`, once the files are read. -/
def inputDigest (x : InputDigests) : String := sha.hexdigest ("|".intercalate x.parts).toUTF8

def assemblySubmitKey (jobId : String) (version : ℕ) (digest : String) : String :=
  jobId ++ "-v" ++ toString version ++ "-" ++ String.ofList (digest.toList.take 16)

/-- The plan of an assembly and its submit key, as `finalize_job` resolves them. -/
def planned (job : PlannedJob) (d : JobDirectory) : AssemblyPlan × Option String :=
  let (plan, d') := assemblyPlan job d (sceneFiles job d)
  (plan, (plan.digests sha d').map fun x => assemblySubmitKey job.jobId plan.version (inputDigest sha x))

/-! ## One plan for one directory -/

/-- Another enumeration of the same files gives the same inputs and the same key. -/
def KeyStable (job : PlannedJob) (d : JobDirectory) : Prop :=
  ∀ d', d.SameContents d' →
    (planned sha job d').1.materials = (planned sha job d).1.materials ∧
    (planned sha job d').1.audio = (planned sha job d).1.audio ∧
    (planned sha job d').1.music = (planned sha job d).1.music ∧
    (planned sha job d').1.subtitles = (planned sha job d).1.subtitles ∧
    (planned sha job d').2 = (planned sha job d).2

/-- Inputs with different digests are told apart. -/
def KeySeparates : Prop :=
  ∀ (plan plan' : AssemblyPlan) (d d' : JobDirectory) (x x' : InputDigests),
    plan.digests sha d = some x → plan'.digests sha d' = some x' → x ≠ x' →
      inputDigest sha x ≠ inputDigest sha x'

def OneTrack (d : JobDirectory) (start : String) : Prop := (d.audio.filter (isTrack start)).length ≤ 1

section
variable {d d' : JobDirectory} {job : PlannedJob} {start : String}

lemma track_eq (d : JobDirectory) (start : String) :
    d.track start = (d.audio.filter (isTrack start)).head?.map ("audio/" ++ ·) := by
  rw [JobDirectory.track, List.find?_filter, List.head?_filter]
  rfl

lemma track_of_one (one : OneTrack d start) (perm : d'.audio.Perm d.audio) :
    d'.track start = d.track start := by
  have tracks := perm.filter (isTrack start)
  rw [track_eq, track_eq]
  unfold OneTrack at one
  cases listed : d.audio.filter (isTrack start) with
  | nil =>
    rw [listed] at tracks
    rw [tracks.eq_nil]
  | cons a rest =>
    cases rest with
    | nil =>
      rw [listed] at tracks
      rw [tracks.eq_singleton]
    | cons b rest => simp [listed] at one

lemma one_of_track (h : ∀ d', d.SameContents d' → d'.track start = d.track start) : OneTrack d start := by
  -- the same names, read from the end
  let d' : JobDirectory := { d with audio := d.audio.reverse, distinct := List.nodup_reverse.2 d.distinct }
  have same := h d' ⟨rfl, List.reverse_perm _, rfl⟩
  have injective : Function.Injective ("audio/" ++ · : String → String) := by
    intro a b e
    exact (String.append_right_inj _).1 e
  rw [track_eq, track_eq, List.filter_reverse, List.head?_reverse] at same
  have ends := Option.map_injective injective same
  have distinct := d.distinct.filter (isTrack start)
  unfold OneTrack
  cases listed : d.audio.filter (isTrack start) with
  | nil => simp
  | cons a rest =>
    cases rest with
    | nil => simp
    | cons b rest =>
      rw [listed] at ends distinct
      rw [List.getLast?_cons_cons, List.head?_cons] at ends
      exact absurd (List.mem_of_getLast? ends) (List.nodup_cons.1 distinct).1

lemma planned_of_one (voice : OneTrack d "voice") (music : OneTrack d "music")
    (same : d.SameContents d') : planned sha job d' = planned sha job d := by
  obtain ⟨reads, perm, mark⟩ := same
  have voices := track_of_one voice perm
  have musics := track_of_one music perm
  have files : sceneFiles job d' = sceneFiles job d := by
    unfold sceneFiles
    rw [reads]
  -- what the subtitles leave is read, never enumerated
  have digests (plan : AssemblyPlan) {e e' : JobDirectory} (h : e'.read = e.read) :
      plan.digests sha e' = plan.digests sha e := by
    have digest : fileDigest sha e' = fileDigest sha e := by
      funext path
      cases path with
      | none => rfl
      | some path => simp only [fileDigest, h]
    have materials : materialDigests sha e' = materialDigests sha e := by
      funext paths
      induction paths with
      | nil => rfl
      | cons path paths ih => simp only [materialDigests, digest, ih]
    unfold AssemblyPlan.digests
    rw [digest, materials]
  have written : (writeSubtitles job d').1 = (writeSubtitles job d).1 ∧
      (writeSubtitles job d').2.read = (writeSubtitles job d).2.read := by
    unfold writeSubtitles
    dsimp only
    split
    · exact ⟨rfl, reads⟩
    · exact ⟨rfl, by simp only [JobDirectory.write, reads]⟩
  have plan : (assemblyPlan job d' (sceneFiles job d')).1 = (assemblyPlan job d (sceneFiles job d)).1 := by
    simp only [assemblyPlan, voices, musics, mark, files, written.1]
  have left : (assemblyPlan job d' (sceneFiles job d')).2.read =
      (assemblyPlan job d (sceneFiles job d)).2.read := written.2
  unfold planned
  dsimp only
  rw [plan, digests _ left]

end

/-! ## Digests tell inputs apart -/

section
variable {sha} {plan : AssemblyPlan} {d : JobDirectory} {x x' : InputDigests}

def IsDigest (text : String) : Prop := '|' ∉ text.toList

lemma isDigest_hexdigest (data : ByteArray) : IsDigest (sha.hexdigest data) := by
  intro member
  have hex := sha.hexadecimal data '|' member
  revert hex
  decide

lemma isDigest_fileDigest {path : Option String} {text : String}
    (h : fileDigest sha d path = some text) : IsDigest text := by
  cases path with
  | none =>
    cases h
    simp [IsDigest]
  | some path =>
    simp only [fileDigest, Option.map_eq_some_iff] at h
    obtain ⟨data, _, rfl⟩ := h
    exact isDigest_hexdigest data

lemma isDigest_materialDigests {paths digests : List String} (h : materialDigests sha d paths = some digests) :
    ∀ text ∈ digests, IsDigest text := by
  induction paths generalizing digests with
  | nil =>
    cases h
    exact nofun
  | cons path paths ih =>
    simp only [materialDigests, bind, pure, Option.bind_eq_some_iff, Option.some.injEq] at h
    obtain ⟨first, found, rest, more, rfl⟩ := h
    exact List.forall_mem_cons.2 ⟨isDigest_fileDigest found, ih more⟩

lemma parts_of_digests (h : plan.digests sha d = some x) : ∀ p ∈ x.parts, '|' ∉ p.toList := by
  simp only [AssemblyPlan.digests, bind, pure, Option.bind_eq_some_iff, Option.some.injEq] at h
  obtain ⟨audio, ha, music, hm, subtitles, hs, watermark, hw, materials, hl, rfl⟩ := h
  have labelled (label : String) {text : String} (no : '|' ∉ label.toList) (digest : IsDigest text) :
      '|' ∉ (label ++ text).toList := by
    rw [String.toList_append, List.mem_append, not_or]
    exact ⟨no, digest⟩
  have script := labelled "script:" (by simp) (@isDigest_hexdigest sha plan.script.toUTF8)
  have audio := labelled "audio:" (by simp) (isDigest_fileDigest ha)
  have music := labelled "music:" (by simp) (isDigest_fileDigest hm)
  have subtitles := labelled "subtitles:" (by simp) (isDigest_fileDigest hs)
  have watermark := labelled "watermark:" (by simp) (isDigest_fileDigest hw)
  have material : ∀ p ∈ materials.map ("material:" ++ ·), '|' ∉ p.toList := by
    simp only [List.mem_map, forall_exists_index, and_imp, forall_apply_eq_imp_iff₂]
    intro text member
    exact labelled _ (by simp) (isDigest_materialDigests hl text member)
  simp only [InputDigests.parts, List.cons_append, List.nil_append, List.forall_mem_cons]
  exact ⟨script, audio, music, subtitles, watermark, material⟩

lemma digests_of_parts (h : x.parts = x'.parts) : x = x' := by
  obtain ⟨script, audio, music, subtitles, watermark, materials⟩ := x
  obtain ⟨script', audio', music', subtitles', watermark', materials'⟩ := x'
  simp only [InputDigests.parts, List.cons_append, List.nil_append, List.cons.injEq,
    String.append_right_inj] at h
  obtain ⟨rfl, rfl, rfl, rfl, rfl, listed⟩ := h
  have label : Function.Injective ("material:" ++ · : String → String) :=
    fun _ _ e => (String.append_right_inj _).1 e
  rw [List.map_injective_iff.2 label listed]

end

lemma keySeparates : KeySeparates sha := by
  intro plan plan' d d' x x' h h' ne same
  refine ne (digests_of_parts (join_inj (x := '|') (by simp [InputDigests.parts])
    (by simp [InputDigests.parts]) (parts_of_digests h) (parts_of_digests h') ?_))
  exact String.toByteArray_inj.1 (sha.collisionFree same)

/-- The submit key is a function of the approved inputs exactly when one file at most may be taken for the
voice and one for the music. -/
theorem submit_key_of_inputs (job : PlannedJob) (d : JobDirectory) :
    (KeyStable sha job d ∧ KeySeparates sha) ↔ OneTrack d "voice" ∧ OneTrack d "music" := by
  constructor
  · rintro ⟨stable, _⟩
    exact ⟨one_of_track fun d' same => (stable d' same).2.1,
      one_of_track fun d' same => (stable d' same).2.2.1⟩
  · rintro ⟨voice, music⟩
    refine ⟨fun d' same => ?_, keySeparates sha⟩
    rw [planned_of_one sha voice music same]
    exact ⟨rfl, rfl, rfl, rfl, rfl⟩

/-! ## Two voices -/

def hexDigit (n : ℕ) : Char := "0123456789abcdef".toList.getD n '0'

def hexByte (b : UInt8) : List Char := [hexDigit (b.toNat / 16), hexDigit (b.toNat % 16)]

lemma hexByte_inj {a b : UInt8} (h : hexByte a = hexByte b) : a = b := by
  have digit : ∀ m < 16, ∀ n < 16, hexDigit m = hexDigit n → m = n := by decide
  simp only [hexByte, List.cons.injEq, and_true] at h
  have small := a.toNat_lt
  have small' := b.toNat_lt
  have high := digit _ (by omega) _ (by omega) h.1
  have low := digit _ (by omega) _ (by omega) h.2
  exact UInt8.toNat_inj.1 (by omega)

/-- The content itself, written in hexadecimal digits, is a digest free of collisions. -/
def Sha256.content : Sha256 where
  hexdigest data := String.ofList (data.data.toList.flatMap hexByte)
  collisionFree := by
    have bytes : ∀ l l' : List UInt8, l.flatMap hexByte = l'.flatMap hexByte → l = l' := by
      intro l
      induction l with
      | nil =>
        intro l' h
        cases l' with
        | nil => rfl
        | cons b l' => simp [hexByte] at h
      | cons a l ih =>
        intro l' h
        cases l' with
        | nil => simp [hexByte] at h
        | cons b l' =>
          rw [List.flatMap_cons, List.flatMap_cons] at h
          obtain ⟨first, rest⟩ := List.append_inj h rfl
          rw [hexByte_inj first, ih l' rest]
    intro data data' h
    exact ByteArray.ext (Array.toList_inj.1 (bytes _ _ (String.ofList_inj.1 h)))
  hexadecimal := by
    intro data c member
    have digit : ∀ n < 16, hexDigit n ∈ "0123456789abcdef".toList := by decide
    rw [String.toList_ofList, List.mem_flatMap] at member
    obtain ⟨b, _, member⟩ := member
    have small := b.toNat_lt
    simp only [hexByte, List.mem_cons, List.not_mem_nil, or_false] at member
    rcases member with rfl | rfl
    · exact digit _ (by omega)
    · exact digit _ (by omega)

/-- The directory of a Job with the voices of two scenes. -/
def twoVoices : JobDirectory where
  read path :=
    if path = "audio/voice-1.wav" then some "one".toUTF8
    else if path = "audio/voice-2.wav" then some "two".toUTF8
    else none
  audio := ["voice-1.wav", "voice-2.wav"]
  distinct := by decide

/-- Where two scenes have a voice, the order of the directory decides which one is assembled. -/
theorem two_voices_unstable :
    ¬ ∀ (sha : Sha256) (job : PlannedJob) (d : JobDirectory), KeyStable sha job d ∧ KeySeparates sha := by
  intro h
  have stable := (h .content { jobId := "job" } twoVoices).1
  have one : OneTrack twoVoices "voice" := one_of_track fun d' same => (stable d' same).2.1
  have two : (twoVoices.audio.filter (isTrack "voice")).length = 2 := by decide +kernel
  rw [OneTrack, two] at one
  exact absurd one (by decide)

end Vertep.Core
