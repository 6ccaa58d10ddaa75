import Vertep.Core.Models
import Vertep.Lib.Command
import Vertep.Queue.Json

/-!
# Storyboards and their payloads

The records behind `core/storyboard.py` and `core/image_storyboard.py`, and how a storyboard is read out of
the JSON of a worker: `StoryboardScene(**scene)` and `StoryboardVersion(...)`, with the bounds that the models
declare. The id of a scene, the text `sb-<version>-<index>`, is the pair of the two.
-/

namespace Vertep.Storyboard
open Lib Vertep.Core
open Queue (Json Members Elems)

abbrev Instant := String
abbrev TaskId := ℕ
abbrev ArtifactId := String
abbrev SceneId := ℕ × ℤ

structure StoryboardScene where
  index : ℤ
  prompt : String
  videoPrompt : String
  voiceover : String := ""
  duration : ℚ
  sceneId : Option SceneId := none
  artifactId : Option ArtifactId := none
  imagePrompt : Option String := none
  imagePromptHistory : List Json := []
  imageArtifactId : Option ArtifactId := none
  imageVersion : Option ℤ := none
deriving DecidableEq

structure StoryboardVersion where
  version : ℕ
  title : String
  description : String := ""
  hashtags : List String := []
  scenes : List StoryboardScene
  promptVersion : String := "1"
  model : String := ""
  status : StoryboardStatus
  revisionRequest : Option String := none
  decidedAt : Option Instant := none
  decidedBy : Option String := none
  imageVersion : ℤ := 1
  imageStatus : ImageStatus := .pending
  approvedScript : Option Json := none
deriving DecidableEq

/-- A registered picture. -/
structure ArtifactRecord where
  artifactId : ArtifactId
  sceneId : Option SceneId
  taskId : TaskId
  workflow : String
deriving DecidableEq

/-- The tasks that are queued here, with what tells them apart. -/
inductive Task where
  | storyboard (version : ℕ) (imageVersion : ℤ) (revision : Option String) (prompt : String)
  | image (storyboardVersion : ℕ) (imageVersion : ℤ) (sceneIndex : ℤ) (sceneId : SceneId) (prompt : String)
deriving DecidableEq

/-! ## Payloads -/

/-- The members of an object by key. -/
def get? (key : String) : Members → Option Json
  | .nil => none
  | .cons k j l => if k = key then some j else get? key l

/-- The elements of an array. -/
def elements : Elems → List Json
  | .nil => []
  | .cons j l => j :: elements l

/-- What a `for` runs over: elements, keys or characters. -/
def iterate : Json → Option (List Json)
  | .arr l => some (elements l)
  | .obj l => some (keys l)
  | .str s => some (s.toList.map fun c => .str (String.singleton c))
  | .null | .bool _ | .num _ => none
where
  keys : Members → List Json
    | .nil => []
    | .cons k _ l => .str k :: keys l

/-- `value == n`, where `True` is 1. -/
def equals (n : ℕ) : Option Json → Bool
  | some (.num x) => x = n
  | some (.bool b) => b.toNat = n
  | _ => false

/-- How a text is read where a number is declared. -/
structure Numerals where
  int : String → Option ℤ
  float : String → Option ℚ

/-- An `int` field. -/
def intField (numerals : Numerals) : Json → Option ℤ
  | .num x => if x.den = 1 then some x.num else none
  | .bool b => some b.toNat
  | .str s => numerals.int s
  | .null | .arr _ | .obj _ => none

/-- A `float` field. -/
def floatField (numerals : Numerals) : Json → Option ℚ
  | .num x => some x
  | .bool b => some b.toNat
  | .str s => numerals.float s
  | .null | .arr _ | .obj _ => none

/-- A `str` field of `least` to `most` characters. -/
def textField (least : ℕ) (most : Option ℕ) : Json → Option String
  | .str s => if least ≤ s.length ∧ ∀ n ∈ most, s.length ≤ n then some s else none
  | .null | .bool _ | .num _ | .arr _ | .obj _ => none

/-- A field that may be `None`. -/
def optional {α : Type} (field : Json → Option α) : Json → Option (Option α)
  | .null => some none
  | j => (field j).map some

/-- A field with a default. -/
def defaulted {α : Type} (field : Json → Option α) (default : α) : Option Json → Option α
  | none => some default
  | some j => field j

/-- A `list` field of `least` to `most` elements. -/
def listField {α : Type} (least : ℕ) (most : Option ℕ) (field : Json → Option α) : Json → Option (List α)
  | .arr l =>
    if least ≤ (elements l).length ∧ ∀ n ∈ most, (elements l).length ≤ n then (elements l).mapM field else none
  | .null | .bool _ | .num _ | .str _ | .obj _ => none

/-- A `dict` element. -/
def dictField : Json → Option Json
  | .obj l => some (.obj l)
  | .null | .bool _ | .num _ | .str _ | .arr _ => none

/-- `StoryboardScene(**scene)`. Its id and the prompt of its picture are checked as well, but
`handle_result` puts its own in their place. -/
def StoryboardScene.ofJson (numerals : Numerals) : Json → Option StoryboardScene
  | .obj data => do
    let index ← (get? "index" data).bind (intField numerals)
    guard (1 ≤ index)
    let prompt ← (get? "prompt" data).bind (textField 1 (some 4000))
    let videoPrompt ← (get? "video_prompt" data).bind (textField 1 (some 4000))
    let voiceover ← defaulted (textField 0 (some 10000)) "" (get? "voiceover" data)
    let duration ← (get? "duration" data).bind (floatField numerals)
    guard (0 < duration ∧ duration ≤ 600)
    let _ ← defaulted (optional (textField 0 none)) none (get? "scene_id" data)
    let artifactId ← defaulted (optional (textField 0 none)) none (get? "artifact_id" data)
    let imagePrompt ← defaulted (optional (textField 0 none)) none (get? "image_prompt" data)
    let imagePromptHistory ← defaulted (listField 0 none dictField) [] (get? "image_prompt_history" data)
    let imageArtifactId ← defaulted (optional (textField 0 none)) none (get? "image_artifact_id" data)
    let imageVersion ← defaulted (optional (intField numerals)) none (get? "image_version" data)
    return {
      index, prompt, videoPrompt, voiceover, duration, artifactId, imagePrompt, imagePromptHistory,
      imageArtifactId, imageVersion }
  | .null | .bool _ | .num _ | .str _ | .arr _ => none

/-- The pattern of `image_status`. -/
def imageStatusField : Json → Option ImageStatus
  | .str "pending" => some .pending
  | .str "generating" => some .generating
  | .str "ready" => some .ready
  | .str "approved" => some .approved
  | .str "superseded" => some .superseded
  | _ => none

/-- The scenes of `handle_result`: their ids, and the picture that each asks for. -/
def StoryboardScene.numbered (scene : StoryboardScene) (version : ℕ) (imageVersion : ℤ) : StoryboardScene :=
  { scene with
    sceneId := some (version, scene.index)
    imagePrompt := some scene.prompt
    imageVersion := some imageVersion }

/-- The fields that have to be there, and `StoryboardVersion(...)`. -/
def StoryboardVersion.ofJson (numerals : Numerals) (data : Members) (scenes : List StoryboardScene) :
    Option StoryboardVersion := do
  let version ← (get? "version" data).bind (intField numerals)
  guard (1 ≤ version)
  let title ← (get? "title" data).bind (textField 1 (some 300))
  let description ← (get? "description" data).bind (textField 0 (some 5000))
  let hashtags ← (get? "hashtags" data).bind (listField 0 (some 100) (textField 0 none))
  guard (1 ≤ scenes.length ∧ scenes.length ≤ 200)
  let promptVersion ← (get? "prompt_version" data).bind (textField 0 none)
  let model ← (get? "model" data).bind (textField 0 none)
  let revisionRequest ← defaulted (optional (textField 0 (some 4000))) none (get? "revision_request" data)
  let imageVersion ← defaulted (intField numerals) 1 (get? "image_version" data)
  let imageStatus ← defaulted imageStatusField .pending (get? "image_status" data)
  return {
    version := version.toNat
    title, description, hashtags
    scenes := scenes.map (·.numbered version.toNat imageVersion)
    promptVersion, model
    status := .pendingApproval
    revisionRequest, imageVersion, imageStatus }

lemma intField_of_equals {numerals : Numerals} {n : ℕ} {j : Json} (h : equals n (some j) = true) :
    intField numerals j = some (n : ℤ) := by
  cases j with
  | num x =>
    have same : x = n := of_decide_eq_true h
    subst same
    simp [intField]
  | bool b =>
    have same : b.toNat = n := of_decide_eq_true h
    subst same
    rfl
  | null | str s | arr l | obj l => cases h

/-- What a payload makes of a storyboard that had to be version `n`. -/
lemma StoryboardVersion.ofJson_cases {numerals : Numerals} {data : Members} {scenes : List StoryboardScene}
    {sb : StoryboardVersion} {n : ℕ} (same : equals n (get? "version" data) = true)
    (made : ofJson numerals data scenes = some sb) :
    sb.version = n ∧ sb.status = .pendingApproval ∧ sb.scenes = scenes.map (·.numbered n sb.imageVersion) := by
  cases reported : get? "version" data with
  | none =>
    rw [reported] at same
    cases same
  | some j =>
    rw [reported] at same
    simp only [ofJson, reported, Option.bind_some, intField_of_equals same, Option.bind_eq_bind, Int.toNat_natCast,
      Option.bind_eq_some_iff, Option.pure_def, Option.some.injEq] at made
    obtain ⟨_, _, _, _, _, _, _, _, _, _, _, _, _, _, _, _, _, _, _, _, rfl⟩ := made
    exact ⟨rfl, rfl, rfl⟩

end Vertep.Storyboard
