import Vertep.MoneyPrinter.Runtime

/-!
# What a handler does (`services/moneyprinter_service.py`)

Each call of a handler of a key makes one `Move`; what the handlers keep is read off the moves.
-/

namespace Vertep.MoneyPrinter
open Lib Relation

/-! ## Staging -/

/-- The file of the voice of a task is the one that the marker names, and the resolver takes it. -/
def Voiced (env : Env) (v : Voices) (taskId marker : String) : Prop :=
  ∃ suffix payload, markerSuffix marker = .ok suffix ∧ v.get? (taskId, voiceFile suffix) = some payload ∧
    env.sha256 payload = markerDigest marker suffix ∧ env.accepts taskId (voiceFile suffix) = true

/-- Only the voice of the task was placed, and it is the one that the marker names. -/
def Places (env : Env) (taskId marker : String) (v v' : Voices) : Prop :=
  ∀ file, v'.get? file = v.get? file ∨
    ∃ suffix payload, file = (taskId, voiceFile suffix) ∧ markerSuffix marker = .ok suffix ∧
      env.sha256 payload = markerDigest marker suffix ∧ v'.get? file = some payload

variable {taskId marker key : String}

lemma Places.refl {env : Env} (v : Voices) : Places env taskId marker v v := fun _ => .inl rfl

lemma Places.trans {env : Env} {v₁ v₂ v₃ : Voices} (first : Places env taskId marker v₁ v₂)
    (next : Places env taskId marker v₂ v₃) : Places env taskId marker v₁ v₃ := by
  intro file
  obtain same | ⟨suffix, payload, named, suffixed, digest, found⟩ := next file
  · exact same ▸ first file
  · exact .inr ⟨suffix, payload, named, suffixed, digest, found⟩

lemma Places.of_steps {env : Env} {v v' : Voices}
    (steps : ReflTransGen (Places env taskId marker) v v') : Places env taskId marker v v' := by
  induction steps with
  | refl => exact .refl v
  | tail _ last ih => exact ih.trans last

variable {env : Env}

lemma verifiedStagedVoice_sure (env : Env) (marker : String) (v : Voices) :
    (verifiedStagedVoice env marker).Sure (voiceMachine env) Eq Eq
      (fun payload _ v' => v' = v ∧ ∃ suffix, markerSuffix marker = .ok suffix ∧
        env.sha256 payload = markerDigest marker suffix)
      (fun _ _ v' => v' = v) () v := by
  unfold verifiedStagedVoice
  cases suffixed : markerSuffix marker with
  | error failure => simp [Script.require]
  | ok suffix =>
    simp only [Script.require, Script.sure_bind, Script.sure_pure, Script.sure_ask, forall_eq', voiceMachine]
    refine ⟨fun _ torn => torn.elim, fun reply v' ran => ?_⟩
    cases ran with
    | notRead => simp
    | read _ _ _ payload =>
      cases payload with
      | none => simp
      | some payload =>
        by_cases digest : env.sha256 payload = markerDigest marker suffix <;> simp [digest]

lemma stageTaskVoice_sure (env : Env) (taskId marker : String) (v : Voices) :
    (stageTaskVoice env taskId marker).Sure (voiceMachine env) Eq (Places env taskId marker)
      (fun _ _ v' => Voiced env v' taskId marker) (fun _ _ _ => True) () v := by
  unfold stageTaskVoice
  rw [Script.sure_bind]
  refine (verifiedStagedVoice_sure env marker v).mono ?_ ?_ (by simp)
  · rintro v v' rfl
    exact .refl v
  rintro payload _ v' ⟨-, suffix, suffixed, digest⟩
  simp only [suffixed, Script.require, Script.sure_bind, Script.sure_pure, Script.sure_ask, forall_eq', voiceMachine]
  refine ⟨fun _ torn => torn.elim, fun reply v₁ ran => ?_⟩
  cases ran with
  | notPlaced => simpa using Places.refl v'
  | placed =>
    have here : (v'.set (taskId, voiceFile suffix) payload).get? (taskId, voiceFile suffix) = some payload := by simp
    refine ⟨fun file => ?_, ?_⟩
    · by_cases same : (taskId, voiceFile suffix) = file
      · exact .inr ⟨suffix, payload, same.symm, suffixed, digest, same ▸ here⟩
      · simp [same]
    · simp only [Script.sure_pure, forall_eq']
      refine ⟨fun _ torn => torn.elim, fun reply v₂ ran => ?_⟩
      cases ran with
      | notResolved => simpa using Places.refl _
      | resolved =>
        refine ⟨.refl _, ?_⟩
        cases accepted : env.accepts taskId (voiceFile suffix) with
        | false => simp
        | true => simpa using ⟨suffix, payload, suffixed, here, digest, accepted⟩

/-! ## Moves -/

def World.Unposted (w : World) (key : String) : Prop := ∀ refused, .posted key refused ∈ w.log → refused = true

def Request.Marks (request : Request) (marker : String) : Prop :=
  ∃ payload, request = .object payload ∧ marker = strip payload.customAudioFile

/-- What a call of a handler of a key does, for a request. -/
inductive Move (env : Env) (key : String) (request : Request) : World → World → Prop where
  | same (w : World) : Move env key request w w
  | reserve (w : World) (marker : String) :
    SubmitKey key → request.Marks marker → w.records.get? key = none →
    Move env key request w { w with records := w.records.set key ⟨none, some marker, .submitting⟩ }
  | post (w w' : World) (made : Option String) (refused : Bool) :
    (SubmitKey key → w.Unposted key ∧ ∃ marker, w.records.get? key = some ⟨none, marker, .submitting⟩) →
    Creates key w made w' → (refused = true → made = none) → Move env key request w (w'.note (.posted key refused))
  | forget (w : World) (marker : Option String) :
    SubmitKey key → w.records.get? key = some ⟨none, marker, .submitting⟩ → w.Unposted key →
    Move env key request w { w with records := w.records.pop key }
  | submitted (w : World) (taskId marker : String) :
    SubmitKey key → w.records.get? key = some ⟨none, some marker, .submitting⟩ → ⟨taskId, key⟩ ∈ w.tasks → taskId ≠ "" →
    Move env key request w { w with records := w.records.set key ⟨some taskId, some marker, .submitted⟩ }
  | stage (w : World) (taskId marker : String) (voices : Voices) (failed : Bool) :
    ⟨taskId, key⟩ ∈ w.tasks → (SubmitKey key → w.records.get? key = some ⟨some taskId, some marker, .submitted⟩) →
    Places env taskId marker w.voices voices →
    Move env key request w { w with voices := voices, log := if failed then .failed key :: w.log else w.log }
  | staged (w : World) (taskId marker : String) :
    SubmitKey key → w.records.get? key = some ⟨some taskId, some marker, .submitted⟩ → Voiced env w.voices taskId marker →
    Move env key request w { w with records := w.records.set key ⟨some taskId, some marker, .staged⟩ }
  | refuse (w : World) (taskId marker : String) :
    SubmitKey key → w.records.get? key = some ⟨some taskId, some marker, .submitted⟩ →
    Move env key request w { w with records := w.records.set key ⟨none, some marker, .refused⟩ }
  | stops (w : World) (taskId : String) : Move env key request w (w.stops taskId)
  | aborts (w : World) (taskId : String) :
    (∃ t ∈ w.tasks, t.id = taskId) → Move env key request w ((w.stops taskId).note (.aborted taskId))

/-- What holds of every world, of each submit key. -/
structure Sound (w : World) : Prop where
  ids : ∀ t ∈ w.tasks, ∀ t' ∈ w.tasks, t.id = t'.id → t = t'
  once : ∀ key, SubmitKey key → ∀ later earlier refused, w.log = later ++ .posted key refused :: earlier →
    ∀ r, .posted key r ∈ earlier → r = true
  single : ∀ t ∈ w.tasks, ∀ t' ∈ w.tasks, SubmitKey t.key → t.key = t'.key → t = t'
  unmade : ∀ key, SubmitKey key → w.Unposted key → ∀ t ∈ w.tasks, t.key ≠ key
  unused : ∀ key, SubmitKey key → w.records.get? key = none → w.Unposted key
  named : ∀ key record, SubmitKey key → w.records.get? key = some record →
    (record.taskId = none ∧ (record.state = .submitting ∨ record.state = .refused)) ∨
    ∃ taskId, record.taskId = some taskId ∧ taskId ≠ "" ∧ ⟨taskId, key⟩ ∈ w.tasks ∧
      (record.state = .submitted ∨ record.state = .staged)

/-- An event that is not a submit. -/
def Event.Other : Event → Prop
  | .posted _ _ => False
  | _ => True

lemma World.unposted_note (w : World) (key : String) {event : Event} (other : event.Other) :
    (w.note event).Unposted key ↔ w.Unposted key := by
  refine forall_congr' fun refused => ?_
  have mem : Event.posted key refused ∈ (w.note event).log ↔ Event.posted key refused ∈ w.log := by
    refine List.mem_cons.trans (or_iff_right ?_)
    rintro rfl
    exact other
  rw [mem]

variable {w : World}

lemma Sound.note (sound : Sound w) {event : Event} (other : event.Other) : Sound (w.note event) := by
  refine { sound with
    once := fun key valid later earlier refused split r mem => ?_
    unmade := fun key valid unposted => sound.unmade key valid ((w.unposted_note key other).1 unposted)
    unused := fun key valid absent => (w.unposted_note key other).2 (sound.unused key valid absent) }
  · cases later with
    | nil =>
      obtain rfl := (List.cons.inj split).1
      exact other.elim
    | cons e later => exact sound.once key valid later earlier refused (List.cons.inj split).2 r mem

lemma Sound.aside (sound : Sound w) (running : List String) (voices : Voices) :
    Sound { w with running := running, voices := voices } :=
  ⟨sound.ids, sound.once, sound.single, sound.unmade, sound.unused, sound.named⟩

lemma Sound.write (sound : Sound w) {record : SubmitRecord}
    (named : (record.taskId = none ∧ (record.state = .submitting ∨ record.state = .refused)) ∨
      ∃ taskId, record.taskId = some taskId ∧ taskId ≠ "" ∧ ⟨taskId, key⟩ ∈ w.tasks ∧
        (record.state = .submitted ∨ record.state = .staged)) :
    Sound { w with records := w.records.set key record } := by
  refine { sound with unused := fun key' valid absent => ?_, named := fun key' record' valid found => ?_ }
  · rw [Dict.get?_set] at absent
    split at absent
    · cases absent
    · exact sound.unused key' valid absent
  · rw [Dict.get?_set] at found
    split at found
    · next same =>
      cases found
      exact same ▸ named
    · exact sound.named key' record' valid found

lemma Sound.release (sound : Sound w) (unposted : w.Unposted key) :
    Sound { w with records := w.records.pop key } := by
  refine { sound with unused := fun key' valid absent => ?_, named := fun key' record valid found => ?_ }
  · rw [Dict.get?_pop] at absent
    split at absent
    · next same => exact same ▸ unposted
    · exact sound.unused key' valid absent
  · rw [Dict.get?_pop] at found
    split at found
    · cases found
    · exact sound.named key' record valid found

lemma Sound.posted (sound : Sound w) {refused : Bool}
    (free : SubmitKey key → w.Unposted key ∧ ∃ marker, w.records.get? key = some ⟨none, marker, .submitting⟩) :
    Sound (w.note (.posted key refused)) := by
  have before : ∀ key', (w.note (.posted key refused)).Unposted key' → w.Unposted key' := fun key' unposted r mem =>
    unposted r (List.mem_cons_of_mem _ mem)
  refine ⟨sound.ids, ?_, sound.single, fun key' valid unposted => sound.unmade key' valid (before key' unposted), ?_, sound.named⟩
  · intro key' valid later earlier r split r' mem
    cases later with
    | nil =>
      obtain ⟨head, rfl⟩ := List.cons.inj split
      cases head
      exact (free valid).1 r' mem
    | cons e later => exact sound.once key' valid later earlier r (List.cons.inj split).2 r' mem
  · intro key' valid absent r mem
    obtain head | mem := List.mem_cons.1 mem
    · cases head
      obtain ⟨-, marker, found⟩ := free valid
      exact absurd (found.symm.trans absent) (by simp)
    · exact sound.unused key' valid absent r mem

lemma Sound.task (sound : Sound w) {id : String} (fresh : ∀ t ∈ w.tasks, t.id ≠ id)
    (unmade : SubmitKey key → ∀ t ∈ w.tasks, t.key ≠ key) (posted : SubmitKey key → ¬ w.Unposted key) (running : List String) :
    Sound { w with tasks := ⟨id, key⟩ :: w.tasks, running := running } where
  ids t mem t' mem' same := by
    obtain rfl | mem := List.mem_cons.1 mem <;> obtain rfl | mem' := List.mem_cons.1 mem'
    · rfl
    · exact absurd same.symm (fresh t' mem')
    · exact absurd same (fresh t mem)
    · exact sound.ids t mem t' mem' same
  once := sound.once
  single t mem t' mem' valid same := by
    obtain rfl | mem := List.mem_cons.1 mem <;> obtain rfl | mem' := List.mem_cons.1 mem'
    · rfl
    · exact absurd same.symm (unmade valid t' mem')
    · exact absurd same (unmade ((show t.key = key from same) ▸ valid) t mem)
    · exact sound.single t mem t' mem' valid same
  unmade key' valid unposted t mem := by
    obtain rfl | mem := List.mem_cons.1 mem
    · rintro rfl
      exact posted valid unposted
    · exact sound.unmade key' valid unposted t mem
  unused := sound.unused
  named key' record valid found := by
    obtain anonymous | ⟨taskId, named, filled, made, state⟩ := sound.named key' record valid found
    · exact .inl anonymous
    · exact .inr ⟨taskId, named, filled, List.mem_cons_of_mem _ made, state⟩

lemma Move.sound {request : Request} {w' : World} (move : Move env key request w w') (sound : Sound w) : Sound w' := by
  cases move with
  | same => exact sound
  | reserve marker valid marks absent => exact sound.write (.inl ⟨rfl, .inl rfl⟩)
  | post w₁ made refused free creates unmade =>
    cases creates with
    | nothing => exact sound.posted free
    | task id fresh =>
      have answered : refused ≠ true := fun yes => by cases unmade yes
      refine Sound.task (sound.posted free) fresh (fun valid => sound.unmade key valid (free valid).1) ?_ _
      exact fun _ unposted => answered (unposted refused List.mem_cons_self)
  | forget marker valid found unposted => exact sound.release unposted
  | submitted taskId marker valid found made filled =>
    exact sound.write (.inr ⟨taskId, rfl, filled, made, .inl rfl⟩)
  | stage taskId marker voices failed made found places =>
    cases failed with
    | false => exact sound.aside w.running voices
    | true => exact Sound.note (sound.aside w.running voices) trivial
  | staged taskId marker valid found voiced =>
    obtain ⟨anonymous, _⟩ | ⟨taskId', named, filled, made, _⟩ := sound.named key _ valid found
    · cases anonymous
    · cases named
      exact sound.write (.inr ⟨taskId, rfl, filled, made, .inr rfl⟩)
  | refuse taskId marker valid found => exact sound.write (.inl ⟨rfl, .inr rfl⟩)
  | stops taskId => exact sound.aside _ w.voices
  | aborts taskId => exact Sound.note (sound.aside _ w.voices) trivial

end Vertep.MoneyPrinter
