import Mathlib.Data.List.Count
import Vertep.Gpu.Router
import Vertep.Lib.Reach

/-!
# Reservations (`core/gpu/router.py`)

Any number of calls of `execute` and `cancel` run together, for any tasks, operations and providers. A submission gets a
number when it is admitted. What is kept beside the router, for the statements only: what each number submitted, which
of them holds the reservation of its task, which are cancelled, and which have an uncertain outcome.
-/

namespace Vertep.Gpu
open Lib

/-- What was known when a submission was admitted. -/
structure Admission where
  used : ℤ
  reserved : ℤ
  required : ℤ
  total : ℤ
deriving DecidableEq

/-- The router beside the runtime it reserves. -/
structure World where
  router : Router := {}
  /-- What was submitted. -/
  submissions : Dict ℕ Submission := ∅
  /-- The calls of `submit_inference` that have not returned. -/
  inFlight : List ℕ := []
  /-- Which submission made the reservation of a task. -/
  holders : Dict String ℕ := ∅
  /-- `cancel` has returned `True` for the submission. -/
  cancelled : List ℕ := []
  /-- Neither returned as complete, nor failed with cleanup, nor cancelled. -/
  uncertain : List ℕ := []
  admissions : List Admission := []
  /-- Cancelled submissions whose return was handed out, or released a reservation. -/
  stray : List ℕ := []

inductive Act where
  /-- A call of `execute` up to its submission. -/
  | execute (capability : String) (task : Task) (ready : Readiness)
  /-- `submit_inference` returns or raises. -/
  | returned (n : ℕ) (outcome : Except String Result)
  | cancel (taskId : String) (reply : Option Cancellation)

/-- What is admitted with what the provider has answered. -/
def Readiness.admission (ready : Readiness) (reserved required : ℤ) : Admission where
  used := (ready.usage.toOption.bind Usage.vramUsedMb).getD 0
  reserved := reserved
  required := required
  total := (ready.usage.toOption.bind Usage.vramTotalMb).getD 0

/-- A submission is admitted under the number `n`. -/
def World.submit (w : World) (n : ℕ) (submission : Submission) (ready : Readiness) (router : Router) : World :=
  { w with
    router := router
    submissions := w.submissions.set n submission
    inFlight := n :: w.inFlight
    holders := w.holders.set submission.task.taskId n
    uncertain := n :: w.uncertain
    admissions := ready.admission (w.router.reservedOn submission.name) submission.required :: w.admissions }

/-- The return of a submission that was cancelled was handed out, or released something. -/
def World.Strays (w : World) (n : ℕ) (submission : Submission) (outcome : Except String Result) : Prop :=
  n ∈ w.cancelled ∧
    ((w.router.settle submission outcome).1.isOk = true ∨
      (w.router.settle submission outcome).2.active ≠ w.router.active)

instance (w : World) (n : ℕ) (submission : Submission) (outcome : Except String Result) :
    Decidable (w.Strays n submission outcome) := inferInstanceAs (Decidable (_ ∧ _))

/-- The outcome is that the submission is over. -/
def Over : Except String Result → Prop
  | .ok result => result.Complete ∨ result.Failed
  | .error _ => False

instance (outcome : Except String Result) : Decidable (Over outcome) := by
  cases outcome <;> unfold Over <;> infer_instance

/-- Which submission holds a task after a return: none, if its reservation was released. -/
def World.holdersAfter (w : World) (taskId : String) (router : Router) : Dict String ℕ :=
  if router.active.contains taskId then w.holders else w.holders.pop taskId

/-- The submission `n` returns. -/
def World.return (w : World) (n : ℕ) (submission : Submission) (outcome : Except String Result) : World :=
  { w with
    router := (w.router.settle submission outcome).2
    inFlight := w.inFlight.erase n
    holders := w.holdersAfter submission.task.taskId (w.router.settle submission outcome).2
    uncertain := if Over outcome then w.uncertain.filter (· ≠ n) else w.uncertain
    stray := if w.Strays n submission outcome then n :: w.stray else w.stray }

/-- A task is cancelled: the submission that holds it is over. -/
def World.cancel (w : World) (taskId : String) (reply : Option Cancellation) : World :=
  if (w.router.cancel taskId reply).1 = some true then
    { w with
      router := (w.router.cancel taskId reply).2
      holders := w.holders.pop taskId
      cancelled := (w.holders.get? taskId).toList ++ w.cancelled
      uncertain := w.uncertain.filter fun n => w.holders.get? taskId ≠ some n }
  else { w with router := (w.router.cancel taskId reply).2 }

inductive Step (env : Env) : Act → World → World → Prop where
  | submits (w : World) (capability : String) (task : Task) (ready : Readiness) (n : ℕ) (submission : Submission)
    (router : Router) :
    w.submissions.get? n = none → w.router.accept env capability task ready = (.ok submission, router) →
    Step env (.execute capability task ready) w (w.submit n submission ready router)
  | refuses (w : World) (capability : String) (task : Task) (ready : Readiness) (message : String) (router : Router) :
    w.router.accept env capability task ready = (.error message, router) →
    Step env (.execute capability task ready) w { w with router := router }
  | returned (w : World) (n : ℕ) (submission : Submission) (outcome : Except String Result) :
    n ∈ w.inFlight → w.submissions.get? n = some submission →
    Step env (.returned n outcome) w (w.return n submission outcome)
  | cancel (w : World) (taskId : String) (reply : Option Cancellation) :
    Step env (.cancel taskId reply) w (w.cancel taskId reply)

def Init (w : World) : Prop := w = {}

def Runs (env : Env) : World → Prop := Reach Init fun w w' => ∃ act, Step env act w w'

/-! ## What is claimed, and when it holds -/

structure World.Reserved (env : Env) (w : World) : Prop where
  /-- No provider has more tasks than it may have. -/
  capacity : ∀ name provider, env.registry.providers.get? name = some provider →
    w.router.activeOn name ≤ provider.maxConcurrentTasks
  vram : ∀ admission ∈ w.admissions, admission.used + admission.reserved + admission.required ≤ admission.total
  /-- No operation has two submissions with an uncertain outcome. -/
  once : ∀ n ∈ w.uncertain, ∀ m ∈ w.uncertain, ∀ submission other, w.submissions.get? n = some submission →
    w.submissions.get? m = some other → submission.task.operationId = other.task.operationId → n = m
  /-- The return of a cancelled submission does nothing. -/
  rejected : w.stray = []

/-- No cancelled submission returns a result while its task is active on its provider again. -/
def Orderly (w : World) : Act → Prop
  | .returned n (.ok _) => n ∈ w.cancelled → ∀ submission, w.submissions.get? n = some submission →
    w.router.active.get? submission.task.taskId ≠ some submission.name
  | _ => True

def OrderlyRuns (env : Env) : World → Prop := Reach Init fun w w' => ∃ act, Orderly w act ∧ Step env act w w'

/-! ## The sections -/

variable {env : Env} {w w' : World} {router router' : Router} {submission : Submission} {n : ℕ} {taskId : String}

/-- The maps are the same. -/
structure Same (router router' : Router) : Prop where
  active : router'.active = router.active
  reservations : router'.reservations = router.reservations
  operations : router'.operations = router.operations
  operationIds : router'.operationIds = router.operationIds

lemma Same.refl (router : Router) : Same router router := ⟨rfl, rfl, rfl, rfl⟩

lemma same_fail (router : Router) (reasons : List String) : Same router (router.fail taskId reasons) := ⟨rfl, rfl, rfl, rfl⟩

/-- What is admitted: neither the task nor the operation is known, and the provider has a place and the VRAM. -/
structure Admits (env : Env) (router : Router) (ready : Readiness) (submission : Submission) : Prop where
  task : router.active.get? submission.task.taskId = none
  operation : router.operations.get? submission.task.operationId = none
  capacity : ∀ provider, env.registry.providers.get? submission.name = some provider →
    router.activeOn submission.name < provider.maxConcurrentTasks
  vram : (ready.admission (router.reservedOn submission.name) submission.required).used +
    router.reservedOn submission.name + submission.required ≤
      (ready.admission (router.reservedOn submission.name) submission.required).total

variable {name capability : String} {ready : Readiness}

lemma check_spec {task : Task} {provider : Provider} {required : ℤ}
    (passed : router.check task name provider ready = .ok required) :
    router.activeOn name < provider.maxConcurrentTasks ∧
      ∃ usage, ready.usage = .ok usage ∧ router.reservedOn name + required ≤ usage.free := by
  unfold Router.check at passed
  split at passed
  · cases passed
  · cases passed
  · split at passed
    · cases passed
    · next free =>
      split at passed
      · cases passed
      · cases passed
      · next usage required' answered _ =>
        split at passed
        · cases passed
        · next enough =>
          cases passed
          exact ⟨by omega, usage, answered, by omega⟩

lemma accept_spec {task : Task}
    (admitted : router.accept env capability task ready = (.ok submission, router')) :
    Admits env router ready submission ∧ router' = router.reserve submission := by
  unfold Router.accept at admitted
  split at admitted
  · cases admitted
  · next new =>
    rw [not_or] at new
    split at admitted
    · cases admitted
    · next name _ =>
      split at admitted
      · cases admitted
      · next provider there =>
        split at admitted
        · cases admitted
        · next required passed =>
          cases admitted
          obtain ⟨place, usage, answered, enough⟩ := check_spec passed
          refine ⟨⟨?_, ?_, fun other found => ?_, ?_⟩, rfl⟩
          · simpa [Dict.contains] using new.1
          · simpa [Dict.contains] using new.2
          · cases there.symm.trans found
            exact place
          · simp only [Readiness.admission, answered, Except.toOption, Option.bind_some]
            rw [Usage.free] at enough
            omega

lemma refuse_spec {task : Task} {message : String}
    (refused : router.accept env capability task ready = (.error message, router')) : Same router router' := by
  unfold Router.accept at refused
  split at refused
  · cases refused
    exact .refl router
  · split at refused
    · cases refused
      exact same_fail router _
    · split at refused
      · cases refused
        exact same_fail router _
      · split at refused
        · cases refused
          exact same_fail router _
        · cases refused

lemma settle_spec (router : Router) (submission : Submission) (outcome : Except String Result) :
    Same router (router.settle submission outcome).2 ∧
        (Over outcome → router.active.get? submission.task.taskId ≠ some submission.name) ∨
      (router.active.get? submission.task.taskId = some submission.name ∧ Over outcome ∧
        Same (router.release submission.task.taskId) (router.settle submission outcome).2) := by
  cases outcome with
  | error exception => exact .inl ⟨same_fail router _, False.elim⟩
  | ok result =>
    simp only [Router.settle]
    split
    · next other => exact .inl ⟨.refl router, fun _ => other⟩
    · next same =>
      rw [not_not] at same
      split
      · next complete => exact .inr ⟨same, .inl complete, .refl _⟩
      · next incomplete =>
        split
        · next failed => exact .inr ⟨same, .inr failed, same_fail _ _⟩
        · next open_ => exact .inl ⟨.refl router, fun gone => (gone.elim incomplete open_).elim⟩

lemma settle_rejected {result : Result} (other : router.active.get? submission.task.taskId ≠ some submission.name) :
    router.settle submission (.ok result) = (.error "Cancelled inference result rejected", router) := if_pos other

lemma cancel_spec {reply : Option Cancellation} (done : (router.cancel taskId reply).1 = some true) :
    router.active.get? taskId ≠ none ∧ (router.cancel taskId reply).2 = router.release taskId := by
  cases reply with
  | none =>
    simp only [Router.cancel] at done
    split at done <;> cases done
  | some reply =>
    simp only [Router.cancel] at done ⊢
    split
    · next confirmed =>
      refine ⟨fun missing => ?_, rfl⟩
      simp [Dict.contains, missing] at confirmed
    · next unconfirmed =>
      rw [if_neg unconfirmed] at done
      cases done

lemma cancel_same {reply : Option Cancellation} (open_ : (router.cancel taskId reply).1 ≠ some true) :
    (router.cancel taskId reply).2 = router := by
  cases reply with
  | none => rfl
  | some reply =>
    simp only [Router.cancel] at open_ ⊢
    split
    · next confirmed =>
      rw [if_pos confirmed] at open_
      exact absurd rfl open_
    · rfl

/-! ## Counts -/

lemma count_set (d : Dict String String) {key : String} (new : d.get? key = none) (other : String) :
    (d.set key name).values.count other = d.values.count other + if name = other then 1 else 0 := by
  have entries := Dict.entries_set_of_not_mem (v := name) (Dict.get?_eq_none.1 new)
  simp only [Dict.values, entries, List.map_append, List.map_cons, List.map_nil, List.count_append, List.count_singleton,
    beq_iff_eq]

lemma count_pop (d : Dict String String) (key other : String) : (d.pop key).values.count other ≤ d.values.count other :=
  (List.filter_sublist.map Prod.snd).count_le other

lemma release_capacity {provider : Provider} (within : router.activeOn name ≤ provider.maxConcurrentTasks) :
    (router.release taskId).activeOn name ≤ provider.maxConcurrentTasks :=
  Nat.le_trans (count_pop router.active taskId name) within

/-! ## What holds in every orderly run -/

/-- The submission `n` holds its task: all four maps are its own. -/
structure Holds (router : Router) (submission : Submission) : Prop where
  active : router.active.get? submission.task.taskId = some submission.name
  operation : router.operationIds.get? submission.task.taskId = some submission.task.operationId

/-- The reservations of the router are those of the holders. -/
structure World.Sound (env : Env) (w : World) : Prop where
  holder : ∀ taskId n, w.holders.get? taskId = some n → n ∉ w.cancelled ∧
    ∃ submission, w.submissions.get? n = some submission ∧ submission.task.taskId = taskId ∧ Holds w.router submission
  active : ∀ taskId, w.router.active.get? taskId ≠ none → w.holders.get? taskId ≠ none
  /-- The two maps of the operations are inverse. -/
  operations : ∀ operation taskId, w.router.operations.get? operation = some taskId ↔
    w.router.operationIds.get? taskId = some operation
  owned : ∀ taskId operation, w.router.operationIds.get? taskId = some operation → w.router.active.get? taskId ≠ none
  uncertain : ∀ n ∈ w.uncertain, ∃ submission, w.submissions.get? n = some submission ∧
    w.holders.get? submission.task.taskId = some n
  flying : ∀ n ∈ w.inFlight, n ∈ w.cancelled ∨ n ∈ w.uncertain
  known : ∀ n ∈ w.inFlight, w.submissions.get? n ≠ none
  past : ∀ n ∈ w.cancelled, w.submissions.get? n ≠ none
  single : w.inFlight.Nodup
  capacity : ∀ name provider, env.registry.providers.get? name = some provider →
    w.router.activeOn name ≤ provider.maxConcurrentTasks
  vram : ∀ admission ∈ w.admissions, admission.used + admission.reserved + admission.required ≤ admission.total
  rejected : w.stray = []

lemma Holds.same {submission : Submission} (holds : Holds router submission) (same : Same router router') :
    Holds router' submission := ⟨same.active ▸ holds.active, same.operationIds ▸ holds.operation⟩

lemma World.Sound.same (sound : w.Sound env) (same : Same w.router router') : ({ w with router := router' } : World).Sound env := by
  obtain ⟨active, reservations, operations, operationIds⟩ := same
  refine { sound with holder := fun taskId n held => ?_, active := ?_, operations := ?_, owned := ?_, capacity := ?_ }
  · obtain ⟨live, submission, found, task, holds⟩ := sound.holder taskId n held
    exact ⟨live, submission, found, task, holds.same ⟨active, reservations, operations, operationIds⟩⟩
  · rw [active]
    exact sound.active
  · rw [operations, operationIds]
    exact sound.operations
  · rw [active, operationIds]
    exact sound.owned
  · simp only [Router.activeOn, active]
    exact sound.capacity

lemma World.Sound.operation_of_uncertain (sound : w.Sound env) (mem : n ∈ w.uncertain) {submission : Submission}
    (found : w.submissions.get? n = some submission) :
    w.router.operations.get? submission.task.operationId = some submission.task.taskId ∧
      w.holders.get? submission.task.taskId = some n := by
  obtain ⟨submission', found', held⟩ := sound.uncertain n mem
  cases found.symm.trans found'
  obtain ⟨_, submission', found', _, holds⟩ := sound.holder _ n held
  cases found.symm.trans found'
  exact ⟨(sound.operations _ _).2 holds.operation, held⟩

lemma World.Sound.reserved (sound : w.Sound env) : w.Reserved env := by
  refine ⟨sound.capacity, sound.vram, fun n here m there submission other found found' same => ?_, sound.rejected⟩
  obtain ⟨operation, held⟩ := sound.operation_of_uncertain here found
  obtain ⟨operation', held'⟩ := sound.operation_of_uncertain there found'
  -- the operation names the task, and the task its holder
  have task : submission.task.taskId = other.task.taskId := Option.some.inj (operation.symm.trans (same ▸ operation'))
  exact Option.some.inj (held.symm.trans (task ▸ held'))

/-! ### Submissions -/

lemma World.Sound.unheld (sound : w.Sound env) (free : w.router.active.get? taskId = none) :
    w.holders.get? taskId = none ∧ w.router.operationIds.get? taskId = none := by
  constructor
  · by_contra held
    obtain ⟨m, held⟩ := Option.ne_none_iff_exists'.1 held
    obtain ⟨_, other, _, task, holds⟩ := sound.holder _ m held
    cases (task ▸ holds.active).symm.trans free
  · by_contra owned
    obtain ⟨operation, owned⟩ := Option.ne_none_iff_exists'.1 owned
    exact sound.owned taskId operation owned free

lemma World.Sound.submit (sound : w.Sound env) (new : w.submissions.get? n = none)
    (admits : Admits env w.router ready submission) :
    (w.submit n submission ready (w.router.reserve submission)).Sound env := by
  obtain ⟨unheld, unowned⟩ := sound.unheld admits.task
  have fresh : n ∉ w.cancelled := fun mem => sound.past n mem new
  have others : ∀ m, w.submissions.get? m ≠ none → n ≠ m := by
    rintro m there rfl
    exact there new
  refine ⟨?_, ?_, ?_, ?_, ?_, ?_, ?_, ?_, ?_, ?_, ?_, sound.rejected⟩
  · intro taskId m held
    simp only [World.submit, Dict.get?_set] at held
    split at held
    · next own =>
      cases held
      refine ⟨fresh, submission, by simp [World.submit], own, ?_, ?_⟩ <;> simp [World.submit, Router.reserve]
    · next other =>
      obtain ⟨live, submission', found, task, holds⟩ := sound.holder taskId m held
      have ne : n ≠ m := others m (by simp [found])
      refine ⟨live, submission', by simpa [World.submit, ne] using found, task, ?_, ?_⟩
      · simpa [World.submit, Router.reserve, task, other] using holds.active
      · simpa [World.submit, Router.reserve, task, other] using holds.operation
  · intro taskId active
    simp only [World.submit, Router.reserve, Dict.get?_set] at active ⊢
    split
    · simp
    · next other =>
      rw [if_neg other] at active
      exact sound.active taskId active
  · intro operation taskId
    simp only [World.submit, Router.reserve, Dict.get?_set]
    by_cases own : submission.task.taskId = taskId <;> by_cases same : submission.task.operationId = operation
    · simp [own, same]
    · have none_ : w.router.operations.get? operation ≠ some taskId := by
        rw [ne_eq, sound.operations, ← own, unowned]
        simp
      simp [own, same, none_]
    · have none_ : w.router.operationIds.get? taskId ≠ some operation := by
        rw [ne_eq, ← sound.operations, ← same, admits.operation]
        simp
      simp [own, same, none_]
    · simp only [own, same, if_false]
      exact sound.operations operation taskId
  · intro taskId operation owned
    simp only [World.submit, Router.reserve, Dict.get?_set] at owned ⊢
    split
    · simp
    · next other =>
      rw [if_neg other] at owned
      exact sound.owned taskId operation owned
  · intro m mem
    obtain rfl | mem := List.mem_cons.1 mem
    · exact ⟨submission, by simp [World.submit], by simp [World.submit]⟩
    · obtain ⟨submission', found, held⟩ := sound.uncertain m mem
      have ne : n ≠ m := others m (by simp [found])
      have other : submission.task.taskId ≠ submission'.task.taskId := by
        intro same
        rw [← same, unheld] at held
        cases held
      exact ⟨submission', by simpa [World.submit, ne] using found, by simpa [World.submit, other] using held⟩
  · intro m mem
    obtain rfl | mem := List.mem_cons.1 mem
    · exact .inr List.mem_cons_self
    · exact (sound.flying m mem).imp_right (List.mem_cons_of_mem _)
  · intro m mem
    obtain rfl | mem := List.mem_cons.1 mem
    · simp [World.submit]
    · simpa [World.submit, others m (sound.known m mem)] using sound.known m mem
  · intro m mem
    simpa [World.submit, others m (sound.past m mem)] using sound.past m mem
  · exact List.nodup_cons.2 ⟨fun mem => sound.known n mem new, sound.single⟩
  · intro name provider there
    have before := sound.capacity name provider there
    simp only [Router.activeOn] at before ⊢
    rw [World.submit, Router.reserve, count_set _ admits.task]
    split
    · next own =>
      subst own
      exact admits.capacity provider there
    · exact before
  · intro admission mem
    obtain rfl | mem := List.mem_cons.1 mem
    · exact admits.vram
    · exact sound.vram admission mem

/-! ### Releases -/

lemma World.Sound.release (sound : w.Sound env) (held : w.holders.get? taskId = some n) {w' : World}
    (router : Same (w.router.release taskId) w'.router) (submissions : w'.submissions = w.submissions)
    (holders : w'.holders = w.holders.pop taskId) (uncertain : w'.uncertain = w.uncertain.filter (· ≠ n))
    (flying : ∀ m ∈ w'.inFlight, m ∈ w.inFlight ∧ (m = n → n ∈ w'.cancelled)) (single : w'.inFlight.Nodup)
    (past : ∀ m ∈ w.cancelled, m ∈ w'.cancelled) (cancelled : ∀ m ∈ w'.cancelled, m ∈ w.cancelled ∨ m = n)
    (admissions : w'.admissions = w.admissions) (stray : w'.stray = []) : w'.Sound env := by
  obtain ⟨_, submission, found, task, holds⟩ := sound.holder taskId n held
  subst task
  have operations : w'.router.operations = w.router.operations.pop submission.task.operationId := by
    rw [router.operations, Router.release, holds.operation]
  refine ⟨?_, ?_, ?_, ?_, ?_, ?_, ?_, ?_, single, ?_, admissions ▸ sound.vram, stray⟩
  · intro taskId m held'
    rw [holders, Dict.get?_pop] at held'
    split at held'
    · cases held'
    · next other =>
      obtain ⟨live, submission', found', task, holds'⟩ := sound.holder taskId m held'
      have ne : m ≠ n := by
        rintro rfl
        cases found.symm.trans found'
        exact other task
      refine ⟨fun mem => (cancelled m mem).elim live ne, submission', submissions ▸ found', task, ?_, ?_⟩
      · rw [router.active, Router.release, Dict.get?_pop, if_neg (task ▸ other)]
        exact holds'.active
      · rw [router.operationIds, Router.release, Dict.get?_pop, if_neg (task ▸ other)]
        exact holds'.operation
  · intro taskId active
    rw [router.active, Router.release, Dict.get?_pop] at active
    rw [holders, Dict.get?_pop]
    split
    · next own => simp [own] at active
    · next other =>
      rw [if_neg other] at active
      exact sound.active taskId active
  · intro operation taskId
    rw [operations, router.operationIds, Router.release, Dict.get?_pop, Dict.get?_pop]
    split
    · next same =>
      split
      · simp
      · next other =>
        rw [← sound.operations, ← same, (sound.operations _ _).2 holds.operation]
        simpa using other
    · next differs =>
      split
      · next own =>
        rw [sound.operations, ← own, holds.operation]
        simpa using differs
      · exact sound.operations operation taskId
  · intro taskId operation owned
    rw [router.operationIds, Router.release, Dict.get?_pop] at owned
    rw [router.active, Router.release, Dict.get?_pop]
    split
    · next own => simp [own] at owned
    · next other =>
      rw [if_neg other] at owned
      exact sound.owned taskId operation owned
  · intro m mem
    rw [uncertain, List.mem_filter] at mem
    obtain ⟨submission', found', held'⟩ := sound.uncertain m mem.1
    have ne : m ≠ n := by simpa using mem.2
    have other : submission.task.taskId ≠ submission'.task.taskId := by
      intro same
      exact ne (Option.some.inj (held'.symm.trans (same ▸ held)))
    exact ⟨submission', submissions ▸ found', by rw [holders, Dict.get?_pop, if_neg other, held']⟩
  · intro m mem
    obtain ⟨before, own⟩ := flying m mem
    by_cases same : m = n
    · exact .inl (same ▸ own same)
    · rw [uncertain, List.mem_filter]
      exact (sound.flying m before).imp (past m) fun there => ⟨there, by simpa using same⟩
  · intro m mem
    rw [submissions]
    exact sound.known m (flying m mem).1
  · intro m mem
    rw [submissions]
    obtain before | rfl := cancelled m mem
    · exact sound.past m before
    · simp [found]
  · intro name provider there
    have before : (w.router.release submission.task.taskId).activeOn name ≤ provider.maxConcurrentTasks :=
      release_capacity (sound.capacity name provider there)
    rwa [Router.activeOn, ← router.active] at before

/-! ### Steps -/

lemma World.Sound.cancel (sound : w.Sound env) (taskId : String) (reply : Option Cancellation) :
    (w.cancel taskId reply).Sound env := by
  unfold World.cancel
  split
  · next done =>
    obtain ⟨active, released⟩ := cancel_spec done
    obtain ⟨n, held⟩ := Option.ne_none_iff_exists'.1 (sound.active taskId active)
    refine sound.release held (released ▸ .refl _) rfl rfl ?_ ?_ sound.single ?_ ?_ rfl sound.rejected
    · simp [held, eq_comm]
    · exact fun m mem => ⟨mem, fun _ => by simp [held]⟩
    · exact fun m mem => by simp [mem]
    · exact fun m mem => by simpa [held, or_comm] using mem
  · next open_ =>
    rw [cancel_same open_]
    exact sound

variable {outcome : Except String Result}

lemma World.Sound.returned (sound : w.Sound env)
    (same : Same w.router (w.router.settle submission outcome).2)
    (holders : w.holdersAfter submission.task.taskId (w.router.settle submission outcome).2 = w.holders)
    (open_ : Over outcome → n ∉ w.uncertain) (quiet : ¬ w.Strays n submission outcome) :
    (w.return n submission outcome).Sound env := by
  have certain : (if Over outcome then w.uncertain.filter (· ≠ n) else w.uncertain) = w.uncertain := by
    split
    · next gone =>
      refine List.filter_eq_self.2 fun m mem => ?_
      have ne : m ≠ n := fun eq => open_ gone (eq ▸ mem)
      simpa using ne
    · rfl
  have kept := sound.same same
  rw [World.return, holders, certain, if_neg quiet]
  exact ⟨kept.holder, kept.active, kept.operations, kept.owned, kept.uncertain,
    fun m mem => sound.flying m (List.mem_of_mem_erase mem), fun m mem => sound.known m (List.mem_of_mem_erase mem),
    kept.past, sound.single.erase n, kept.capacity, kept.vram, kept.rejected⟩

lemma World.Sound.live (sound : w.Sound env) (flying : n ∈ w.inFlight)
    (found : w.submissions.get? n = some submission) (live : n ∉ w.cancelled) :
    (w.return n submission outcome).Sound env := by
  have uncertain : n ∈ w.uncertain := (sound.flying n flying).resolve_left live
  have quiet : ¬ w.Strays n submission outcome := fun strays => live strays.1
  obtain ⟨_, held⟩ := sound.operation_of_uncertain uncertain found
  obtain ⟨same, other⟩ | ⟨_, gone, released⟩ := settle_spec w.router submission outcome
  · obtain ⟨_, submission', found', _, holds⟩ := sound.holder _ n held
    cases found.symm.trans found'
    refine sound.returned same ?_ (fun gone => (other gone holds.active).elim) quiet
    rw [World.holdersAfter, same.active, if_pos (by simp [Dict.contains, holds.active])]
  · have holders : w.holdersAfter submission.task.taskId (w.router.settle submission outcome).2 =
        w.holders.pop submission.task.taskId := by
      rw [World.holdersAfter, released.active, Router.release, if_neg (by simp [Dict.contains])]
    refine sound.release held released rfl holders (by simp [World.return, gone]) ?_ (sound.single.erase n) ?_ ?_ rfl ?_
    · intro m mem
      have mem' : m ∈ w.inFlight.erase n := mem
      rw [sound.single.mem_erase_iff] at mem'
      exact ⟨mem'.2, fun same => absurd same mem'.1⟩
    · exact fun m mem => mem
    · exact fun m mem => .inl mem
    · rw [World.return, if_neg quiet]
      exact sound.rejected

lemma World.Sound.rejects (sound : w.Sound env)
    (found : w.submissions.get? n = some submission) (cancelled : n ∈ w.cancelled)
    (orderly : Orderly w (.returned n outcome)) : (w.return n submission outcome).Sound env := by
  have settled : Same w.router (w.router.settle submission outcome).2 ∧ (w.router.settle submission outcome).1.isOk = false := by
    cases outcome with
    | error exception => exact ⟨same_fail w.router _, rfl⟩
    | ok result =>
      rw [settle_rejected (orderly cancelled submission found)]
      exact ⟨.refl w.router, rfl⟩
  obtain ⟨same, raised⟩ := settled
  refine sound.returned same ?_ (fun _ mem => ?_) ?_
  · rw [World.holdersAfter, same.active]
    split
    · rfl
    · next inactive =>
      have free : w.router.active.get? submission.task.taskId = none := by simpa [Dict.contains] using inactive
      exact Dict.pop_of_not_mem (Dict.get?_eq_none.1 (sound.unheld free).1)
  · obtain ⟨_, _, held⟩ := sound.uncertain n mem
    exact (sound.holder _ n held).1 cancelled
  · rintro ⟨_, handed | changed⟩
    · rw [raised] at handed
      cases handed
    · exact changed same.active

lemma Step.sound {act : Act} (step : Step env act w w') (orderly : Orderly w act) (sound : w.Sound env) :
    w'.Sound env := by
  cases step with
  | submits _ capability task ready n submission router new admitted =>
    obtain ⟨admits, rfl⟩ := accept_spec admitted
    exact sound.submit new admits
  | refuses _ capability task ready message router refused => exact sound.same (refuse_spec refused)
  | cancel _ taskId reply => exact sound.cancel taskId reply
  | returned _ n submission outcome flying found =>
    by_cases cancelled : n ∈ w.cancelled
    · exact sound.rejects found cancelled orderly
    · exact sound.live flying found cancelled

lemma World.Sound.init (env : Env) : World.Sound env {} := by
  refine ⟨?_, ?_, ?_, ?_, ?_, ?_, ?_, ?_, List.nodup_nil, ?_, ?_, rfl⟩
  · exact fun taskId n held => by cases held
  · exact fun taskId active => (active rfl).elim
  · exact fun operation taskId => by simp
  · exact fun taskId operation owned => by cases owned
  · exact fun n mem => by cases mem
  · exact fun n mem => by cases mem
  · exact fun n mem => by cases mem
  · exact fun n mem => by cases mem
  · exact fun name provider _ => Nat.zero_le _
  · exact fun admission mem => by cases mem

/-- **Reservations hold** in every run in which no cancelled submission returns a result while its task is active on its
provider again. -/
theorem reservations_hold (env : Env) (w : World) (run : OrderlyRuns env w) : w.Reserved env := by
  have sound : w.Sound env := by
    refine Reach.invariant (I := World.Sound env) ?_ ?_ run
    · rintro w rfl
      exact .init env
    · rintro w w' sound ⟨act, orderly, step⟩
      exact step.sound orderly sound
  exact sound.reserved

/-! ### Runs of one task -/

/-- One provider, for one task at a time. -/
def anEnv : Env where
  registry := (({} : Registry).registerProvider "local" ⟨true, ["image_generation"], 4000, 1⟩ 0).2
  allowed := ["local"]

def idle : Readiness := { available := .ok true, usage := .ok { vramTotalMb := some 8000, vramUsedMb := some 0 } }

def portrait : Submission := { task := { taskId := "portrait" }, name := "local", required := 4000 }

lemma portrait_admitted (router : Router) (free : router.active.get? "portrait" = none)
    (unknown : router.operations.get? "portrait" = none) (alone : router.activeOn "local" = 0)
    (unreserved : router.reservedOn "local" = 0) :
    router.accept anEnv "image_generation" portrait.task idle = (.ok portrait, router.reserve portrait) := by
  have candidate : anEnv.candidate "image_generation" = some "local" := by
    have order : anEnv.registry.priorityOrder = ["local"] := List.mergeSort_singleton _
    rw [Env.candidate, order]
    decide
  have there : anEnv.registry.providers.get? "local" = some ⟨true, ["image_generation"], 4000, 1⟩ := by decide
  have passed : router.check portrait.task "local" ⟨true, ["image_generation"], 4000, 1⟩ idle = .ok 4000 := by
    simp [Router.check, idle, alone, unreserved, portrait, Task.required, Usage.free]
  have new : ¬ (router.active.contains portrait.task.taskId = true ∨
      router.operations.contains portrait.task.operationId = true) := by
    simp [Dict.contains, portrait, Task.operationId, free, unknown]
  simp only [Router.accept, if_neg new, candidate, there, passed]
  rfl

def submitted : World := ({} : World).submit 0 portrait idle (({} : Router).reserve portrait)

def cancelledOnce : World := submitted.cancel "portrait" (some ⟨true, true⟩)

def resubmitted : World := cancelledOnce.submit 1 portrait idle (cancelledOnce.router.reserve portrait)

lemma submitted_step : Step anEnv (.execute "image_generation" portrait.task idle) {} submitted :=
  .submits {} _ _ _ 0 portrait _ rfl (portrait_admitted {} rfl rfl rfl rfl)

lemma cancelledOnce_step : Step anEnv (.cancel "portrait" (some ⟨true, true⟩)) submitted cancelledOnce :=
  .cancel submitted "portrait" (some ⟨true, true⟩)

/-- The return of a submission that was cancelled, and not repeated, does nothing. -/
theorem reservations_hold_cancelled :
    (cancelledOnce.return 0 portrait (.ok { status := some "complete" })).Reserved anEnv := by
  have first : OrderlyRuns anEnv submitted := .step (.init rfl) ⟨.execute _ _ _, trivial, submitted_step⟩
  have second : OrderlyRuns anEnv cancelledOnce := .step first ⟨.cancel _ _, trivial, cancelledOnce_step⟩
  refine reservations_hold anEnv _ (.step second ⟨_, ?_, .returned cancelledOnce 0 portrait _ (by decide) (by decide)⟩)
  intro _ submission found
  cases (show cancelledOnce.submissions.get? 0 = some portrait by decide).symm.trans found
  decide

/-- The portrait is cancelled and submitted again before its first submission returns: that return is handed out and
releases the reservation of the second one, so that the operation is submitted a third time while the second submission
runs. -/
theorem late_return_releases :
    ∃ w, Runs anEnv w ∧ w.stray = [0] ∧ w.uncertain = [2, 1] ∧ w.router.activeOn "local" = 1 ∧ ¬ w.Reserved anEnv := by
  let returned := resubmitted.return 0 portrait (.ok { status := some "complete" })
  have first : Runs anEnv submitted := .step (.init rfl) ⟨_, submitted_step⟩
  have second : Runs anEnv cancelledOnce := .step first ⟨_, cancelledOnce_step⟩
  have third : Runs anEnv resubmitted :=
    .step second ⟨_, .submits cancelledOnce _ _ _ 1 portrait _ (by decide)
      (portrait_admitted cancelledOnce.router (by decide) (by decide) (by decide) (by decide))⟩
  have fourth : Runs anEnv returned :=
    .step third ⟨_, .returned resubmitted 0 portrait _ (by decide) (by decide)⟩
  have fifth : Runs anEnv (returned.submit 2 portrait idle (returned.router.reserve portrait)) :=
    .step fourth ⟨_, .submits returned _ _ _ 2 portrait _ (by decide)
      (portrait_admitted returned.router (by decide) (by decide) (by decide) (by decide))⟩
  refine ⟨_, fifth, by decide, by decide, by decide, fun reserved => ?_⟩
  have rejected : returned.stray = [] := reserved.rejected
  exact absurd rejected (by decide)

end Vertep.Gpu
