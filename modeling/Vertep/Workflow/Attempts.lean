import Vertep.Workflow.Order

/-!
# Attempts, leases and the log (`core/workflow/engine.py`)

What the attempts in memory, the lease table and the log say of each other, for every reachable state. An
attempt in memory was submitted, under a lease that no other attempt has; when it ends, by a result that
is accepted or by a timeout, it leaves the memory, so that no lease ends both ways.
-/

namespace Vertep.Workflow
open Lib Queue

/-- The log entries that neither send an attempt nor end one. -/
def Event.Quiet : Event → Prop
  | .reported _ _ | .revoked _ | .decided _ _ _ => True
  | .submitted _ _ | .accepted _ _ | .timedOut _ => False

lemma Event.Passing.quiet {e : Event} (h : e.Passing) : e.Quiet := by
  cases e with
  | reported => trivial
  | revoked => trivial
  | submitted | accepted | timedOut => exact h
  | decided => exact h.elim

def Engine.Ends (s s' : Engine) (lease : LeaseId) : Prop :=
  ∃ key l, s.attempts.get? key = some l ∧ l.leaseId = lease ∧ s'.attempts.get? key = none

/-- A request for the next attempt of a waiting task. -/
def Engine.Awaits (s : Engine) (request : TaskRequest) : Prop :=
  ∃ j t, s.jobs.get? request.taskId.job = some j ∧ j.tasks.get? request.taskId.task = some t ∧
    t.status = .pending ∧ t.revision = request.taskId.revision

/-- What a move adds to the log. -/
structure News (s s' : Engine) (new : List Event) : Prop where
  log : s'.log = new ++ s.log
  submitted : ∀ request lease, .submitted request lease ∈ new → s.Awaits request ∧
    s.nextLease ≤ lease.leaseId ∧ lease.leaseId < s'.nextLease ∧
    ∀ request' lease', .submitted request' lease' ∈ new → request' = request ∧ lease' = lease
  accepted : ∀ l now, .accepted l now ∈ new → s.Ends s' l.leaseId ∧ ∀ lease, .timedOut lease ∉ new
  timedOut : ∀ lease, .timedOut lease ∈ new → s.Ends s' lease

/-- What a move does to leases, attempts and the log. -/
structure Turn (s s' : Engine) : Prop where
  book : LeaseBook s → LeaseBook s'
  next : s.nextLease ≤ s'.nextLease
  news : ∃ new, News s s' new
  attempts : ∀ key lease, s'.attempts.get? key = some lease → s.attempts.get? key = some lease ∨
    s.nextLease ≤ lease.leaseId ∧ ∃ request, .submitted request lease ∈ s'.log ∧
      request.taskId.job = key.1 ∧ request.taskId.task = key.2

variable {s s' : Engine}

lemma News.quiet {new : List Event} (log : s'.log = new ++ s.log)
    (quiet : ∀ e ∈ new, e.Quiet) : News s s' new where
  log := log
  submitted := fun _ _ member => (quiet _ member).elim
  accepted := fun _ _ member => (quiet _ member).elim
  timedOut := fun _ member => (quiet _ member).elim

lemma Turn.quiet (book : LeaseBook s → LeaseBook s') (next : s.nextLease ≤ s'.nextLease)
    (new : List Event) (log : s'.log = new ++ s.log) (quiet : ∀ e ∈ new, e.Quiet)
    (attempts : ∀ key lease, s'.attempts.get? key = some lease → s.attempts.get? key = some lease) :
    Turn s s' where
  book := book
  next := next
  news := ⟨new, News.quiet log quiet⟩
  attempts := fun key lease found => .inl (attempts key lease found)

lemma LeaseBook.of_fewer (h : LeaseBook s)
    (leases : ∀ d l, s'.lease? d = some l → s.lease? d = some l) (next : s.nextLease ≤ s'.nextLease)
    (futures : ∀ lease value, s'.futures.get? lease = some (.result value) →
      s.futures.get? lease = some (.result value))
    (new : List Event) (log : s'.log = new ++ s.log)
    (other : ∀ e ∈ new, (∀ lease, e ≠ .revoked lease) ∧ ∀ l now, e ≠ .accepted l now) : LeaseBook s' := by
  have gone {lease : LeaseId} (gone : s.Gone lease) : s'.Gone lease := fun d l found => gone d l (leases d l found)
  constructor
  · intro d l found
    obtain ⟨key, below⟩ := h.keyed d l (leases d l found)
    exact ⟨key, below.trans_le next⟩
  · intro d d' l l' found found'
    exact h.distinct d d' l l' (leases d l found) (leases d' l' found')
  · intro lease member
    rcases List.mem_append.1 (log ▸ member) with member | member
    · exact absurd rfl ((other _ member).1 lease)
    · obtain ⟨below, ended⟩ := h.revoked lease member
      exact ⟨below.trans_le next, gone ended⟩
  · intro l now member
    rcases List.mem_append.1 (log ▸ member) with member | member
    · exact absurd rfl ((other _ member).2 l now)
    · obtain ⟨below, ended, alive, kept⟩ := h.accepted l now member
      refine ⟨below.trans_le next, gone ended, alive, fun member => ?_⟩
      rcases List.mem_append.1 (log ▸ member) with member | member
      · exact (other _ member).1 _ rfl
      · exact kept member
  · intro lease value found
    rw [log]
    exact List.mem_append_right new (h.reported lease value (futures lease value found))

lemma LeaseBook.congr (h : LeaseBook s) (dispatcher : s'.dispatcher = s.dispatcher)
    (next : s'.nextLease = s.nextLease) (futures : s'.futures = s.futures) (log : s'.log = s.log) :
    LeaseBook s' := by
  refine h.of_fewer (fun d l found => ?_) next.ge (fun lease value found => futures ▸ found) [] log (by simp)
  rw [Engine.lease?, ← dispatcher]
  exact found

lemma LeaseBook.accept (h : LeaseBook s) {sent : DispatchId} {l : Lease} {now : ℚ}
    (held : s.lease? sent = some l) (alive : now < l.expiresAt)
    (leases : ∀ d, s'.lease? d = if sent = d then none else s.lease? d) (next : s'.nextLease = s.nextLease)
    (futures : s'.futures = s.futures) (log : s'.log = .accepted l now :: s.log) : LeaseBook s' := by
  have kept {d : DispatchId} {l' : Lease} (found : s'.lease? d = some l') : sent ≠ d ∧ s.lease? d = some l' := by
    rw [leases] at found
    split at found
    · cases found
    · exact ⟨‹_›, found⟩
  have gone {lease : LeaseId} (gone : s.Gone lease) : s'.Gone lease := fun d l found => gone d l (kept found).2
  constructor
  · intro d l' found
    rw [next]
    exact h.keyed d l' (kept found).2
  · intro d d' l' m found found'
    exact h.distinct d d' l' m (kept found).2 (kept found').2
  · intro lease member
    rw [log] at member
    rcases List.mem_cons.1 member with is | member
    · cases is
    · obtain ⟨below, ended⟩ := h.revoked lease member
      exact ⟨next ▸ below, gone ended⟩
  · intro l' now' member
    rw [log] at member
    rw [log, next]
    rcases List.mem_cons.1 member with is | member
    · cases is
      refine ⟨(h.keyed sent l held).2, ?_, alive, ?_⟩
      · intro d l' found same
        obtain ⟨other, found⟩ := kept found
        exact other (h.distinct sent d l l' held found same.symm)
      · intro member
        rcases List.mem_cons.1 member with is | member
        · cases is
        · exact (h.revoked l.leaseId member).2 sent l held rfl
    · obtain ⟨below, ended, alive, kept⟩ := h.accepted l' now' member
      refine ⟨below, gone ended, alive, fun member => ?_⟩
      rcases List.mem_cons.1 member with is | member
      · cases is
      · exact kept member
  · intro lease value found
    rw [log]
    exact List.mem_cons_of_mem _ (h.reported lease value (futures ▸ found))

lemma Aside.turn (h : Aside s s') : Turn s s' := by
  obtain ⟨new, log, passing⟩ := h.log
  refine Turn.quiet h.book h.nextLease new log (fun e member => (passing e member).quiet) ?_
  intro key lease found
  rwa [← h.attempts]

lemma turn_updateJob (s : Engine) (job : JobId) (f : WorkflowJob → WorkflowJob) : Turn s (s.updateJob job f) := by
  obtain ⟨jobs, eq, _⟩ := s.updateJob_eq job f
  rw [eq]
  exact Turn.quiet (fun h => h.congr rfl rfl rfl rfl) (le_refl _) [] rfl (by simp) fun _ _ found => found

lemma Move.turn {R : WorkflowJob → Prop} (m : Move R s s') : Turn s s' := by
  have popped {key key' : JobId × TaskId} {lease : Lease}
      (found : (s.attempts.pop key).get? key' = some lease) : s.attempts.get? key' = some lease := by
    rw [Dict.get?_pop] at found
    split at found
    · cases found
    · exact found
  cases m with
  | aside h => exact h.turn
  | drop job id =>
    exact Turn.quiet (fun h => h.congr rfl rfl rfl rfl) (le_refl _) [] rfl (by simp) fun _ _ => popped
  | @timeOut s₁ lease job id attempt h =>
    obtain ⟨new, log, passing⟩ := h.log
    constructor
    · intro book
      exact (h.book (book.congr rfl rfl rfl rfl)).of_fewer (fun _ _ found => found) (le_refl _)
        (fun _ _ found => found) [.timedOut lease.leaseId] rfl (by simp)
    · exact h.nextLease
    · refine ⟨.timedOut lease.leaseId :: new, congrArg _ log, ?_, ?_, ?_⟩
      · intro request l member
        rcases List.mem_cons.1 member with is | member
        · cases is
        · exact (passing _ member).elim
      · intro l now member
        rcases List.mem_cons.1 member with is | member
        · cases is
        · exact (passing _ member).elim
      · intro other member
        rcases List.mem_cons.1 member with is | member
        · cases is
          refine ⟨(job, id), lease, attempt, rfl, ?_⟩
          rw [show Dict.get? _ (job, id) = _ from congrArg (Dict.get? · (job, id)) h.attempts]
          simp
        · exact (passing _ member).elim
    · have attempts : s₁.attempts = s.attempts.pop (job, id) := h.attempts
      intro key l found
      exact .inl (popped (attempts ▸ found))
  | @complete _ lease sent l output now job id found running dispatched attempt told held same alive =>
    have turn {f : WorkflowJob → WorkflowJob} {s₁ : Engine} (attempts : s₁.attempts = s.attempts.pop (job, id))
        (leases : ∀ d, s₁.lease? d = if sent.dispatchId = d then none else s.lease? d)
        (next : s₁.nextLease = s.nextLease) (futures : s₁.futures = s.futures)
        (log : s₁.log = .accepted l now :: s.log) : Turn s (s₁.updateJob job f) := by
      obtain ⟨jobs, eq, _⟩ := s₁.updateJob_eq job f
      rw [eq]
      constructor
      · intro book
        exact book.accept held alive leases next futures log
      · exact next.ge
      · refine ⟨[.accepted l now], log, by simp, ?_, by simp⟩
        intro l' now' member
        cases List.mem_singleton.1 member
        refine ⟨⟨(job, id), lease, attempt, same.symm, ?_⟩, by simp⟩
        rw [show Dict.get? _ (job, id) = _ from congrArg (Dict.get? · (job, id)) attempts]
        simp
      · intro key l found
        exact .inl (popped (attempts ▸ found))
    exact turn rfl (fun d => Dict.get?_pop _ _ _) rfl rfl rfl
  | lapse job id | annotate job id | skip job id => exact turn_updateJob s job _
  | @send s₁ j task request lease f job id deadline here status listed pending ready named outputs sent is =>
    obtain ⟨jobs, eq, _⟩ := s₁.updateJob_eq job fun j => j.update id f
    obtain ⟨new, log, passing⟩ := sent.log
    rw [Engine.updateTask, eq]
    have awaits : s.Awaits request := by
      refine ⟨j, task, ?_, ?_, pending, ?_⟩
      · rw [named]
        exact here
      · rw [named]
        exact listed
      · rw [named]
    constructor
    · intro book
      exact (sent.book book).congr rfl rfl rfl rfl
    · exact sent.fresh.trans sent.next.le
    · refine ⟨.submitted request lease :: new, log, ?_, ?_, ?_⟩
      · intro request' lease' member
        rcases List.mem_cons.1 member with is | member
        · cases is
          refine ⟨awaits, sent.fresh, sent.next, fun request' lease' member => ?_⟩
          rcases List.mem_cons.1 member with is | member
          · cases is
            exact ⟨rfl, rfl⟩
          · exact (passing _ member).elim
        · exact (passing _ member).elim
      · intro l now member
        rcases List.mem_cons.1 member with is | member
        · cases is
        · exact (passing _ member).elim
      · intro l member
        rcases List.mem_cons.1 member with is | member
        · cases is
        · exact (passing _ member).elim
    · intro key l found
      rw [show Dict.get? _ key = _ from Dict.get?_set _ _ _ _] at found
      split at found
      · rename_i same
        subst same
        cases found
        refine .inr ⟨sent.fresh, request, ?_, by rw [named], by rw [named]⟩
        exact (congrArg (_ ∈ ·) log).mpr List.mem_cons_self
      · exact .inl (sent.attempts ▸ found)
  | stop job id | progress job | status job => exact turn_updateJob s job _
  | save job here =>
    exact Turn.quiet (fun h => h.congr rfl rfl rfl rfl) (le_refl _) [] rfl (by simp) fun _ _ found => found
  | decide job id approved here listed completed =>
    have turn {f : WorkflowJob → WorkflowJob} {s₁ : Engine} {e : Event} (eq : s₁ = { s with log := e :: s.log })
        (quiet : e.Quiet) (other : (∀ lease, e ≠ .revoked lease) ∧ ∀ l now, e ≠ .accepted l now) :
        Turn s (s₁.updateJob job f) := by
      obtain ⟨jobs, updated, _⟩ := s₁.updateJob_eq job f
      rw [updated, eq]
      refine Turn.quiet (fun h => ?_) (le_refl _) [e] rfl (by simpa using quiet) fun _ _ found => found
      exact h.of_fewer (fun _ _ found => found) (le_refl _) (fun _ _ found => found) [e] rfl (by simpa using other)
    exact turn rfl trivial (by simp)
  | @revise _ j affected job id inputs here paused closed revises =>
    obtain ⟨new, log, passing⟩ := revises.rest.log
    refine Turn.quiet (fun h => ?_) revises.rest.nextLease new log (fun e member => (passing e member).quiet) ?_
    · exact (revises.rest.book h).congr rfl rfl rfl rfl
    · intro key lease found
      rcases revises.attempts key with same | ⟨gone, _⟩
      · rwa [← same]
      · cases gone.symm.trans found
  | create valid =>
    exact Turn.quiet (fun h => h.congr rfl rfl rfl rfl) (le_refl _) [] rfl (by simp) fun _ _ found => found
  | restart lost =>
    refine Turn.quiet (fun h => ?_) (le_refl _) [] rfl (by simp) ?_
    · refine h.of_fewer ?_ (le_refl _) ?_ [] rfl (by simp)
      · intro d l found
        cases found
      · intro lease value found
        cases found
    · intro key lease found
      cases found

/-- What attempts, leases and log say of each other. -/
structure AttemptBook (s : Engine) : Prop where
  leases : LeaseBook s
  kept : ∀ key lease, s.attempts.get? key = some lease → ∃ request, .submitted request lease ∈ s.log ∧
    request.taskId.job = key.1 ∧ request.taskId.task = key.2
  below : ∀ request lease, .submitted request lease ∈ s.log → lease.leaseId < s.nextLease
  distinct : ∀ request lease request' lease', .submitted request lease ∈ s.log →
    .submitted request' lease' ∈ s.log → lease.leaseId = lease'.leaseId → request = request' ∧ lease = lease'
  accepted : ∀ l now, .accepted l now ∈ s.log → .timedOut l.leaseId ∉ s.log ∧
    ∀ key lease, s.attempts.get? key = some lease → lease.leaseId ≠ l.leaseId
  timedOut : ∀ id, .timedOut id ∈ s.log → id < s.nextLease ∧
    ∀ key lease, s.attempts.get? key = some lease → lease.leaseId ≠ id

lemma AttemptBook.key_eq (h : AttemptBook s) {key key' : JobId × TaskId} {lease lease' : Lease}
    (found : s.attempts.get? key = some lease) (found' : s.attempts.get? key' = some lease')
    (same : lease.leaseId = lease'.leaseId) : key = key' := by
  obtain ⟨request, member, job, task⟩ := h.kept key lease found
  obtain ⟨request', member', job', task'⟩ := h.kept key' lease' found'
  obtain ⟨rfl, _⟩ := h.distinct request lease request' lease' member member' same
  exact Prod.ext (job.symm.trans job') (task.symm.trans task')

lemma AttemptBook.ended (h : AttemptBook s) (turn : Turn s s') {id : LeaseId}
    (ends : s.Ends s' id) : id < s.nextLease ∧
      ∀ key lease, s'.attempts.get? key = some lease → lease.leaseId ≠ id := by
  obtain ⟨key, l, found, rfl, gone⟩ := ends
  obtain ⟨request, member, _⟩ := h.kept key l found
  have below := h.below request l member
  refine ⟨below, fun key' lease found' same => ?_⟩
  rcases turn.attempts key' lease found' with before | ⟨fresh, _⟩
  · cases h.key_eq before found same
    cases gone.symm.trans found'
  · exact absurd same (below.trans_le fresh).ne'

lemma Turn.stays (turn : Turn s s') {id : LeaseId} (below : id < s.nextLease)
    (ended : ∀ key lease, s.attempts.get? key = some lease → lease.leaseId ≠ id) :
    ∀ key lease, s'.attempts.get? key = some lease → lease.leaseId ≠ id := by
  intro key lease found
  rcases turn.attempts key lease found with before | ⟨fresh, _⟩
  · exact ended key lease before
  · exact (below.trans_le fresh).ne'

lemma AttemptBook.turn (h : AttemptBook s) (turn : Turn s s') : AttemptBook s' := by
  obtain ⟨new, news⟩ := turn.news
  have log {e : Event} (member : e ∈ s'.log) : e ∈ new ∨ e ∈ s.log := List.mem_append.1 (news.log ▸ member)
  have older {e : Event} (member : e ∈ s.log) : e ∈ s'.log := by
    rw [news.log]
    exact List.mem_append_right new member
  have bound {l : Lease} {now : ℚ} (member : .accepted l now ∈ s.log) : l.leaseId < s.nextLease :=
    (h.leases.accepted l now member).1
  constructor
  · exact turn.book h.leases
  · intro key lease found
    rcases turn.attempts key lease found with before | ⟨_, sent⟩
    · obtain ⟨request, member, is⟩ := h.kept key lease before
      exact ⟨request, older member, is⟩
    · exact sent
  · intro request lease member
    rcases log member with member | member
    · exact (news.submitted request lease member).2.2.1
    · exact (h.below request lease member).trans_le turn.next
  · intro request lease request' lease' member member' same
    rcases log member with member | member <;> rcases log member' with member' | member'
    · obtain ⟨rfl, rfl⟩ := (news.submitted request' lease' member').2.2.2 request lease member
      exact ⟨rfl, rfl⟩
    · have fresh := (news.submitted request lease member).2.1
      exact absurd same ((h.below request' lease' member').trans_le fresh).ne'
    · have fresh := (news.submitted request' lease' member').2.1
      exact absurd same ((h.below request lease member).trans_le fresh).ne
    · exact h.distinct request lease request' lease' member member' same
  · intro l now member
    rcases log member with member | member
    · obtain ⟨ends, alone⟩ := news.accepted l now member
      refine ⟨fun other => ?_, (h.ended turn ends).2⟩
      rcases log other with other | other
      · exact alone l.leaseId other
      · -- the attempt that ends now is in memory, so it did not time out before
        obtain ⟨key, lease, found, same, _⟩ := ends
        exact (h.timedOut _ other).2 key lease found same
    · obtain ⟨alive, ended⟩ := h.accepted l now member
      refine ⟨fun other => ?_, turn.stays (bound member) ended⟩
      rcases log other with other | other
      · obtain ⟨key, lease, found, same, _⟩ := news.timedOut _ other
        exact ended key lease found same
      · exact alive other
  · intro id member
    rcases log member with member | member
    · obtain ⟨below, gone⟩ := h.ended turn (news.timedOut id member)
      exact ⟨below.trans_le turn.next, gone⟩
    · obtain ⟨below, ended⟩ := h.timedOut id member
      exact ⟨below.trans_le turn.next, turn.stays below ended⟩

lemma Engine.Fresh.attemptBook (fresh : s.Fresh) : AttemptBook s := by
  obtain ⟨reads, rfl⟩ := fresh
  constructor
  · constructor
    · intro d l found
      cases found
    · intro d d' l l' found
      cases found
    · intro lease member
      cases member
    · intro l now member
      cases member
    · intro lease value found
      cases found
  · intro key lease found
    cases found
  · intro request lease member
    cases member
  · intro request lease request' lease' member
    cases member
  · intro l now member
    cases member
  · intro id member
    cases member

end Vertep.Workflow
