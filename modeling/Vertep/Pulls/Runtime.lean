import Vertep.Operations.Runs
import Vertep.Pulls.Local

/-!
# Pulls and their cancels (`core/pull_executor.py`)

Any number of pulls and calls of `cancel_pull` run together, with any other threads that use the operations; each call
of a script is one step. What a pull has done is kept for the statements only.
-/

namespace Vertep.Pulls
open Lib Vertep.Operations

/-- A local pull, and what it did after `cancel_pull` had recorded `CANCELLED`. -/
structure Pull where
  posted : Bool := false
  /-- It will not send a request any more. -/
  «over» : Bool := false
  recorded : Bool := false
  lateRequests : ℕ := 0
  lateLines : ℕ := 0
deriving DecidableEq

structure World where
  store : Store := {}
  /-- `_CANCEL_EVENTS`, and whether each event is set. -/
  events : Dict String Bool := ∅
  pulls : Dict String Pull := ∅

def World.note (w : World) (operationId : String) (f : Pull → Pull) : World :=
  { w with pulls := w.pulls.map fun id pull => if id = operationId then f pull else pull }

def Pull.posts (pull : Pull) : Pull :=
  { pull with posted := true, lateRequests := if pull.recorded then pull.lateRequests + 1 else pull.lateRequests }

def Pull.reads (pull : Pull) : Pull :=
  { pull with lateLines := if pull.recorded then pull.lateLines + 1 else pull.lateLines }

def Pull.ends (pull : Pull) : Pull := { pull with «over» := true }

/-- `CANCELLED` is recorded. -/
def Pull.records (pull : Pull) : Pull := { pull with recorded := true }

def World.cancelled (w : World) (env : Env) (operationId : String) (reason : Option String) (now : String) : Store :=
  ((Section.cancel operationId reason now).run env w.store).2

/-- What is recorded is `CANCELLED`. -/
def World.Cancels (w : World) (env : Env) (operationId : String) (reason : Option String) (now : String) : Prop :=
  ((w.cancelled env operationId reason now).operations.get? operationId).map Operation.status = some .cancelled

instance (w : World) (env : Env) (operationId : String) (reason : Option String) (now : String) :
    Decidable (w.Cancels env operationId reason now) := by unfold World.Cancels; infer_instance

/-- What a call answers, and what it leaves. -/
inductive Call.Run (env : Env) : (c : Call) → World → c.Reply → World → Prop where
  | «section» (w) (sec : Section) :
    sec.Fresh w.store → Run env (.section sec) w (sec.run env w.store).1 { w with store := (sec.run env w.store).2 }
  | configured (w) (operationId : String) : Run env (.configured operationId) w true w
  | notConfigured (w) (operationId : String) :
    Run env (.configured operationId) w false (w.note operationId Pull.ends)
  | register (w) (operationId : String) :
    Run env (.register operationId) w () { w with events := w.events.set operationId false }
  | isSet (w) (operationId : String) : Run env (.isSet operationId) w ((w.events.get? operationId).getD false) w
  | unregister (w) (operationId : String) :
    Run env (.unregister operationId) w ()
      ({ w with events := w.events.pop operationId }.note operationId Pull.ends)
  | post (w) (operationId model : String) (reply : Except Failure ℤ) :
    Run env (.post operationId model) w reply (w.note operationId Pull.posts)
  | notPosted (w) (operationId model error : String) :
    Run env (.post operationId model) w (.error (.transport error)) w
  | readBody (w) (operationId : String) (reply : Except Failure String) : Run env (.readBody operationId) w reply w
  | read (w) (operationId : String) (line : Line) :
    Run env (.read operationId) w (.ok (some line)) (w.note operationId Pull.reads)
  | ends (w) (operationId : String) : Run env (.read operationId) w (.ok none) w
  | notRead (w) (operationId error : String) : Run env (.read operationId) w (.error (.transport error)) w
  | lookup (w) (operationId : String) : Run env (.lookup operationId) w (w.events.get? operationId).isSome w
  | set (w) (operationId : String) :
    Run env (.set operationId) w () { w with events := w.events.map fun id flag => if id = operationId then true else flag }
  | record (w) (operationId : String) (reason : Option String) (now : String) :
    Run env (.record operationId reason now) w ((Section.cancel operationId reason now).run env w.store).1
      ({ w with store := w.cancelled env operationId reason now }.note operationId fun pull =>
        if w.Cancels env operationId reason now then pull.records else pull)

def machine (env : Env) : Machine Call Call.Reply World where
  run := Call.Run env

/-! ## The system -/

inductive Name where
  /-- The pull of an operation. -/
  | pull (operationId : String)
  | cancel (n : ℕ)
deriving DecidableEq

structure System where
  world : World := {}
  threads : Dict Name (Program Call Call.Reply (Except Failure Unit × Unit)) := ∅

inductive System.Step (env : Env) (M : Machine Call Call.Reply World) : System → System → Prop where
  /-- `start_pull` creates an operation; its pull may begin. -/
  | start (s : System) (operationId model requestedBy : String) (target key : Option String) (now : String) (lines : ℕ)
      (operation : Operation) :
    (Section.getOrCreate operationId (some .modelPull) requestedBy target key now).Fresh s.world.store →
    ((Section.getOrCreate operationId (some .modelPull) requestedBy target key now).run env s.world.store).1 =
      .ok (operation, true) →
    Step env M s
      { world :=
          { s.world with
            store := ((Section.getOrCreate operationId (some .modelPull) requestedBy target key now).run env s.world.store).2
            pulls := s.world.pulls.set operationId {} }
        threads := s.threads.set (.pull operationId) (pullModel lines operationId model now ()) }
  /-- Some other thread uses the operations. -/
  | operate (s : System) (sec : Section) :
    sec.Fresh s.world.store → Step env M s { s with world := { s.world with store := (sec.run env s.world.store).2 } }
  | cancel (s : System) (n : ℕ) (operationId : String) (reason : Option String) (now : String) :
    s.threads.get? (.cancel n) = none →
    Step env M s { s with threads := s.threads.set (.cancel n) (cancelPull operationId reason now ()) }
  | call (s : System) (name : Name) (c : Call) (next : c.Reply → Program Call Call.Reply (Except Failure Unit × Unit))
      (reply : c.Reply) (world : World) :
    s.threads.get? name = some (.call c next) → M.run c s.world reply world →
    Step env M s { world := world, threads := s.threads.set name (next reply) }

def System.Init (s : System) : Prop := s = {}

def Runs (env : Env) : System → Prop := Reach System.Init (System.Step env (machine env))

/-! ## What is claimed, and when it holds -/

/-- After `cancel_pull` has recorded `CANCELLED` the pull sends no request, and it reads one line at most. -/
def Stops (w : World) : Prop := ∀ operationId pull, w.pulls.get? operationId = some pull →
  pull.lateRequests = 0 ∧ pull.lateLines ≤ 1

/-- The pull is over, or its request is sent and its event is set. -/
def World.Heard (w : World) (operationId : String) : Prop := ∀ pull, w.pulls.get? operationId = some pull →
  pull.over = true ∨ pull.posted = true ∧ w.events.get? operationId = some true

/-- `cancel_pull` records `CANCELLED` for a pull that has heard of it only. -/
def Call.Orderly (env : Env) (c : Call) (w : World) : Prop := ∀ operationId reason now,
  c = .record operationId reason now → w.Cancels env operationId reason now → w.Heard operationId

def orderly (env : Env) : Machine Call Call.Reply World where
  run c w reply w' := Call.Run env c w reply w' ∧ c.Orderly env w

def OrderlyRuns (env : Env) : System → Prop := Reach System.Init (System.Step env (orderly env))

end Vertep.Pulls
