/-!
# Runs of a transition system

The states a system can reach, and the one induction that every safety result uses: what holds at
the start and is kept by each step holds in every reached state.
-/

namespace Lib

variable {σ : Type}

/-- The states reached from `init` by `step`. -/
inductive Reach (init : σ → Prop) (step : σ → σ → Prop) : σ → Prop where
  | init {s} : init s → Reach init step s
  | step {s s'} : Reach init step s → step s s' → Reach init step s'

/-- The invariant rule. -/
theorem Reach.invariant {init : σ → Prop} {step : σ → σ → Prop} {I : σ → Prop}
    (start : ∀ s, init s → I s) (keep : ∀ s s', I s → step s s' → I s')
    {s : σ} (r : Reach init step s) : I s := by
  induction r with
  | init h => exact start _ h
  | step _ st ih => exact keep _ _ ih st

end Lib
