import Vertep.Lib.Command

/-!
# What a command raises

For commands that may raise: what a command raises (`raised`), with an equation for each way to put
commands together, and the property that what it raises leaves the state as it was (`Untouched`).
-/

namespace Lib.Command

variable {σ ε α β : Type}

/-- What the command raises, if anything. -/
def raised (m : Command σ ε α) (s : σ) : Option ε :=
  match (m s).1 with
  | .ok _ => none
  | .error e => some e

/-- Raise what the outside raises; else go on. -/
def meet : Option ε → Command σ ε Unit
  | none => pure ()
  | some e => raise e

/-- Where the command raises something of this kind, the state is as it was. -/
def Untouched (kind : ε → Prop) (m : Command σ ε α) (s : σ) : Prop :=
  ∀ e, raised m s = some e → kind e → (m s).2 = s

def Spares (kind : ε → Prop) (x : Option ε) : Prop := ∀ e, x = some e → ¬ kind e

@[simp] lemma raised_read_bind (f : σ → Command σ ε β) (s : σ) : raised (read >>= f) s = raised (f s) s := rfl

@[simp] lemma raised_write_bind (g : σ → σ) (f : Unit → Command σ ε β) (s : σ) :
    raised (write g >>= f) s = raised (f ()) (g s) := rfl

lemma raised_bind (m : Command σ ε Unit) (f : Unit → Command σ ε β) (s : σ) :
    raised (m >>= f) s = (raised m s).or (raised (f ()) (m s).2) := by
  simp only [raised, bind_apply]
  rcases m s with ⟨e | u, s'⟩ <;> rfl

@[simp] lemma raised_meet (x : Option ε) (s : σ) : raised (meet x : Command σ ε Unit) s = x := by
  cases x <;> rfl

@[simp] lemma state_meet (x : Option ε) (s : σ) : (meet x s : Except ε Unit × σ).2 = s := by
  cases x <;> rfl

@[simp] lemma raised_meet_bind (x : Option ε) (f : Unit → Command σ ε β) (s : σ) :
    raised (meet x >>= f) s = x.or (raised (f ()) s) := by
  rw [raised_bind, raised_meet, state_meet]

@[simp] lemma raised_answer_ok_bind (a : α) (f : α → Command σ ε β) (s : σ) :
    raised (answer (.ok a) >>= f) s = raised (f a) s := rfl

instance {R : σ → σ → Prop} [Std.Refl R] (x : Option ε) : Within R (meet x : Command σ ε Unit) := by
  cases x with
  | none => exact within_pure ()
  | some e => exact within_raise e

lemma keeps_write {γ : Type} {view : σ → γ} {g : σ → σ} (h : ∀ s, view (g s) = view s) :
    Keeps view (write g : Command σ ε Unit) := ⟨h⟩

section
variable {kind : ε → Prop} {m : Command σ ε α} {s : σ}

lemma untouched_of_same (same : (m s).2 = s) : Untouched kind m s := fun _ _ _ => same

lemma untouched_of_changed (changed : (m s).2 ≠ s) : Untouched kind m s ↔ Spares kind (raised m s) := by
  apply forall_congr'
  intro e
  exact ⟨fun h raises bad => changed (h raises bad), fun h raises bad => absurd bad (h raises)⟩

end

end Lib.Command
