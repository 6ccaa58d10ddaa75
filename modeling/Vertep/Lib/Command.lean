import Mathlib.Tactic.Common

/-!
# Commands that may raise

A handler of a service: it reads and writes a state and returns or raises, and what it wrote before it
raised stays written. `Command` is that monad with its operations and one equation for each of them;
the rules over it are about where a command leads (`Within`), what it keeps (`Keeps`) and when it
returns (`Returns`).
-/

namespace Lib

/-- A command over states `σ`: what it returns or raises, and the state it leaves. -/
def Command (σ ε α : Type) : Type := σ → Except ε α × σ

variable {c : Prop}

namespace Command

variable {σ ε α β γ : Type}

instance : Monad (Command σ ε) where
  pure a := fun s => (.ok a, s)
  bind m f := fun s =>
    match m s with
    | (.ok a, s') => f a s'
    | (.error e, s') => (.error e, s')

def raise (e : ε) : Command σ ε α := fun s => (.error e, s)

def read : Command σ ε σ := fun s => (.ok s, s)

def write (f : σ → σ) : Command σ ε Unit := fun s => (.ok (), f s)

def answer (x : Except ε α) : Command σ ε α := fun s => (x, s)

/-- `try`, with a handler for what it catches. -/
def handle (m : Command σ ε α) (h : ε → Command σ ε α) : Command σ ε α := fun s =>
  match m s with
  | (.ok a, s') => (.ok a, s')
  | (.error e, s') => h e s'

/-- An `if` without an `else`. -/
def when (c : Prop) [Decidable c] (m : Command σ ε Unit) : Command σ ε Unit := if c then m else pure ()

/-- A loop over a list. -/
def forEach (f : α → Command σ ε Unit) : List α → Command σ ε Unit
  | [] => pure ()
  | a :: as => do
    f a
    forEach f as

/-- A loop over a list that collects what its body returns. -/
def collect (f : α → Command σ ε β) : List α → Command σ ε (List β)
  | [] => pure []
  | a :: as => do
    let b ← f a
    let bs ← collect f as
    pure (b :: bs)

@[simp] lemma pure_apply (a : α) (s : σ) : (pure a : Command σ ε α) s = (.ok a, s) := rfl

lemma bind_apply (m : Command σ ε α) (f : α → Command σ ε β) (s : σ) :
    (m >>= f) s = match m s with
      | (.ok a, s') => f a s'
      | (.error e, s') => (.error e, s') := rfl

lemma bind_of_ok {m : Command σ ε α} {s s' : σ} {a : α} (h : m s = (.ok a, s'))
    (f : α → Command σ ε β) : (m >>= f) s = f a s' := by
  rw [bind_apply, h]

lemma bind_of_error {m : Command σ ε α} {s s' : σ} {e : ε} (h : m s = (.error e, s'))
    (f : α → Command σ ε β) : (m >>= f) s = (.error e, s') := by
  rw [bind_apply, h]

lemma handle_of_ok {m : Command σ ε α} {s s' : σ} {a : α} (h : m s = (.ok a, s'))
    (f : ε → Command σ ε α) : handle m f s = (.ok a, s') := by
  rw [handle, h]

lemma handle_of_error {m : Command σ ε α} {s s' : σ} {e : ε} (h : m s = (.error e, s'))
    (f : ε → Command σ ε α) : handle m f s = f e s' := by
  rw [handle, h]

@[simp] lemma raise_apply (e : ε) (s : σ) : (raise e : Command σ ε α) s = (.error e, s) := rfl

@[simp] lemma raise_bind (e : ε) (f : α → Command σ ε β) :
    ((raise e : Command σ ε α) >>= f) = raise e := rfl

@[simp] lemma pure_bind_eq (a : α) (f : α → Command σ ε β) :
    ((pure a : Command σ ε α) >>= f) = f a := rfl

@[simp] lemma bind_bind (m : Command σ ε α) (f : α → Command σ ε β) (g : β → Command σ ε γ) :
    ((m >>= f) >>= g) = m >>= fun a => f a >>= g := by
  funext s
  simp only [bind_apply]
  rcases m s with ⟨e | a, s'⟩ <;> rfl

@[simp] lemma read_bind (f : σ → Command σ ε β) (s : σ) :
    ((read : Command σ ε σ) >>= f) s = f s s := rfl

@[simp] lemma write_bind (g : σ → σ) (f : Unit → Command σ ε β) (s : σ) :
    ((write g : Command σ ε Unit) >>= f) s = f () (g s) := rfl

lemma answer_bind (x : Except ε α) (f : α → Command σ ε β) (s : σ) :
    (answer x >>= f) s = match x with
      | .ok a => f a s
      | .error e => (.error e, s) := by
  cases x <;> rfl

lemma answer_ok_bind (a : α) (f : α → Command σ ε β) : (answer (.ok a) >>= f) = f a := rfl

lemma answer_error_bind (e : ε) (f : α → Command σ ε β) : (answer (.error e) >>= f) = raise e := rfl

lemma when_raise_bind [Decidable c] (e : ε) (f : Unit → Command σ ε β) (s : σ) :
    (when c (raise e) >>= f) s = if c then (.error e, s) else f () s := by
  unfold when
  split <;> rfl

/-! ## Where a command leads -/

lemma except_bind_ok {x : Except ε α} {f : α → Except ε β} {b : β} :
    x >>= f = .ok b ↔ ∃ a, x = .ok a ∧ f a = .ok b := by
  cases x with
  | error e => exact ⟨nofun, nofun⟩
  | ok a => exact ⟨fun h => ⟨a, rfl, h⟩, fun ⟨_, same, h⟩ => Except.ok.inj same ▸ h⟩

/-- However it ends, the command leads to a state that `R` allows. A class, so that the rules below go
through a command on their own. -/
class Within (R : σ → σ → Prop) (m : Command σ ε α) : Prop where
  leads : ∀ s, R s (m s).2

section
variable {R : σ → σ → Prop}

instance within_pure [Std.Refl R] (a : α) : Within R (pure a : Command σ ε α) := ⟨fun s => refl_of R s⟩

instance within_raise [Std.Refl R] (e : ε) : Within R (raise e : Command σ ε α) :=
  ⟨fun s => refl_of R s⟩

instance [Std.Refl R] : Within R (read : Command σ ε σ) := ⟨fun s => refl_of R s⟩

instance within_answer [Std.Refl R] (x : Except ε α) : Within R (answer x : Command σ ε α) :=
  ⟨fun s => refl_of R s⟩

lemma leads_answer [Std.Refl R] {x : Except ε α} {f : α → Command σ ε β} {s : σ} (next : ∀ a, x = .ok a → R s (f a s).2) :
    R s ((answer x >>= f) s).2 := by
  cases x with
  | error e => exact refl_of R s
  | ok a => exact next a rfl

lemma Within.ite [Decidable c] {m m' : Command σ ε α} (hm : Within R m)
    (hm' : Within R m') : Within R (if c then m else m') := by
  split
  · exact hm
  · exact hm'

instance {c : Prop} [Decidable c] {m m' : Command σ ε α} [hm : Within R m]
    [hm' : Within R m'] : Within R (if c then m else m') := hm.ite hm'

instance [Std.Refl R] {c : Prop} [Decidable c] {m : Command σ ε Unit} [hm : Within R m] :
    Within R (when c m) := by
  unfold when
  infer_instance

lemma leads_bind [IsTrans σ R] {m : Command σ ε α} {f : α → Command σ ε β} {s : σ} (h : R s (m s).2)
    (next : ∀ a s', m s = (.ok a, s') → R s' (f a s').2) : R s ((m >>= f) s).2 := by
  rw [bind_apply]
  cases run : m s with
  | mk x s' =>
    rw [run] at h
    cases x with
    | error e => exact h
    | ok a => exact trans_of R h (next a s' run)

/-- A command that looks something up, and raises where it is not there. -/
lemma leads_found [Std.Refl R] {m : Command σ ε α} {f : α → Command σ ε β} {s : σ} {P : α → Prop} {none : Prop}
    (cases : (∃ e, m s = (.error e, s)) ∧ none ∨ ∃ a, P a ∧ m s = (.ok a, s)) (next : ∀ a, P a → R s (f a s).2) :
    R s ((m >>= f) s).2 := by
  rcases cases with ⟨⟨e, run⟩, _⟩ | ⟨a, there, run⟩
  · rw [bind_of_error run]
    exact refl_of R s
  · rw [bind_of_ok run]
    exact next a there

lemma Within.bind [IsTrans σ R] {m : Command σ ε α} {f : α → Command σ ε β} (hm : Within R m)
    (hf : ∀ a, Within R (f a)) : Within R (m >>= f) :=
  ⟨fun s => leads_bind (hm.leads s) fun a s' _ => (hf a).leads s'⟩

lemma Within.next [IsTrans σ R] {m : Command σ ε α} {f : α → Command σ ε β} [hm : Within R m]
    (hf : ∀ a, Within R (f a)) : Within R (m >>= f) := hm.bind hf

instance [IsTrans σ R] {m : Command σ ε α} {f : α → Command σ ε β} [hm : Within R m]
    [hf : ∀ a, Within R (f a)] : Within R (m >>= f) := hm.bind hf

lemma leads_handle [IsTrans σ R] {m : Command σ ε α} {h : ε → Command σ ε α} {s : σ} (first : R s (m s).2)
    (next : ∀ e, Within R (h e)) : R s (handle m h s).2 := by
  rw [Command.handle]
  generalize m s = r at first
  obtain ⟨e | a, s'⟩ := r
  · exact trans_of R first ((next e).leads s')
  · exact first

lemma Within.handle [IsTrans σ R] {m : Command σ ε α} {h : ε → Command σ ε α} (hm : Within R m)
    (hh : ∀ e, Within R (h e)) : Within R (handle m h) :=
  ⟨fun s => leads_handle (hm.leads s) hh⟩

instance [IsTrans σ R] {m : Command σ ε α} {h : ε → Command σ ε α} [hm : Within R m]
    [hh : ∀ e, Within R (h e)] : Within R (handle m h) := hm.handle hh

variable [Std.Refl R] [IsTrans σ R]

lemma Within.forEach {f : α → Command σ ε Unit} (as : List α) (h : ∀ a ∈ as, Within R (f a)) :
    Within R (forEach f as) := by
  induction as with
  | nil => exact within_pure ()
  | cons a as ih =>
    refine (h a List.mem_cons_self).bind fun _ => ih fun b member => ?_
    exact h b (List.mem_cons_of_mem _ member)

instance within_forEach {f : α → Command σ ε Unit} [h : ∀ a, Within R (f a)] (as : List α) :
    Within R (forEach f as) := .forEach as fun a _ => h a

lemma leads_forEach (I : σ → Prop) {f : α → Command σ ε Unit} (as : List α)
    (round : ∀ a ∈ as, ∀ s, I s → R s (f a s).2 ∧ I (f a s).2) {s : σ} (start : I s) :
    R s (Command.forEach f as s).2 ∧ I (Command.forEach f as s).2 := by
  induction as generalizing s with
  | nil => exact ⟨refl_of R s, start⟩
  | cons a as ih =>
    obtain ⟨leads, kept⟩ := round a List.mem_cons_self s start
    simp only [Command.forEach, bind_apply]
    generalize f a s = r at leads kept
    obtain ⟨e | _, s'⟩ := r
    · exact ⟨leads, kept⟩
    · obtain ⟨rest, last⟩ := ih (fun b member => round b (List.mem_cons_of_mem _ member)) kept
      exact ⟨trans_of R leads rest, last⟩

lemma Within.collect {f : α → Command σ ε β} (as : List α) (h : ∀ a ∈ as, Within R (f a)) :
    Within R (collect f as) := by
  induction as with
  | nil => exact within_pure []
  | cons a as ih =>
    refine (h a List.mem_cons_self).bind fun _ => ?_
    exact (ih fun b member => h b (List.mem_cons_of_mem _ member)).bind fun _ => within_pure _

instance {f : α → Command σ ε β} [h : ∀ a, Within R (f a)] (as : List α) :
    Within R (collect f as) := .collect as fun a _ => h a

end

/-- What `view` shows has not changed. -/
def Same (view : σ → γ) (s s' : σ) : Prop := view s' = view s

instance (view : σ → γ) : Std.Refl (Same view) := ⟨fun _ => rfl⟩

instance (view : σ → γ) : IsTrans σ (Same view) := ⟨fun _ _ _ h h' => Eq.trans h' h⟩

/-- However it ends, the command leaves `view` as it was. -/
abbrev Keeps (view : σ → γ) (m : Command σ ε α) : Prop := Within (Same view) m

lemma Within.keeps {view : σ → γ} {m : Command σ ε α} (h : Keeps view m) (s : σ) :
    view (m s).2 = view s := h.leads s

def Stable (I : σ → Prop) (s s' : σ) : Prop := I s → I s'

instance (I : σ → Prop) : Std.Refl (Stable I) := ⟨fun _ h => h⟩

instance (I : σ → Prop) : IsTrans σ (Stable I) := ⟨fun _ _ _ h h' start => h' (h start)⟩

lemma ends_bind {I J : σ → Prop} {m : Command σ ε α} {f : α → Command σ ε β} {s : σ}
    (keeps : Within (Stable I) m) (weaken : ∀ s, I s → J s) (next : ∀ a s, I s → J (f a s).2) (start : I s) :
    J ((m >>= f) s).2 := by
  have kept := keeps.leads s start
  rw [bind_apply]
  generalize m s = r at kept
  obtain ⟨e | a, s'⟩ := r
  · exact weaken s' kept
  · exact next a s' kept

/-! ## When a command returns -/

lemma bind_eq_ok {m : Command σ ε α} {f : α → Command σ ε β} {s s' : σ} {b : β} :
    (m >>= f) s = (.ok b, s') ↔ ∃ a s₁, m s = (.ok a, s₁) ∧ f a s₁ = (.ok b, s') := by
  rw [bind_apply]
  rcases m s with ⟨x | x, s₁⟩ <;> simp

def Returns (m : Command σ ε α) (s : σ) : Prop := ∃ a, (m s).1 = .ok a

@[simp] lemma returns_pure (a : α) (s : σ) : Returns (pure a : Command σ ε α) s := ⟨a, rfl⟩

@[simp] lemma not_returns_raise (e : ε) (s : σ) : ¬ Returns (raise e : Command σ ε α) s := by
  rintro ⟨a, h⟩
  cases h

@[simp] lemma returns_read_bind (f : σ → Command σ ε β) (s : σ) :
    Returns (read >>= f) s ↔ Returns (f s) s := Iff.rfl

@[simp] lemma returns_answer (x : Except ε α) (s : σ) :
    Returns (answer x : Command σ ε α) s ↔ ∃ a, x = .ok a := Iff.rfl

lemma returns_answer_bind (x : Except ε α) (f : α → Command σ ε β) (s : σ) :
    Returns (answer x >>= f) s ↔ ∃ a, x = .ok a ∧ Returns (f a) s := by
  cases x with
  | error e | ok a => simp [Returns, answer, bind_apply]

@[simp] lemma returns_ite [Decidable c] {m m' : Command σ ε α} {s : σ} :
    Returns (if c then m else m') s ↔ if c then Returns m s else Returns m' s := by
  split <;> rfl

@[simp] lemma returns_when_bind [Decidable c] {m : Command σ ε Unit}
    {f : Unit → Command σ ε β} {s : σ} :
    Returns (when c m >>= f) s ↔ if c then Returns (m >>= f) s else Returns (f ()) s := by
  unfold when
  split <;> rfl

lemma returns_bind {m : Command σ ε α} {f : α → Command σ ε β} {s : σ} :
    Returns (m >>= f) s ↔ ∃ a, (m s).1 = .ok a ∧ Returns (f a) (m s).2 := by
  simp only [Returns, bind_apply]
  rcases m s with ⟨x | a, s'⟩ <;> simp

lemma returns_bind_unit {m : Command σ ε Unit} {f : Unit → Command σ ε β} {s : σ} :
    Returns (m >>= f) s ↔ Returns m s ∧ Returns (f ()) (m s).2 := by
  rw [returns_bind]
  exact ⟨fun ⟨a, e, h⟩ => ⟨⟨a, e⟩, h⟩, fun ⟨⟨a, e⟩, h⟩ => ⟨a, e, h⟩⟩

lemma returns_bind_of {m : Command σ ε α} {f : α → Command σ ε β} (h : ∀ a s, Returns (f a) s) {s : σ} :
    Returns (m >>= f) s ↔ Returns m s := by
  rw [returns_bind]
  exact exists_congr fun a => and_iff_left (h a _)

lemma returns_handle_raise {m : Command σ ε α} {f : ε → ε} {s : σ} :
    Returns (handle m (fun e => raise (f e))) s ↔ Returns m s := by
  simp only [Returns, handle]
  rcases m s with ⟨e | a, s'⟩ <;> simp

lemma handle_raise_state {m : Command σ ε α} {f : ε → ε} {s : σ} :
    (handle m (fun e => raise (f e)) s).2 = (m s).2 := by
  simp only [handle]
  rcases m s with ⟨e | a, s'⟩ <;> rfl

lemma returns_handle_raise_bind {m : Command σ ε α} {f : ε → ε} {k : α → Command σ ε β} {s : σ} :
    Returns (handle m (fun e => raise (f e)) >>= k) s ↔ Returns (m >>= k) s := by
  simp only [Returns, handle, bind_apply]
  rcases m s with ⟨e | a, s'⟩ <;> simp

lemma ite_bind [Decidable c] (m m' : Command σ ε α) (f : α → Command σ ε β) :
    ((if c then m else m') >>= f) = if c then m >>= f else m' >>= f := by
  split <;> rfl

end Command

end Lib
