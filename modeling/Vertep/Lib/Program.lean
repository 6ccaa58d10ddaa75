import Mathlib.Tactic.Common

/-!
# Programs over calls

A program makes calls to the outside, one after the other, and what it does next depends on the replies. It can
be read in two ways: answered by an oracle (`Program.result`, `Program.calls`), and as a condition on all of its
positions, with any replies so far (`Program.wp`). `Script` is the monad of the programs that keep a state of their own
and may raise.
-/

namespace Lib

/-- A program: it is done, or it makes a call and goes on with the reply. -/
inductive Program (C : Type) (R : C → Type) (α : Type) where
  | done (a : α)
  | call (c : C) (next : R c → Program C R α)

namespace Program

variable {C : Type} {R : C → Type} {α β γ : Type}

def bind (f : α → Program C R β) : Program C R α → Program C R β
  | .done a => f a
  | .call c next => .call c fun r => (next r).bind f

lemma bind_assoc (m : Program C R α) (f : α → Program C R β) (h : β → Program C R γ) :
    (m.bind f).bind h = m.bind fun a => (f a).bind h := by
  induction m with
  | done a => rfl
  | call c next ih => exact congrArg (call c) (funext ih)

/-! ## Answered by an oracle -/

/-- What the program returns. -/
def result (e : (c : C) → R c) : Program C R α → α
  | .done a => a
  | .call c next => (next (e c)).result e

/-- The calls it makes. -/
def calls (e : (c : C) → R c) : Program C R α → List C
  | .done _ => []
  | .call c next => c :: (next (e c)).calls e

variable (e : (c : C) → R c)

@[simp] lemma result_done (a : α) : (done a : Program C R α).result e = a := rfl

@[simp] lemma calls_done (a : α) : (done a : Program C R α).calls e = [] := rfl

@[simp] lemma result_bind (m : Program C R α) (f : α → Program C R β) :
    (m.bind f).result e = (f (m.result e)).result e := by
  induction m with
  | done a => rfl
  | call c next ih => exact ih (e c)

@[simp] lemma calls_bind (m : Program C R α) (f : α → Program C R β) :
    (m.bind f).calls e = m.calls e ++ (f (m.result e)).calls e := by
  induction m with
  | done a => rfl
  | call c next ih => exact congrArg (c :: ·) (ih (e c))

/-! ## Positions -/

/-- Whatever the replies are, the program makes only calls that are allowed where it makes them, and ends with `Q`. -/
def wp (A : γ → C → Prop) (step : γ → (c : C) → R c → γ) (Q : α → γ → Prop) : Program C R α → γ → Prop
  | .done a, g => Q a g
  | .call c next, g => A g c ∧ ∀ r, (next r).wp A step Q (step g c r)

variable {A : γ → C → Prop} {step : γ → (c : C) → R c → γ}

lemma wp_bind {Q : β → γ → Prop} (m : Program C R α) (f : α → Program C R β) (g : γ) :
    (m.bind f).wp A step Q g ↔ m.wp A step (fun a g' => (f a).wp A step Q g') g := by
  induction m generalizing g with
  | done a => exact Iff.rfl
  | call c next ih => exact and_congr_right fun _ => forall_congr' fun r => ih r (step g c r)

lemma wp.mono {Q Q' : α → γ → Prop} {m : Program C R α} {g : γ} (h : m.wp A step Q g)
    (weaken : ∀ a g', Q a g' → Q' a g') : m.wp A step Q' g := by
  induction m generalizing g with
  | done a => exact weaken a g h
  | call c next ih => exact ⟨h.1, fun r => ih r (h.2 r)⟩

lemma wp.run {P : C → Prop} {Q : α → Prop} {m : Program C R α}
    (h : m.wp (fun (_ : Unit) => P) (fun _ _ _ => ()) (fun a _ => Q a) ()) (e : (c : C) → R c) :
    (∀ c ∈ m.calls e, P c) ∧ Q (m.result e) := by
  induction m with
  | done a => exact ⟨List.forall_mem_nil _, h⟩
  | call c next ih =>
    have ⟨each, result⟩ := ih (e c) (h.2 (e c))
    exact ⟨List.forall_mem_cons.2 ⟨h.1, each⟩, result⟩

end Program

/-! ## Scripts -/

def Script (C : Type) (R : C → Type) (σ ε α : Type) : Type := σ → Program C R (Except ε α × σ)

namespace Script

variable {C : Type} {R : C → Type} {σ ε α β γ : Type}

instance : Monad (Script C R σ ε) where
  pure a := fun s => .done (.ok a, s)
  bind m f := fun s => (m s).bind fun
    | (.ok a, s') => f a s'
    | (.error x, s') => .done (.error x, s')

def raise (x : ε) : Script C R σ ε α := fun s => .done (.error x, s)

def get : Script C R σ ε σ := fun s => .done (.ok s, s)

def modify (f : σ → σ) : Script C R σ ε Unit := fun s => .done (.ok (), f s)

def ask (c : C) : Script C R σ ε (R c) := fun s => .call c fun r => .done (.ok r, s)

/-- `try`, with a handler for what it catches. -/
def rescue (m : Script C R σ ε α) (h : ε → Script C R σ ε α) : Script C R σ ε α := fun s =>
  (m s).bind fun
    | (.ok a, s') => .done (.ok a, s')
    | (.error x, s') => h x s'

/-- `finally`: what it raises stands for what the body returned or raised. -/
def andFinally (m : Script C R σ ε α) (last : Script C R σ ε Unit) : Script C R σ ε α := fun s =>
  (m s).bind fun (x, s') => (last s').bind fun
    | (.ok (), s'') => .done (x, s'')
    | (.error y, s'') => .done (.error y, s'')

/-- What was answered, or what it raises. -/
def require : Except ε α → Script C R σ ε α
  | .ok a => pure a
  | .error x => raise x

lemma bind_assoc (m : Script C R σ ε α) (f : α → Script C R σ ε β) (h : β → Script C R σ ε γ) :
    m >>= f >>= h = m >>= fun a => f a >>= h := by
  funext s
  refine (Program.bind_assoc (m s) _ _).trans (congrArg (m s).bind (funext fun r => ?_))
  obtain ⟨x | a, s'⟩ := r <;> rfl

/-! ## A run of a script -/

variable (e : (c : C) → R c)

def eval (m : Script C R σ ε α) (s : σ) : Except ε α × σ := (m s).result e

def made (m : Script C R σ ε α) (s : σ) : List C := (m s).calls e

variable {e} {s s' : σ}

@[simp] lemma eval_pure (a : α) : (pure a : Script C R σ ε α).eval e s = (.ok a, s) := rfl

@[simp] lemma made_pure (a : α) : (pure a : Script C R σ ε α).made e s = [] := rfl

@[simp] lemma eval_raise (x : ε) : (raise x : Script C R σ ε α).eval e s = (.error x, s) := rfl

@[simp] lemma made_raise (x : ε) : (raise x : Script C R σ ε α).made e s = [] := rfl

@[simp] lemma eval_get : (get : Script C R σ ε σ).eval e s = (.ok s, s) := rfl

@[simp] lemma made_get : (get : Script C R σ ε σ).made e s = [] := rfl

@[simp] lemma eval_modify (f : σ → σ) : (modify f : Script C R σ ε Unit).eval e s = (.ok (), f s) := rfl

@[simp] lemma made_modify (f : σ → σ) : (modify f : Script C R σ ε Unit).made e s = [] := rfl

@[simp] lemma eval_ask (c : C) : (ask c : Script C R σ ε (R c)).eval e s = (.ok (e c), s) := rfl

@[simp] lemma made_ask (c : C) : (ask c : Script C R σ ε (R c)).made e s = [c] := rfl

lemma eval_bind (m : Script C R σ ε α) (f : α → Script C R σ ε β) :
    (m >>= f).eval e s =
      match m.eval e s with
      | (.ok a, s') => (f a).eval e s'
      | (.error x, s') => (.error x, s') := by
  refine (Program.result_bind e (m s) _).trans ?_
  show _ = match (m s).result e with | (.ok a, s') => _ | (.error x, s') => _
  split <;> simp_all [eval]

lemma made_bind (m : Script C R σ ε α) (f : α → Script C R σ ε β) :
    (m >>= f).made e s =
      m.made e s ++
        match m.eval e s with
        | (.ok a, s') => (f a).made e s'
        | (.error _, _) => [] := by
  refine (Program.calls_bind e (m s) _).trans (congrArg (m.made e s ++ ·) ?_)
  show _ = match (m s).result e with | (.ok a, s') => _ | (.error x, s') => _
  split <;> simp_all [made]

lemma eval_rescue (m : Script C R σ ε α) (h : ε → Script C R σ ε α) :
    (rescue m h).eval e s =
      match m.eval e s with
      | (.ok a, s') => (.ok a, s')
      | (.error x, s') => (h x).eval e s' := by
  refine (Program.result_bind e (m s) _).trans ?_
  show _ = match (m s).result e with | (.ok a, s') => _ | (.error x, s') => _
  split <;> simp_all [eval]

lemma made_rescue (m : Script C R σ ε α) (h : ε → Script C R σ ε α) :
    (rescue m h).made e s =
      m.made e s ++
        match m.eval e s with
        | (.ok _, _) => []
        | (.error x, s') => (h x).made e s' := by
  refine (Program.calls_bind e (m s) _).trans (congrArg (m.made e s ++ ·) ?_)
  show _ = match (m s).result e with | (.ok a, s') => _ | (.error x, s') => _
  split <;> simp_all [made]

lemma made_andFinally (m : Script C R σ ε α) (last : Script C R σ ε Unit) :
    (andFinally m last).made e s = m.made e s ++ last.made e (m.eval e s).2 := by
  refine (Program.calls_bind e (m s) _).trans (congrArg (m.made e s ++ ·) ?_)
  refine (Program.calls_bind e (last _) _).trans ?_
  show last.made e (m.eval e s).2 ++ _ = _
  split <;> simp

def madeOf (e : (c : C) → R c) (P : C → Bool) (m : Script C R σ ε α) (s : σ) : List C := (m.made e s).filter P

variable {P : C → Bool}

@[simp] lemma madeOf_pure (a : α) : (pure a : Script C R σ ε α).madeOf e P s = [] := rfl

@[simp] lemma madeOf_raise (x : ε) : (raise x : Script C R σ ε α).madeOf e P s = [] := rfl

@[simp] lemma madeOf_get : (get : Script C R σ ε σ).madeOf e P s = [] := rfl

@[simp] lemma madeOf_modify (f : σ → σ) : (modify f : Script C R σ ε Unit).madeOf e P s = [] := rfl

@[simp] lemma madeOf_ask (c : C) : (ask c : Script C R σ ε (R c)).madeOf e P s = if P c then [c] else [] := by
  simp [madeOf, List.filter_cons]

lemma madeOf_bind (m : Script C R σ ε α) (f : α → Script C R σ ε β) :
    (m >>= f).madeOf e P s =
      m.madeOf e P s ++
        match m.eval e s with
        | (.ok a, s') => (f a).madeOf e P s'
        | (.error _, _) => [] := by
  rw [madeOf, made_bind, List.filter_append]
  rcases m.eval e s with ⟨x | a, s'⟩ <;> rfl

lemma madeOf_rescue (m : Script C R σ ε α) (h : ε → Script C R σ ε α) :
    (rescue m h).madeOf e P s =
      m.madeOf e P s ++
        match m.eval e s with
        | (.ok _, _) => []
        | (.error x, s') => (h x).madeOf e P s' := by
  rw [madeOf, made_rescue, List.filter_append]
  rcases m.eval e s with ⟨x | a, s'⟩ <;> rfl

lemma madeOf_andFinally (m : Script C R σ ε α) (last : Script C R σ ε Unit) :
    (andFinally m last).madeOf e P s = m.madeOf e P s ++ last.madeOf e P (m.eval e s).2 := by
  rw [madeOf, made_andFinally, List.filter_append]
  rfl

/-! ## Every run of a script -/

variable {A : γ → C → Prop} {step : γ → (c : C) → R c → γ} {Q : α → σ → γ → Prop} {X : ε → σ → γ → Prop} {g : γ}

/-- The calls are allowed, and it returns with `Q` or raises with `X`. -/
def wp (A : γ → C → Prop) (step : γ → (c : C) → R c → γ) (Q : α → σ → γ → Prop) (X : ε → σ → γ → Prop)
    (m : Script C R σ ε α) (s : σ) (g : γ) : Prop :=
  (m s).wp A step (fun
    | (.ok a, s'), g' => Q a s' g'
    | (.error x, s'), g' => X x s' g') g

@[simp] lemma wp_pure (a : α) : (pure a : Script C R σ ε α).wp A step Q X s g ↔ Q a s g := Iff.rfl

@[simp] lemma wp_raise (x : ε) : (raise x : Script C R σ ε α).wp A step Q X s g ↔ X x s g := Iff.rfl

@[simp] lemma wp_get {Q : σ → σ → γ → Prop} :
    (get : Script C R σ ε σ).wp A step Q X s g ↔ Q s s g := Iff.rfl

@[simp] lemma wp_modify {Q : Unit → σ → γ → Prop} (f : σ → σ) :
    (modify f : Script C R σ ε Unit).wp A step Q X s g ↔ Q () (f s) g := Iff.rfl

@[simp] lemma wp_ask (c : C) {Q : R c → σ → γ → Prop} :
    (ask c : Script C R σ ε (R c)).wp A step Q X s g ↔ A g c ∧ ∀ r, Q r s (step g c r) := Iff.rfl

@[simp] lemma wp_bind {Q : β → σ → γ → Prop} (m : Script C R σ ε α) (f : α → Script C R σ ε β) :
    (m >>= f).wp A step Q X s g ↔ m.wp A step (fun a s' g' => (f a).wp A step Q X s' g') X s g := by
  refine (Program.wp_bind (m s) _ g).trans (iff_of_eq (congrArg (Program.wp A step · (m s) g) ?_))
  funext ⟨r, s'⟩ g'
  cases r <;> rfl

@[simp] lemma wp_rescue (m : Script C R σ ε α) (h : ε → Script C R σ ε α) :
    (rescue m h).wp A step Q X s g ↔ m.wp A step Q (fun x s' g' => (h x).wp A step Q X s' g') s g := by
  refine (Program.wp_bind (m s) _ g).trans (iff_of_eq (congrArg (Program.wp A step · (m s) g) ?_))
  funext ⟨r, s'⟩ g'
  cases r <;> rfl

@[simp] lemma wp_require (r : Except ε α) :
    (require r : Script C R σ ε α).wp A step Q X s g ↔ (∀ a, r = .ok a → Q a s g) ∧ ∀ x, r = .error x → X x s g := by
  cases r <;> simp [require]

lemma wp.mono {Q' : α → σ → γ → Prop} {X' : ε → σ → γ → Prop} {m : Script C R σ ε α} (h : m.wp A step Q X s g)
    (returns : ∀ a s' g', Q a s' g' → Q' a s' g') (raises : ∀ x s' g', X x s' g' → X' x s' g') :
    m.wp A step Q' X' s g := by
  refine Program.wp.mono h ?_
  rintro ⟨a | x, s'⟩ g' <;> first | exact raises _ s' g' | exact returns _ s' g'

lemma wp.run {P : C → Prop} {Q : α → σ → Prop} {X : ε → σ → Prop} {m : Script C R σ ε α}
    (h : m.wp (fun (_ : Unit) => P) (fun _ _ _ => ()) (fun a s' _ => Q a s') (fun x s' _ => X x s') s ())
    (e : (c : C) → R c) :
    (∀ c ∈ m.made e s, P c) ∧
      match m.eval e s with
      | (.ok a, s') => Q a s'
      | (.error x, s') => X x s' := by
  have rephrased : (m s).wp (fun (_ : Unit) => P) (fun _ _ _ => ()) (fun r _ =>
      match r with
      | (.ok a, s') => Q a s'
      | (.error x, s') => X x s') () := by
    refine Program.wp.mono h ?_
    rintro ⟨x | a, s'⟩ _ h <;> exact h
  exact Program.wp.run rephrased e

end Script

end Lib
