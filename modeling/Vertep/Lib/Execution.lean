import Mathlib.Logic.Function.Iterate
import Vertep.Lib.Dict
import Vertep.Lib.Program

/-!
# Executions of programs

The calls of a program act on a state that it shares with others. An execution ends with what the program returns,
or is cut off between two calls or within one. `Program.Sure` is what a program keeps to and ends with, whatever
others do to the state between its calls; the executions of a program that runs alone, and a pool of programs that
run together, are under it.
-/

namespace Lib

open Relation

/-- What calls do to a state: what they answer and leave, and what they leave when they are cut off. -/
structure Machine (C : Type) (R : C → Type) (σ : Type) where
  run : (c : C) → σ → R c → σ → Prop
  torn : C → σ → σ → Prop := fun _ _ _ => False

variable {C : Type} {R : C → Type} {σ α β ε ρ : Type} {M : Machine C R σ}

variable {e : (c : C) → σ → R c × σ} {G : σ → Prop}

namespace Program

/-- A program runs alone: it returns, or it is cut off and returns nothing. -/
inductive Exec (M : Machine C R σ) : Program C R α → σ → Option α → σ → Prop where
  | done (a : α) (s : σ) : Exec M (.done a) s (some a) s
  | stop (m : Program C R α) (s : σ) : Exec M m s none s
  | torn (c : C) (next : R c → Program C R α) (s s' : σ) : M.torn c s s' → Exec M (.call c next) s none s'
  | call (c : C) (next : R c → Program C R α) (s s' s'' : σ) (r : R c) (out : Option α) :
    M.run c s r s' → Exec M (next r) s' out s'' → Exec M (.call c next) s out s''

/-- The program is played to its end against replies that are chosen by the call and the state. -/
def play (e : (c : C) → σ → R c × σ) : Program C R α → σ → α × σ
  | .done a, s => (a, s)
  | .call c next, s => (next (e c s).1).play e (e c s).2

/-- What is left after a number of calls. -/
def playFor (e : (c : C) → σ → R c × σ) : ℕ → Program C R α → σ → σ
  | n + 1, .call c next, s => (next (e c s).1).playFor e n (e c s).2
  | _, _, s => s

lemma Exec.play (plays : ∀ c s, M.run c s (e c s).1 (e c s).2) (m : Program C R α) (s : σ) :
    Exec M m s (some (m.play e s).1) (m.play e s).2 := by
  induction m generalizing s with
  | done a => exact .done a s
  | call c next ih => exact .call c next s _ _ _ _ (plays c s) (ih _ _)

/-- Each call that the program makes when it is played is one of some. -/
def playsWithin (e : (c : C) → σ → R c × σ) (may : C → σ → Bool) : Program C R α → σ → Bool
  | .done _, _ => true
  | .call c next, s => may c s && (next (e c s).1).playsWithin e may (e c s).2

lemma Exec.playWithin {may : C → σ → Bool} (plays : ∀ c s, may c s = true → M.run c s (e c s).1 (e c s).2)
    (m : Program C R α) (s : σ) (within : m.playsWithin e may s = true) :
    Exec M m s (some (m.play e s).1) (m.play e s).2 := by
  induction m generalizing s with
  | done a => exact .done a s
  | call c next ih =>
    obtain ⟨first, rest⟩ := Bool.and_eq_true_iff.1 within
    exact .call c next s _ _ _ _ (plays c s first) (ih _ _ rest)

lemma Exec.playFor (plays : ∀ c s, M.run c s (e c s).1 (e c s).2) (n : ℕ)
    (m : Program C R α) (s : σ) : Exec M m s none (m.playFor e n s) := by
  induction m generalizing n s with
  | done a => cases n <;> exact .stop _ s
  | call c next ih =>
    cases n with
    | zero => exact .stop _ s
    | succ n => exact .call c next s _ _ _ _ (plays c s) (ih _ n _)

/-- Whatever others do between its calls, each call is within `guar`, and it returns with `Q`. -/
def Sure (M : Machine C R σ) (rely guar : σ → σ → Prop) (Q : α → σ → Prop) : Program C R α → σ → Prop
  | .done a, s => ∀ s', rely s s' → Q a s'
  | .call c next, s => ∀ s', rely s s' → (∀ s'', M.torn c s' s'' → guar s' s'') ∧
      ∀ r s'', M.run c s' r s'' → guar s' s'' ∧ (next r).Sure M rely guar Q s''

section
variable {rely guar guar' : σ → σ → Prop} {Q Q' : α → σ → Prop} {m : Program C R α} {s s' : σ}

lemma Sure.later [IsTrans σ rely] (h : m.Sure M rely guar Q s) (later : rely s s') : m.Sure M rely guar Q s' := by
  cases m with
  | done a | call c next => exact fun s'' later' => h s'' (trans_of rely later later')

lemma Sure.mono (h : m.Sure M rely guar Q s) (calls : ∀ s s', guar s s' → guar' s s')
    (returns : ∀ a s', Q a s' → Q' a s') : m.Sure M rely guar' Q' s := by
  induction m generalizing s with
  | done a => exact fun s' later => returns a s' (h s' later)
  | call c next ih =>
    intro s' later
    obtain ⟨torn, run⟩ := h s' later
    refine ⟨fun s'' cut => calls s' s'' (torn s'' cut), fun r s'' ran => ?_⟩
    exact ⟨calls s' s'' (run r s'' ran).1, ih r (run r s'' ran).2⟩

lemma Sure.restrict {M' : Machine C R σ} (h : m.Sure M rely guar Q s)
    (run : ∀ c s r s', M'.run c s r s' → M.run c s r s') (torn : ∀ c s s', M'.torn c s s' → M.torn c s s') :
    m.Sure M' rely guar Q s := by
  induction m generalizing s with
  | done a => exact h
  | call c next ih =>
    intro s' later
    obtain ⟨cut, ran⟩ := h s' later
    exact ⟨fun s'' h => cut s'' (torn c s' s'' h), fun r s'' h =>
      ⟨(ran r s'' (run c s' r s'' h)).1, ih r (ran r s'' (run c s' r s'' h)).2⟩⟩

lemma Sure.frame (h : m.Sure M rely guar Q s) (others : ∀ s s', rely s s' → G s → G s')
    (calls : ∀ s s', guar s s' → G s → G s') (holds : G s) : m.Sure M rely guar (fun a s' => Q a s' ∧ G s') s := by
  induction m generalizing s with
  | done a => exact fun s' later => ⟨h s' later, others s s' later holds⟩
  | call c next ih =>
    intro s' later
    obtain ⟨torn, run⟩ := h s' later
    refine ⟨torn, fun r s'' ran => ⟨(run r s'' ran).1, ih r (run r s'' ran).2 ?_⟩⟩
    exact calls s' s'' (run r s'' ran).1 (others s s' later holds)

lemma sure_bind [Std.Refl rely] [IsTrans σ rely] {Q : β → σ → Prop} (m : Program C R α) (f : α → Program C R β) :
    (m.bind f).Sure M rely guar Q s ↔ m.Sure M rely guar (fun a s' => (f a).Sure M rely guar Q s') s := by
  induction m generalizing s with
  | done a => exact ⟨fun h s' later => h.later later, fun h => h s (refl_of rely s)⟩
  | call c next ih =>
    refine forall₂_congr fun s' later => and_congr_right fun _ => forall₃_congr fun r s'' ran => ?_
    exact and_congr_right fun _ => ih r

lemma Sure.exec {out : Option α} (h : m.Sure M Eq guar Q s) (exec : Exec M m s out s') :
    ReflTransGen guar s s' ∧ ∀ a, out = some a → Q a s' := by
  induction exec with
  | done a s => exact ⟨.refl, fun b same => Option.some.inj same ▸ h s rfl⟩
  | stop m s => exact ⟨.refl, fun b same => by cases same⟩
  | torn c next s s' cut => exact ⟨.single ((h s rfl).1 s' cut), fun b same => by cases same⟩
  | call c next s s' s'' r out ran _ ih =>
    obtain ⟨first, sure⟩ := (h s rfl).2 r s' ran
    exact ⟨.head first (ih sure).1, (ih sure).2⟩

end

/-! ## Pools -/

variable {κ : Type} [DecidableEq κ]

/-- Each program of a pool is sure, with what the others are and it is within. -/
def Pool (M : Machine C R σ) (rely guar : κ → σ → σ → Prop) (Q : α → σ → Prop) (pool : Dict κ (Program C R α)) (s : σ) :
    Prop :=
  ∀ k m, pool.get? k = some m → m.Sure M (rely k) (guar k) Q s

section
variable {rely guar : κ → σ → σ → Prop} {Q : α → σ → Prop} {pool : Dict κ (Program C R α)} {s s' : σ}

lemma Pool.set (sure : Pool M rely guar Q pool s) {k : κ} {m : Program C R α} (own : m.Sure M (rely k) (guar k) Q s) :
    Pool M rely guar Q (pool.set k m) s := by
  intro k' m' found
  rw [Dict.get?_set] at found
  split at found
  · next same =>
    cases found
    exact same ▸ own
  · exact sure k' m' found

lemma Pool.pop (sure : Pool M rely guar Q pool s) (k : κ) : Pool M rely guar Q (pool.pop k) s := by
  intro k' m' found
  rw [Dict.get?_pop] at found
  split at found
  · cases found
  · exact sure k' m' found

lemma Pool.call [∀ k, Std.Refl (rely k)] [∀ k, IsTrans σ (rely k)]
    (others : ∀ k k' s s', k ≠ k' → guar k s s' → rely k' s s') (sure : Pool M rely guar Q pool s) {k : κ} {c : C}
    {next : R c → Program C R α} (found : pool.get? k = some (.call c next)) {r : R c} (ran : M.run c s r s') :
    guar k s s' ∧ Pool M rely guar Q (pool.set k (next r)) s' := by
  obtain ⟨within, own⟩ := (sure k _ found s (refl_of (rely k) s)).2 r s' ran
  refine ⟨within, fun k' m' found' => ?_⟩
  rw [Dict.get?_set] at found'
  split at found'
  · next same =>
    cases found'
    exact same ▸ own
  · next other => exact (sure k' m' found').later (others k k' s s' other within)

end

/-- Programs over a state that they share. -/
structure Pooled (κ : Type) [DecidableEq κ] (C : Type) (R : C → Type) (α σ : Type) where
  world : σ
  threads : Dict κ (Program C R α) := ∅

namespace Pooled

/-- A program makes its next call. -/
inductive Calls (M : Machine C R σ) : Pooled κ C R α σ → Pooled κ C R α σ → Prop where
  | call (s : Pooled κ C R α σ) (k : κ) (c : C) (next : R c → Program C R α) (r : R c) (world : σ) :
    s.threads.get? k = some (.call c next) → M.run c s.world r world →
    Calls M s { world := world, threads := s.threads.set k (next r) }

/-- The program `k` makes its next call where it may, with a reply that is chosen by the call and the state. -/
def advance (e : (c : C) → σ → R c × σ) (may : C → σ → Bool) (k : κ) (s : Pooled κ C R α σ) : Pooled κ C R α σ :=
  match s.threads.get? k with
  | some (.call c next) =>
    if may c s.world then { world := (e c s.world).2, threads := s.threads.set k (next (e c s.world).1) } else s
  | _ => s

/-- It makes some calls. -/
def advances (e : (c : C) → σ → R c × σ) (may : C → σ → Bool) (k : κ) (n : ℕ) (s : Pooled κ C R α σ) :
    Pooled κ C R α σ :=
  (advance e may k)^[n] s

lemma advances_keeps {may : C → σ → Bool}
    (plays : ∀ c s, may c s = true → M.run c s (e c s).1 (e c s).2) {I : Pooled κ C R α σ → Prop}
    (keeps : ∀ s s', I s → Calls M s s' → I s') (k : κ) (n : ℕ) {s : Pooled κ C R α σ} (start : I s) :
    I (s.advances e may k n) := by
  induction n with
  | zero => exact start
  | succ n ih =>
    rw [advances, Function.iterate_succ_apply', advance]
    split
    · next c next found =>
      split
      · next plain => exact keeps _ _ ih (.call _ k c next _ _ found (plays c _ plain))
      · exact ih
    · exact ih

end Pooled

end Program

/-! ## Scripts -/

namespace Script

variable {rely guar guar' : σ → σ → Prop} {Q : α → ρ → σ → Prop} {X : ε → ρ → σ → Prop} {l : ρ} {s : σ}

@[simp] lemma play_pure (e : (c : C) → σ → R c × σ) (a : α) : ((pure a : Script C R ρ ε α) l).play e s = ((.ok a, l), s) :=
  rfl

@[simp] lemma play_ask_bind (e : (c : C) → σ → R c × σ) (c : C) (f : R c → Script C R ρ ε α) :
    ((ask c >>= f) l).play e s = (f (e c s).1 l).play e (e c s).2 := rfl

@[simp] lemma play_require_bind {β : Type} (e : (c : C) → σ → R c × σ) (b : β) (f : β → Script C R ρ ε α) :
    ((require (.ok b) >>= f) l).play e s = (f b l).play e s := rfl

@[simp] lemma play_require (e : (c : C) → σ → R c × σ) (a : α) :
    ((require (.ok a) : Script C R ρ ε α) l).play e s = ((.ok a, l), s) := rfl

/-- A script returned with `Q`, or raised with `X`. -/
def Ends (Q : α → ρ → σ → Prop) (X : ε → ρ → σ → Prop) : Except ε α × ρ → σ → Prop
  | (.ok a, l), s => Q a l s
  | (.error x, l), s => X x l s

/-- Each call of the script is within `guar`; it returns with `Q` or raises with `X`. -/
def Sure (M : Machine C R σ) (rely guar : σ → σ → Prop) (Q : α → ρ → σ → Prop) (X : ε → ρ → σ → Prop)
    (m : Script C R ρ ε α) (l : ρ) (s : σ) : Prop :=
  (m l).Sure M rely guar (Ends Q X) s

lemma sure_iff {m : Script C R ρ ε α} :
    m.Sure M rely guar Q X l s ↔ (m l).Sure M rely guar (Ends Q X) s := Iff.rfl

@[simp] lemma sure_pure (a : α) :
    (pure a : Script C R ρ ε α).Sure M rely guar Q X l s ↔ ∀ s', rely s s' → Q a l s' := Iff.rfl

@[simp] lemma sure_raise (x : ε) :
    (raise x : Script C R ρ ε α).Sure M rely guar Q X l s ↔ ∀ s', rely s s' → X x l s' := Iff.rfl

@[simp] lemma sure_ask (c : C) {Q : R c → ρ → σ → Prop} :
    (ask c : Script C R ρ ε (R c)).Sure M rely guar Q X l s ↔
      ∀ s', rely s s' → (∀ s'', M.torn c s' s'' → guar s' s'') ∧
        ∀ r s'', M.run c s' r s'' → guar s' s'' ∧ ∀ t, rely s'' t → Q r l t := Iff.rfl

@[simp] lemma sure_require (r : Except ε α) :
    (require r : Script C R ρ ε α).Sure M rely guar Q X l s ↔
      (∀ a, r = .ok a → ∀ s', rely s s' → Q a l s') ∧ ∀ x, r = .error x → ∀ s', rely s s' → X x l s' := by
  cases r <;> simp [require]

lemma Sure.mono {Q' : α → ρ → σ → Prop} {X' : ε → ρ → σ → Prop} {m : Script C R ρ ε α}
    (h : m.Sure M rely guar Q X l s) (calls : ∀ s s', guar s s' → guar' s s')
    (returns : ∀ a l' s', Q a l' s' → Q' a l' s') (raises : ∀ x l' s', X x l' s' → X' x l' s') :
    m.Sure M rely guar' Q' X' l s := by
  refine Program.Sure.mono h calls ?_
  rintro ⟨a | x, l'⟩ s' <;> first | exact raises _ l' s' | exact returns _ l' s'

lemma Sure.restrict {M' : Machine C R σ} {m : Script C R ρ ε α} (h : m.Sure M rely guar Q X l s)
    (run : ∀ c s r s', M'.run c s r s' → M.run c s r s') (torn : ∀ c s s', M'.torn c s s' → M.torn c s s') :
    m.Sure M' rely guar Q X l s :=
  Program.Sure.restrict (sure_iff.1 h) run torn

lemma Sure.frame {m : Script C R ρ ε α} (h : m.Sure M rely guar Q X l s)
    (others : ∀ s s', rely s s' → G s → G s') (calls : ∀ s s', guar s s' → G s → G s') (holds : G s) :
    m.Sure M rely guar (fun a l' s' => Q a l' s' ∧ G s') (fun x l' s' => X x l' s' ∧ G s') l s := by
  refine (Program.Sure.frame (sure_iff.1 h) others calls holds).mono (fun _ _ => id) ?_
  rintro ⟨a | x, l'⟩ s' ends <;> exact ends

lemma Sure.exec {m : Script C R ρ ε α} {out : Option (Except ε α × ρ)} {s' : σ} (h : m.Sure M Eq guar Q X l s)
    (exec : Program.Exec M (m l) s out s') :
    ReflTransGen guar s s' ∧ (∀ a l', out = some (.ok a, l') → Q a l' s') ∧
      ∀ x l', out = some (.error x, l') → X x l' s' := by
  obtain ⟨path, returns⟩ := Program.Sure.exec h exec
  exact ⟨path, fun a l' same => returns _ same, fun x l' same => returns _ same⟩

variable [Std.Refl rely] [IsTrans σ rely]

@[simp] lemma sure_bind {Q : β → ρ → σ → Prop} (m : Script C R ρ ε α) (f : α → Script C R ρ ε β) :
    (m >>= f).Sure M rely guar Q X l s ↔
      m.Sure M rely guar (fun a l' s' => (f a).Sure M rely guar Q X l' s') (fun x l' s' => ∀ t, rely s' t → X x l' t)
        l s := by
  refine (Program.sure_bind (m l) _).trans (iff_of_eq (congrArg (Program.Sure M rely guar · (m l) s) ?_))
  funext ⟨r, l'⟩ s'
  cases r <;> rfl

@[simp] lemma sure_rescue (m : Script C R ρ ε α) (h : ε → Script C R ρ ε α) :
    (rescue m h).Sure M rely guar Q X l s ↔
      m.Sure M rely guar (fun a l' s' => ∀ t, rely s' t → Q a l' t) (fun x l' s' => (h x).Sure M rely guar Q X l' s')
        l s := by
  refine (Program.sure_bind (m l) _).trans (iff_of_eq (congrArg (Program.Sure M rely guar · (m l) s) ?_))
  funext ⟨r, l'⟩ s'
  cases r <;> rfl

@[simp] lemma sure_andFinally (m : Script C R ρ ε α) (last : Script C R ρ ε Unit) :
    (andFinally m last).Sure M rely guar Q X l s ↔
      m.Sure M rely guar
        (fun a l' s' => last.Sure M rely guar (fun _ l'' s'' => ∀ t, rely s'' t → Q a l'' t)
          (fun x l'' s'' => ∀ t, rely s'' t → X x l'' t) l' s')
        (fun x l' s' => last.Sure M rely guar (fun _ l'' s'' => ∀ t, rely s'' t → X x l'' t)
          (fun y l'' s'' => ∀ t, rely s'' t → X y l'' t) l' s') l s := by
  refine (Program.sure_bind (m l) _).trans (iff_of_eq (congrArg (Program.Sure M rely guar · (m l) s) ?_))
  funext ⟨r, l'⟩ s'
  refine propext ((Program.sure_bind (last l') _).trans ?_)
  cases r <;>
  · refine iff_of_eq (congrArg (Program.Sure M rely guar · (last l') s') ?_)
    funext ⟨r', l''⟩ s''
    cases r' <;> rfl

/-! ### A script that runs alone -/

lemma sure_ask_bind {c : C} {f : R c → Script C R ρ ε α} :
    (ask c >>= f).Sure M Eq guar Q X l s ↔
      (∀ s', M.torn c s s' → guar s s') ∧ ∀ r s', M.run c s r s' → guar s s' ∧ (f r).Sure M Eq guar Q X l s' := by
  simp

lemma sure_require_bind {β : Type} {r : Except ε β} {f : β → Script C R ρ ε α} :
    (require r >>= f).Sure M Eq guar Q X l s ↔
      (∀ b, r = .ok b → (f b).Sure M Eq guar Q X l s) ∧ ∀ x, r = .error x → X x l s := by
  simp

-- else the elaborator runs the script to see what its condition is
attribute [irreducible] Script.Sure

end Script

end Lib
