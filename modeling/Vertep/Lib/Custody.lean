import Mathlib.Data.List.Nodup

/-!
# Custody of numbered things

Things numbered `0, 1, …, n - 1` move from a store to a holder and from the holder to a place of
delivery. `Custody` says that each of them is at one place, once; the three moves keep it.
-/

namespace Lib

variable {ι : Type}

/-- Each number below `n` is in the store, in the hand of one holder or delivered, once. -/
structure Custody (store : List ℕ) (hand : ι → Option ℕ) (delivered : List ℕ) (n : ℕ) : Prop where
  storeOnce : store.Nodup
  handOnce : ∀ {c c' t}, hand c = some t → hand c' = some t → c = c'
  deliveredOnce : delivered.Nodup
  store_hand : ∀ {c t}, t ∈ store → hand c ≠ some t
  store_delivered : ∀ {t}, t ∈ store → t ∉ delivered
  hand_delivered : ∀ {c t}, hand c = some t → t ∉ delivered
  all : ∀ {t}, t < n ↔ t ∈ store ∨ (∃ c, hand c = some t) ∨ t ∈ delivered

namespace Custody

variable {store delivered : List ℕ} {hand : ι → Option ℕ} {n : ℕ}

lemma empty : Custody [] (fun _ : ι => none) [] 0 where
  storeOnce := List.nodup_nil
  handOnce h := by cases h
  deliveredOnce := List.nodup_nil
  store_hand h := by cases h
  store_delivered h := by cases h
  hand_delivered h := by cases h
  all := by simp

lemma push (k : Custody store hand delivered n) : Custody (store ++ [n]) hand delivered (n + 1) := by
  have new : n ∉ store ∧ (∀ c, hand c ≠ some n) ∧ n ∉ delivered := by
    have h := (not_congr (k.all (t := n))).1 (Nat.lt_irrefl n)
    rw [not_or, not_or, not_exists] at h
    exact h
  refine ⟨?_, k.handOnce, k.deliveredOnce, ?_, ?_, k.hand_delivered, ?_⟩
  · exact List.nodup_append'.2 ⟨k.storeOnce, List.nodup_singleton n, by simpa using new.1⟩
  · intro c t ht
    rcases List.mem_append.1 ht with ht | ht
    · exact k.store_hand ht
    · rw [List.mem_singleton.1 ht]
      exact new.2.1 c
  · intro t ht
    rcases List.mem_append.1 ht with ht | ht
    · exact k.store_delivered ht
    · rw [List.mem_singleton.1 ht]
      exact new.2.2
  · intro t
    rw [Nat.lt_succ_iff_lt_or_eq, k.all, List.mem_append, List.mem_singleton]
    tauto

lemma take [DecidableEq ι] (k : Custody store hand delivered n) {c : ι} {t : ℕ} {rest : List ℕ}
    (free : hand c = none) (p : store.Perm (t :: rest)) :
    Custody rest (Function.update hand c (some t)) delivered n := by
  have nd := List.nodup_cons.1 (p.nodup_iff.1 k.storeOnce)
  have inStore : t ∈ store := p.mem_iff.2 List.mem_cons_self
  have hands : ∀ {c' u}, Function.update hand c (some t) c' = some u →
      (c' = c ∧ u = t) ∨ (c' ≠ c ∧ hand c' = some u) := by
    intro c' u h
    by_cases e : c' = c
    · subst e
      rw [Function.update_self] at h
      exact .inl ⟨rfl, (Option.some.inj h).symm⟩
    · rw [Function.update_of_ne e] at h
      exact .inr ⟨e, h⟩
  refine ⟨nd.2, ?_, k.deliveredOnce, ?_, ?_, ?_, ?_⟩
  · intro c₁ c₂ u h₁ h₂
    rcases hands h₁ with ⟨e₁, u₁⟩ | ⟨-, g₁⟩
    · rcases hands h₂ with ⟨e₂, -⟩ | ⟨-, g₂⟩
      · rw [e₁, e₂]
      · rw [u₁] at g₂
        exact absurd g₂ (k.store_hand inStore)
    · rcases hands h₂ with ⟨-, u₂⟩ | ⟨-, g₂⟩
      · rw [u₂] at g₁
        exact absurd g₁ (k.store_hand inStore)
      · exact k.handOnce g₁ g₂
  · intro c' u hu h
    rcases hands h with ⟨-, rfl⟩ | ⟨-, h⟩
    · exact nd.1 hu
    · exact k.store_hand (p.mem_iff.2 (List.mem_cons_of_mem _ hu)) h
  · intro u hu
    exact k.store_delivered (p.mem_iff.2 (List.mem_cons_of_mem _ hu))
  · intro c' u h
    rcases hands h with ⟨-, rfl⟩ | ⟨-, h⟩
    · exact k.store_delivered inStore
    · exact k.hand_delivered h
  · intro u
    rw [k.all, p.mem_iff, List.mem_cons]
    constructor
    · rintro ((rfl | h) | ⟨c', h⟩ | h)
      · exact .inr (.inl ⟨c, Function.update_self ..⟩)
      · exact .inl h
      · refine .inr (.inl ⟨c', ?_⟩)
        have ne : c' ≠ c := by
          rintro rfl
          rw [free] at h
          cases h
        rw [Function.update_of_ne ne, h]
      · exact .inr (.inr h)
    · rintro (h | ⟨c', h⟩ | h)
      · exact .inl (.inr h)
      · rcases hands h with ⟨-, rfl⟩ | ⟨-, h⟩
        · exact .inl (.inl rfl)
        · exact .inr (.inl ⟨c', h⟩)
      · exact .inr (.inr h)

lemma give [DecidableEq ι] (k : Custody store hand delivered n) {c : ι} {t : ℕ} (held : hand c = some t) :
    Custody store (Function.update hand c none) (delivered ++ [t]) n := by
  have hands : ∀ {c' u}, Function.update hand c none c' = some u → c' ≠ c ∧ hand c' = some u := by
    intro c' u h
    by_cases e : c' = c
    · subst e
      rw [Function.update_self] at h
      cases h
    · rw [Function.update_of_ne e] at h
      exact ⟨e, h⟩
  refine ⟨k.storeOnce, ?_, ?_, ?_, ?_, ?_, ?_⟩
  · intro c₁ c₂ u h₁ h₂
    exact k.handOnce (hands h₁).2 (hands h₂).2
  · exact List.nodup_append'.2 ⟨k.deliveredOnce, List.nodup_singleton t,
      by simpa using k.hand_delivered held⟩
  · intro c' u hu h
    exact k.store_hand hu (hands h).2
  · intro u hu h
    rcases List.mem_append.1 h with h | h
    · exact k.store_delivered hu h
    · rw [List.mem_singleton.1 h] at hu
      exact k.store_hand hu held
  · intro c' u h hd
    obtain ⟨ne, h⟩ := hands h
    rcases List.mem_append.1 hd with hd | hd
    · exact k.hand_delivered h hd
    · rw [List.mem_singleton.1 hd] at h
      exact ne (k.handOnce h held)
  · intro u
    rw [k.all, List.mem_append, List.mem_singleton]
    constructor
    · rintro (h | ⟨c', h⟩ | h)
      · exact .inl h
      · by_cases e : c' = c
        · rw [e, held] at h
          exact .inr (.inr (.inr (Option.some.inj h).symm))
        · exact .inr (.inl ⟨c', by rw [Function.update_of_ne e, h]⟩)
      · exact .inr (.inr (.inl h))
    · rintro (h | ⟨c', h⟩ | h | rfl)
      · exact .inl h
      · exact .inr (.inl ⟨c', (hands h).2⟩)
      · exact .inr (.inr h)
      · exact .inr (.inl ⟨c, held⟩)

lemma hands_empty_iff (k : Custody store hand delivered n) :
    (∀ c, hand c = none) ↔ ∀ t < n, t ∈ store ∨ t ∈ delivered := by
  constructor
  · intro free t ht
    rcases k.all.1 ht with h | ⟨c, h⟩ | h
    · exact .inl h
    · rw [free c] at h
      cases h
    · exact .inr h
  · intro both c
    cases h : hand c with
    | none => rfl
    | some t =>
      rcases both t (k.all.2 (.inr (.inl ⟨c, h⟩))) with h' | h'
      · exact absurd h (k.store_hand h')
      · exact absurd h' (k.hand_delivered h)

end Custody

end Lib
