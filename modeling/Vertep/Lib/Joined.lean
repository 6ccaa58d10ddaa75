import Mathlib.Data.List.Basic

/-!
# Joined texts

Parts joined by a separator can be told apart as long as no part has the separator in it.
-/

namespace Lib

variable {α : Type}

lemma append_cons_inj {x : α} {l l' r r' : List α} (h : x ∉ l) (h' : x ∉ l')
    (e : l ++ x :: r = l' ++ x :: r') : l = l' ∧ r = r' := by
  induction l generalizing l' with
  | nil =>
    cases l' with
    | nil => exact ⟨rfl, (List.cons.inj e).2⟩
    | cons a l' =>
      obtain ⟨rfl, _⟩ := List.cons.inj e
      exact absurd List.mem_cons_self h'
  | cons a l ih =>
    cases l' with
    | nil =>
      obtain ⟨rfl, _⟩ := List.cons.inj e
      exact absurd List.mem_cons_self h
    | cons a' l' =>
      obtain ⟨rfl, tails⟩ := List.cons.inj e
      have rest := ih (fun m => h (List.mem_cons_of_mem _ m)) (fun m => h' (List.mem_cons_of_mem _ m)) tails
      exact ⟨by rw [rest.1], rest.2⟩

lemma intercalate_inj {x : α} {ls ls' : List (List α)} (ne : ls ≠ []) (ne' : ls' ≠ [])
    (h : ∀ l ∈ ls, x ∉ l) (h' : ∀ l ∈ ls', x ∉ l) (e : [x].intercalate ls = [x].intercalate ls') :
    ls = ls' := by
  induction ls generalizing ls' with
  | nil => exact absurd rfl ne
  | cons l ls ih =>
    cases ls' with
    | nil => exact absurd rfl ne'
    | cons l' ls' =>
      have first := h l List.mem_cons_self
      have first' := h' l' List.mem_cons_self
      cases ls with
      | nil =>
        cases ls' with
        | nil => simpa using e
        | cons m' ls' =>
          have e : l = l' ++ x :: [x].intercalate (m' :: ls') := by simpa using e
          exact absurd (e ▸ List.mem_append_right l' List.mem_cons_self) first
      | cons m ls =>
        cases ls' with
        | nil =>
          have e : l ++ x :: [x].intercalate (m :: ls) = l' := by simpa using e
          exact absurd (e ▸ List.mem_append_right l List.mem_cons_self) first'
        | cons m' ls' =>
          have e : l ++ x :: [x].intercalate (m :: ls) = l' ++ x :: [x].intercalate (m' :: ls') := by
            simpa using e
          obtain ⟨rfl, tails⟩ := append_cons_inj first first' e
          have rest := ih (by simp) (by simp) (fun l m => h l (List.mem_cons_of_mem _ m))
            (fun l m => h' l (List.mem_cons_of_mem _ m)) tails
          rw [rest]

lemma join_inj {x : Char} {parts parts' : List String} (ne : parts ≠ []) (ne' : parts' ≠ [])
    (h : ∀ p ∈ parts, x ∉ p.toList) (h' : ∀ p ∈ parts', x ∉ p.toList)
    (e : (String.singleton x).intercalate parts = (String.singleton x).intercalate parts') :
    parts = parts' := by
  have lists := congrArg String.toList e
  simp only [String.toList_intercalate, String.toList_singleton] at lists
  refine List.map_injective_iff.2 (fun _ _ => String.toList_inj.1) (intercalate_inj ?_ ?_ ?_ ?_ lists)
  · simpa using ne
  · simpa using ne'
  · simpa using h
  · simpa using h'

end Lib
