import Mathlib.Data.List.Basic

/-!
# Lines of a text

The lines that `read_text().splitlines()` yields. Reading a file turns `\r\n` and `\r` into `\n`; `splitlines` breaks a
line at `\n` and at the other characters that Unicode takes for line breaks. A text of lines that end in `\n` comes
back line by line when no line has a break inside, and such a break cuts its line in two.
-/

namespace Lib.Lines

/-- A line break of `str.splitlines`. -/
def isBreak (c : Char) : Bool :=
  c = '\n' || c = '\r' || c = '\x0b' || c = '\x0c' || c = '\x1c' || c = '\x1d' || c = '\x1e' || c = '\x85' ||
    c = '\u2028' || c = '\u2029'

/-- Universal newlines, as `read_text` reads them. -/
def newlines : List Char → List Char
  | [] => []
  | '\r' :: '\n' :: cs => '\n' :: newlines cs
  | c :: cs => (if c = '\r' then '\n' else c) :: newlines cs

/-- `str.splitlines`, of a text without `\r`. -/
def splitlines : List Char → List (List Char)
  | [] => []
  | c :: cs =>
    if isBreak c then [] :: splitlines cs
    else match splitlines cs with
      | [] => [[c]]
      | line :: lines => (c :: line) :: lines

def linesOf (text : List Char) : List (List Char) := splitlines (newlines text)

def unlines (lines : List (List Char)) : List Char := lines.flatMap (· ++ ['\n'])

def Plain (line : List Char) : Prop := ∀ c ∈ line, isBreak c = false

variable {text line : List Char}

lemma newlines_eq_self (none_ : '\r' ∉ text) : newlines text = text := by
  fun_induction newlines text with
  | case1 => rfl
  | case2 cs ih => exact absurd List.mem_cons_self none_
  | case3 c cs _ ih =>
    rw [List.mem_cons, not_or] at none_
    rw [if_neg fun h => none_.1 h.symm, ih none_.2]

lemma splitlines_line (plain : Plain line) (rest : List Char) :
    splitlines (line ++ '\n' :: rest) = line :: splitlines rest := by
  induction line with
  | nil => rfl
  | cons c line ih =>
    have whole := ih fun d within => plain d (List.mem_cons_of_mem _ within)
    rw [List.cons_append, splitlines, plain c List.mem_cons_self, whole]
    rfl

lemma unlines_cons (line : List Char) (lines : List (List Char)) :
    unlines (line :: lines) = line ++ '\n' :: unlines lines := by
  simp [unlines]

lemma newlines_unlines {lines : List (List Char)} (none_ : ∀ line ∈ lines, '\r' ∉ line) :
    newlines (unlines lines) = unlines lines := by
  apply newlines_eq_self
  intro within
  rw [unlines, List.mem_flatMap] at within
  obtain ⟨line, member, among⟩ := within
  rcases List.mem_append.1 among with inside | inside
  · exact none_ line member inside
  · cases List.mem_singleton.1 inside

/-- Line by line. -/
theorem linesOf_unlines {lines : List (List Char)} (plain : ∀ line ∈ lines, Plain line) :
    linesOf (unlines lines) = lines := by
  rw [linesOf, newlines_unlines]
  · induction lines with
    | nil => rfl
    | cons line lines ih =>
      rw [unlines_cons, splitlines_line (plain line List.mem_cons_self),
        ih fun other member => plain other (List.mem_cons_of_mem _ member)]
  · intro line member within
    cases plain line member _ within

lemma plain_of_mem_splitlines (member : line ∈ splitlines text) : Plain line := by
  induction text generalizing line with
  | nil => cases member
  | cons c cs ih =>
    rw [splitlines] at member
    cases breaks : isBreak c with
    | true =>
      rw [breaks, if_pos rfl] at member
      rcases List.mem_cons.1 member with rfl | later
      · exact fun d within => by cases within
      · exact ih later
    | false =>
      rw [breaks, if_neg Bool.false_ne_true] at member
      have longer {line : List Char} (plain : Plain line) : Plain (c :: line) := fun d within => by
        rcases List.mem_cons.1 within with rfl | inside
        · exact breaks
        · exact plain d inside
      cases lines : splitlines cs with
      | nil =>
        rw [lines] at member
        cases List.mem_singleton.1 member
        exact longer fun d within => by cases within
      | cons first others =>
        rw [lines] at member ih
        rcases List.mem_cons.1 member with rfl | later
        · exact longer (ih List.mem_cons_self)
        · exact ih (List.mem_cons_of_mem _ later)

lemma splitlines_behind (before behind : List Char) :
    ∃ line lines, splitlines (before ++ '\n' :: behind) = line :: lines ∧ splitlines behind <:+ lines := by
  induction before with
  | nil => exact ⟨[], _, rfl, List.suffix_rfl⟩
  | cons c before ih =>
    obtain ⟨line, lines, are, ends⟩ := ih
    rw [List.cons_append, splitlines, are]
    cases isBreak c with
    | true => exact ⟨_, _, rfl, ends.trans (List.suffix_cons _ _)⟩
    | false => exact ⟨_, _, rfl, ends⟩

lemma newlines_behind (before behind : List Char) :
    ∃ before', newlines (before ++ '\n' :: behind) = before' ++ '\n' :: newlines behind := by
  fun_induction newlines before with
  | case1 => exact ⟨[], rfl⟩
  | case2 cs ih =>
    obtain ⟨before', are⟩ := ih
    exact ⟨'\n' :: before', by rw [List.cons_append, List.cons_append, newlines, are, List.cons_append]⟩
  | case3 c cs other ih =>
    obtain ⟨before', are⟩ := ih
    cases cs with
    | nil =>
      by_cases return_ : c = '\r'
      · subst return_
        exact ⟨[], rfl⟩
      · exact ⟨[c], by simp [newlines, return_]⟩
    | cons d ds =>
      refine ⟨(if c = '\r' then '\n' else c) :: before', ?_⟩
      rw [List.cons_append, newlines, are, List.cons_append]
      intro _ return_ feeds
      exact other ds return_ (congrArg (· :: ds) (List.cons.inj feeds).1)

lemma linesOf_behind (before behind : List Char) : (linesOf behind).Sublist (linesOf (before ++ '\n' :: behind)) := by
  obtain ⟨before', are⟩ := newlines_behind before behind
  obtain ⟨line, lines, split, ends⟩ := splitlines_behind before' (newlines behind)
  rw [linesOf, linesOf, are, split]
  exact ends.sublist.cons line

lemma linesOf_line (plain : Plain line) (rest : List Char) :
    linesOf (line ++ '\n' :: rest) = line :: linesOf rest := by
  have kept : newlines (line ++ '\n' :: rest) = line ++ '\n' :: newlines rest := by
    induction line with
    | nil => rfl
    | cons c line ih =>
      have no : c ≠ '\r' := fun is => by
        subst is
        cases plain _ List.mem_cons_self
      rw [List.cons_append, newlines, if_neg no, ih fun d within => plain d (List.mem_cons_of_mem _ within),
        List.cons_append]
      exact fun _ is _ => no is
  rw [linesOf, kept, splitlines_line plain, linesOf]

lemma linesOf_plain (plain : Plain line) : linesOf line = if line = [] then [] else [line] := by
  have unbroken : '\r' ∉ line := fun within => by cases plain _ within
  rw [linesOf, newlines_eq_self unbroken]
  induction line with
  | nil => rfl
  | cons c line ih =>
    rw [splitlines, plain c List.mem_cons_self,
      ih (fun d within => plain d (List.mem_cons_of_mem _ within)) fun within => unbroken (List.mem_cons_of_mem _ within)]
    cases line <;> rfl

end Lib.Lines
