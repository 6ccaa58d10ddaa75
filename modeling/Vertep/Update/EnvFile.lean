import Vertep.Lib.Dict
import Vertep.Lib.Lines
import Vertep.Lib.Text

/-!
# The `.env` file of a deployment (`scripts/apply-deployment.py`)

`update_env` rewrites the file row by row and `environment_value` reads it back. Both take the file apart with
`splitlines`, while `env_value` refuses only `\r`, `\n` and NUL in a value: a value with another line break is cut
when it is read, and so is a line of the file that has one. An update keeps the values and the other lines exactly
where there is no such break, and where no line that is taken for a comment sets a key that is updated to something
else.
-/

namespace Vertep.EnvFile
open Lib Lines

abbrev Text := List Char

/-! ## The source -/

def envValue (value name : Text) : Except String Text :=
  if ∃ c ∈ value, c ∈ ['\r', '\n', '\x00'] then .error s!"Некоректне значення {String.ofList name}" else .ok value

/-- `line.lstrip().startswith("#")`. -/
def Comment (line : Text) : Prop := (line.dropWhile Space).head? = some '#'

instance : DecidablePred Comment := fun _ => inferInstanceAs (Decidable (_ = _))

/-- The key that a line sets, for `update_env`. -/
def keyOf (line : Text) : Option Text :=
  if '=' ∈ line ∧ ¬ Comment line then some (line.takeWhile (· ≠ '=')) else none

/-- `line.split("=", 1)[1]`. -/
def afterSign (line : Text) : Text := (line.dropWhile (· ≠ '=')).tail

def environmentValue (text name default : Text) : Text :=
  match (linesOf text).find? (fun line => name ++ ['='] <+: line) with
  | some line => afterSign line
  | none => default

/-- The row written for a line. -/
def rowOf (values : Dict Text Text) (line : Text) : Text :=
  match keyOf line with
  | none => line
  | some key => ((values.get? key).map (key ++ '=' :: ·)).getD line

def linesIn (file : Option Text) : List Text := (file.map linesOf).getD []

def missing (values : Dict Text Text) (lines : List Text) : List (Text × Text) :=
  values.entries.filter fun e => e.1 ∉ lines.filterMap keyOf

def rowsOf (file : Option Text) (values : Dict Text Text) : List Text :=
  (linesIn file).map (rowOf values) ++ (missing values (linesIn file)).map fun e => e.1 ++ '=' :: e.2

/-- `update_env`, of the file where there is one. -/
def updateEnv (file : Option Text) (values : Dict Text Text) : Except String Text := do
  values.entries.forM fun e => discard (envValue e.2 e.1)
  return ['\n'].intercalate (rowsOf file values) ++ ['\n']

/-! ## Updates that are accepted -/

/-- Keys without a sign or a line break that are no comment. -/
structure Update where
  values : Dict Text Text
  sign : ∀ e ∈ values.entries, '=' ∉ e.1
  plain : ∀ e ∈ values.entries, Plain e.1
  word : ∀ e ∈ values.entries, e.1.head? ≠ some '#'
  accepted : ∀ e ∈ values.entries, envValue e.2 e.1 = .ok e.2

def run (file : Option Text) : List Update → Option Text
  | [] => file
  | u :: us => run (match updateEnv file u.values with | .ok text => some text | .error _ => file) us

/-- `text.split("\n")`, without what is empty at the end. -/
def lfLines : Text → List Text
  | [] => []
  | c :: cs =>
    if c = '\n' then [] :: lfLines cs
    else match lfLines cs with
      | [] => [[c]]
      | line :: lines => (c :: line) :: lines

def unassigned (us : List Update) (text : Text) : List Text :=
  (lfLines text).filter fun line => ∀ u ∈ us, ∀ key ∈ keyOf line, key ∉ u.values.keys

/-- After the update, and others after it, its values are read back and the lines that set no key are still there. -/
structure Holds (file : Option Text) (u : Update) (laters : List Update) : Prop where
  values : ∀ e ∈ u.values.entries, ∀ default,
    (run file (u :: laters)).map (environmentValue · e.1 default) = some e.2
  lines : (unassigned (u :: laters) (file.getD [])).Sublist (lfLines ((run file (u :: laters)).getD []))

/-- Every update of the run holds, and goes on to hold while other keys are updated. -/
def Kept (file : Option Text) (us : List Update) : Prop :=
  ∀ before u laters, before ++ u :: laters <+: us → (∀ w ∈ laters, w.values.keys.Disjoint u.values.keys) →
    Holds (run file before) u laters

/-- No line break in a value or in a line that stays, and no comment that sets a key to something else. -/
structure Meets (file : Option Text) (u : Update) : Prop where
  values : ∀ e ∈ u.values.entries, Plain e.2
  lines : ∀ line ∈ unassigned [u] (file.getD []), Plain line
  comments : ∀ e ∈ u.values.entries, Comment e.1 →
    ∀ default, environmentValue (file.getD []) e.1 default = default ∨ environmentValue (file.getD []) e.1 default = e.2

/-! ## Lines and their names -/

def nameOf (line : Text) : Option Text := if '=' ∈ line then some (line.takeWhile (· ≠ '=')) else none

variable {name line : Text}

lemma before_sign (sign : '=' ∉ name) : ∀ c ∈ name, decide (c ≠ '=') = true :=
  fun _ within => decide_eq_true fun is => sign (is ▸ within)

lemma nameOf_pair (sign : '=' ∉ name) (value : Text) : nameOf (name ++ '=' :: value) = some name := by
  rw [nameOf, if_pos (List.mem_append_right _ List.mem_cons_self), List.takeWhile_append_of_pos (before_sign sign)]
  simp

lemma afterSign_pair (sign : '=' ∉ name) (value : Text) : afterSign (name ++ '=' :: value) = value := by
  rw [afterSign, List.dropWhile_append_of_pos (before_sign sign)]
  simp

lemma nameOf_eq_some :
    nameOf line = some name ↔ '=' ∉ name ∧ ∃ value, line = name ++ '=' :: value := by
  constructor
  · intro named
    rw [nameOf] at named
    split at named
    · next within =>
      obtain ⟨name', value, rfl, sign⟩ := List.eq_append_cons_of_mem within
      rw [List.takeWhile_append_of_pos (before_sign sign)] at named
      simp only [ne_eq, not_true_eq_false, decide_false, Bool.false_eq_true, not_false_eq_true,
        List.takeWhile_cons_of_neg, List.append_nil, Option.some.injEq] at named
      exact ⟨named ▸ sign, value, named ▸ rfl⟩
    · cases named
  · rintro ⟨sign, value, rfl⟩
    exact nameOf_pair sign value

lemma prefix_iff (sign : '=' ∉ name) (line : Text) : name ++ ['='] <+: line ↔ nameOf line = some name := by
  rw [nameOf_eq_some]
  constructor
  · rintro ⟨value, rfl⟩
    exact ⟨sign, value, by rw [List.append_assoc, List.singleton_append]⟩
  · rintro ⟨-, value, rfl⟩
    exact ⟨value, by rw [List.append_assoc, List.singleton_append]⟩

lemma comment_iff (named : nameOf line = some name) : Comment line ↔ Comment name := by
  obtain ⟨-, value, rfl⟩ := nameOf_eq_some.1 named
  rw [Comment, Comment, List.dropWhile_append]
  cases rest : name.dropWhile Space with
  | nil => simp [Space]
  | cons c cs => simp

lemma keyOf_eq (line : Text) : keyOf line = if Comment line then none else nameOf line := by
  rw [keyOf, nameOf]
  split <;> split <;> simp_all

lemma rowOf_cases (values : Dict Text Text) (line : Text) :
    rowOf values line = line ∧ (∀ key ∈ keyOf line, key ∉ values.keys) ∨
      ∃ key value, keyOf line = some key ∧ values.get? key = some value ∧ rowOf values line = key ++ '=' :: value := by
  rw [rowOf]
  cases is : keyOf line with
  | none => exact .inl ⟨rfl, fun _ within => by cases within⟩
  | some key =>
    cases found : values.get? key with
    | none =>
      refine .inl ⟨by simp only [found, Option.map_none, Option.getD_none], fun key' within => ?_⟩
      cases within
      exact Dict.get?_eq_none.1 found
    | some value => exact .inr ⟨key, value, rfl, found, by simp only [found, Option.map_some, Option.getD_some]⟩

lemma nameOf_of_keyOf {key : Text} (is : keyOf line = some key) : nameOf line = some key ∧ ¬ Comment line := by
  rw [keyOf_eq] at is
  split at is
  · cases is
  · next not => exact ⟨is, not⟩

lemma nameOf_rowOf (values : Dict Text Text) (line : Text) : nameOf (rowOf values line) = nameOf line := by
  rcases rowOf_cases values line with ⟨same, -⟩ | ⟨key, value, is, -, same⟩
  · rw [same]
  · have named := (nameOf_of_keyOf is).1
    rw [same, named]
    exact nameOf_pair (nameOf_eq_some.1 named).1 value

/-! ## What a name is set to -/

def setTo (lines : List Text) (name : Text) : Option Text :=
  (lines.find? fun line => nameOf line = some name).map afterSign

lemma environmentValue_eq (sign : '=' ∉ name) (text default : Text) :
    environmentValue text name default = (setTo (linesOf text) name).getD default := by
  rw [environmentValue, setTo]
  simp only [prefix_iff sign]
  cases (linesOf text).find? fun line => nameOf line = some name <;> rfl

lemma setTo_pairs {es : List (Text × Text)} (sign : ∀ e ∈ es, '=' ∉ e.1) (name : Text) :
    setTo (es.map fun e => e.1 ++ '=' :: e.2) name = Dict.lookup name es := by
  induction es with
  | nil => rfl
  | cons e es ih =>
    have ih := ih fun e' member => sign e' (List.mem_cons_of_mem _ member)
    have first := sign e List.mem_cons_self
    rw [setTo] at ih
    rw [setTo, List.map_cons, List.find?_cons, nameOf_pair first, Dict.lookup]
    by_cases is : e.1 = name
    · simp [is, afterSign_pair (is ▸ first)]
    · simpa [is] using ih

lemma lookup_missing (values : Dict Text Text) (lines : List Text)
    (never : name ∉ lines.filterMap keyOf) : Dict.lookup name (missing values lines) = values.get? name := by
  rw [missing, Dict.get?]
  induction values.entries with
  | nil => rfl
  | cons e es ih =>
    rw [Dict.lookup]
    by_cases is : e.1 = name
    · rw [if_pos is, List.filter_cons_of_pos (by simpa [is] using never), Dict.lookup, if_pos is]
    · rw [if_neg is, ← ih, List.filter_cons]
      split
      · rw [Dict.lookup, if_neg is]
      · rfl

lemma setTo_rowsOf (file : Option Text) (u : Update) (name : Text) :
    setTo (rowsOf file u.values) name =
      if Comment name then (setTo (linesIn file) name).or (u.values.get? name)
      else (u.values.get? name).or (setTo (linesIn file) name) := by
  have rows : setTo (rowsOf file u.values) name =
      (((linesIn file).find? fun line => nameOf line = some name).map (afterSign ∘ rowOf u.values)).or
        (Dict.lookup name (missing u.values (linesIn file))) := by
    have sign : ∀ e ∈ missing u.values (linesIn file), '=' ∉ e.1 := fun e member => u.sign e (List.mem_filter.1 member).1
    rw [← setTo_pairs sign, setTo, rowsOf, List.find?_append, List.find?_map, Option.map_or, Option.map_map, setTo]
    simp only [Function.comp_def, nameOf_rowOf]
  rw [rows, setTo]
  cases found : (linesIn file).find? fun line => nameOf line = some name with
  | none =>
    have never : name ∉ (linesIn file).filterMap keyOf := fun within => by
      obtain ⟨line, member, is⟩ := List.mem_filterMap.1 within
      simpa [(nameOf_of_keyOf is).1] using List.find?_eq_none.1 found line member
    rw [lookup_missing _ _ never]
    simp
  | some line =>
    have named : nameOf line = some name := by simpa using List.find?_some found
    rcases rowOf_cases u.values line with ⟨same, none_⟩ | ⟨key, value, is, bound, same⟩
    · split
      · simp [same]
      · next not =>
        have is : keyOf line = some name := by rw [keyOf_eq, if_neg (not ∘ (comment_iff named).1), named]
        simp [same, Dict.get?_eq_none.2 (none_ name is)]
    · have own := nameOf_of_keyOf is
      cases named.symm.trans own.1
      rw [if_neg (own.2 ∘ (comment_iff named).2), bound]
      simp [same, afterSign_pair (nameOf_eq_some.1 named).1]

/-! ## The file that is written -/

def written (file : Option Text) (u : Update) : List Text :=
  if rowsOf file u.values = [] then [[]] else rowsOf file u.values

lemma intercalate_newline {rows : List Text} (some_ : rows ≠ []) : ['\n'].intercalate rows ++ ['\n'] = unlines rows := by
  induction rows with
  | nil => cases some_ rfl
  | cons row rows ih =>
    cases rows with
    | nil => simp [List.intercalate, unlines]
    | cons next rows =>
      rw [unlines_cons, ← ih (List.cons_ne_nil _ _)]
      simp [List.intercalate]

lemma updateEnv_eq (file : Option Text) (u : Update) : updateEnv file u.values = .ok (unlines (written file u)) := by
  have accepted (es : List (Text × Text)) (all : ∀ e ∈ es, envValue e.2 e.1 = .ok e.2) :
      (es.forM fun e => discard (envValue e.2 e.1)) = .ok () := by
    induction es with
    | nil => rfl
    | cons e es ih =>
      rw [List.forM, all e List.mem_cons_self]
      exact ih fun e' member => all e' (List.mem_cons_of_mem _ member)
  rw [updateEnv, accepted _ u.accepted, written]
  split
  · next empty =>
    rw [empty]
    rfl
  · next some_ => exact congrArg Except.ok (intercalate_newline some_)

lemma run_cons (file : Option Text) (u : Update) (us : List Update) :
    run file (u :: us) = run (some (unlines (written file u))) us := by
  rw [run, updateEnv_eq]

lemma run_one (file : Option Text) (u : Update) : run file [u] = some (unlines (written file u)) := run_cons file u []

lemma run_append (file : Option Text) (us laters : List Update) : run file (us ++ laters) = run (run file us) laters := by
  induction us generalizing file with
  | nil => rfl
  | cons u us ih => exact ih _

lemma setTo_written (file : Option Text) (u : Update) (name : Text) :
    setTo (written file u) name = setTo (rowsOf file u.values) name := by
  rw [written]
  split
  · next empty =>
    rw [empty]
    rfl
  · rfl

lemma rowsOf_sublist (file : Option Text) (u : Update) : (rowsOf file u.values).Sublist (written file u) := by
  rw [written]
  split
  · next empty =>
    rw [empty]
    exact List.nil_sublist _
  · exact List.Sublist.refl _

variable {file : Option Text} {u : Update}

lemma plain_written (values : ∀ e ∈ u.values.entries, Plain e.2) :
    ∀ row ∈ written file u, Plain row := by
  have pair {e : Text × Text} (member : e ∈ u.values.entries) : Plain (e.1 ++ '=' :: e.2) := by
    intro c within
    rcases List.mem_append.1 within with inside | inside
    · exact u.plain e member c inside
    · rcases List.mem_cons.1 inside with rfl | inside
      · rfl
      · exact values e member c inside
  have old {line : Text} (member : line ∈ linesIn file) : Plain line := by
    cases file with
    | none => cases member
    | some text => exact plain_of_mem_splitlines member
  intro row member
  rw [written] at member
  split at member
  · cases List.mem_singleton.1 member
    exact fun c within => by cases within
  · rcases List.mem_append.1 member with changed | added
    · obtain ⟨line, among, rfl⟩ := List.mem_map.1 changed
      rcases rowOf_cases u.values line with ⟨same, -⟩ | ⟨key, value, -, bound, same⟩
      · rw [same]
        exact old among
      · rw [same]
        exact pair (Dict.mem_entries_iff.2 bound)
    · obtain ⟨e, among, rfl⟩ := List.mem_map.1 added
      exact pair (List.mem_filter.1 among).1

/-! ## The lines that stay -/

lemma lfLines_line (whole : '\n' ∉ line) (rest : Text) :
    lfLines (line ++ '\n' :: rest) = line :: lfLines rest := by
  induction line with
  | nil => rfl
  | cons c line ih =>
    rw [List.mem_cons, not_or] at whole
    rw [List.cons_append, lfLines, if_neg (Ne.symm whole.1), ih whole.2]

lemma lfLines_last (whole : '\n' ∉ line) : lfLines line = if line = [] then [] else [line] := by
  induction line with
  | nil => rfl
  | cons c line ih =>
    rw [List.mem_cons, not_or] at whole
    rw [lfLines, if_neg (Ne.symm whole.1), ih whole.2]
    cases line <;> rfl

lemma lfLines_unlines {rows : List Text} (plain : ∀ row ∈ rows, Plain row) : lfLines (unlines rows) = rows := by
  induction rows with
  | nil => rfl
  | cons row rows ih =>
    rw [unlines_cons, lfLines_line, ih fun other member => plain other (List.mem_cons_of_mem _ member)]
    exact fun within => by cases plain row List.mem_cons_self _ within

/-- The lines without a break inside are lines for `splitlines` as well. -/
lemma lfLines_sublist (p : Text → Bool) (text : Text) (plain : ∀ line ∈ (lfLines text).filter p, Plain line) :
    ((lfLines text).filter p).Sublist (linesOf text) := by
  -- by the length of the text, which is a line without `\n` and what stands behind it
  induction size : text.length using Nat.strongRecOn generalizing text with
  | _ n ih =>
    by_cases breaks : '\n' ∈ text
    · obtain ⟨line, rest, rfl, whole⟩ := List.eq_append_cons_of_mem breaks
      have shorter : rest.length < n := by
        rw [← size, List.length_append, List.length_cons]
        omega
      rw [lfLines_line whole, List.filter_cons] at plain ⊢
      split at plain
      · next keeps =>
        rw [if_pos keeps, linesOf_line (plain line List.mem_cons_self)]
        exact (ih _ shorter rest (fun l member => plain l (List.mem_cons_of_mem _ member)) rfl).cons_cons line
      · next drops =>
        rw [if_neg drops]
        exact (ih _ shorter rest plain rfl).trans (linesOf_behind line rest)
    · rw [lfLines_last breaks] at plain ⊢
      split
      · exact List.nil_sublist _
      · next some_ =>
        rw [if_neg some_, List.filter_cons] at plain
        rw [List.filter_cons]
        split
        · next keeps =>
          rw [if_pos keeps] at plain
          rw [linesOf_plain (plain text List.mem_cons_self), if_neg some_, List.filter_nil]
        · exact List.nil_sublist _

variable {us laters : List Update}

lemma unassigned_sub (among : u ∈ us) {text : Text}
    (member : line ∈ unassigned us text) : line ∈ unassigned [u] text := by
  simp only [unassigned, List.mem_filter, decide_eq_true_eq, List.forall_mem_singleton] at member ⊢
  exact ⟨member.1, member.2 u among⟩

lemma unassigned_step (among : u ∈ us) (meets : Meets file u) :
    (unassigned us (file.getD [])).Sublist (unassigned us (unlines (written file u))) := by
  have plain : ∀ line ∈ unassigned us (file.getD []), Plain line :=
    fun line member => meets.lines line (unassigned_sub among member)
  have rows : (unassigned us (file.getD [])).Sublist (written file u) := by
    have stays : (unassigned us (file.getD [])).map (rowOf u.values) = unassigned us (file.getD []) := by
      refine List.map_congr_left (fun line member => ?_) |>.trans (List.map_id _)
      simp only [unassigned, List.mem_filter, decide_eq_true_eq] at member
      rcases rowOf_cases u.values line with ⟨same, -⟩ | ⟨key, value, is, bound, -⟩
      · exact same
      · exact absurd (Dict.mem_keys_iff.2 ⟨value, bound⟩) (member.2 u among key is)
    have old : ((unassigned us (file.getD [])).map (rowOf u.values)).Sublist ((linesIn file).map (rowOf u.values)) := by
      cases file with
      | none => exact List.nil_sublist _
      | some text => exact (lfLines_sublist _ text plain).map _
    rw [stays] at old
    exact (old.trans (List.sublist_append_left _ _)).trans (rowsOf_sublist file u)
  have kept := rows.filter fun line => decide (∀ w ∈ us, ∀ key ∈ keyOf line, key ∉ w.values.keys)
  rw [unassigned, List.filter_filter] at kept
  rw [unassigned, unassigned, lfLines_unlines (plain_written meets.values)]
  simpa only [Bool.and_self] using kept

/-! ## Runs -/

def AllMeet (file : Option Text) (us : List Update) : Prop :=
  ∀ before u, before ++ [u] <+: us → Meets (run file before) u

lemma AllMeet.head (all : AllMeet file (u :: us)) :
    Meets file u ∧ AllMeet (some (unlines (written file u))) us := by
  constructor
  · exact all [] u (List.prefix_append [u] us)
  · intro before w starts
    have later := all (u :: before) w (List.prefix_cons_inj u |>.2 starts)
    rwa [run_cons] at later

lemma linesIn_written (meets : Meets file u) :
    linesIn (some (unlines (written file u))) = written file u :=
  linesOf_unlines (plain_written meets.values)

lemma setTo_run (all : AllMeet file us)
    (others : ∀ w ∈ us, name ∉ w.values.keys) : setTo (linesIn (run file us)) name = setTo (linesIn file) name := by
  induction us generalizing file with
  | nil => rfl
  | cons u us ih =>
    have unset := Dict.get?_eq_none.2 (others u List.mem_cons_self)
    rw [run_cons, ih all.head.2 fun w later => others w (List.mem_cons_of_mem _ later), linesIn_written all.head.1,
      setTo_written, setTo_rowsOf, unset]
    simp

lemma unassigned_run (among : ∀ u ∈ laters, u ∈ us)
    (all : AllMeet file laters) :
    (unassigned us (file.getD [])).Sublist (unassigned us ((run file laters).getD [])) := by
  induction laters generalizing file with
  | nil => exact List.Sublist.refl _
  | cons u laters ih =>
    rw [run_cons]
    exact (unassigned_step (among u List.mem_cons_self) all.head.1).trans
      (ih (fun w later => among w (List.mem_cons_of_mem _ later)) all.head.2)

lemma setTo_own (meets : Meets file u) {e : Text × Text}
    (member : e ∈ u.values.entries) : setTo (written file u) e.1 = some e.2 := by
  have bound : u.values.get? e.1 = some e.2 := Dict.mem_entries_iff.1 member
  rw [setTo_written, setTo_rowsOf, bound]
  split
  · next comment =>
    cases before : setTo (linesIn file) e.1 with
    | none => rfl
    | some value =>
      have reads (default : Text) : environmentValue (file.getD []) e.1 default = value := by
        cases file with
        | none => cases before
        | some text => rw [environmentValue_eq (u.sign e member)]; exact congrArg (Option.getD · default) before
      -- with a default that is not the value, the value is read
      rcases meets.comments e member comment (value ++ ['=']) with same | same
      · rw [reads] at same
        simp at same
      · exact congrArg some ((reads _).symm.trans same)
  · rfl

lemma holds_of_meets (all : AllMeet file (u :: laters))
    (others : ∀ w ∈ laters, w.values.keys.Disjoint u.values.keys) : Holds file u laters := by
  constructor
  · intro e member default
    have unset : ∀ w ∈ laters, e.1 ∉ w.values.keys :=
      fun w later within => others w later within (List.mem_map_of_mem member)
    have set : setTo (linesIn (run file (u :: laters))) e.1 = some e.2 := by
      rw [run_cons, setTo_run all.head.2 unset, linesIn_written all.head.1, setTo_own all.head.1 member]
    cases is : run file (u :: laters) with
    | none =>
      rw [is] at set
      cases set
    | some text =>
      rw [is] at set
      rw [Option.map_some, environmentValue_eq (u.sign e member), show setTo (linesOf text) e.1 = _ from set]
      rfl
  · exact (unassigned_run (fun _ member => member) all).trans List.filter_sublist

lemma meets_of_holds (holds : Holds file u []) : Meets file u := by
  have set {e : Text × Text} (member : e ∈ u.values.entries) :
      setTo (linesOf (unlines (written file u))) e.1 = some e.2 := by
    have reads (default : Text) := holds.values e member default
    simp only [run_one, Option.map_some, environmentValue_eq (u.sign e member), Option.some.injEq] at reads
    cases is : setTo (linesOf (unlines (written file u))) e.1 with
    | none =>
      simp only [is, Option.getD_none] at reads
      have := reads (e.2 ++ ['='])
      simp at this
    | some value =>
      rw [is] at reads
      exact congrArg some (reads [])
  have values : ∀ e ∈ u.values.entries, Plain e.2 := by
    intro e member c within
    obtain ⟨line, found, is⟩ := Option.map_eq_some_iff.1 (set member)
    apply plain_of_mem_splitlines (List.mem_of_find?_eq_some found) c
    rw [← is] at within
    exact List.dropWhile_suffix _ |>.subset (List.mem_of_mem_tail within)
  have lines : linesOf (unlines (written file u)) = _ := linesOf_unlines (plain_written values)
  refine ⟨values, fun line member => ?_, fun e member comment default => ?_⟩
  · have there := holds.lines.subset member
    rw [run_one, Option.getD_some, lfLines_unlines (plain_written values)] at there
    exact plain_written values line there
  · have now := set member
    rw [lines, setTo_written, setTo_rowsOf, if_pos comment] at now
    have bound : u.values.get? e.1 = some e.2 := Dict.mem_entries_iff.1 member
    rw [environmentValue_eq (u.sign e member)]
    cases file with
    | none => exact .inl rfl
    | some text =>
      rw [Option.getD_some]
      cases before : setTo (linesOf text) e.1 with
      | none => exact .inl rfl
      | some value =>
        rw [show setTo (linesIn (some text)) e.1 = _ from before] at now
        exact .inr (Option.some.inj now)

/-- An update keeps its values and the other lines, for as long as other keys are updated, exactly where every update
of the run meets the condition. -/
theorem kept_iff (file : Option Text) (us : List Update) : Kept file us ↔ AllMeet file us := by
  constructor
  · intro kept before u starts
    exact meets_of_holds (kept before u [] starts fun _ member => by cases member)
  · intro all before u laters starts others
    apply holds_of_meets _ others
    intro more w begins
    have whole : (before ++ more) ++ [w] <+: us := by
      rw [List.append_assoc]
      exact ((List.prefix_append_right_inj before).2 begins).trans starts
    have meets := all (before ++ more) w whole
    rwa [run_append] at meets

/-- A password with a line separator inside. -/
def separated : Update where
  values := ⟨[("PASSWORD".toList, "a\u2028b".toList)], by decide⟩
  sign := by decide
  plain := by simp [Plain, isBreak]
  word := by decide
  accepted := by
    intro e member
    cases List.mem_singleton.1 member
    rfl

/-- It is cut at the separator. -/
theorem separated_cut : ¬ Kept (some []) [separated] := by
  intro kept
  have holds := kept [] separated [] List.prefix_rfl fun _ member => by cases member
  have plain := (meets_of_holds holds).values _ List.mem_cons_self
  exact absurd (plain '\u2028' (by decide)) (by decide)

end Vertep.EnvFile
