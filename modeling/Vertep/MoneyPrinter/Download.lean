import Vertep.Lib.JsonDict

/-!
# What a render downloads (`adapters/providers/video_engines.py`)

A render polls its task until the runtime answers that it is complete, and downloads the first output that this answer
refers to. `parse_output_reference` takes the host off the reference, normalises the path and refuses what does not
begin with `tasks`; which task comes next it does not ask. So the path that is requested stays with the polled task
exactly when the reference names this task, and has nothing that the runtime decodes to `..`.
-/

namespace Vertep.MoneyPrinter.Download
open Lib JsonText

/-! ## References -/

def slash : Text := ['/']

def dots : Text := ['.', '.']

def tasks : Text := "tasks".toList

/-- The components that `posixpath.normpath` leaves, behind those that are done, the last of them first. -/
def resolve (rooted : Bool) (done : List Text) : List Text → List Text
  | [] => done.reverse
  | comp :: comps =>
    if comp = [] ∨ comp = ['.'] then resolve rooted done comps
    else if comp ≠ dots ∨ (rooted = false ∧ done = []) ∨ done.head? = some dots then resolve rooted (comp :: done) comps
    else resolve rooted done.tail comps

/-- `posixpath.normpath`: two slashes stay in front, three are one. -/
def normpath (path : Text) : Text :=
  let slashes := if ¬ slash <+: path then 0 else if "//".toList <+: path ∧ ¬ "///".toList <+: path then 2 else 1
  let normal := List.replicate slashes '/' ++ slash.intercalate (resolve (slashes ≠ 0) [] (path.splitOn '/'))
  if normal = [] then ['.'] else normal

/-- The path of a reference, without the host. -/
def located (value : Text) : Text :=
  let behind (rest : Text) : Text := '/' :: (rest.dropWhile (· ≠ '/')).tail
  if "http://".toList <+: value then behind (value.drop 7)
  else if "https://".toList <+: value then behind (value.drop 8)
  else value

/-- `str.strip`. -/
def trimmed (reference : Text) : Text := ((reference.dropWhile Space).reverse.dropWhile Space).reverse

def partsOf (reference : Text) : List Text :=
  let path := (normpath (located (trimmed reference))).map fun c => if c = '\\' then '/' else c
  ((path.dropWhile (· = '/')).splitOn '/').filter fun part => part ≠ [] ∧ part ≠ ['.']

/-- The parts without `tasks` in front, where others follow. -/
def unprefixed (parts : List Text) : List Text :=
  if 1 < parts.length ∧ parts.head? = some tasks then parts.tail else parts

/-- `parse_output_reference`, with the code of the contract error. -/
def parseOutputReference (reference : Text) : Except String Text :=
  if trimmed reference = [] then .error "upstream_result_missing_output"
  else
    let parts := partsOf reference
    if parts = [] ∨ dots ∈ parts ∨ parts.head? ≠ some tasks then .error "upstream_output_path_unsafe"
    else .ok (slash.intercalate (unprefixed parts))

/-! ## Status answers -/

section
variable {φ : Type}

/-- What a read of the task's status comes back with. -/
inductive Answer (φ : Type) where
  | refused (code : String)
  | undecodable
  | body (value : Value φ)

/-- The state of a task, with the outputs of one that is complete. -/
structure Status where
  state : String
  outputs : List Text

def statusStates (state : ℤ) : String :=
  if state = 4 then "processing" else if state = 1 then "complete" else if state = -1 then "failed" else "unknown"

/-- The references, where every element is one. -/
def references : Values φ → Option (List Text)
  | .nil => some []
  | .cons (.str s) vs => if s = [] then none else (references vs).map (s :: ·)
  | .cons _ _ => none

def mapUpstreamStatus : Value φ → Except String Status
  | .obj payload =>
    match payload.get? "state".toList with
    | some (.int state) =>
      if statusStates state = "complete" then
        match payload.get? "videos".toList with
        | some (.arr (.cons v vs)) =>
          match references (.cons v vs) with
          | some outputs => .ok ⟨"complete", outputs⟩
          | none => .error "upstream_result_missing_output"
        | _ => .error "upstream_result_missing_output"
      else .ok ⟨statusStates state, []⟩
    | _ => .error "upstream_status_malformed"
  | _ => .error "upstream_status_malformed"

def statusOf : Answer φ → Except String Status
  | .refused code => .error code
  | .undecodable => .error "upstream_schema_unsupported"
  | .body (.obj fields) => mapUpstreamStatus ((fields.get? "data".toList).getD (.obj fields))
  | .body _ => .error "upstream_schema_unsupported"

/-- How the render goes on from the submitted task; nothing but `requested` downloads anything. -/
inductive Outcome where
  | requested (path : Text)
  | contractError (code : String)
  | failed
  | timedOut
deriving DecidableEq

def download : List Text → Outcome
  | [] => .failed
  | reference :: _ =>
    match parseOutputReference reference with
    | .ok path => .requested path
    | .error code => .contractError code

/-- The polling of `render`, of the answers up to the deadline. -/
def render : List (Answer φ) → Outcome
  | [] => .timedOut
  | answer :: answers =>
    match statusOf answer with
    | .error code => .contractError code
    | .ok status =>
      if status.state = "complete" then download status.outputs
      else if status.state = "failed" then .failed
      else render answers

/-! ## The path that is requested -/

def Stop (c : Char) : Prop := c = '?' ∨ c = '#'

instance : DecidablePred Stop := fun _ => inferInstanceAs (Decidable (_ ∨ _))

def cut (text : Text) : Text := text.takeWhile fun c => ¬ Stop c

/-- Percent-decoding, once. A byte above `0x7f` stands for a piece of some other character. -/
def unquote : Text → Text
  | '%' :: a :: b :: cs =>
    match hexDigit? a, hexDigit? b with
    | some m, some n => Char.ofNat (16 * m + n) :: unquote cs
    | _, _ => '%' :: unquote (a :: b :: cs)
  | c :: cs => c :: unquote cs
  | [] => []

/-- A path below `download` that stays with the task. -/
structure Scoped (id path : Text) : Prop where
  relative : path.head? ≠ some '/'
  plain : dots ∉ path.splitOn '/'
  decoded : dots ∉ (unquote path).splitOn '/'
  own : (path.splitOn '/').head? = some id

/-- The render polls its task until an answer says that it is complete, with this output first. -/
inductive Polled : List (Answer φ) → Text → Prop where
  | complete {answer answers reference others} :
    statusOf answer = .ok ⟨"complete", reference :: others⟩ → Polled (answer :: answers) reference
  | again {answer answers status reference} :
    statusOf answer = .ok status → status.state ≠ "complete" → status.state ≠ "failed" → Polled answers reference →
    Polled (answer :: answers) reference

/-- What is requested stays with the task, and a complete task has an output requested or a contract error raised. -/
structure Contained (id : Text) (answers : List (Answer φ)) : Prop where
  path : ∀ path, render answers = .requested path → Scoped id (cut path)
  refuses : ∀ reference, Polled answers reference →
    (∃ path, render answers = .requested path) ∨ ∃ code, render answers = .contractError code

/-- The segments that a URL's path has of these. -/
def reached : List Text → List Text
  | [] => []
  | s :: ss => cut s :: if ∃ c ∈ s, Stop c then [] else reached ss

/-- Below `tasks`, the reference names the task first, and no segment of it decodes to `..`. -/
def Names (id reference : Text) : Prop :=
  ∀ rest, partsOf reference = tasks :: rest → dots ∉ rest →
    (unprefixed (tasks :: rest)).head?.map cut = some id ∧
      ∀ s ∈ reached (unprefixed (tasks :: rest)), dots ∉ (unquote s).splitOn '/'

end

/-! ## Splitting -/

variable {s path reference id : Text}

lemma notStop_iff : (∃ c ∈ s, Stop c) ↔ ¬ ∀ c ∈ s, decide (¬ Stop c) = true := by
  simp

lemma cut_of_plain (plain : ¬ ∃ c ∈ s, Stop c) (rest : Text) : cut (s ++ rest) = s ++ cut rest := by
  rw [notStop_iff, not_not] at plain
  exact List.takeWhile_append_of_pos plain

lemma cut_of_stop (stops : ∃ c ∈ s, Stop c) (rest : Text) : cut (s ++ rest) = cut s := by
  induction s with
  | nil => obtain ⟨c, within, -⟩ := stops; cases within
  | cons d s ih =>
    rw [cut, cut, List.cons_append, List.takeWhile_cons, List.takeWhile_cons]
    split
    · next plain =>
      obtain ⟨c, within, stop⟩ := stops
      rcases List.mem_cons.1 within with rfl | inside
      · simp [stop] at plain
      · exact congrArg (d :: ·) (ih ⟨c, inside, stop⟩)
    · rfl

lemma slash_cut (whole : '/' ∉ s) : '/' ∉ cut s :=
  fun within => whole ((List.takeWhile_prefix _).subset within)

lemma join_cons (s t : Text) (ss : List Text) :
    slash.intercalate (s :: t :: ss) = s ++ '/' :: slash.intercalate (t :: ss) := by
  simp [slash, List.intercalate]

variable {own rest : List Text}

lemma splitOn_cut_join (some_ : own ≠ []) (whole : ∀ s ∈ own, '/' ∉ s) :
    (cut (slash.intercalate own)).splitOn '/' = reached own := by
  induction own with
  | nil => exact absurd rfl some_
  | cons s ss ih =>
    have first := whole s List.mem_cons_self
    cases ss with
    | nil =>
      have alone : slash.intercalate [s] = s := by simp [List.intercalate]
      rw [alone, List.splitOn_eq_singleton (slash_cut first), reached, reached, ite_self]
    | cons t ss =>
      rw [join_cons, reached]
      split
      · next stops => rw [cut_of_stop stops, List.splitOn_eq_singleton (slash_cut first)]
      · next plain =>
        have all : cut s = s := by simpa [cut] using cut_of_plain plain []
        rw [cut_of_plain plain, cut, List.takeWhile_cons_of_pos (by decide), ← cut,
          List.splitOn_append_cons_self_of_not_mem first,
          ih (List.cons_ne_nil _ _) fun s' member => whole s' (List.mem_cons_of_mem _ member), all]

/-! ## Decoding -/

lemma unquote_slash (before behind : Text) :
    unquote (before ++ '/' :: behind) = unquote before ++ '/' :: unquote behind := by
  have no : hexDigit? '/' = none := by decide
  have tail : unquote ('/' :: behind) = '/' :: unquote behind := by
    rw [unquote]
    exact fun _ _ _ is _ => absurd is (by decide)
  fun_induction unquote before with
  | case1 a b cs m n first second ih =>
    simp only [List.cons_append]
    rw [unquote]
    simp only [first, second, ih]
  | case2 a b cs none_ ih =>
    simp only [List.cons_append] at ih ⊢
    rw [unquote]
    split
    · next m n first second => exact absurd second (none_ m n first)
    · rw [ih]
  | case3 c cs other ih =>
    -- a percent sign with fewer than two characters before the slash
    by_cases escape : ∃ a b ds, c = '%' ∧ cs ++ '/' :: behind = a :: b :: ds
    · obtain ⟨a, b, ds, rfl, is⟩ := escape
      rw [List.cons_append, is]
      rw [unquote]
      have none_ : hexDigit? a = none ∨ hexDigit? b = none := by
        cases cs with
        | nil => exact .inl ((List.cons.inj is).1 ▸ no)
        | cons a' cs =>
          cases cs with
          | nil => exact .inr ((List.cons.inj (List.cons.inj is).2).1 ▸ no)
          | cons b' cs => exact absurd rfl (other a' b' cs rfl)
      rw [← is, List.cons_append, ← ih]
      split
      · next m n first second => rcases none_ with none_ | none_ <;> simp_all
      · rfl
    · rw [List.cons_append, unquote, ih, List.cons_append]
      exact fun a b ds is more => escape ⟨a, b, ds, is, more⟩
  | case4 => exact tail

lemma mem_splitOn_unquote (s path : Text) :
    s ∈ (unquote path).splitOn '/' ↔ ∃ t ∈ path.splitOn '/', s ∈ (unquote t).splitOn '/' := by
  induction size : path.length using Nat.strongRecOn generalizing path with
  | _ n ih =>
    by_cases within : '/' ∈ path
    · obtain ⟨first, rest, rfl, whole⟩ := List.eq_append_cons_of_mem within
      have shorter : rest.length < n := by
        rw [← size, List.length_append, List.length_cons]
        omega
      rw [unquote_slash, List.splitOn_append_cons_self, List.splitOn_append_cons_self_of_not_mem whole, List.mem_append,
        ih _ shorter rest rfl]
      simp
    · rw [List.splitOn_eq_singleton within]
      simp

/-! ## References -/

lemma whole_of_mem_splitOn (member : s ∈ path.splitOn '/') : '/' ∉ s := by
  induction path generalizing s with
  | nil =>
    cases List.mem_singleton.1 member
    exact List.not_mem_nil
  | cons c path ih =>
    rw [List.splitOn_cons_eq_if_modifyHead] at member
    split at member
    · rcases List.mem_cons.1 member with rfl | later
      · exact List.not_mem_nil
      · exact ih later
    · next other =>
      cases segments : path.splitOn '/' with
      | nil => exact absurd segments (List.splitOn_ne_nil _ _)
      | cons first others =>
        rw [segments] at member ih
        rcases List.mem_cons.1 member with rfl | later
        · have first := ih List.mem_cons_self
          exact fun within => (List.mem_cons.1 within).elim (fun is => other (beq_iff_eq.2 is.symm)) first
        · exact ih (List.mem_cons_of_mem _ later)

lemma head_cut_join (whole : ∀ s ∈ own, '/' ∉ s ∧ s ≠ []) :
    (cut (slash.intercalate own)).head? ≠ some '/' := by
  have starts {c : Char} {text : Text} (other : c ≠ '/') : (cut (c :: text)).head? ≠ some '/' := by
    rw [cut, List.takeWhile_cons]
    split
    · exact fun is => other (Option.some.inj is)
    · exact fun is => by cases is
  cases own with
  | nil => exact fun is => by cases is
  | cons s ss =>
    obtain ⟨plain, some_⟩ := whole s List.mem_cons_self
    cases s with
    | nil => exact absurd rfl some_
    | cons c cs =>
      have other : c ≠ '/' := fun is => plain (is ▸ List.mem_cons_self)
      cases ss with
      | nil =>
        have : (cut (c :: cs)).head? ≠ some '/' := starts other
        simpa [List.intercalate] using this
      | cons t ss =>
        rw [join_cons, List.cons_append]
        exact starts other

lemma partsOf_whole (member : s ∈ partsOf reference) : '/' ∉ s ∧ s ≠ [] := by
  rw [partsOf, List.mem_filter] at member
  have kept : s ≠ [] ∧ s ≠ ['.'] := by simpa using member.2
  exact ⟨whole_of_mem_splitOn member.1, kept.1⟩

lemma trimmed_of_parts {part : Text} (parts : partsOf reference = part :: rest) :
    trimmed reference ≠ [] := by
  intro empty
  rw [partsOf, empty] at parts
  exact absurd parts (by rw [show normpath (located []) = ['.'] from by decide]; exact List.cons_ne_nil _ _ |>.symm)

example : parseOutputReference "https://engine:8000/x/../tasks/./t1\\final-1.mp4".toList =
    .ok "t1/final-1.mp4".toList := by decide +kernel

lemma parse_eq_ok :
    parseOutputReference reference = .ok path ↔
      trimmed reference ≠ [] ∧ ∃ rest, partsOf reference = tasks :: rest ∧ dots ∉ rest ∧
        path = slash.intercalate (unprefixed (tasks :: rest)) := by
  rw [parseOutputReference]
  split
  · next empty => simp [empty]
  · next some_ =>
    cases parts : partsOf reference with
    | nil => simp
    | cons part rest =>
      by_cases own : part = tasks
      · subst own
        have no : dots ≠ tasks := by decide
        by_cases within : dots ∈ rest
        · simp [within]
        · simp [within, no, some_, eq_comm]
      · simp [own]

lemma scoped_iff (some_ : own ≠ []) (whole : ∀ s ∈ own, '/' ∉ s ∧ s ≠ []) :
    Scoped id (cut (slash.intercalate own)) ↔
      own.head?.map cut = some id ∧ ∀ s ∈ reached own, dots ∉ (unquote s).splitOn '/' := by
  have segments := splitOn_cut_join some_ fun s member => (whole s member).1
  have first : (reached own).head? = own.head?.map cut := by
    cases own with
    | nil => rfl
    | cons s ss => rfl
  have decoded : dots ∉ (unquote (cut (slash.intercalate own))).splitOn '/' ↔
      ∀ s ∈ reached own, dots ∉ (unquote s).splitOn '/' := by
    rw [mem_splitOn_unquote, segments]
    simp only [not_exists, not_and]
  constructor
  · intro stays
    have named := stays.own
    rw [segments, first] at named
    exact ⟨named, decoded.1 stays.decoded⟩
  · rintro ⟨named, all⟩
    refine ⟨?_, ?_, decoded.2 all, by rw [segments, first, named]⟩
    · exact head_cut_join whole
    · rw [segments]
      exact fun within => all dots within (by decide)

lemma unprefixed_some (rest : List Text) : unprefixed (tasks :: rest) ≠ [] := by
  cases rest <;> simp [unprefixed]

lemma unprefixed_subset (member : s ∈ unprefixed (tasks :: rest)) : s ∈ tasks :: rest := by
  rw [unprefixed] at member
  split at member
  · exact List.mem_of_mem_tail member
  · exact member

/-! ## Polling -/

section
variable {φ : Type} {answers : List (Answer φ)}

lemma render_of_polled (polled : Polled answers reference) :
    ∃ others, render answers = download (reference :: others) := by
  induction polled with
  | @complete _ _ _ others is => exact ⟨others, by rw [render, is]; rfl⟩
  | again is notComplete notFailed _ ih =>
    rw [render, is]
    simpa only [notComplete, notFailed, if_false] using ih

lemma polled_of_requested (requests : render answers = .requested path) :
    ∃ reference, Polled answers reference ∧ parseOutputReference reference = .ok path := by
  induction answers with
  | nil => cases requests
  | cons answer answers ih =>
    rw [render] at requests
    cases is : statusOf answer with
    | error code =>
      rw [is] at requests
      cases requests
    | ok status =>
      simp only [is] at requests
      split at requests
      · next complete =>
        obtain ⟨state, outputs⟩ := status
        cases complete
        cases outputs with
        | nil => cases requests
        | cons reference others =>
          rw [download] at requests
          refine ⟨reference, .complete is, ?_⟩
          cases parses : parseOutputReference reference with
          | error code =>
            rw [parses] at requests
            cases requests
          | ok path' =>
            rw [parses] at requests
            cases requests
            rfl
      · split at requests
        · cases requests
        · next notComplete notFailed =>
          obtain ⟨reference, polled, parses⟩ := ih requests
          exact ⟨reference, .again is notComplete notFailed polled, parses⟩

lemma names_of_stays (parses : parseOutputReference reference = .ok path) :
    Scoped id (cut path) ↔ Names id reference := by
  obtain ⟨-, rest, parts, no, rfl⟩ := parse_eq_ok.1 parses
  rw [scoped_iff (unprefixed_some rest) fun s member => partsOf_whole (parts ▸ unprefixed_subset member)]
  constructor
  · intro stays rest' parts' _
    cases parts.symm.trans parts'
    exact stays
  · exact fun names => names rest parts no

/-- What a render downloads is its own task's, whatever the answers, exactly when the output that the task completes
with names the task. -/
theorem contained_iff (id : Text) (answers : List (Answer φ)) :
    Contained id answers ↔ ∀ reference, Polled answers reference → Names id reference := by
  constructor
  · intro contained reference polled rest parts no
    obtain ⟨others, renders⟩ := render_of_polled polled
    have parses := parse_eq_ok.2 ⟨trimmed_of_parts parts, rest, parts, no, rfl⟩
    rw [download, parses] at renders
    exact (names_of_stays parses).1 (contained.path _ renders) rest parts no
  · intro all
    constructor
    · intro path requests
      obtain ⟨reference, polled, parses⟩ := polled_of_requested requests
      exact (names_of_stays parses).2 (all reference polled)
    · intro reference polled
      obtain ⟨others, renders⟩ := render_of_polled polled
      rw [renders, download]
      cases parseOutputReference reference with
      | ok path => exact .inl ⟨path, rfl⟩
      | error code => exact .inr ⟨code, rfl⟩

end

/-- Task `a` completes with an output of task `b`. -/
def strayed : List (Answer Unit) :=
  [.body (.obj (.cons "state".toList (.int 1)
    (.cons "videos".toList (.arr (.cons (.str "tasks/b/final-1.mp4".toList) .nil)) .nil)))]

lemma strayed_requests : render strayed = .requested "b/final-1.mp4".toList := by decide +kernel

theorem strayed_leaves : ¬ Contained "a".toList strayed := by
  intro contained
  have own := (contained.path _ strayed_requests).own
  exact absurd own (by decide +kernel)

end Vertep.MoneyPrinter.Download
