import Mathlib.Data.List.Basic
import Mathlib.Data.Nat.Basic
import Vertep.Lib.Text

/-!
# JSON texts

The texts that `json.dumps` writes with `ensure_ascii=False` and the texts that `json.loads` reads. A string is a list
of characters, so it has no lone surrogates: a text that spells one cannot be encoded, and reading it fails here.
Floats are a parameter, with the texts that they have; the limits of an interpreter (the depth of its recursion, the
digits of an int) are not modelled. `parse_render` is the round trip.
-/

namespace Lib.JsonText

abbrev Text := List Char

/-! ## Values -/

mutual

/-- A value, with floats `φ`; an object lists its entries in their order. -/
inductive Value (φ : Type) where
  | null
  | bool (b : Bool)
  | int (n : ℤ)
  | float (x : φ)
  | str (s : Text)
  | arr (elems : Values φ)
  | obj (fields : Fields φ)

inductive Values (φ : Type) where
  | nil
  | cons (head : Value φ) (tail : Values φ)

inductive Fields (φ : Type) where
  | nil
  | cons (key : Text) (value : Value φ) (tail : Fields φ)

end

deriving instance DecidableEq for Value, Values, Fields

/-! ## Words -/

/-- A character of `null`, `true`, `false` or a number. -/
def wordChar (c : Char) : Bool := c.isAlphanum || c = '-' || c = '+' || c = '.'

/-- The digits of a number, without a leading zero. -/
def natural? (cs : Text) : Option ℕ :=
  let n := Nat.ofDigitChars 10 cs 0
  if Nat.toDigits 10 n = cs then some n else none

def int? : Text → Option ℤ
  | [] => none
  | c :: cs => if c = '-' then (natural? cs).map fun n => -n else (natural? (c :: cs)).map fun n => n

/-- `int.__repr__`. -/
def decimal : ℤ → Text
  | .ofNat n => Nat.toDigits 10 n
  | .negSucc n => '-' :: Nat.toDigits 10 (n + 1)

/-- The floats of the interpreter: `repr` writes one, with `NaN` and `Infinity` for those without digits, and `float?`
reads the texts of floats. -/
structure Floats (φ : Type) where
  repr : φ → Text
  float? : Text → Option φ
  float?_repr : ∀ x, float? (repr x) = some x
  word : ∀ x, ∀ c ∈ repr x, wordChar c = true
  literal : ∀ x, repr x ≠ [] ∧ repr x ∉ ["null".toList, "true".toList, "false".toList] ∧ int? (repr x) = none

section
variable {φ : Type} (F : Floats φ)

/-- What a word means. -/
def word? (cs : Text) : Option (Value φ) :=
  if cs = [] then none
  else if cs = "null".toList then some .null
  else if cs = "true".toList then some (.bool true)
  else if cs = "false".toList then some (.bool false)
  else match int? cs with
    | some n => some (.int n)
    | none => (F.float? cs).map .float

/-! ## Writing -/

/-- One character of a string, in quotes. -/
def escape (c : Char) : Text :=
  if c = '"' then ['\\', '"']
  else if c = '\\' then ['\\', '\\']
  else if c = '\n' then ['\\', 'n']
  else if c = '\r' then ['\\', 'r']
  else if c = '\t' then ['\\', 't']
  else if c = '\x0c' then ['\\', 'f']
  else if c = '\x08' then ['\\', 'b']
  else if c.toNat < 0x20 then ['\\', 'u', '0', '0', (c.toNat / 16).digitChar, (c.toNat % 16).digitChar]
  else [c]

def quote (s : Text) : Text := '"' :: (s.flatMap escape ++ ['"'])

variable (gap : Text)

mutual

/-- `json.dumps(value, ensure_ascii=False)`, with `gap` after every comma and colon. -/
def Value.render : Value φ → Text
  | .null => "null".toList
  | .bool true => "true".toList
  | .bool false => "false".toList
  | .int n => decimal n
  | .float x => F.repr x
  | .str s => quote s
  | .arr .nil => ['[', ']']
  | .arr (.cons v vs) => '[' :: (v.render ++ (vs.more ++ [']']))
  | .obj .nil => ['\x7b', '\x7d']
  | .obj (.cons key v fs) => '\x7b' :: (quote key ++ ':' :: (gap ++ (v.render ++ (fs.more ++ ['\x7d']))))

/-- The elements after the first one. -/
def Values.more : Values φ → Text
  | .nil => []
  | .cons v vs => ',' :: (gap ++ (v.render ++ vs.more))

def Fields.more : Fields φ → Text
  | .nil => []
  | .cons key v fs => ',' :: (gap ++ (quote key ++ ':' :: (gap ++ (v.render ++ fs.more))))

end

/-! ## Reading -/

def isSpace (c : Char) : Bool := c = ' ' || c = '\n' || c = '\r' || c = '\t'

def skip (cs : Text) : Text := cs.dropWhile isSpace

/-- What follows this character. -/
def after (c : Char) : Text → Option Text
  | [] => none
  | d :: cs => if d = c then some cs else none

def hexDigit? (c : Char) : Option ℕ :=
  if c.isDigit then some (c.toNat - '0'.toNat)
  else if 'a' ≤ c ∧ c ≤ 'f' then some (c.toNat - 'a'.toNat + 10)
  else if 'A' ≤ c ∧ c ≤ 'F' then some (c.toNat - 'A'.toNat + 10)
  else none

def hex4 : Text → Option (ℕ × Text)
  | a :: b :: c :: d :: cs => do
    let a ← hexDigit? a
    let b ← hexDigit? b
    let c ← hexDigit? c
    let d ← hexDigit? d
    some (((a * 16 + b) * 16 + c) * 16 + d, cs)
  | _ => none

/-- The character after `\u`; two of them spell a character beyond the first plane. -/
def codePoint (cs : Text) : Option (Char × Text) := do
  let (n, cs) ← hex4 cs
  if n < 0xD800 ∨ 0xE000 ≤ n then some (Char.ofNat n, cs)
  else if n < 0xDC00 then do
    let cs ← after '\\' cs
    let cs ← after 'u' cs
    let (m, cs) ← hex4 cs
    if 0xDC00 ≤ m ∧ m < 0xE000 then some (Char.ofNat (0x10000 + (n - 0xD800) * 0x400 + (m - 0xDC00)), cs) else none
  else none

/-- The character after a backslash. -/
def unescape : Text → Option (Char × Text)
  | [] => none
  | c :: cs =>
    if c = 'u' then codePoint cs
    else if c = '"' ∨ c = '\\' ∨ c = '/' then some (c, cs)
    else if c = 'n' then some ('\n', cs)
    else if c = 'r' then some ('\r', cs)
    else if c = 't' then some ('\t', cs)
    else if c = 'f' then some ('\x0c', cs)
    else if c = 'b' then some ('\x08', cs)
    else none

def readChar (c : Char) (cs : Text) : Option (Char × Text) :=
  if c = '\\' then unescape cs else if c.toNat < 0x20 then none else some (c, cs)

/-- A string up to its closing quote. -/
def readString : ℕ → Text → Option (Text × Text)
  | 0, _ | _, [] => none
  | n + 1, c :: cs =>
    if c = '"' then some ([], cs)
    else do
      let (d, cs) ← readChar c cs
      let (s, cs) ← readString n cs
      some (d :: s, cs)

mutual

/-- One value, and what follows it. -/
def readValue : ℕ → Text → Option (Value φ × Text)
  | 0, _ | _, [] => none
  | n + 1, c :: cs =>
    if c = '"' then do
      let (s, cs) ← readString n cs
      some (.str s, cs)
    else if c = '[' then
      match after ']' (skip cs) with
      | some cs => some (.arr .nil, cs)
      | none => do
        let (vs, cs) ← readValues n (skip cs)
        some (.arr vs, cs)
    else if c = '\x7b' then
      match after '\x7d' (skip cs) with
      | some cs => some (.obj .nil, cs)
      | none => do
        let (fs, cs) ← readFields n (skip cs)
        some (.obj fs, cs)
    else do
      let v ← word? F ((c :: cs).takeWhile wordChar)
      some (v, (c :: cs).dropWhile wordChar)

/-- The elements of an array, and what follows its bracket. -/
def readValues : ℕ → Text → Option (Values φ × Text)
  | 0, _ => none
  | n + 1, cs => do
    let (v, cs) ← readValue n cs
    match after ',' (skip cs) with
    | some cs => do
      let (vs, cs) ← readValues n (skip cs)
      some (.cons v vs, cs)
    | none => do
      let cs ← after ']' (skip cs)
      some (.cons v .nil, cs)

def readFields : ℕ → Text → Option (Fields φ × Text)
  | 0, _ => none
  | n + 1, cs => do
    let cs ← after '"' cs
    let (key, cs) ← readString n cs
    let cs ← after ':' (skip cs)
    let (v, cs) ← readValue n (skip cs)
    match after ',' (skip cs) with
    | some cs => do
      let (fs, cs) ← readFields n (skip cs)
      some (.cons key v fs, cs)
    | none => do
      let cs ← after '\x7d' (skip cs)
      some (.cons key v .nil, cs)

end

/-- The one value of a text, before the duplicates of its keys are dropped. -/
def parse (cs : Text) : Option (Value φ) := do
  let (v, rest) ← readValue F (cs.length + 1) (skip cs)
  if skip rest = [] then some v else none

/-! ## The round trip -/

@[simp] lemma after_cons (c : Char) (cs : Text) : after c (c :: cs) = some cs := if_pos rfl

lemma after_ne {c d : Char} (ne : d ≠ c) (cs : Text) : after c (d :: cs) = none := if_neg ne

lemma skip_cons {c : Char} (other : isSpace c = false) (cs : Text) : skip (c :: cs) = c :: cs :=
  List.dropWhile_cons_of_neg (by rw [other]; exact Bool.false_ne_true)

lemma skip_append {gap : Text} (blank : ∀ c ∈ gap, isSpace c = true) (cs : Text) : skip (gap ++ cs) = skip cs := by
  induction gap with
  | nil => rfl
  | cons c gap ih =>
    show List.dropWhile isSpace (c :: (gap ++ cs)) = _
    rw [List.dropWhile_cons_of_pos (blank c List.mem_cons_self)]
    exact ih fun c within => blank c (List.mem_cons_of_mem _ within)

lemma hexDigit?_digitChar : ∀ n < 16, hexDigit? n.digitChar = some n := by decide

lemma readChar_escape (c : Char) : ∃ d cs, escape c = d :: cs ∧ d ≠ '"' ∧
    ∀ rest, readChar d (cs ++ rest) = some (c, rest) := by
  unfold escape
  split
  · rename_i is
    subst is
    exact ⟨'\\', ['"'], rfl, by decide, fun rest => rfl⟩
  split
  · rename_i is
    subst is
    exact ⟨'\\', ['\\'], rfl, by decide, fun rest => rfl⟩
  split
  · rename_i is
    subst is
    exact ⟨'\\', ['n'], rfl, by decide, fun rest => rfl⟩
  split
  · rename_i is
    subst is
    exact ⟨'\\', ['r'], rfl, by decide, fun rest => rfl⟩
  split
  · rename_i is
    subst is
    exact ⟨'\\', ['t'], rfl, by decide, fun rest => rfl⟩
  split
  · rename_i is
    subst is
    exact ⟨'\\', ['f'], rfl, by decide, fun rest => rfl⟩
  split
  · rename_i is
    subst is
    exact ⟨'\\', ['b'], rfl, by decide, fun rest => rfl⟩
  split
  · rename_i low
    refine ⟨'\\', ['u', '0', '0', (c.toNat / 16).digitChar, (c.toNat % 16).digitChar], rfl, by decide, fun rest => ?_⟩
    have digits : hex4 ('0' :: '0' :: (c.toNat / 16).digitChar :: (c.toNat % 16).digitChar :: rest) =
        some (c.toNat, rest) := by
      have tens := hexDigit?_digitChar (c.toNat / 16) (by omega)
      have ones := hexDigit?_digitChar (c.toNat % 16) (by omega)
      rw [hex4, show hexDigit? '0' = some 0 from rfl, tens, ones]
      show some (((0 * 16 + 0) * 16 + c.toNat / 16) * 16 + c.toNat % 16, rest) = _
      rw [show ((0 * 16 + 0) * 16 + c.toNat / 16) * 16 + c.toNat % 16 = c.toNat by omega]
    show codePoint ('0' :: '0' :: (c.toNat / 16).digitChar :: (c.toNat % 16).digitChar :: rest) = _
    rw [codePoint, digits]
    show (if c.toNat < 0xD800 ∨ 0xE000 ≤ c.toNat then some (Char.ofNat c.toNat, rest) else _) = _
    rw [if_pos (by omega), Char.ofNat_toNat]
  · rename_i quoted backslash _ _ _ _ _ high
    refine ⟨c, [], rfl, quoted, fun rest => ?_⟩
    rw [readChar, if_neg backslash, if_neg high]
    rfl

lemma readString_quote (s : Text) {n : ℕ} (fuel : (s.flatMap escape).length < n) (rest : Text) :
    readString n (s.flatMap escape ++ '"' :: rest) = some (s, rest) := by
  induction s generalizing n with
  | nil =>
    cases n with
    | zero => exact absurd fuel (Nat.not_lt_zero _)
    | succ n =>
      show readString (n + 1) ('"' :: rest) = _
      rw [readString, if_pos rfl]
  | cons c s ih =>
    obtain ⟨d, cs, is, other, reads⟩ := readChar_escape c
    cases n with
    | zero => exact absurd fuel (Nat.not_lt_zero _)
    | succ n =>
      rw [List.flatMap_cons, is, List.length_append, List.length_cons] at fuel
      rw [List.flatMap_cons, is, List.append_assoc, List.cons_append, readString, if_neg other, reads]
      show (readString n (s.flatMap escape ++ '"' :: rest) >>= _) = _
      rw [ih (by omega)]
      rfl

/-! Words -/

lemma natural?_toDigits (n : ℕ) : natural? (Nat.toDigits 10 n) = some n := by
  rw [natural?]
  simp only [Nat.ofDigitChars_ten_toDigits, if_true]

lemma toDigits_cons (n : ℕ) : ∃ c cs, Nat.toDigits 10 n = c :: cs ∧ c.isDigit = true := by
  cases digits : Nat.toDigits 10 n with
  | nil => exact absurd digits Nat.toDigits_ne_nil
  | cons c cs =>
    refine ⟨c, cs, rfl, Nat.isDigit_of_mem_toDigits (b := 10) (n := n) (by decide) (by decide) ?_⟩
    rw [digits]
    exact List.mem_cons_self

lemma int?_decimal (n : ℤ) : int? (decimal n) = some n := by
  cases n with
  | ofNat n =>
    obtain ⟨c, cs, is, digit⟩ := toDigits_cons n
    show int? (Nat.toDigits 10 n) = _
    have other : c ≠ '-' := by
      rintro rfl
      cases digit
    rw [is, int?, if_neg other, ← is, natural?_toDigits]
    rfl
  | negSucc n =>
    show int? ('-' :: Nat.toDigits 10 (n + 1)) = _
    rw [int?, if_pos rfl, natural?_toDigits]
    rfl

lemma wordChar_of_isDigit {c : Char} (digit : c.isDigit = true) : wordChar c = true := by
  simp [wordChar, Char.isAlphanum, digit]

lemma wordChar_decimal (n : ℤ) : ∀ c ∈ decimal n, wordChar c = true := by
  have digits (n : ℕ) : ∀ c ∈ Nat.toDigits 10 n, wordChar c = true := fun c within =>
    wordChar_of_isDigit (Nat.isDigit_of_mem_toDigits (by decide) (by decide) within)
  cases n with
  | ofNat n => exact digits n
  | negSucc n => exact List.forall_mem_cons.2 ⟨rfl, digits (n + 1)⟩

lemma word?_decimal (n : ℤ) : word? F (decimal n) = some (.int n) := by
  have read := int?_decimal n
  have other (cs : Text) (none_ : int? cs = none) : decimal n ≠ cs := by
    rintro is
    rw [is, none_] at read
    cases read
  rw [word?, if_neg (other _ rfl), if_neg (other _ (by decide)), if_neg (other _ (by decide)),
    if_neg (other _ (by decide)), read]

lemma word?_repr (x : φ) : word? F (F.repr x) = some (.float x) := by
  obtain ⟨some_, other, none_⟩ := F.literal x
  simp only [List.mem_cons, List.not_mem_nil, or_false, not_or] at other
  rw [word?, if_neg some_, if_neg other.1, if_neg other.2.1, if_neg other.2.2, none_, F.float?_repr]
  rfl

def Ends (rest : Text) : Prop := ∀ c, rest.head? = some c → wordChar c = false

lemma takeWhile_word {cs rest : Text} (word : ∀ c ∈ cs, wordChar c = true) (ends : Ends rest) :
    (cs ++ rest).takeWhile wordChar = cs ∧ (cs ++ rest).dropWhile wordChar = rest := by
  have stop : rest.takeWhile wordChar = [] ∧ rest.dropWhile wordChar = rest := by
    cases rest with
    | nil => exact ⟨rfl, rfl⟩
    | cons c rest => simp [ends c rfl]
  constructor
  · rw [List.takeWhile_append_of_pos word, stop.1, List.append_nil]
  · rw [List.dropWhile_append_of_pos word, stop.2]

lemma readValue_word {cs rest : Text} {v : Value φ} (word : ∀ c ∈ cs, wordChar c = true) (is : word? F cs = some v)
    (ends : Ends rest) {n : ℕ} (fuel : cs.length < n) : readValue F n (cs ++ rest) = some (v, rest) := by
  cases cs with
  | nil => cases is
  | cons c cs =>
    cases n with
    | zero => exact absurd fuel (Nat.not_lt_zero _)
    | succ n =>
      have first := word c List.mem_cons_self
      have other {d : Char} (none_ : wordChar d = false) : c ≠ d := by
        rintro rfl
        cases first.symm.trans none_
      obtain ⟨taken, dropped⟩ := takeWhile_word word ends
      rw [List.cons_append] at taken dropped
      rw [List.cons_append, readValue, if_neg (other rfl), if_neg (other rfl), if_neg (other rfl), taken, dropped, is]
      rfl

/-! Values -/

lemma Value.render_cons (v : Value φ) : ∃ c cs, v.render F gap = c :: cs ∧
    (wordChar c = true ∨ c = '"' ∨ c = '[' ∨ c = '\x7b') := by
  have word (cs : Text) (some_ : cs ≠ []) (all : ∀ c ∈ cs, wordChar c = true) :
      ∃ c cs', cs = c :: cs' ∧ (wordChar c = true ∨ c = '"' ∨ c = '[' ∨ c = '\x7b') := by
    cases cs with
    | nil => exact absurd rfl some_
    | cons c cs => exact ⟨c, cs, rfl, .inl (all c List.mem_cons_self)⟩
  cases v with
  | null => exact ⟨_, _, rfl, .inl rfl⟩
  | bool b => cases b <;> exact ⟨_, _, rfl, .inl rfl⟩
  | int n =>
    refine word (decimal n) ?_ (wordChar_decimal n)
    intro none_
    have read := int?_decimal n
    rw [none_] at read
    cases read
  | float x => exact word (F.repr x) (F.literal x).1 (F.word x)
  | str s => exact ⟨_, _, rfl, .inr (.inl rfl)⟩
  | arr vs => cases vs <;> exact ⟨_, _, rfl, .inr (.inr (.inl rfl))⟩
  | obj fs => cases fs <;> exact ⟨_, _, rfl, .inr (.inr (.inr rfl))⟩

lemma Value.render_head (v : Value φ) (rest : Text) : skip (v.render F gap ++ rest) = v.render F gap ++ rest ∧
    after ']' (v.render F gap ++ rest) = none := by
  obtain ⟨c, cs, is, kind⟩ := v.render_cons F gap
  have other {d : Char} (none_ : wordChar d = false) (quoted : d ≠ '"') (array : d ≠ '[') (object : d ≠ '\x7b') :
      c ≠ d := by
    rintro rfl
    rcases kind with word | rfl | rfl | rfl
    · cases word.symm.trans none_
    · exact quoted rfl
    · exact array rfl
    · exact object rfl
  rw [is, List.cons_append]
  constructor
  · apply skip_cons
    have blank := other (d := ' ') rfl (by decide) (by decide) (by decide)
    have newline := other (d := '\n') rfl (by decide) (by decide) (by decide)
    have return_ := other (d := '\r') rfl (by decide) (by decide) (by decide)
    have tab := other (d := '\t') rfl (by decide) (by decide) (by decide)
    simp [isSpace, blank, newline, return_, tab]
  · exact after_ne (other rfl (by decide) (by decide) (by decide)) _

lemma length_quote (s : Text) : (quote s).length = (s.flatMap escape).length + 2 := by
  simp [quote]

lemma quote_append (s rest : Text) : quote s ++ rest = '"' :: (s.flatMap escape ++ '"' :: rest) := by
  simp [quote]

section
variable {n : ℕ} {cs cs₁ rest rest' key : Text} {v : Value φ} {vs : Values φ} {fs : Fields φ}

lemma readValues_last (read : readValue F n cs = some (v, ']' :: rest)) :
    readValues F (n + 1) cs = some (.cons v .nil, rest) := by
  rw [readValues, read]
  rfl

lemma readValues_next (read : readValue F n cs = some (v, ',' :: rest))
    (more : readValues F n (skip rest) = some (vs, rest')) : readValues F (n + 1) cs = some (.cons v vs, rest') := by
  rw [readValues, read]
  show (readValues F n (skip rest) >>= _) = _
  rw [more]
  rfl

lemma readFields_last (name : readString n cs = some (key, ':' :: cs₁))
    (read : readValue F n (skip cs₁) = some (v, '\x7d' :: rest)) :
    readFields F (n + 1) ('"' :: cs) = some (.cons key v .nil, rest) := by
  rw [readFields, after_cons]
  show (readString n cs >>= _) = _
  rw [name]
  show (readValue F n (skip cs₁) >>= _) = _
  rw [read]
  rfl

lemma readFields_next (name : readString n cs = some (key, ':' :: cs₁))
    (read : readValue F n (skip cs₁) = some (v, ',' :: rest)) (more : readFields F n (skip rest) = some (fs, rest')) :
    readFields F (n + 1) ('"' :: cs) = some (.cons key v fs, rest') := by
  rw [readFields, after_cons]
  show (readString n cs >>= _) = _
  rw [name]
  show (readValue F n (skip cs₁) >>= _) = _
  rw [read]
  show (readFields F n (skip rest) >>= _) = _
  rw [more]
  rfl

end

lemma ends_cons {c : Char} (other : wordChar c = false) (rest : Text) : Ends (c :: rest) := by
  intro d is
  cases is
  exact other

/-- With this fuel the readers stop where what is written ends. -/
structure Reads (n : ℕ) : Prop where
  value : ∀ (v : Value φ) (rest : Text), (v.render F gap).length < n → Ends rest →
    readValue F n (v.render F gap ++ rest) = some (v, rest)
  values : ∀ (v : Value φ) (vs : Values φ) (rest : Text), (v.render F gap).length + (vs.more F gap).length + 1 < n →
    readValues F n (v.render F gap ++ (vs.more F gap ++ ']' :: rest)) = some (.cons v vs, rest)
  fields : ∀ (key : Text) (v : Value φ) (fs : Fields φ) (rest : Text),
    (key.flatMap escape).length + gap.length + (v.render F gap).length + (fs.more F gap).length + 3 < n →
    readFields F n (quote key ++ ':' :: (gap ++ (v.render F gap ++ (fs.more F gap ++ '\x7d' :: rest)))) =
      some (.cons key v fs, rest)

variable {F gap} {n : ℕ}

lemma Reads.value_succ (h : Reads F gap n) (v : Value φ) (rest : Text) (fuel : (v.render F gap).length < n + 1)
    (ends : Ends rest) : readValue F (n + 1) (v.render F gap ++ rest) = some (v, rest) := by
  cases v with
  | null =>
    have word : ∀ c ∈ "null".toList, wordChar c = true := by decide
    exact readValue_word F word rfl ends fuel
  | bool b =>
    have words : ∀ c ∈ "true".toList ++ "false".toList, wordChar c = true := by decide
    cases b with
    | true => exact readValue_word F (fun c within => words c (List.mem_append_left _ within)) rfl ends fuel
    | false => exact readValue_word F (fun c within => words c (List.mem_append_right _ within)) rfl ends fuel
  | int m => exact readValue_word F (wordChar_decimal m) (word?_decimal F m) ends fuel
  | float x => exact readValue_word F (F.word x) (word?_repr F x) ends fuel
  | str s =>
    rw [Value.render, length_quote] at fuel
    rw [Value.render, quote_append, readValue, if_pos rfl, readString_quote s (by omega)]
    rfl
  | arr vs =>
    cases vs with
    | nil =>
      show readValue F (n + 1) ('[' :: ']' :: rest) = _
      rw [readValue, if_neg (by decide), if_pos rfl, skip_cons rfl, after_cons]
    | cons v vs =>
      have text : (Value.arr (.cons v vs)).render F gap ++ rest =
          '[' :: (v.render F gap ++ (vs.more F gap ++ ']' :: rest)) := by
        simp [Value.render]
      have length : ((Value.arr (.cons v vs)).render F gap).length =
          (v.render F gap).length + (vs.more F gap).length + 2 := by
        simp [Value.render]
        omega
      obtain ⟨skips, opens⟩ := v.render_head F gap (vs.more F gap ++ ']' :: rest)
      rw [text, readValue, if_neg (by decide), if_pos rfl, skips, opens]
      show (readValues F n _ >>= _) = _
      rw [h.values v vs rest (by omega)]
      rfl
  | obj fs =>
    cases fs with
    | nil =>
      show readValue F (n + 1) ('\x7b' :: '\x7d' :: rest) = _
      rw [readValue, if_neg (by decide), if_neg (by decide), if_pos rfl, skip_cons rfl, after_cons]
    | cons key v fs =>
      have text : (Value.obj (.cons key v fs)).render F gap ++ rest =
          '\x7b' :: (quote key ++ ':' :: (gap ++ (v.render F gap ++ (fs.more F gap ++ '\x7d' :: rest)))) := by
        simp [Value.render]
      have length : ((Value.obj (.cons key v fs)).render F gap).length =
          (key.flatMap escape).length + gap.length + (v.render F gap).length + (fs.more F gap).length + 5 := by
        simp [Value.render, length_quote]
        omega
      have read := h.fields key v fs rest (by omega)
      rw [quote_append] at read text
      rw [text, readValue, if_neg (by decide), if_neg (by decide), if_pos rfl, skip_cons rfl, after_ne (by decide)]
      show (readFields F n _ >>= _) = _
      rw [read]
      rfl

variable (blank : ∀ c ∈ gap, isSpace c = true)
include blank

lemma Reads.values_succ (h : Reads F gap n) (v : Value φ) (vs : Values φ) (rest : Text)
    (fuel : (v.render F gap).length + (vs.more F gap).length + 1 < n + 1) :
    readValues F (n + 1) (v.render F gap ++ (vs.more F gap ++ ']' :: rest)) = some (.cons v vs, rest) := by
  cases vs with
  | nil => exact readValues_last F (h.value v _ (by omega) (ends_cons rfl rest))
  | cons w ws =>
    have text : (Values.cons w ws).more F gap ++ ']' :: rest =
        ',' :: (gap ++ (w.render F gap ++ (ws.more F gap ++ ']' :: rest))) := by
      simp [Values.more]
    have length : ((Values.cons w ws).more F gap).length =
        gap.length + (w.render F gap).length + (ws.more F gap).length + 1 := by
      simp [Values.more]
      omega
    rw [text]
    refine readValues_next F (h.value v _ (by omega) (ends_cons rfl _)) ?_
    rw [skip_append blank, (w.render_head F gap _).1]
    exact h.values w ws rest (by omega)

lemma Reads.fields_succ (h : Reads F gap n) (key : Text) (v : Value φ) (fs : Fields φ) (rest : Text)
    (fuel : (key.flatMap escape).length + gap.length + (v.render F gap).length + (fs.more F gap).length + 3 < n + 1) :
    readFields F (n + 1) (quote key ++ ':' :: (gap ++ (v.render F gap ++ (fs.more F gap ++ '\x7d' :: rest)))) =
      some (.cons key v fs, rest) := by
  cases fs with
  | nil =>
    rw [quote_append]
    refine readFields_last F (readString_quote key (by omega) _) ?_
    rw [skip_append blank, (v.render_head F gap _).1]
    exact h.value v _ (by omega) (ends_cons rfl rest)
  | cons k w fs =>
    have text : (Fields.cons k w fs).more F gap ++ '\x7d' :: rest =
        ',' :: (gap ++ (quote k ++ ':' :: (gap ++ (w.render F gap ++ (fs.more F gap ++ '\x7d' :: rest))))) := by
      simp [Fields.more]
    have length : ((Fields.cons k w fs).more F gap).length =
        gap.length + (k.flatMap escape).length + gap.length + (w.render F gap).length + (fs.more F gap).length + 4 := by
      simp [Fields.more, length_quote]
      omega
    have read : readValue F n (skip (gap ++ (v.render F gap ++ ',' :: (gap ++ (quote k ++ ':' :: (gap ++
        (w.render F gap ++ (fs.more F gap ++ '\x7d' :: rest)))))))) =
          some (v, ',' :: (gap ++ (quote k ++ ':' :: (gap ++ (w.render F gap ++
            (fs.more F gap ++ '\x7d' :: rest)))))) := by
      rw [skip_append blank, (v.render_head F gap _).1]
      exact h.value v _ (by omega) (ends_cons rfl _)
    rw [quote_append, text]
    refine readFields_next F (readString_quote key (by omega) _) read ?_
    rw [skip_append blank, quote_append, skip_cons rfl, ← quote_append]
    exact h.fields k w fs rest (by omega)

variable (F) in
lemma reads (n : ℕ) : Reads F gap n := by
  induction n with
  | zero => exact ⟨fun _ _ fuel => absurd fuel (Nat.not_lt_zero _), fun _ _ _ fuel => absurd fuel (Nat.not_lt_zero _),
      fun _ _ _ _ fuel => absurd fuel (Nat.not_lt_zero _)⟩
  | succ n ih => exact ⟨ih.value_succ, ih.values_succ blank, ih.fields_succ blank⟩

variable (F)

/-- The round trip. -/
theorem parse_render (v : Value φ) : parse F (v.render F gap) = some v := by
  have head := (v.render_head F gap []).1
  have read := (reads F blank ((v.render F gap).length + 1)).value v [] (by omega) fun c is => by cases is
  rw [List.append_nil] at head read
  rw [parse, head, read]
  rfl

lemma render_injective {v w : Value φ} (same : v.render F gap = w.render F gap) : v = w := by
  have read := parse_render F blank v
  rw [same, parse_render F blank w] at read
  exact (Option.some.inj read).symm

end

end Lib.JsonText
