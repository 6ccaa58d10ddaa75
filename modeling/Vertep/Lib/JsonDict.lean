import Vertep.Lib.JsonText

/-!
# Dicts of JSON values

Objects as dicts: reading and writing one entry, the duplicates that `json.loads` drops, the order that `sort_keys`
makes, and which characters the text of a value has.
-/

namespace Lib.JsonText

/-! ## Objects -/

variable {key s : Text}

namespace Fields

variable {φ : Type}

@[induction_eliminator]
lemma along {P : Fields φ → Prop} (nil : P .nil) (cons : ∀ key value fs, P fs → P (.cons key value fs)) : ∀ fs, P fs
  | .nil => nil
  | .cons key value fs => cons key value fs (along nil cons fs)

def keys : Fields φ → List Text
  | .nil => []
  | .cons key _ fs => key :: fs.keys

def get? (key : Text) : Fields φ → Option (Value φ)
  | .nil => none
  | .cons k v fs => if k = key then some v else fs.get? key

/-- `fields[key] = value`: in its place, or behind the others. -/
def set (key : Text) (value : Value φ) : Fields φ → Fields φ
  | .nil => .cons key value .nil
  | .cons k v fs => if k = key then .cons k value fs else .cons k v (fs.set key value)

def erase (key : Text) : Fields φ → Fields φ
  | .nil => .nil
  | .cons k v fs => if k = key then fs else .cons k v (fs.erase key)

/-- The place of `sort_keys`. -/
def insert (key : Text) (value : Value φ) : Fields φ → Fields φ
  | .nil => .cons key value .nil
  | .cons k v fs => if k < key then .cons k v (fs.insert key value) else .cons key value (.cons k v fs)

lemma get?_set (key key' : Text) (value : Value φ) (fs : Fields φ) :
    (fs.set key value).get? key' = if key = key' then some value else fs.get? key' := by
  induction fs with
  | nil => rfl
  | cons k v fs ih =>
    by_cases is : k = key
    · subst is
      rw [set, if_pos rfl, get?, get?]
      split <;> rfl
    · rw [set, if_neg is, get?, ih, get?]
      by_cases same : k = key'
      · subst same
        rw [if_pos rfl, if_pos rfl, if_neg fun h => is h.symm]
      · rw [if_neg same, if_neg same]

lemma mem_keys_set (key key' : Text) (value : Value φ) (fs : Fields φ) :
    key' ∈ (fs.set key value).keys ↔ key' = key ∨ key' ∈ fs.keys := by
  induction fs with
  | nil => simp [set, keys]
  | cons k v fs ih =>
    by_cases is : k = key
    · subst is
      simp [set, keys]
    · rw [set, if_neg is, keys, keys, List.mem_cons, List.mem_cons, ih]
      tauto

lemma erase_set {fs : Fields φ} (new : key ∉ fs.keys) (value : Value φ) :
    (fs.set key value).erase key = fs := by
  induction fs with
  | nil => simp [set, erase]
  | cons k v fs ih =>
    rw [keys, List.mem_cons, not_or] at new
    have other : k ≠ key := fun h => new.1 h.symm
    rw [set, if_neg other, erase, if_neg other, ih new.2]

end Fields

/-! ## Reading and writing dicts -/

section
variable {φ : Type}

mutual

/-- Of two entries with one key the last value counts, in the place of the first. -/
def Value.dict : Value φ → Value φ
  | .arr vs => .arr vs.dict
  | .obj fs => .obj fs.dict
  | v => v

def Values.dict : Values φ → Values φ
  | .nil => .nil
  | .cons v vs => .cons v.dict vs.dict

def Fields.dict : Fields φ → Fields φ
  | .nil => .nil
  | .cons key v fs =>
    match fs.dict.get? key with
    | none => .cons key v.dict fs.dict
    | some last => .cons key last (fs.dict.erase key)

end

mutual

/-- `sort_keys=True`. -/
def Value.sort : Value φ → Value φ
  | .arr vs => .arr vs.sort
  | .obj fs => .obj fs.sort
  | v => v

def Values.sort : Values φ → Values φ
  | .nil => .nil
  | .cons v vs => .cons v.sort vs.sort

def Fields.sort : Fields φ → Fields φ
  | .nil => .nil
  | .cons key v fs => fs.sort.insert key v.sort

end

mutual

/-- No object has two entries with one key. -/
def Value.Distinct : Value φ → Prop
  | .arr vs => vs.Distinct
  | .obj fs => fs.Distinct
  | _ => True

def Values.Distinct : Values φ → Prop
  | .nil => True
  | .cons v vs => v.Distinct ∧ vs.Distinct

def Fields.Distinct : Fields φ → Prop
  | .nil => True
  | .cons key v fs => key ∉ fs.keys ∧ v.Distinct ∧ fs.Distinct

end

variable (P : Char → Prop)

mutual

/-- All characters of its texts. -/
def Value.All : Value φ → Prop
  | .str s => ∀ c ∈ s, P c
  | .arr vs => vs.All
  | .obj fs => fs.All
  | _ => True

def Values.All : Values φ → Prop
  | .nil => True
  | .cons v vs => v.All ∧ vs.All

def Fields.All : Fields φ → Prop
  | .nil => True
  | .cons key v fs => (∀ c ∈ key, P c) ∧ v.All ∧ fs.All

end

def loads (F : Floats φ) (cs : Text) : Option (Value φ) := (parse F cs).map Value.dict

/-- `json.dumps(value, sort_keys=True, ensure_ascii=False)`. -/
def Value.canonical (F : Floats φ) (gap : Text) (v : Value φ) : Text := v.sort.render F gap

lemma Fields.get?_eq_none {fs : Fields φ} (new : key ∉ fs.keys) : fs.get? key = none := by
  induction fs with
  | nil => rfl
  | cons k v fs ih =>
    rw [keys, List.mem_cons, not_or] at new
    rw [get?, if_neg fun h => new.1 h.symm, ih new.2]

mutual

lemma Value.dict_eq_self : ∀ {v : Value φ}, v.Distinct → v.dict = v
  | .null, _ | .bool _, _ | .int _, _ | .float _, _ | .str _, _ => rfl
  | .arr vs, distinct => by
    rw [Value.dict, Values.dict_eq_self distinct]
  | .obj fs, distinct => by
    rw [Value.dict, Fields.dict_eq_self distinct]

lemma Values.dict_eq_self : ∀ {vs : Values φ}, vs.Distinct → vs.dict = vs
  | .nil, _ => rfl
  | .cons v vs, distinct => by
    rw [Values.dict, Value.dict_eq_self distinct.1, Values.dict_eq_self distinct.2]

lemma Fields.dict_eq_self : ∀ {fs : Fields φ}, fs.Distinct → fs.dict = fs
  | .nil, _ => rfl
  | .cons key v fs, distinct => by
    have rest : fs.dict = fs := Fields.dict_eq_self distinct.2.2
    rw [Fields.dict, rest, Fields.get?_eq_none distinct.1, Value.dict_eq_self distinct.2.1]

end

/-- What is written is read back. -/
theorem loads_render (F : Floats φ) {gap : Text} (blank : ∀ c ∈ gap, isSpace c = true) {v : Value φ}
    (distinct : v.Distinct) : loads F (v.render F gap) = some v := by
  rw [loads, parse_render F blank, Option.map_some, Value.dict_eq_self distinct]

lemma canonical_injective (F : Floats φ) {gap : Text} (blank : ∀ c ∈ gap, isSpace c = true) {v w : Value φ}
    (same : v.canonical F gap = w.canonical F gap) : v.sort = w.sort := render_injective F blank same

lemma Fields.get?_insert (key key' : Text) (value : Value φ) (fs : Fields φ) :
    (fs.insert key value).get? key' = if key = key' then some value else fs.get? key' := by
  induction fs with
  | nil => rfl
  | cons k v fs ih =>
    rw [insert]
    split
    · rename_i less
      have other : k ≠ key := by
        rintro rfl
        exact List.lt_irrefl _ less
      rw [get?, ih, get?]
      by_cases same : k = key'
      · subst same
        rw [if_pos rfl, if_pos rfl, if_neg fun h => other h.symm]
      · rw [if_neg same, if_neg same]
    · rw [get?]

lemma Fields.get?_sort (key : Text) (fs : Fields φ) : fs.sort.get? key = (fs.get? key).map Value.sort := by
  induction fs with
  | nil => rfl
  | cons k v fs ih =>
    rw [sort, get?_insert, get?, ih]
    split <;> rfl

lemma Fields.get?_sort_str {fs : Fields φ} :
    fs.sort.get? key = some (.str s) ↔ fs.get? key = some (.str s) := by
  rw [get?_sort, Option.map_eq_some_iff]
  constructor
  · intro ⟨v, found, is⟩
    cases v with
    | null | bool _ | int _ | float _ | arr _ | obj _ => cases is
    | str _ => exact found.trans (congrArg some is)
  · exact fun found => ⟨_, found, rfl⟩

lemma Fields.Distinct.set {fs : Fields φ} (distinct : fs.Distinct) (key : Text) {value : Value φ}
    (inside : value.Distinct) : (fs.set key value).Distinct := by
  induction fs with
  | nil => exact ⟨List.not_mem_nil, inside, trivial⟩
  | cons k v fs ih =>
    obtain ⟨new, first, rest⟩ := distinct
    by_cases is : k = key
    · rw [Fields.set, if_pos is]
      exact ⟨new, inside, rest⟩
    · rw [Fields.set, if_neg is]
      refine ⟨fun within => ?_, first, ih rest⟩
      rcases (mem_keys_set _ _ _ _).1 within with same | within
      · exact is same
      · exact new within

lemma Fields.Distinct.set_str {fs : Fields φ} (distinct : fs.Distinct) (key s : Text) :
    (fs.set key (.str s)).Distinct := distinct.set key trivial

lemma Fields.All.set {P : Char → Prop} {fs : Fields φ} (all : fs.All P) {value : Value φ}
    (name : ∀ c ∈ key, P c) (inside : value.All P) : (fs.set key value).All P := by
  induction fs with
  | nil => exact ⟨name, inside, trivial⟩
  | cons k v fs ih =>
    obtain ⟨first, second, rest⟩ := all
    by_cases is : k = key
    · rw [Fields.set, if_pos is]
      exact ⟨first, inside, rest⟩
    · rw [Fields.set, if_neg is]
      exact ⟨first, second, ih rest⟩

lemma Fields.All.get? {P : Char → Prop} {fs : Fields φ} (all : fs.All P) {v : Value φ}
    (found : fs.get? key = some v) : v.All P := by
  induction fs with
  | nil => cases found
  | cons k w fs ih =>
    rw [Fields.get?] at found
    split at found
    · cases found
      exact all.2.1
    · exact ih all.2.2 found

lemma Fields.All.insert {P : Char → Prop} {fs : Fields φ} (all : fs.All P) {value : Value φ}
    (name : ∀ c ∈ key, P c) (inside : value.All P) : (fs.insert key value).All P := by
  induction fs with
  | nil => exact ⟨name, inside, trivial⟩
  | cons k v fs ih =>
    rw [Fields.insert]
    split
    · exact ⟨all.1, all.2.1, ih all.2.2⟩
    · exact ⟨name, inside, all⟩

mutual

lemma Value.All.sort {P : Char → Prop} : ∀ {v : Value φ}, v.All P → v.sort.All P
  | .null, _ | .bool _, _ | .int _, _ | .float _, _ => trivial
  | .str _, all => all
  | .arr _, all => Values.All.sort all
  | .obj _, all => Fields.All.sort all

lemma Values.All.sort {P : Char → Prop} : ∀ {vs : Values φ}, vs.All P → vs.sort.All P
  | .nil, _ => trivial
  | .cons _ _, all => ⟨Value.All.sort all.1, Values.All.sort all.2⟩

lemma Fields.All.sort {P : Char → Prop} : ∀ {fs : Fields φ}, fs.All P → fs.sort.All P
  | .nil, _ => trivial
  | .cons _ _ _, all => Fields.All.insert (Fields.All.sort all.2.2) all.1 (Value.All.sort all.2.1)

end

/-! ## The characters of a text -/

def Printable (c : Char) : Prop := 0x20 ≤ c.toNat ∧ c.toNat < 0x7F

instance : DecidablePred Printable := fun _ => inferInstanceAs (Decidable (_ ∧ _))

lemma printable_wordChar {c : Char} (word : wordChar c = true) : Printable c := by
  have alpha : c.isAlpha =
      (decide (c.val ≥ 'A'.val ∧ c.val ≤ 'Z'.val) || (c.val ≥ 'a'.val && c.val ≤ 'z'.val)) := rfl
  simp only [wordChar, Char.isAlphanum, alpha, Char.isDigit, Bool.or_eq_true, Bool.and_eq_true, decide_eq_true_eq,
    ge_iff_le, UInt32.le_iff_toNat_le] at word
  have value : c.val.toNat = c.toNat := rfl
  rw [value] at word
  rw [Printable]
  rcases word with (((((⟨low, high⟩ | ⟨low, high⟩) | ⟨low, high⟩) | rfl) | rfl) | rfl)
  · have low : 65 ≤ c.toNat := low
    have high : c.toNat ≤ 90 := high
    omega
  · have low : 97 ≤ c.toNat := low
    have high : c.toNat ≤ 122 := high
    omega
  · have low : 48 ≤ c.toNat := low
    have high : c.toNat ≤ 57 := high
    omega
  all_goals decide

lemma printable_escape (c : Char) : ∀ d ∈ escape c, Printable d ∨ d = c ∧ 0x20 ≤ c.toNat := by
  have digit : ∀ n < 16, Printable n.digitChar := by
    intro n less
    apply printable_wordChar
    revert n
    decide
  have written (cs : Text) (all : ∀ d ∈ cs, Printable d) : ∀ d ∈ cs, Printable d ∨ d = c ∧ 0x20 ≤ c.toNat :=
    fun d within => .inl (all d within)
  unfold escape
  split
  · exact written _ (by decide)
  split
  · exact written _ (by decide)
  split
  · exact written _ (by decide)
  split
  · exact written _ (by decide)
  split
  · exact written _ (by decide)
  split
  · exact written _ (by decide)
  split
  · exact written _ (by decide)
  split
  · apply written
    intro d within
    simp only [List.mem_cons, List.not_mem_nil, or_false] at within
    rcases within with rfl | rfl | rfl | rfl | rfl | rfl
    · decide
    · decide
    · decide
    · decide
    · exact digit _ (by omega)
    · exact digit _ (by omega)
  · rename_i high
    intro d within
    exact .inr ⟨List.mem_singleton.1 within, Nat.le_of_not_lt high⟩

variable {P : Char → Prop} (F : Floats φ) {gap : Text} (ascii : ∀ c, Printable c → P c)
include ascii

lemma word_all {cs : Text} (word : ∀ c ∈ cs, wordChar c = true) : ∀ c ∈ cs, P c :=
  fun c within => ascii c (printable_wordChar (word c within))

lemma quote_all (all : ∀ c ∈ s, 0x20 ≤ c.toNat → P c) : ∀ c ∈ quote s, P c := by
  intro c within
  rw [quote, List.mem_cons, List.mem_append, List.mem_singleton, List.mem_flatMap] at within
  rcases within with rfl | ⟨d, inside, among⟩ | rfl
  · exact ascii _ (by decide)
  · rcases printable_escape d c among with printable | ⟨rfl, high⟩
    · exact ascii c printable
    · exact all c inside high
  · exact ascii _ (by decide)

variable (blank : ∀ c ∈ gap, Printable c)
include blank

mutual

lemma Value.render_all : ∀ {v : Value φ}, v.All (fun c => 0x20 ≤ c.toNat → P c) → ∀ c ∈ v.render F gap, P c
  | .null, _ => by
    have word : ∀ c ∈ "null".toList, wordChar c = true := by decide
    exact word_all ascii word
  | .bool true, _ => by
    have word : ∀ c ∈ "true".toList, wordChar c = true := by decide
    exact word_all ascii word
  | .bool false, _ => by
    have word : ∀ c ∈ "false".toList, wordChar c = true := by decide
    exact word_all ascii word
  | .int n, _ => word_all ascii (wordChar_decimal n)
  | .float x, _ => word_all ascii (F.word x)
  | .str s, all => quote_all ascii all
  | .arr .nil, _ => by
    have brackets : ∀ c ∈ ['[', ']'], Printable c := by decide
    exact fun c within => ascii c (brackets c within)
  | .arr (.cons v vs), all => by
    have first := Value.render_all all.1
    have rest := Values.more_all all.2
    intro c within
    simp only [Value.render, List.mem_cons, List.mem_append, List.not_mem_nil, or_false] at within
    rcases within with rfl | within | within | rfl
    · exact ascii _ (by decide)
    · exact first c within
    · exact rest c within
    · exact ascii _ (by decide)
  | .obj .nil, _ => by
    have braces : ∀ c ∈ ['\x7b', '\x7d'], Printable c := by decide
    exact fun c within => ascii c (braces c within)
  | .obj (.cons key v fs), all => by
    have name := quote_all ascii all.1
    have first := Value.render_all all.2.1
    have rest := Fields.more_all all.2.2
    intro c within
    simp only [Value.render, List.mem_cons, List.mem_append, List.not_mem_nil, or_false] at within
    rcases within with rfl | within | rfl | within | within | within | rfl
    · exact ascii _ (by decide)
    · exact name c within
    · exact ascii _ (by decide)
    · exact ascii c (blank c within)
    · exact first c within
    · exact rest c within
    · exact ascii _ (by decide)

lemma Values.more_all : ∀ {vs : Values φ}, vs.All (fun c => 0x20 ≤ c.toNat → P c) → ∀ c ∈ vs.more F gap, P c
  | .nil, _ => fun _ within => absurd within List.not_mem_nil
  | .cons v vs, all => by
    have first := Value.render_all all.1
    have rest := Values.more_all all.2
    intro c within
    simp only [Values.more, List.mem_cons, List.mem_append] at within
    rcases within with rfl | within | within | within
    · exact ascii _ (by decide)
    · exact ascii c (blank c within)
    · exact first c within
    · exact rest c within

lemma Fields.more_all : ∀ {fs : Fields φ}, fs.All (fun c => 0x20 ≤ c.toNat → P c) → ∀ c ∈ fs.more F gap, P c
  | .nil, _ => fun _ within => absurd within List.not_mem_nil
  | .cons key v fs, all => by
    have name := quote_all ascii all.1
    have first := Value.render_all all.2.1
    have rest := Fields.more_all all.2.2
    intro c within
    simp only [Fields.more, List.mem_cons, List.mem_append] at within
    rcases within with rfl | within | within | rfl | within | within | within
    · exact ascii _ (by decide)
    · exact ascii c (blank c within)
    · exact name c within
    · exact ascii _ (by decide)
    · exact ascii c (blank c within)
    · exact first c within
    · exact rest c within

end

end

end Lib.JsonText
