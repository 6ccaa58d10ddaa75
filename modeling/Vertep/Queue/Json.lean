import Vertep.Lib.Decimal
import Vertep.Queue.Local

/-!
# Task dicts in Redis

The Redis route of `core/queue.py` keeps task dicts as JSON texts. A text is identified with the value
it decodes to; `json.dumps` and `json.loads` lose nothing, but the Lua scripts of the class decode a
dict with `cjson` and encode it again, and that does. `recode` is one such pass, of which Redis
documents: both `[]` and `{}` decode to an empty table, an empty table is printed as `{}`, `null`
comes back as `null`, and numbers are printed with 14 significant digits. `recode_eq_self` says which
values survive it.

Objects are listed in key order (`sort_keys=True`), so two of them are equal as dicts exactly when
their lists are.
-/

namespace Vertep.Queue
open Lib

mutual

/-- A JSON value. -/
inductive Json where
  | null
  | bool (b : Bool)
  | num (x : ℚ)
  | str (s : String)
  | arr (elems : Elems)
  | obj (members : Members)

inductive Elems where
  | nil
  | cons (head : Json) (tail : Elems)

inductive Members where
  | nil
  | cons (key : String) (value : Json) (tail : Members)

end

deriving instance DecidableEq for Json, Elems, Members

/-- A number after `cjson.encode`, which prints 14 significant digits. -/
def luaNum (x : ℚ) : ℚ := roundSig 14 x

lemma luaNum_eq_self {x : ℚ} : luaNum x = x ↔ Short 14 x := roundSig_eq_self (by decide)

@[simp] lemma luaNum_luaNum (x : ℚ) : luaNum (luaNum x) = luaNum x := roundSig_roundSig (by decide) x

mutual

/-- `cjson.encode (cjson.decode j)`. -/
def Json.recode : Json → Json
  | .null => .null
  | .bool b => .bool b
  | .num x => .num (luaNum x)
  | .str s => .str s
  | .arr .nil => .obj .nil
  | .arr (.cons j l) => .arr (.cons j.recode l.recode)
  | .obj l => .obj l.recode

def Elems.recode : Elems → Elems
  | .nil => .nil
  | .cons j l => .cons j.recode l.recode

def Members.recode : Members → Members
  | .nil => .nil
  | .cons k j l => .cons k j.recode l.recode

end

mutual

/-- No empty array and no number of more than 14 significant digits anywhere inside. -/
def Json.Survives : Json → Prop
  | .null | .bool _ | .str _ => True
  | .num x => Short 14 x
  | .arr .nil => False
  | .arr (.cons j l) => j.Survives ∧ l.Survives
  | .obj l => l.Survives

def Elems.Survives : Elems → Prop
  | .nil => True
  | .cons j l => j.Survives ∧ l.Survives

def Members.Survives : Members → Prop
  | .nil => True
  | .cons _ j l => j.Survives ∧ l.Survives

end

mutual

lemma Json.recode_eq_self : ∀ j : Json, j.recode = j ↔ j.Survives
  | .null => by simp [Json.recode, Json.Survives]
  | .bool _ => by simp [Json.recode, Json.Survives]
  | .str _ => by simp [Json.recode, Json.Survives]
  | .num x => by simp [Json.recode, Json.Survives, luaNum_eq_self]
  | .arr .nil => by simp [Json.recode, Json.Survives]
  | .arr (.cons j l) => by
    simp [Json.recode, Json.Survives, Json.recode_eq_self j, Elems.recode_eq_self l]
  | .obj l => by simp [Json.recode, Json.Survives, Members.recode_eq_self l]

lemma Elems.recode_eq_self : ∀ l : Elems, l.recode = l ↔ l.Survives
  | .nil => by simp [Elems.recode, Elems.Survives]
  | .cons j l => by
    simp [Elems.recode, Elems.Survives, Json.recode_eq_self j, Elems.recode_eq_self l]

lemma Members.recode_eq_self : ∀ l : Members, l.recode = l ↔ l.Survives
  | .nil => by simp [Members.recode, Members.Survives]
  | .cons _ j l => by
    simp [Members.recode, Members.Survives, Json.recode_eq_self j, Members.recode_eq_self l]

end

mutual

lemma Json.recode_recode : ∀ j : Json, j.recode.recode = j.recode
  | .null => rfl
  | .bool _ => rfl
  | .str _ => rfl
  | .num x => by simp [Json.recode]
  | .arr .nil => rfl
  | .arr (.cons j l) => by simp [Json.recode, Json.recode_recode j, Elems.recode_recode l]
  | .obj l => by simp [Json.recode, Members.recode_recode l]

lemma Elems.recode_recode : ∀ l : Elems, l.recode.recode = l.recode
  | .nil => rfl
  | .cons j l => by simp [Elems.recode, Json.recode_recode j, Elems.recode_recode l]

lemma Members.recode_recode : ∀ l : Members, l.recode.recode = l.recode
  | .nil => rfl
  | .cons _ j l => by simp [Members.recode, Json.recode_recode j, Members.recode_recode l]

end

namespace Item

/-- The stored task dict after a pass through Lua. -/
def recode (i : Item Members) : Item Members where
  taskId := i.taskId
  priority := luaNum i.priority
  enqueuedAt := luaNum i.enqueuedAt
  notBefore := i.notBefore.map luaNum
  payload := i.payload.recode

/-- The dict survives: its own numbers are short and so is what it carries. -/
structure Survives (i : Item Members) : Prop where
  priority : Short 14 i.priority
  enqueuedAt : Short 14 i.enqueuedAt
  notBefore : ∀ t ∈ i.notBefore, Short 14 t
  payload : i.payload.Survives

lemma recode_eq_self {i : Item Members} : i.recode = i ↔ i.Survives := by
  obtain ⟨id, priority, enqueuedAt, notBefore, payload⟩ := i
  simp only [recode, Item.mk.injEq, true_and, luaNum_eq_self, Members.recode_eq_self]
  constructor
  · intro ⟨h1, h2, h3, h4⟩
    refine ⟨h1, h2, ?_, h4⟩
    intro t ht
    obtain rfl : notBefore = some t := ht
    exact luaNum_eq_self.1 (by simpa using h3)
  · intro h
    refine ⟨h.priority, h.enqueuedAt, ?_, h.payload⟩
    cases notBefore with
    | none => rfl
    | some t => simp [luaNum_eq_self.2 (h.notBefore t rfl)]

@[simp] lemma recode_recode (i : Item Members) : i.recode.recode = i.recode := by
  obtain ⟨id, priority, enqueuedAt, notBefore, payload⟩ := i
  cases notBefore <;> simp [recode, Members.recode_recode]

end Item

end Vertep.Queue
