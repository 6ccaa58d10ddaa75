import Mathlib.Data.Rat.Floor
import Mathlib.Data.String.Basic
import Vertep.Lib.Dict

/-!
# The alert store

Embedding of `core/alert_store.py`. An alert is the dict that the code has; beside it a stored alert has a number of its
own, as an object has its identity, and the store keeps every id that an alert has had: both are for the statements only.
A write of the file succeeds.
-/

namespace Vertep.Alerts
open Lib

/-- A JSON value; one that is neither null nor a text is kept by its JSON text. -/
inductive Value where
  | null
  | str (text : String)
  | other (json : String)
deriving DecidableEq

abbrev Fields := Dict String Value

/-- What the standard library says of texts and times. -/
structure Env where
  /-- `str` of a value that is neither null nor a text. -/
  str : String → String
  isoformat : ℚ → String
  /-- `datetime.fromisoformat`, of a time with a zone. -/
  fromisoformat : String → Option ℚ
  /-- What `isdigit` and `int` make of a text that is not of ASCII digits: it is none, or a number, or `int` raises. -/
  otherDigits : String → Option (Option ℕ)

def FIELDS : List String := ["type", "source", "job_id", "node_name", "task_id"]

def TAKEN : List String :=
  ["source", "job_id", "node_name", "task_id", "operation_id", "state_value", "details", "severity"]

/-- A field that is there and is not `None`. -/
def given (alert : Fields) (field : String) : Option Value := (alert.get? field).filter (· ≠ .null)

def entry (alert : Fields) (field : String) : Option Value := (given alert field).filter (· ≠ .str "")

def identity (alert : Fields) : List (Option Value) := FIELDS.map (entry alert)

def isActive (alert : Fields) : Bool :=
  alert.get? "state" = some (.str "firing") ∨ alert.get? "state" = some (.str "acknowledged")

variable (env : Env)

def Env.text : Value → String
  | .null => "None"
  | .str text => text
  | .other json => env.str json

def alertKey (alert : Fields) : String :=
  "|".intercalate (FIELDS.filterMap fun field => (entry alert field).map fun value => field ++ "=" ++ env.text value)

/-- An alert in the store. -/
structure Alert where
  entity : ℕ
  fields : Fields
deriving DecidableEq

/-- The list of the process and its file. -/
structure World where
  alerts : List Alert := []
  seq : ℕ := 0
  /-- The file. -/
  disk : List Alert := []
  entities : ℕ := 0
  ids : List (ℕ × Option Value) := []
deriving DecidableEq

/-- When a call is made, and how the store is set up. -/
structure Clock where
  now : ℚ
  retentionDays : ℚ
  maxActive : ℤ

inductive Failure where
  | key (id : String)
  | value (message : String)
deriving DecidableEq

/-! ## Operations -/

/-- `save`; the ids that the alerts have now are noted. -/
def World.save (w : World) : World :=
  { w with
    disk := w.alerts
    ids := w.ids ++ w.alerts.map fun a => (a.entity, a.fields.get? "id") }

def isResolved (alert : Fields) : Bool := alert.get? "state" = some (.str "resolved")

/-- A resolved alert that is kept still. -/
def retained (clock : Clock) (alert : Fields) : Bool :=
  match alert.get? "resolved_at" with
  | some (.str text) =>
    match env.fromisoformat text with
    | some resolvedAt => (clock.now - resolvedAt) / 86400 ≤ clock.retentionDays
    | none => false
  | _ => false

/-- `_prune_locked`. -/
def prune (clock : Clock) (alerts : List Alert) : List Alert :=
  let kept := alerts.filter fun a => ¬ isResolved a.fields ∨ retained env clock a.fields
  if clock.maxActive < kept.length then
    let overflow := ((kept.length : ℤ) - clock.maxActive).toNat
    (kept.filter fun a => ¬ isResolved a.fields) ++ (kept.filter fun a => isResolved a.fields).drop overflow
  else kept

/-- `existing.update(refreshed)`, and the time. -/
def refreshed (now : Value) (alert existing : Fields) : Fields :=
  (existing.update (alert.filter (· ≠ .null))).set "updated_at" now

/-- The first alert of a kind is changed. -/
def changeFirst (p : Alert → Bool) (f : Alert → Alert) : List Alert → Option (Alert × List Alert)
  | [] => none
  | a :: alerts =>
    if p a then some (f a, f a :: alerts)
    else (changeFirst p f alerts).map fun changed => (changed.1, a :: changed.2)

/-- A field is taken over where it is given. -/
def takeOver (alert record : Fields) (field : String) : Fields :=
  match given alert field with
  | some value => record.set field value
  | none => record

/-- A new record. -/
def newRecord (seq : ℕ) (now : Value) (alert : Fields) : Fields :=
  let record : Fields := (((((((∅ : Fields).set "id" (.str (toString seq))).set "severity"
    ((alert.get? "severity").getD (.str "warning"))).set "type" ((alert.get? "type").getD (.str "UNKNOWN"))).set "message"
    ((alert.get? "message").getD .null)).set "state" (.str "firing")).set "created_at" now).set "updated_at" now
  TAKEN.foldl (takeOver alert) record

def active (key : String) (a : Alert) : Bool := alertKey env a.fields = key ∧ isActive a.fields

def record (clock : Clock) (alert : Fields) (w : World) : Alert × World :=
  let key := alertKey env alert
  let now : Value := .str (env.isoformat clock.now)
  let alerts := prune env clock w.alerts
  let existing := if key = "" then none
    else changeFirst (active env key) (fun a => { a with fields := refreshed now alert a.fields }) alerts
  match existing with
  | some (existing, alerts) => (existing, { w with alerts := alerts }.save)
  | none =>
    let new : Alert := ⟨w.entities, newRecord (w.seq + 1) now alert⟩
    (new, { w with alerts := alerts ++ [new], seq := w.seq + 1, entities := w.entities + 1 }.save)

def resolved (now : Value) (reason : Value) (alert : Fields) : Fields :=
  (((alert.set "state" (.str "resolved")).set "resolved_at" now).set "resolved_reason" reason).set "updated_at" now

def resolve (clock : Clock) (pattern : Fields) (reason : Value) (w : World) : List Alert × World :=
  let key := alertKey env pattern
  if key = "" then ([], w)
  else
    let now : Value := .str (env.isoformat clock.now)
    let change (a : Alert) : Alert := { a with fields := resolved now reason a.fields }
    let changed := (w.alerts.filter (active env key)).map change
    if changed = [] then ([], w)
    else (changed, { w with alerts := w.alerts.map fun a => if active env key a then change a else a }.save)

/-- `str(a.get("id")) == str(alert_id)`. -/
def hasId (id : String) (a : Alert) : Bool := env.text ((a.fields.get? "id").getD .null) = id

def acknowledged (now actor : Value) (alert : Fields) : Fields :=
  (((alert.set "state" (.str "acknowledged")).set "acknowledged_by" actor).set "acknowledged_at" now).set "updated_at" now

def acknowledge (clock : Clock) (id : String) (actor : Value) (w : World) : Except Failure Alert × World :=
  match w.alerts.find? (hasId env id) with
  | none => (.error (.key id), w)
  | some target =>
    if target.fields.get? "state" = some (.str "resolved") then
      (.error (.value "cannot acknowledge a resolved alert"), w)
    else if target.fields.get? "state" = some (.str "firing") then
      match changeFirst (hasId env id)
        (fun a => { a with fields := acknowledged (.str (env.isoformat clock.now)) actor a.fields }) w.alerts with
      | some (target, alerts) => (.ok target, { w with alerts := alerts }.save)
      | none => (.error (.key id), w)
    else (.ok target, w)

/-- What `isdigit` and `int` make of an id. -/
def Env.number (text : String) : Option (Option ℕ) :=
  if text ≠ "" ∧ text.toList.all Char.isDigit then some (some (Nat.ofDigitChars 10 text.toList 0)) else env.otherDigits text

/-- The numbers of the ids; it is `none` where `int` raises. -/
def idNumbers (alerts : List Alert) : Option (List ℕ) :=
  (alerts.filterMap fun a => env.number (((a.fields.get? "id").map env.text).getD "")).mapM id

/-- `load`, by a store that is set up anew: where it raises there is none. -/
def load (w : World) : Option World :=
  (idNumbers env w.disk).map fun numbers => { w with alerts := w.disk, seq := numbers.foldl max 0 }

end Vertep.Alerts
