import Mathlib.Data.List.Forall2
import Vertep.Lib.Command
import Vertep.Lib.JsonDict
import Vertep.Lib.Lines

/-!
# The audit journal

`append_audit` (`scripts/update-agent.py`): every record carries the hash of the record before it and its own, and an
append first reads the whole journal and recomputes the chain. `Chained` says which records a journal has, `Chained.reads`
that whatever is accepted in its place has the same ones.

The chain is computed from what `json.loads` reads, line by line. Lines end wherever `splitlines` says so, and it says
so at characters that `json.dumps(..., ensure_ascii=False)` does not escape.
-/

namespace Vertep.Update.Audit
open Lib JsonText Lines Command

/-- A record, without its `event_hash`. -/
abbrev Record := Fields

def Unbroken (c : Char) : Prop := 0x20 ≤ c.toNat → isBreak c = false

instance : DecidablePred Unbroken := fun _ => inferInstanceAs (Decidable (_ → _))

lemma printable_not_break {c : Char} (printable : Printable c) : isBreak c = false := by
  obtain ⟨low, high⟩ := printable
  cases is : isBreak c with
  | false => rfl
  | true =>
    simp only [isBreak, Bool.or_eq_true, decide_eq_true_eq] at is
    rcases is with ((((((((rfl | rfl) | rfl) | rfl) | rfl) | rfl) | rfl) | rfl) | rfl) | rfl <;>
      simp at low high

/-- The floats of the interpreter, `secret_redact`, which deletes text and inserts `[REDACTED]`, and SHA-256 of an
encoded text, without collisions. -/
structure Env (φ : Type) where
  floats : Floats φ
  redact : Text → Text
  redact_unbroken : ∀ s, (∀ c ∈ s, Unbroken c) → ∀ c ∈ redact s, Unbroken c
  hexdigest : Text → Text
  hexdigest_injective : ∀ s t, hexdigest s = hexdigest t → s = t
  hexdigest_unbroken : ∀ s, (∀ c ∈ s, Unbroken c) → ∀ c ∈ hexdigest s, Unbroken c
  hexdigest_ne : ∀ s, hexdigest s ≠ List.replicate 64 '0'

inductive Raised where
  | runtimeError (message : String)
  | typeError
  | attributeError
deriving DecidableEq

/-- `audit.jsonl`. -/
inductive File where
  | absent
  | text (content : Text)
  | undecodable
deriving DecidableEq

abbrev AuditM := Command File Raised

def named (name : String) : Text := name.toList

def unreadable : Raised := .runtimeError "Update audit log is unreadable"

def invalid : Raised := .runtimeError "Update audit log hash chain is invalid"

/-- `"0" * 64`. -/
def genesis : Text := List.replicate 64 '0'

variable {previousHash : Text}

section
variable {φ : Type} (env : Env φ)

def Env.digest (record : Record φ) : Text := env.hexdigest ((Value.obj record).canonical env.floats [])

section
variable [DecidableEq φ]

/-- One round of the loop: the hash of the record on this line, after `previous_hash`. -/
def check (previousHash line : Text) : Except Raised Text :=
  match loads env.floats line with
  | none => .error unreadable
  | some (.obj previous) =>
    match previous.get? (named "event_hash") with
    | none => .error unreadable
    | some eventHash =>
      let previous := previous.erase (named "event_hash")
      if previous.get? (named "previous_hash") ≠ some (.str previousHash) then .error invalid
      else if .str (env.digest previous) ≠ eventHash then .error invalid
      else .ok (env.digest previous)
  | some (.arr _) => .error .typeError
  | some _ => .error .attributeError

def chain (previousHash : Text) : List Text → Except Raised Text
  | [] => .ok previousHash
  | line :: lines => do
    let eventHash ← check env previousHash line
    chain eventHash lines

/-- The hash that the next record has to name. -/
def readChain : File → Except Raised Text
  | .absent => .ok genesis
  | .undecodable => .error unreadable
  | .text content => chain env genesis (linesOf content)

end

def redactField (record : Record φ) (field : String) : Record φ :=
  match record.get? (named field) with
  | some (.str s) => record.set (named field) (.str (env.redact s))
  | _ => record

def redacted (record : Record φ) : Record φ := ["message", "detail", "error"].foldl (redactField env) record

def recordOf (event : Record φ) (now previousHash : Text) : Record φ :=
  redacted env ((event.set (named "timestamp") (.str now)).set (named "previous_hash") (.str previousHash))

def lineOf (record : Record φ) : Text :=
  (Value.obj (record.set (named "event_hash") (.str (env.digest record)))).render env.floats []

def File.content : File → Text
  | .text content => content
  | _ => []

def appendAudit [DecidableEq φ] (event : Record φ) (now : Text) : AuditM Unit := do
  let file ← read
  let previousHash ← answer (readChain env file)
  write fun file => .text (file.content ++ (lineOf env (recordOf env event now previousHash) ++ ['\n']))

/-- A call with an event that has no hash of its own and no line break that JSON leaves as it is, at a time of the
clock. -/
structure Call (φ : Type) where
  event : Record φ
  now : Text
  distinct : event.Distinct
  hashless : named "event_hash" ∉ event.keys
  unbroken : event.All Unbroken
  clock : ∀ c ∈ now, Unbroken c

def appendAll [DecidableEq φ] (calls : List (Call φ)) : AuditM Unit :=
  forEach (fun call => appendAudit env call.event call.now) calls

/-! ## Journals -/

/-- A record of a journal. -/
structure Sound (record : Record φ) : Prop where
  distinct : record.Distinct
  hashless : named "event_hash" ∉ record.keys
  unbroken : record.All Unbroken

/-- These records, one after the other, with the hash of the last one. -/
inductive Chained : List (Record φ) → Text → Prop where
  | nil : Chained [] genesis
  | snoc {records previousHash record} : Chained records previousHash → Sound record →
    record.get? (named "previous_hash") = some (.str previousHash) → Chained (records ++ [record]) (env.digest record)

/-- The file of a journal; `append_audit` makes it with the first record. -/
def journal (records : List (Record φ)) : File :=
  if records = [] then .absent else .text (unlines (records.map (lineOf env)))

/-- The line reads as this record, with its hash; the keys may be in another order. -/
def Reads (line : Text) (record : Record φ) : Prop :=
  ∃ fields, loads env.floats line = some (.obj fields) ∧
    fields.get? (named "event_hash") = some (.str (env.digest record)) ∧
    (fields.erase (named "event_hash")).sort = record.sort

/-- The last line carries the hash of one of these records. Nothing is said of an edit after which the file cannot be
decoded, its last line cannot be read, or that line has another hash. -/
def EndsIn (records : List (Record φ)) (lines : List Text) : Prop :=
  ∃ line fields, lines.getLast? = some line ∧ loads env.floats line = some (.obj fields) ∧
    ∃ record ∈ records, fields.get? (named "event_hash") = some (.str (env.digest record))

variable {env}

/-! ## What an append writes -/

lemma redacted_keeps {P : Record φ → Prop} (keeps : ∀ record field s, field ∈ ["message", "detail", "error"] →
    record.get? (named field) = some (.str s) → P record → P (record.set (named field) (.str (env.redact s))))
    {record : Record φ} (start : P record) : P (redacted env record) := by
  have one {record : Record φ} {field : String} (member : field ∈ ["message", "detail", "error"]) (h : P record) :
      P (redactField env record field) := by
    rw [redactField]
    split
    · rename_i s found
      exact keeps record field s member found h
    · exact h
  exact one (by decide) (one (by decide) (one (by decide) start))

lemma unbroken_named : ∀ field ∈ ["message", "detail", "error", "timestamp", "previous_hash", "event_hash"],
    ∀ c ∈ named field, Unbroken c := by
  decide

lemma unbroken_genesis : ∀ c ∈ genesis, Unbroken c := by
  intro c within
  rw [List.eq_of_mem_replicate within]
  decide

variable (env) in
lemma Call.sound (call : Call φ) (hash : ∀ c ∈ previousHash, Unbroken c) :
    Sound (recordOf env call.event call.now previousHash) ∧
      (recordOf env call.event call.now previousHash).get? (named "previous_hash") = some (.str previousHash) := by
  have other : ∀ field ∈ ["message", "detail", "error"],
      named field ≠ named "previous_hash" ∧ named field ≠ named "event_hash" := by decide
  rw [recordOf]
  refine redacted_keeps (P := fun record => Sound record ∧ record.get? (named "previous_hash") =
    some (.str previousHash)) ?_ ?_
  · intro record field s member found ⟨sound, previous⟩
    refine ⟨⟨sound.distinct.set_str _ _, ?_, ?_⟩, ?_⟩
    · rw [Fields.mem_keys_set, not_or]
      exact ⟨fun is => (other field member).2 is.symm, sound.hashless⟩
    · apply sound.unbroken.set
      · exact unbroken_named field (List.mem_append_left _ member)
      · exact env.redact_unbroken s (sound.unbroken.get? found)
    · rw [Fields.get?_set, if_neg (other field member).1]
      exact previous
  · refine ⟨⟨(call.distinct.set_str _ _).set_str _ _, ?_, ?_⟩, ?_⟩
    · rw [Fields.mem_keys_set, Fields.mem_keys_set, not_or, not_or]
      exact ⟨by decide, by decide, call.hashless⟩
    · apply Fields.All.set
      · apply call.unbroken.set
        · exact unbroken_named _ (by decide)
        · exact call.clock
      · exact unbroken_named _ (by decide)
      · exact hash
    · rw [Fields.get?_set, if_pos rfl]

lemma digest_unbroken {record : Record φ} (sound : Sound record) : ∀ c ∈ env.digest record, Unbroken c := by
  apply env.hexdigest_unbroken
  intro c within high
  exact Value.render_all env.floats (fun _ => printable_not_break) (fun _ none_ => absurd none_ List.not_mem_nil)
    (v := (Value.obj record).sort) (Fields.All.sort sound.unbroken) c within

lemma lineOf_plain {record : Record φ} (sound : Sound record) : Plain (lineOf env record) := by
  apply Value.render_all env.floats (fun _ => printable_not_break) (fun _ none_ => absurd none_ List.not_mem_nil)
  exact sound.unbroken.set (unbroken_named _ (by decide)) (digest_unbroken sound)

lemma loads_lineOf {record : Record φ} (sound : Sound record) : loads env.floats (lineOf env record) =
    some (.obj (record.set (named "event_hash") (.str (env.digest record)))) :=
  loads_render env.floats (fun _ none_ => absurd none_ List.not_mem_nil) (sound.distinct.set_str _ _)

variable {records : List (Record φ)} {lastHash : Text}

lemma Chained.sound (chained : Chained env records lastHash) : ∀ record ∈ records, Sound record := by
  induction chained with
  | nil => exact fun _ none_ => absurd none_ List.not_mem_nil
  | snoc _ sound _ ih =>
    intro record member
    rcases List.mem_append.1 member with member | member
    · exact ih record member
    · rwa [List.mem_singleton.1 member]

lemma Chained.unbroken (chained : Chained env records lastHash) : ∀ c ∈ lastHash, Unbroken c := by
  cases chained with
  | nil => exact unbroken_genesis
  | snoc _ sound _ => exact digest_unbroken sound

lemma Chained.take (chained : Chained env records lastHash) {record : Record φ} (member : record ∈ records) :
    ∃ k ≤ records.length, Chained env (records.take k) (env.digest record) := by
  induction chained with
  | nil => exact absurd member List.not_mem_nil
  | @snoc records previousHash last before sound previous ih =>
    rcases List.mem_append.1 member with among | among
    · obtain ⟨k, less, chained⟩ := ih among
      refine ⟨k, Nat.le_trans less ?_, ?_⟩
      · rw [List.length_append]
        exact Nat.le_add_right _ _
      · rwa [List.take_append_of_le_length less]
    · rw [List.mem_singleton.1 among]
      refine ⟨(records ++ [last]).length, le_refl _, ?_⟩
      rw [List.take_length]
      exact .snoc before sound previous

/-! ## What a reader accepts -/

section
variable [DecidableEq φ]

lemma check_lineOf {record : Record φ} (sound : Sound record)
    (previous : record.get? (named "previous_hash") = some (.str previousHash)) :
    check env previousHash (lineOf env record) = .ok (env.digest record) := by
  rw [check, loads_lineOf sound]
  simp only [Fields.get?_set, if_true, Fields.erase_set sound.hashless, previous, ne_eq, not_true_eq_false, if_false]

lemma check_ok {line eventHash : Text} (accepted : check env previousHash line = .ok eventHash) :
    ∃ fields, loads env.floats line = some (.obj fields) ∧
      fields.get? (named "event_hash") = some (.str eventHash) ∧
      (fields.erase (named "event_hash")).get? (named "previous_hash") = some (.str previousHash) ∧
      eventHash = env.digest (fields.erase (named "event_hash")) := by
  rw [check] at accepted
  cases read : loads env.floats line with
  | none =>
    rw [read] at accepted
    cases accepted
  | some v =>
    rw [read] at accepted
    cases v with
    | null | bool _ | int _ | float _ | str _ | arr _ => cases accepted
    | obj fields =>
      cases found : fields.get? (named "event_hash") with
      | none =>
        simp only [found] at accepted
        cases accepted
      | some hash =>
        simp only [found] at accepted
        split at accepted
        · cases accepted
        split at accepted
        · cases accepted
        rename_i previous own
        cases accepted
        exact ⟨fields, rfl, by rw [not_not.1 own, found], not_not.1 previous, rfl⟩

lemma chain_append (previousHash line : Text) (lines : List Text) : chain env previousHash (lines ++ [line]) =
    chain env previousHash lines >>= fun eventHash => check env eventHash line := by
  induction lines generalizing previousHash with
  | nil =>
    show (check env previousHash line >>= fun eventHash => .ok eventHash) = check env previousHash line
    cases check env previousHash line <;> rfl
  | cons other lines ih =>
    rw [List.cons_append, chain, chain]
    cases check env previousHash other with
    | error e => rfl
    | ok eventHash => exact ih eventHash

lemma Chained.chain (chained : Chained env records lastHash) :
    chain env genesis (records.map (lineOf env)) = .ok lastHash := by
  induction chained with
  | nil => rfl
  | snoc _ sound previous ih =>
    rw [List.map_append, List.map_singleton, chain_append, ih]
    exact check_lineOf sound previous

lemma Chained.readChain (chained : Chained env records lastHash) :
    readChain env (journal env records) = .ok lastHash := by
  rw [journal]
  split
  · rename_i none_
    subst none_
    exact chained.chain
  · rw [Audit.readChain, linesOf_unlines]
    · exact chained.chain
    · intro line member
      obtain ⟨record, among, rfl⟩ := List.mem_map.1 member
      exact lineOf_plain (chained.sound record among)

lemma Chained.append (chained : Chained env records lastHash) (call : Call φ) :
    Chained env (records ++ [recordOf env call.event call.now lastHash])
        (env.digest (recordOf env call.event call.now lastHash)) ∧
      appendAudit env call.event call.now (journal env records) =
        (.ok (), journal env (records ++ [recordOf env call.event call.now lastHash])) := by
  obtain ⟨sound, previous⟩ := call.sound env chained.unbroken
  refine ⟨.snoc chained sound previous, ?_⟩
  have content : (journal env records).content = unlines (records.map (lineOf env)) := by
    rw [journal]
    split
    · rename_i none_
      subst none_
      rfl
    · rfl
  have text : journal env (records ++ [recordOf env call.event call.now lastHash]) =
      .text (unlines (records.map (lineOf env)) ++
        (lineOf env (recordOf env call.event call.now lastHash) ++ ['\n'])) := by
    rw [journal, if_neg (List.append_ne_nil_of_right_ne_nil _ (List.cons_ne_nil _ _))]
    simp [unlines]
  rw [appendAudit, read_bind, chained.readChain, answer_ok_bind, text, ← content]
  rfl

lemma Chained.appendAll (chained : Chained env records lastHash) (calls : List (Call φ)) :
    ∃ records' lastHash', Chained env records' lastHash' ∧ records'.length = records.length + calls.length ∧
      appendAll env calls (journal env records) = (.ok (), journal env records') := by
  induction calls generalizing records lastHash with
  | nil => exact ⟨records, lastHash, chained, rfl, rfl⟩
  | cons call calls ih =>
    obtain ⟨more, run⟩ := chained.append call
    obtain ⟨records', lastHash', chained', length, rest⟩ := ih more
    refine ⟨records', lastHash', chained', ?_, ?_⟩
    · rw [length, List.length_append, List.length_singleton, List.length_cons]
      omega
    · show (appendAudit env call.event call.now >>= _) _ = _
      rw [bind_of_ok run]
      exact rest

lemma Chained.reads (chained : Chained env records lastHash) {lines : List Text}
    (accepted : Audit.chain env genesis lines = .ok lastHash) : List.Forall₂ (Reads env) lines records := by
  induction chained generalizing lines with
  | nil =>
    -- no record has the hash of an empty journal
    rcases List.eq_nil_or_concat lines with rfl | ⟨lines, line, rfl⟩
    · exact .nil
    · rw [List.concat_eq_append, chain_append] at accepted
      obtain ⟨_, _, last⟩ := except_bind_ok.1 accepted
      obtain ⟨_, _, _, _, is⟩ := check_ok last
      exact absurd is.symm (env.hexdigest_ne _)
  | @snoc records previousHash record before sound previous ih =>
    rcases List.eq_nil_or_concat lines with rfl | ⟨lines, line, rfl⟩
    · exact absurd (Except.ok.inj accepted).symm (env.hexdigest_ne _)
    · rw [List.concat_eq_append, chain_append] at accepted
      obtain ⟨hash, first, last⟩ := except_bind_ok.1 accepted
      obtain ⟨fields, read, own, found, is⟩ := check_ok last
      have same : (fields.erase (named "event_hash")).sort = record.sort :=
        Value.obj.inj (canonical_injective env.floats (fun _ none_ => absurd none_ List.not_mem_nil)
          (env.hexdigest_injective _ _ is.symm))
      rw [← Fields.get?_sort_str, same, Fields.get?_sort_str, previous] at found
      cases found
      rw [List.concat_eq_append]
      exact List.rel_append (ih first) (.cons ⟨fields, read, own, same⟩ .nil)

/-- Every sequence of calls succeeds and leaves a journal to which every call can append. Whatever is put in its place,
with one of its hashes on the last line, is refused unless its records are those of the journal, up to one of them. -/
theorem audit_verifies (env : Env φ) (calls : List (Call φ)) : ∃ records, records.length = calls.length ∧
    appendAll env calls .absent = (.ok (), journal env records) ∧
    (∀ event now, (appendAudit env event now (journal env records)).1 = .ok ()) ∧
    ∀ edited, EndsIn env records (linesOf edited) → ∀ event now,
      (appendAudit env event now (.text edited)).1 = .ok () →
      ∃ k ≤ records.length, List.Forall₂ (Reads env) (linesOf edited) (records.take k) := by
  obtain ⟨records, lastHash, chained, length, run⟩ := (Chained.nil : Chained env [] genesis).appendAll calls
  refine ⟨records, by rw [length, List.length_nil, Nat.zero_add], run, fun event now => ?_, ?_⟩
  · rw [appendAudit, read_bind, chained.readChain]
    rfl
  · intro edited ⟨line, fields, last, parsed, record, member, own⟩ event now accepted
    obtain ⟨k, less, before⟩ := chained.take member
    refine ⟨k, less, before.reads ?_⟩
    rw [appendAudit, read_bind] at accepted
    cases whole : readChain env (.text edited) with
    | error e =>
      rw [whole] at accepted
      cases accepted
    | ok hash =>
      -- the hash that was reached is the one on the last line
      rw [readChain] at whole
      rw [whole]
      rw [List.getLast?_eq_some_iff] at last
      obtain ⟨lines, is⟩ := last
      rw [is, chain_append] at whole
      obtain ⟨_, _, checked⟩ := except_bind_ok.1 whole
      obtain ⟨_, parsed', own', _⟩ := check_ok checked
      cases parsed.symm.trans parsed'
      cases own.symm.trans own'
      rfl

end

end

/-! ## Where the chain breaks, and what it does not see -/

/-- An interpreter of records without floats. -/
def plainEnv : Env Empty where
  floats := ⟨Empty.elim, fun _ => none, fun x => x.elim, fun x => x.elim, fun x => x.elim⟩
  redact := id
  redact_unbroken := fun _ => id
  hexdigest s := 'h' :: s
  hexdigest_injective _ _ same := (List.cons.inj same).2
  hexdigest_unbroken := by
    intro s unbroken c within
    rcases List.mem_cons.1 within with rfl | within
    · decide
    · exact unbroken c within
  hexdigest_ne := by
    intro s is
    cases is

def saying (message : Text) : Record Empty := .cons (named "message") (.str message) .nil

def journalOf (message : Text) : Text := (appendAudit plainEnv (saying message) (named "now") .absent).2.content

def callSaying (message : Text) (unbroken : ∀ c ∈ message, Unbroken c) : Call Empty where
  event := saying message
  now := named "now"
  distinct := by simp [saying, Fields.Distinct, Value.Distinct, Fields.keys]
  hashless := by simp [saying, Fields.keys, named]
  unbroken := ⟨by decide, unbroken, trivial⟩
  clock := by decide

theorem audit_verifies_two : ∃ records, records.length = 2 ∧
    appendAll plainEnv [callSaying (named "done") (by decide), callSaying (named "failed") (by decide)] .absent =
      (.ok (), journal plainEnv records) ∧
    (appendAudit plainEnv .nil (named "next") (journal plainEnv records)).1 = .ok () := by
  obtain ⟨records, length, run, next, _⟩ := audit_verifies plainEnv
    [callSaying (named "done") (by decide), callSaying (named "failed") (by decide)]
  exact ⟨records, length, run, next .nil (named "next")⟩

/-- After a message with a line separator no append succeeds. A blank in a record is not seen, and neither is another
record in the place of the last one. -/
theorem audit_breaks :
    ((appendAudit plainEnv (saying ['\u2028']) (named "now") .absent).1 = .ok () ∧
      (appendAudit plainEnv .nil (named "later") (.text (journalOf ['\u2028']))).1 ≠ .ok ()) ∧
    (∃ rest, journalOf (named "done") = '\x7b' :: rest ∧
      (appendAudit plainEnv .nil (named "later") (.text ('\x7b' :: ' ' :: rest))).1 = .ok ()) ∧
    journalOf (named "done") ≠ journalOf (named "failed") ∧
      (appendAudit plainEnv .nil (named "later") (.text (journalOf (named "failed")))).1 = .ok () := by
  refine ⟨⟨?_, ?_⟩, ⟨(journalOf (named "done")).tail, ?_, ?_⟩, ?_, ?_⟩
  · decide +kernel
  · decide +kernel
  · decide +kernel
  · decide +kernel
  · decide +kernel
  · decide +kernel

end Vertep.Update.Audit
