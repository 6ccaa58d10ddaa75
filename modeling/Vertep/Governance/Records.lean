import Mathlib.Data.List.Infix
import Mathlib.Data.Prod.Lex
import Vertep.Core.Plan
import Vertep.Lib.Dict

/-!
# The records of the laboratory's governance

Embedding of the data of `lab/governance.py`, of the texts that it renders, and of the identifiers of
`lab/policy.py`. A field that an object lacks is empty here, as the code reads it; a file that is there can be read, so
`read_json` never falls back to an empty map.
-/

namespace Vertep.Governance
open Lib

/-! ## Identifiers -/

inductive Kind where
  | lab | i | ir | var
deriving DecidableEq

def Kind.text : Kind → String
  | .lab => "lab"
  | .i => "i"
  | .ir => "ir"
  | .var => "var"

def ISSUE_TYPES : List Kind := [.lab, .i, .ir, .var]

/-- `A.B.C.D`. -/
structure Number where
  a : ℕ
  b : ℕ
  c : ℕ
  d : ℕ
deriving DecidableEq

namespace Number

def tuple (n : Number) : ℕ ×ₗ (ℕ ×ₗ (ℕ ×ₗ ℕ)) := toLex (n.a, toLex (n.b, toLex (n.c, n.d)))

lemma tuple_injective : Function.Injective tuple := by
  rintro ⟨a, b, c, d⟩ ⟨a', b', c', d'⟩ same
  simpa [tuple] using same

instance : LinearOrder Number := LinearOrder.lift' tuple tuple_injective

end Number

/-- The `ir` that is consolidated. -/
structure Source where
  identifier : String
  title : String := ""
  remainingCriteria : List String
  number : Option ℕ := none
  others : String := ""
deriving DecidableEq

/-- What is planned to follow it. -/
structure Successor where
  title : String
  transferredCriteria : List String
  identifier : String := ""
  others : String := ""
deriving DecidableEq

/-- What the governance is given from outside. -/
structure Env where
  sha256 : String → String
  /-- `json.dumps` of a title, a body and labels. -/
  dumps : String → String → List String → String
  /-- `json.dumps` of the arguments of a consolidation. -/
  dumpsPlan : Source → List Successor → String → String
  lower : String → String
  repr : String → String
  reprs : List String → String
  /-- The value of a decimal digit that is none of the ASCII digits. -/
  digit : Char → Option ℕ

variable (env : Env)

/-- What `\d` matches, and `int` reads. -/
def Env.digitValue (c : Char) : Option ℕ := if c.isDigit then some (c.toNat - '0'.toNat) else env.digit c

/-- `\d+`, and `int` of it. -/
def Env.int (digits : List Char) : Option ℕ :=
  if digits = [] then none else digits.foldlM (fun n c => (env.digitValue c).map (10 * n + ·)) 0

/-- `^(lab|i|ir|var)\.(\d+)\.(\d+)\.(\d+)\.(\d+)$`. -/
def Env.parse (identifier : String) : Option (Kind × Number) :=
  match identifier.toList.splitOn '.' with
  | [kind, a, b, c, d] => do
    let kind ← ISSUE_TYPES.find? fun k => k.text.toList = kind
    some (kind, ⟨← env.int a, ← env.int b, ← env.int c, ← env.int d⟩)
  | _ => none

def Env.number (identifier : String) : Option Number := (env.parse (Core.strip identifier)).map Prod.snd

/-- `_IDENTIFIER[kind].match(identifier)`. -/
def Env.Identifies (kind : Kind) (identifier : String) : Prop := (env.parse identifier).map Prod.fst = some kind

instance (kind : Kind) : DecidablePred (env.Identifies kind) := fun identifier => by
  unfold Env.Identifies
  infer_instance

/-- The successor in the series of all issues. -/
def Number.increment (n : Number) : Option Number :=
  let (d, c) := if 100 ≤ n.d + 1 then (0, n.c + 1) else (n.d + 1, n.c)
  let (c, b) := if 100 ≤ c then (0, n.b + 1) else (c, n.b)
  let (b, a) := if 100 ≤ b then (0, n.a + 1) else (b, n.a)
  if 100 ≤ a then none else some ⟨a, b, c, d⟩

def Number.text (n : Number) : String :=
  toString n.a ++ "." ++ toString n.b ++ "." ++ toString n.c ++ "." ++ toString n.d

/-- What `consolidate_ir` returns. -/
structure TransferOutcome where
  allowed : Bool
  created : List String := []
  closed : Bool := false
  rule : String := ""
  reason : String := ""
deriving DecidableEq

inductive Failure where
  | governance (message : String)
  /-- `RemoteRejected`. -/
  | rejected (message : String)
  | denied (rule reason : String)
  | value (message : String)
  /-- Any other exception, with its text. -/
  | other (text : String)
  /-- An early `return` of `consolidate_ir`. -/
  | returned (outcome : TransferOutcome)
deriving DecidableEq

def Failure.text : Failure → String
  | .governance message | .rejected message | .value message | .other message => message
  | .denied _ reason => reason
  | .returned outcome => outcome.reason

def reserveIdentifier (kind : Kind) (taken : List String) : Except Failure String :=
  let highest := (taken.filterMap env.number).foldl max ⟨0, 0, 0, 0⟩
  match highest.increment with
  | some candidate => .ok (kind.text ++ "." ++ candidate.text)
  | none => .error (.value "identifier series exhausted")

/-! ## Issues and their records -/

structure Finding where
  title : String
  evidence : String := ""
  reproduction : String := ""
  risk : String := ""
  expectedResult : String := ""
  boundaries : String := ""
  source : String := ""
  approvedScope : String := ""
  identifier : String := ""
  kind : String := "defect"
  others : String := ""
deriving DecidableEq

/-- What `create_issue` is given about an issue. -/
structure Metadata where
  identifier : String := ""
  transferredFrom : String := ""
  transferredCriteria : List String := []
  sourceTitle : String := ""
  others : String := ""
deriving DecidableEq

inductive IntentState where
  | sending | reserved | uncertain
deriving DecidableEq

/-- An entry of `issue-intents.json`. -/
structure Intent where
  identifier : String
  contentHash : String
  state : IntentState
  /-- The source that the issue succeeds to: kept for the statements only. -/
  link : String := ""
deriving DecidableEq

/-- The issue that an effect is recorded with. -/
structure Effect where
  number : ℕ
  expectedBodySha256 : String
deriving DecidableEq

/-- What a record is about. -/
inductive Content where
  | finding (finding : Finding) (labId : String)
  | issue (identifier : String) (kind : Kind) (title : String) (metadata : Metadata)
deriving DecidableEq

/-- The source that it succeeds to. -/
def Content.link : Content → String
  | .finding .. => ""
  | .issue _ _ _ metadata => metadata.transferredFrom

/-- A record of `created-issues.json`. -/
structure Record where
  key : String
  issue : Effect
  content : Content
deriving DecidableEq

/-- `record.get("identifier", "")`. -/
def Record.identifier (record : Record) : String :=
  match record.content with
  | .finding .. => ""
  | .issue identifier .. => identifier

def Record.finding (record : Record) : Option Finding :=
  match record.content with
  | .finding finding _ => some finding
  | .issue .. => none

def Record.metadata (record : Record) : Metadata :=
  match record.content with
  | .finding .. => {}
  | .issue _ _ _ metadata => metadata

/-- The identifiers that a record holds. -/
def Record.identifiers (record : Record) : List String :=
  match record.content with
  | .finding finding _ => [finding.identifier].filter (· ≠ "")
  | .issue identifier _ _ metadata => [identifier, metadata.identifier].filter (· ≠ "")

/-- What `propose_lab_issue` counts as numbers besides. -/
def Record.candidates (record : Record) : List String :=
  match record.content with
  | .finding finding labId => [labId, record.key, finding.identifier].filter (· ≠ "")
  | .issue identifier .. => [identifier, record.key].filter (· ≠ "")

def alreadyCreated (created : List Record) (key : String) : Option Record := created.find? (·.key = key)

def recordByIdentifier (created : List Record) (identifier : String) : Option Record :=
  created.find? (·.identifier = identifier)

/-- An issue that `find_duplicates` has found. -/
structure Found where
  number : ℕ
  title : String
  body : String
deriving DecidableEq

/-! ## Texts -/

def fullTitle (identifier title : String) : String := identifier ++ " — " ++ title

def Env.contentHash (fullTitle body : String) (labels : List String) : String :=
  env.sha256 (env.dumps fullTitle body labels)

def Env.marker (key contentHash : String) : String :=
  "<!-- vertep-lab-operation:" ++ env.sha256 (key ++ contentHash) ++ " -->"

def Env.completeBody (key body contentHash : String) : String := body ++ "\n\n" ++ env.marker key contentHash

def renderLabBody (finding : Finding) : String :=
  "\n".intercalate ["## Тип", "",
    "`lab` — знахідка автономної лабораторії (" ++ finding.kind ++ ").",
    "", "## Доказ", "", Core.strip finding.evidence,
    "", "## Відтворення", "", Core.strip finding.reproduction,
    "", "## Ризик", "", Core.strip finding.risk,
    "", "## Очікуваний результат", "", Core.strip finding.expectedResult,
    "", "## Межі", "", Core.strip finding.boundaries,
    "", "## Джерело та погоджений scope", "",
    "- Джерело: " ++ Core.strip finding.source,
    "- Погоджена вимога: " ++ Core.strip finding.approvedScope,
    "", "Це не продуктова ідея та не нова функція: лабораторія фіксує лише",
    "підтверджений дефект, регресію, порушення безпеки або невідповідність уже",
    "затвердженим вимогам (`AGENTS.md` §4.6)."]

def renderIssueBody (kind : Kind) (title identifier : String) (metadata : Metadata) : String :=
  "\n".intercalate (["## Тип", "",
      "`" ++ kind.text ++ "` — створено автономною лабораторією за погодженням власника (`AGENTS.md` §4.6).",
      "", "## Назва", "", title] ++
    (if identifier = "" then [] else ["", "## Ідентифікатор", "", "`" ++ identifier ++ "`"]) ++
    (if metadata.transferredCriteria = [] then [] else
      ["", "## Перенесений залишок", "", "- Джерело: `" ++ metadata.transferredFrom ++ "`",
        "- Критерії: " ++ ", ".intercalate (metadata.transferredCriteria.map fun item => "`" ++ item ++ "`")]) ++
    ["", "## Межі", "", "Лише погоджений scope цього Issue; нові вимоги не додаються."])

/-! ## Findings -/

/-- The problems that `validate_lab_finding` finds. -/
def validateLabFinding (finding : Finding) : List String :=
  ([("title", finding.title), ("evidence", finding.evidence), ("reproduction", finding.reproduction),
      ("risk", finding.risk), ("expected_result", finding.expectedResult), ("boundaries", finding.boundaries),
      ("source", finding.source), ("approved_scope", finding.approvedScope)].filterMap fun (key, value) =>
    if Core.strip value = "" then some ("missing " ++ key) else none) ++
  (if finding.identifier ≠ "" ∧ env.parse finding.identifier = none then ["identifier must look like lab.A.B.C.D"]
    else []) ++
  (if finding.kind ∈ ["defect", "regression", "security", "nonconformance"] then []
    else ["kind must be defect, regression, security or nonconformance"]) ++
  if ["ідея", "idea", "feature request", "пропозиція функції"].any fun marker =>
      marker.toList <:+: (env.lower finding.title).toList
  then ["lab is not a channel for product ideas"] else []

end Vertep.Governance
