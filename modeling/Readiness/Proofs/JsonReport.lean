import Readiness.Proofs.JsonReading
import Readiness.Report.Json

/-!
The report as a JSON document reads back: the verdict and every result, in their order, are in the
document as they were given. A reader knows the checks, the statuses and the classes by their texts.
What it counts by the class of the entries are the counts of the verdict.
-/

namespace Readiness.Report.Json

open Readiness.Json (Value Literal)

section Texts

/-- The checks by their names for machines. -/
def checkKeys : List (String × CheckId) :=
  [("os-version", .osVersion), ("elevation", .elevation), ("database-driver", .databaseDriver),
   ("native-runtime", .nativeRuntime), ("managed-runtime", .managedRuntime),
   ("disk-space", .diskSpace), ("database-path", .databasePath), ("port", .port),
   ("firewall", .firewall), ("companion-tool", .companionTool)]

/-- The checks by their names for people. -/
def checkNames : List (String × CheckId) :=
  [("Operating system version", .osVersion), ("Administrator privileges", .elevation),
   ("Visual FoxPro ODBC driver", .databaseDriver), ("Visual C++ Redistributable", .nativeRuntime),
   (".NET Framework", .managedRuntime), ("Free disk space", .diskSpace),
   ("Database directory", .databasePath), ("Port availability", .port), ("Firewall", .firewall),
   ("Companion tool", .companionTool)]

def statuses : List (String × Status) := [("pass", .pass), ("warn", .warn), ("fail", .fail)]

def reportClasses : List (String × ReportClass) :=
  [("passed", .passed), ("advisory", .advisory), ("blocking", .blocking)]

@[simp] theorem lookup_key (id : CheckId) : checkKeys.lookup id.key = some id := by
  cases id <;> rfl

@[simp] theorem lookup_name (id : CheckId) : checkNames.lookup id.name = some id := by
  cases id <;> rfl

@[simp] theorem lookup_status (s : Status) : statuses.lookup s.name = some s := by
  cases s <;> rfl

@[simp] theorem lookup_reportClass (c : ReportClass) : reportClasses.lookup c.name = some c := by
  cases c <;> rfl

end Texts

section Readers

/-- What a reader finds in the entry of a result. -/
structure Entry where
  id : CheckId
  /-- The check that bears the name of the entry. -/
  named : CheckId
  status : Status
  reportClass : ReportClass
  passed : Bool
  critical : Bool
  message : String
  details : String
  deriving DecidableEq, Repr

/-- The entry of a result. Its class goes by the status and by whether the check is critical. -/
def Entry.ofResult (r : CheckResult) : Entry where
  id := r.id
  named := r.id
  status := r.status
  reportClass :=
    if r.status ≠ .fail then .passed else if r.critical then .blocking else .advisory
  passed := r.status ≠ .fail
  critical := r.critical
  message := r.message
  details := r.details

def string? : Value → Option String
  | .string text => some text
  | _ => none

def bool? : Value → Option Bool
  | .bool b => some b
  | _ => none

def nat? : Value → Option Nat
  | .number l => if l.isWhole && !l.negative then Text.readNat? 10 l.whole else none
  | _ => none

def items? : Value → Option (List Value)
  | .array items => some items
  | _ => none

def stringIn? (v : Value) (name : String) : Option String := (v.member? name).bind string?

def boolIn? (v : Value) (name : String) : Option Bool := (v.member? name).bind bool?

def natIn? (v : Value) (name : String) : Option Nat := (v.member? name).bind nat?

/-- What has the text that stands under a name. -/
def oneOfIn? {α : Type} (table : List (String × α)) (v : Value) (name : String) : Option α :=
  (stringIn? v name).bind fun text => table.lookup text

def decodeVerdict? (v : Value) : Option Verdict := do
  let passed ← natIn? v "passed"
  let total ← natIn? v "total"
  let criticalFailures ← natIn? v "critical_failures"
  let advisories ← natIn? v "advisories"
  let canInstall ← boolIn? v "can_install"
  return { passed, total, criticalFailures, advisories, canInstall }

def decodeResult? (v : Value) : Option Entry := do
  let id ← oneOfIn? checkKeys v "id"
  let named ← oneOfIn? checkNames v "name"
  let status ← oneOfIn? statuses v "status"
  let reportClass ← oneOfIn? reportClasses v "class"
  let passed ← boolIn? v "passed"
  let critical ← boolIn? v "critical"
  let message ← stringIn? v "message"
  let details ← stringIn? v "details"
  return { id, named, status, reportClass, passed, critical, message, details }

/-- The verdict that a document has in its summary. -/
def summary? (document : Value) : Option Verdict := (document.member? "summary").bind decodeVerdict?

/-- The entries that a document has for the results. -/
def entries? (document : Value) : Option (List Entry) := do
  let checks ← document.member? "checks"
  (← items? checks).mapM decodeResult?

end Readers

section Document

variable (moment : Time.Stamp) (results : List CheckResult) (v : Verdict)

theorem nat_proper (n : Nat) : (Value.nat n).Proper := .number (Literal.ofNat_proper n)

theorem verdictValue_proper : (verdictValue v).Proper := by
  refine .object ?_
  simp only [List.forall_mem_cons, nat_proper, Value.Proper.bool, true_and]
  exact List.forall_mem_nil _

theorem resultValue_proper (r : CheckResult) : (resultValue r).Proper := by
  refine .object ?_
  simp only [List.forall_mem_cons, Value.Proper.string, Value.Proper.bool, true_and]
  exact List.forall_mem_nil _

theorem document_proper : (document moment results v).Proper := by
  have hchecks : ∀ item ∈ results.map resultValue, item.Proper := by
    intro item hitem
    obtain ⟨r, -, rfl⟩ := List.mem_map.mp hitem
    exact resultValue_proper r
  refine .object ?_
  simp only [List.forall_mem_cons, Value.Proper.string, verdictValue_proper, true_and]
  exact ⟨.array hchecks, List.forall_mem_nil _⟩

theorem nat?_nat (n : Nat) : nat? (.nat n) = some n :=
  Text.readNat?_toDigits (by decide) (by decide) n

theorem decodeVerdict?_verdictValue : decodeVerdict? (verdictValue v) = some v := by
  simp [decodeVerdict?, verdictValue, natIn?, boolIn?, Value.member?, nat?_nat, bool?]

theorem passed_entry (r : CheckResult) : (Entry.ofResult r).passed = r.passed := by
  cases hstatus : r.status <;> simp [Entry.ofResult, CheckResult.passed, hstatus]

theorem reportClass_entry (r : CheckResult) :
    (Entry.ofResult r).reportClass = r.reportClass := by
  rw [CheckResult.reportClass, ← passed_entry]
  simp [Entry.ofResult]

theorem decodeResult?_resultValue (r : CheckResult) :
    decodeResult? (resultValue r) = some (.ofResult r) := by
  simp [decodeResult?, resultValue, oneOfIn?, stringIn?, boolIn?, Value.member?, string?, bool?,
    ← passed_entry, ← reportClass_entry]
  rfl

theorem mapM_decodeResult? :
    (results.map resultValue).mapM decodeResult? = some (results.map Entry.ofResult) := by
  induction results with
  | nil => rfl
  | cons r results ih =>
      rw [List.map_cons, List.mapM_cons, decodeResult?_resultValue, ih]
      rfl

theorem summary?_document : summary? (document moment results v) = some v := by
  have hmember : (document moment results v).member? "summary" = some (verdictValue v) := by
    simp [document, Value.member?]
  rw [summary?, hmember]
  exact decodeVerdict?_verdictValue v

theorem entries?_document :
    entries? (document moment results v) = some (results.map Entry.ofResult) := by
  have hmember : (document moment results v).member? "checks" =
      some (.array (results.map resultValue)) := by
    simp [document, Value.member?]
  rw [entries?, hmember]
  exact mapM_decodeResult? results

theorem countP_entries (c : ReportClass) :
    (results.map Entry.ofResult).countP (fun e => e.reportClass == c) =
      Verdict.count c results := by
  rw [List.countP_map, Verdict.count]
  congr 1
  funext r
  exact congrArg (· == c) (reportClass_entry r)

end Document

/-- The report is one JSON document and a line break. The document says of the verdict and of the
results what they are, and its entries number, class by class, what the verdict over the results
counts. -/
theorem text_reads_back (moment : Time.Stamp) (results : List CheckResult) (v : Verdict) :
    ∃ source document entries,
      text moment results v = source ++ "\n" ∧
        Value.parse? source = some document ∧
        Value.parse? (text moment results v) = some document ∧
        summary? document = some v ∧
        entries? document = some entries ∧
        entries = results.map Entry.ofResult ∧
        entries.countP (fun e => e.reportClass == .blocking) =
          (Verdict.ofResults results).criticalFailures ∧
        entries.countP (fun e => e.reportClass == .advisory) =
          (Verdict.ofResults results).advisories ∧
        entries.countP (fun e => e.reportClass == .passed) =
          (Verdict.ofResults results).passed := by
  have hproper := document_proper moment results v
  have hsource : Value.parse? (document moment results v).pretty =
      some (document moment results v) := by
    rw [Value.pretty, ← List.append_nil (Value.chars .indented 0 _)]
    exact Json.parse?_chars hproper (List.forall_mem_nil _)
  have htext : text moment results v =
      String.ofList ((document moment results v).chars .indented 0 ++ ['\n']) := by
    rw [text, Value.pretty, String.ofList_append]
  have hwhole : Value.parse? (text moment results v) = some (document moment results v) := by
    rw [htext]
    exact Json.parse?_chars hproper (List.forall_mem_singleton.mpr rfl)
  exact ⟨_, _, _, rfl, hsource, hwhole, summary?_document moment results v,
    entries?_document moment results v, rfl, countP_entries results .blocking,
    countP_entries results .advisory, countP_entries results .passed⟩

end Readiness.Report.Json
