import Readiness.Config.Schema
import Readiness.Text.Quoted
import Readiness.Yaml.Value

/-!
The configuration that a YAML value describes. The entries of a mapping are taken in their order;
the first one that does not fit is the error. Entries of unknown names are ignored.
-/

namespace Readiness.Config

open Decimal (Binary64 NumberStyle)
open Yaml (Value)

inductive Found
  | unit
  | boolean (b : Bool)
  | integer (n : Int)
  | float (x : Binary64)
  | string (text : String)
  | sequence
  | map
  deriving Repr

namespace Found

/-- Floats in messages: all digits in place, with a fraction. -/
def floatStyle : NumberStyle := ⟨-1000, 1000, true, "e"⟩

def text : Found → String
  | unit => "unit value"
  | boolean b => "boolean `" ++ toString b ++ "`"
  | integer n => "integer `" ++ toString n ++ "`"
  | float x => "floating point `" ++ x.text floatStyle ++ "`"
  | string text => "string " ++ Text.quoted text
  | sequence => "sequence"
  | map => "map"

/-- What a value is, whatever its tags. -/
def ofValue : Value → Found
  | .null => unit
  | .bool b => boolean b
  | .int n => integer n
  | .float x => float x
  | .string text => string text
  | .sequence _ => sequence
  | .mapping _ => map
  | .tagged _ content => ofValue content

end Found

/-- Why a value does not describe a configuration. -/
inductive Mismatch
  | type (found : Found) (expected : String)
  | range (found : Found) (expected : String)
  | variant (name : String) (expected : List String)
  | duplicate (field : String)
  deriving Repr

namespace Mismatch

/-- Names in backquotes, with commas, or with `or` between two. -/
def listed (names : List String) : String :=
  let quotedNames := names.map fun name => "`" ++ name ++ "`"
  match quotedNames with
  | [a, b] => a ++ " or " ++ b
  | _ => "one of " ++ ", ".intercalate quotedNames

def message : Mismatch → String
  | type found expected => "invalid type: " ++ found.text ++ ", expected " ++ expected
  | range found expected => "invalid value: " ++ found.text ++ ", expected " ++ expected
  | variant name expected => "unknown variant `" ++ name ++ "`, expected " ++ listed expected
  | duplicate field => "duplicate field `" ++ field ++ "`"

end Mismatch

abbrev Decoder (α : Type) := Value → Except Mismatch α

namespace Decoder

def mismatch {α : Type} (v : Value) (expected : String) : Except Mismatch α :=
  .error (.type (.ofValue v) expected)

/-- A whole number below a bound. -/
def natural (bound : Nat) (expected : String) : Decoder Nat := fun v =>
  match v.untagged with
  | .int n =>
    if 0 ≤ n ∧ n < bound then .ok n.toNat else .error (.range (.integer n) expected)
  | _ => mismatch v expected

def uint16 : Decoder UInt16 := fun v => (natural UInt16.size "u16" v).map UInt16.ofNat
def uint32 : Decoder UInt32 := fun v => (natural UInt32.size "u32" v).map UInt32.ofNat
def uint64 : Decoder UInt64 := fun v => (natural UInt64.size "u64" v).map UInt64.ofNat

def boolean : Decoder Bool := fun v =>
  match v.untagged with
  | .bool b => .ok b
  | _ => mismatch v "a boolean"

def string (expected : String) : Decoder String := fun v =>
  match v.untagged with
  | .string text => .ok text
  | _ => mismatch v expected

/-- A path; a null without a tag leaves it unset. -/
def path? : Decoder (Option Path) := fun v =>
  match v with
  | .null => .ok none
  | _ => (string "path string" v).map fun text => some ⟨text⟩

/-- A sequence of strings; null is the empty one. -/
def strings : Decoder (List String) := fun v =>
  match v.untagged with
  | .sequence items => items.mapM (string "a string")
  | .null => .ok []
  | _ => mismatch v "a sequence"

/-- One of several names, as a string or as a tag that has no content. -/
def choice {α : Type} (all : List α) (name : α → String) : Decoder α := fun v => do
  let (text, content) ← match v with
    | .string text => Except.ok (text, Value.null)
    | .tagged text content => .ok (text, content)
    | _ => mismatch v "a Value::Tagged enum"
  match all.find? fun a => name a == text with
  | none => .error (.variant text (all.map name))
  | some a =>
    match content.untagged with
    | .null => .ok a
    | _ => mismatch content "unit"

structure Field (α : Type) where
  name : String
  set : Value → α → Except Mismatch α

def field {α β : Type} (name : String) (decode : Decoder β) (put : β → α → α) : Field α :=
  ⟨name, fun v a => (decode v).map fun b => put b a⟩

/-- Takes the entries in order; `seen` are the names of the fields set before. -/
def entries {α : Type} (fields : List (Field α)) (seen : List String) (a : α) :
    Yaml.Entries → Except Mismatch α
  | [] => .ok a
  | (key, value) :: rest => do
    let name ← string "field identifier" key
    match fields.find? fun f => f.name == name with
    | none => entries fields seen a rest
    | some f =>
      if seen.contains name then .error (.duplicate name)
      else entries fields (name :: seen) (← f.set value a) rest

/-- A structure from a mapping; null leaves all fields at their defaults. -/
def record {α : Type} (expected : String) (fields : List (Field α)) (default : α) :
    Decoder α := fun v =>
  match v.untagged with
  | .mapping es => entries fields [] default es
  | .null => .ok default
  | _ => mismatch v ("struct " ++ expected)

end Decoder

open Decoder

def settingsDecoder : Decoder Settings :=
  record "Settings"
    [field "default_output" (choice Verbosity.all Verbosity.name)
      fun verbosity s => { s with defaultOutput := verbosity },
     field "format" (choice ReportFormat.all ReportFormat.name)
      fun format s => { s with format := format },
     field "parallel" boolean fun parallel s => { s with parallel := parallel }]
    {}

def companionToolDecoder : Decoder CompanionTool :=
  record "CompanionTool"
    [field "program" (string "a string") fun program t => { t with program := program },
     field "args" strings fun args t => { t with args := args },
     field "timeout_secs" uint64 fun secs t => { t with timeoutSecs := secs },
     field "install_hint" (string "a string") fun hint t => { t with installHint := hint }]
    {}

def checkSettingsDecoder : Decoder CheckSettings :=
  record "CheckSettings"
    [field "port" uint16 fun port s => { s with port := port },
     field "database_path" path? fun path s => { s with databasePath := path },
     field "min_os_major" uint32 fun major s => { s with minOsMajor := major },
     field "min_free_space_mb" uint64 fun mb s => { s with minFreeSpaceMb := mb },
     field "min_managed_release" uint64 fun release s => { s with minManagedRelease := release },
     field "install_dir" path? fun path s => { s with installDir := path },
     field "firewall_policy" (choice FirewallPolicy.all FirewallPolicy.name)
      fun policy s => { s with firewallPolicy := policy },
     field "companion_tool" companionToolDecoder fun tool s => { s with companionTool := tool }]
    {}

def decode : Decoder Config :=
  record "PreinstallConfig"
    [field "settings" settingsDecoder fun settings c => { c with settings := settings },
     field "checks" checkSettingsDecoder fun checks c => { c with checks := checks }]
    {}

end Readiness.Config
