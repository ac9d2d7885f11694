import Readiness.Config.Agent
import Readiness.Proofs.JsonReading
import Readiness.Proofs.Steps
import Mathlib.Data.List.DropRight

/-!
What an agent's configuration file says. A text that is read is a JSON document, and either field
of the agent is what the one value for it says, or the default where the document has none.
-/

namespace Readiness.Json

section Fuel

variable {α β : Type} {f g : List Char → Read α} {stand : Option Char} {fuel : Nat}

/-- The second reader reads whatever the first one reads, with the same answer. -/
def Extends (f g : List Char → Read α) : Prop := ∀ cs r, f cs = some r → g cs = some r

theorem Extends.map (h : Extends f g) (k : α × List Char → β × List Char) (cs : List Char)
    (r : β × List Char) (hr : (f cs).map k = some r) : (g cs).map k = some r := by
  obtain ⟨x, hx, hk⟩ := Option.map_eq_some_iff.mp hr
  rw [h cs x hx, Option.map_some, hk]

theorem readValue_succ (hitems : Extends (readItems stand fuel) (readItems stand (fuel + 1)))
    (hmembers : Extends (readMembers stand fuel) (readMembers stand (fuel + 1))) :
    Extends (readValue stand (fuel + 1)) (readValue stand (fuel + 2)) := by
  intro cs r
  rw [readValue, readValue]
  split
  case h_3 rest _ =>
    split
    · exact id
    · exact hitems.map _ rest r
  case h_4 rest _ =>
    split
    · exact id
    · exact hmembers.map _ rest r
  all_goals exact id

theorem readItems_succ (hvalue : Extends (readValue stand fuel) (readValue stand (fuel + 1)))
    (hitems : Extends (readItems stand fuel) (readItems stand (fuel + 1))) :
    Extends (readItems stand (fuel + 1)) (readItems stand (fuel + 2)) := by
  intro cs r h
  rw [readItems] at h ⊢
  split at h
  · cases h
  · rename_i item rest hitem
    rw [hvalue _ _ hitem]
    revert h
    dsimp only
    split
    · exact id
    · exact hitems.map _ _ r
    · exact id

theorem readMembers_succ (hvalue : Extends (readValue stand fuel) (readValue stand (fuel + 1)))
    (hmembers : Extends (readMembers stand fuel) (readMembers stand (fuel + 1))) :
    Extends (readMembers stand (fuel + 1)) (readMembers stand (fuel + 2)) := by
  intro cs r
  rw [readMembers, readMembers]
  split
  · split
    · exact id
    · split
      · intro h
        split at h
        · cases h
        · rename_i value rest hread
          rw [hvalue _ _ hread]
          revert h
          dsimp only
          split
          · exact id
          · exact hmembers.map _ _ r
          · exact id
      · exact id
  · exact id

theorem extends_succ (stand : Option Char) (fuel : Nat) :
    Extends (readValue stand fuel) (readValue stand (fuel + 1)) ∧
      Extends (readItems stand fuel) (readItems stand (fuel + 1)) ∧
      Extends (readMembers stand fuel) (readMembers stand (fuel + 1)) := by
  induction fuel with
  | zero =>
      refine ⟨?_, ?_, ?_⟩
      all_goals
        intro cs r h
        cases h
  | succ fuel ih =>
      obtain ⟨hvalue, hitems, hmembers⟩ := ih
      exact ⟨readValue_succ hitems hmembers, readItems_succ hvalue hitems,
        readMembers_succ hvalue hmembers⟩

/-- More fuel does not change what is read. -/
theorem extends_of_le {more : Nat} (hle : fuel ≤ more) :
    Extends (readValue stand fuel) (readValue stand more) ∧
      Extends (readItems stand fuel) (readItems stand more) ∧
      Extends (readMembers stand fuel) (readMembers stand more) := by
  induction hle with
  | refl => exact ⟨fun _ _ h => h, fun _ _ h => h, fun _ _ h => h⟩
  | @step more _ ih =>
      obtain ⟨hvalue, hitems, hmembers⟩ := ih
      obtain ⟨hvalue', hitems', hmembers'⟩ := extends_succ stand more
      exact ⟨fun cs r h => hvalue' cs r (hvalue cs r h),
        fun cs r h => hitems' cs r (hitems cs r h),
        fun cs r h => hmembers' cs r (hmembers cs r h)⟩

end Fuel

section Space

variable {stand : Option Char} {fuel : Nat} {cs : List Char}

theorem skipSpace_skipSpace : skipSpace (skipSpace cs) = skipSpace cs :=
  List.dropWhile_idempotent isSpace cs

theorem readValue_skipSpace : readValue stand fuel (skipSpace cs) = readValue stand fuel cs := by
  cases fuel with
  | zero => rfl
  | succ fuel => rw [readValue, readValue, skipSpace_skipSpace]

theorem readMembers_skipSpace :
    readMembers stand fuel (skipSpace cs) = readMembers stand fuel cs := by
  cases fuel with
  | zero => rfl
  | succ fuel => rw [readMembers, readMembers, skipSpace_skipSpace]

end Space

section Documents

variable {cs after rest : List Char} {v : Value}

/-- The text begins with the value, and goes on with the rest. Half a surrogate pair that stands
alone counts as the replacement character. -/
def Begin (cs : List Char) (v : Value) (rest : List Char) : Prop :=
  ∃ fuel, readValue (some Text.Utf8.replacement) fuel cs = some (v, rest)

/-- The text begins with the items of an array and the closing bracket. -/
def BeginItems (cs : List Char) (items : List Value) (rest : List Char) : Prop :=
  ∃ fuel, readItems (some Text.Utf8.replacement) fuel cs = some (items, rest)

/-- The text begins with the members of an object and the closing brace. -/
def BeginMembers (cs : List Char) (members : List (String × Value)) (rest : List Char) : Prop :=
  ∃ fuel, readMembers (some Text.Utf8.replacement) fuel cs = some (members, rest)

/-- The text is the value, with nothing but white space around it. -/
def IsDocument (text : String) (v : Value) : Prop :=
  ∃ rest, Begin text.toList v rest ∧ skipSpace rest = []

theorem begin_of_skipSpace (h : Begin (skipSpace cs) v rest) : Begin cs v rest := by
  obtain ⟨fuel, h⟩ := h
  rw [readValue_skipSpace] at h
  exact ⟨fuel, h⟩

theorem beginMembers_of_skipSpace {members : List (String × Value)}
    (h : BeginMembers (skipSpace cs) members rest) : BeginMembers cs members rest := by
  obtain ⟨fuel, h⟩ := h
  rw [readMembers_skipSpace] at h
  exact ⟨fuel, h⟩

theorem begin_string {text : String} (hcs : skipSpace cs = '"' :: after)
    (h : readString none after = some (text, rest)) : Begin cs (.string text) rest :=
  ⟨1, readValue_string hcs (readString_of_none h)⟩

theorem begin_number {c : Char} {literal : Literal} (hcs : skipSpace cs = c :: after)
    (hc : startsNumber c = true) (h : readNumber (c :: after) = some (literal, rest)) :
    Begin cs (.number literal) rest := by
  refine ⟨1, ?_⟩
  rw [← readValue_skipSpace, hcs, readValue_number hc, h, Option.map_some]

theorem begin_array_nil (hcs : skipSpace cs = '[' :: after)
    (hafter : skipSpace after = ']' :: rest) : Begin cs (.array []) rest :=
  ⟨1, readValue_array_nil hcs hafter⟩

theorem begin_array {items : List Value} (hcs : skipSpace cs = '[' :: after)
    (hafter : ∀ more, skipSpace after ≠ ']' :: more) (h : BeginItems after items rest) :
    Begin cs (.array items) rest := by
  obtain ⟨fuel, h⟩ := h
  exact ⟨fuel + 1, readValue_array hcs hafter h⟩

theorem beginItems_last (h : Begin cs v after) (hafter : skipSpace after = ']' :: rest) :
    BeginItems cs [v] rest := by
  obtain ⟨fuel, h⟩ := h
  exact ⟨fuel + 1, by simp only [readItems, h, hafter]⟩

theorem beginItems_cons {items : List Value} {next : List Char} (h : Begin cs v after)
    (hafter : skipSpace after = ',' :: next) (hnext : BeginItems next items rest) :
    BeginItems cs (v :: items) rest := by
  obtain ⟨fuel, h⟩ := h
  obtain ⟨fuel', hnext⟩ := hnext
  have h := (extends_of_le (Nat.le_max_left fuel fuel')).1 _ _ h
  have hnext := (extends_of_le (Nat.le_max_right fuel fuel')).2.1 _ _ hnext
  exact ⟨max fuel fuel' + 1, by simp only [readItems, h, hafter, hnext, Option.map_some]⟩

theorem begin_object_nil (hcs : skipSpace cs = '\x7b' :: after)
    (hafter : skipSpace after = '\x7d' :: rest) : Begin cs (.object []) rest :=
  ⟨1, readValue_object_nil hcs hafter⟩

theorem begin_object {members : List (String × Value)} (hcs : skipSpace cs = '\x7b' :: after)
    (hafter : ∀ more, skipSpace after ≠ '\x7d' :: more) (h : BeginMembers after members rest) :
    Begin cs (.object members) rest := by
  obtain ⟨fuel, h⟩ := h
  exact ⟨fuel + 1, readValue_object hcs hafter h⟩

section Members

variable {name : String} {afterQuote afterName afterColon : List Char}

theorem beginMembers_last (hquote : skipSpace cs = '"' :: afterQuote)
    (hname : readString none afterQuote = some (name, afterName))
    (hcolon : skipSpace afterName = ':' :: afterColon) (h : Begin afterColon v after)
    (hafter : skipSpace after = '\x7d' :: rest) : BeginMembers cs [(name, v)] rest := by
  obtain ⟨fuel, h⟩ := h
  exact ⟨fuel + 1, by
    simp only [readMembers, hquote, readString_of_none hname, hcolon, h, hafter]⟩

theorem beginMembers_cons {members : List (String × Value)} {next : List Char}
    (hquote : skipSpace cs = '"' :: afterQuote)
    (hname : readString none afterQuote = some (name, afterName))
    (hcolon : skipSpace afterName = ':' :: afterColon) (h : Begin afterColon v after)
    (hafter : skipSpace after = ',' :: next) (hnext : BeginMembers next members rest) :
    BeginMembers cs ((name, v) :: members) rest := by
  obtain ⟨fuel, h⟩ := h
  obtain ⟨fuel', hnext⟩ := hnext
  have h := (extends_of_le (Nat.le_max_left fuel fuel')).1 _ _ h
  have hnext := (extends_of_le (Nat.le_max_right fuel fuel')).2.2 _ _ hnext
  exact ⟨max fuel fuel' + 1, by
    simp only [readMembers, hquote, readString_of_none hname, hcolon, h, hafter, hnext,
      Option.map_some]⟩

end Members

end Documents
end Readiness.Json

namespace Readiness.Config.Agent

open Json (Begin BeginItems BeginMembers IsDocument Value)

/-- The values of the members with a name. -/
def valuesOf (name : String) (members : List (String × Value)) : List Value :=
  (members.filter fun m => m.1 == name).map Prod.snd

theorem valuesOf_append (name : String) (members more : List (String × Value)) :
    valuesOf name (members ++ more) = valuesOf name members ++ valuesOf name more := by
  rw [valuesOf, List.filter_append, List.map_append, valuesOf, valuesOf]

theorem valuesOf_of_ne {name other : String} {v : Value} (h : ¬ (other == name) = true) :
    valuesOf name [(other, v)] = [] := by
  simp only [valuesOf, List.filter_cons, h, Bool.false_eq_true, if_false, List.filter_nil,
    List.map_nil]

/-- The values that a document has for the database path. In an array that is the first item. -/
def pathValues : Value → List Value
  | .object members => valuesOf "database_path" members
  | .array items => items.take 1
  | _ => []

/-- The values that a document has for the port. In an array that is what follows the path. -/
def portValues : Value → List Value
  | .object members => valuesOf "port" members
  | .array items => items.drop 1
  | _ => []

def pathOf? : Value → Option String
  | .string path => some path
  | _ => none

def portOf? : Value → Option UInt16
  | .number literal =>
    match Json.Number.ofLiteral? literal with
    | some (.whole n) => if n < UInt16.size then some (UInt16.ofNat n) else none
    | _ => none
  | _ => none

/-- The field is what the only value for it says, or it has its default where there is no value. -/
inductive Gives {α : Type} (of? : Value → Option α) (default : α) : List Value → α → Prop
  | absent : Gives of? default [] default
  | present {v : Value} {x : α} (h : of? v = some x) : Gives of? default [v] x

/-- The agent is what the document says. -/
structure Describes (v : Value) (a : Agent) : Prop where
  databasePath : Gives pathOf? "" (pathValues v) a.databasePath
  port : Gives portOf? 8787 (portValues v) a.port

section Reading

/-- The values, put to what was known before, make the fields known. -/
structure Adds (paths ports : List Value) (before after : Fields) : Prop where
  databasePath : before.databasePath.toList.map some ++ paths.map pathOf? =
    after.databasePath.toList.map some
  port : before.port.toList.map some ++ ports.map portOf? = after.port.toList.map some

variable {cs after rest : List Char} {fields fields' : Fields}

theorem Adds.trans {paths ports paths' ports' : List Value} {f f' f'' : Fields}
    (h : Adds paths ports f f') (h' : Adds paths' ports' f' f'') :
    Adds (paths ++ paths') (ports ++ ports') f f'' where
  databasePath := by
    rw [List.map_append, ← List.append_assoc, h.databasePath, h'.databasePath]
  port := by
    rw [List.map_append, ← List.append_assoc, h.port, h'.port]

theorem strict_eq_ok_iff {α : Type} {r : Option α} {x : α} :
    strict r = .ok x ↔ r = some x := by
  cases r <;> simp [strict]

theorem readDatabasePath_begin {path : String} (h : readDatabasePath cs = .ok (path, rest)) :
    Begin cs (.string path) rest := by
  rw [readDatabasePath] at h
  split at h
  · rename_i after hcs
    exact Json.begin_string hcs (strict_eq_ok_iff.mp h)
  · cases h

theorem readNumber_eq_ok {number : Json.Number} (h : readNumber cs = .ok (number, rest)) :
    ∃ literal, Json.readNumber cs = some (literal, rest) ∧
      Json.Number.ofLiteral? literal = some number := by
  obtain ⟨⟨literal, rest'⟩, hliteral, h⟩ := bind_eq_ok_iff.mp h
  dsimp only at h
  split at h
  · rename_i number' hnumber
    cases h
    exact ⟨literal, strict_eq_ok_iff.mp hliteral, hnumber⟩
  · cases h

theorem readPort_begin {port : UInt16} (h : readPort cs = .ok (port, rest)) :
    ∃ v, Begin cs v rest ∧ portOf? v = some port := by
  rw [readPort] at h
  split at h
  · rename_i c after hcs
    split at h
    · rename_i hc
      obtain ⟨⟨number, rest'⟩, hnumber, h⟩ := bind_eq_ok_iff.mp h
      obtain ⟨literal, hread, hliteral⟩ := readNumber_eq_ok hnumber
      split at h
      · rename_i n _ heq
        split at h
        · rename_i hn
          cases heq
          cases h
          exact ⟨.number literal, Json.begin_number hcs hc hread, by
            simp only [portOf?, hliteral, if_pos hn]⟩
        · cases h
      · cases h
      · cases h
    · cases h
  · cases h

theorem readColon_eq_ok_iff {after : List Char} :
    readColon cs = .ok after ↔ Json.skipSpace cs = ':' :: after := by
  rw [readColon]
  split <;> simp_all

/-- Members of other names add nothing. -/
theorem adds_other {name : String} {v : Value} (hpath : ¬ (name == "database_path") = true)
    (hport : ¬ (name == "port") = true) :
    Adds (valuesOf "database_path" [(name, v)]) (valuesOf "port" [(name, v)]) fields fields := by
  rw [valuesOf_of_ne hpath, valuesOf_of_ne hport]
  exact ⟨List.append_nil _, List.append_nil _⟩

theorem readMember_begin {name : String}
    (h : readMember fields name cs = .ok (fields', rest)) :
    ∃ v afterColon, Json.skipSpace cs = ':' :: afterColon ∧ Begin afterColon v rest ∧
      Adds (valuesOf "database_path" [(name, v)]) (valuesOf "port" [(name, v)]) fields fields' := by
  rw [readMember] at h
  split at h
  · rename_i hname
    obtain rfl := eq_of_beq hname
    cases hbefore : fields.databasePath with
    | some path =>
        rw [hbefore] at h
        cases h
    | none =>
        rw [hbefore] at h
        obtain ⟨afterColon, hcolon, h⟩ := bind_eq_ok_iff.mp h
        obtain ⟨⟨path, rest'⟩, hpath, h⟩ := bind_eq_ok_iff.mp h
        cases h
        refine ⟨_, afterColon, readColon_eq_ok_iff.mp hcolon, readDatabasePath_begin hpath, ?_,
          ?_⟩
        · rw [hbefore]
          rfl
        · exact List.append_nil _
  · split at h
    · rename_i hname
      obtain rfl := eq_of_beq hname
      cases hbefore : fields.port with
      | some port =>
          rw [hbefore] at h
          cases h
      | none =>
          rw [hbefore] at h
          obtain ⟨afterColon, hcolon, h⟩ := bind_eq_ok_iff.mp h
          obtain ⟨⟨port, rest'⟩, hport, h⟩ := bind_eq_ok_iff.mp h
          obtain ⟨v, hv, hof⟩ := readPort_begin hport
          cases h
          refine ⟨v, afterColon, readColon_eq_ok_iff.mp hcolon, hv, ?_, ?_⟩
          · exact List.append_nil _
          · rw [hbefore]
            exact congrArg (fun x => [x]) hof
    · rename_i hpath hport
      obtain ⟨afterColon, hcolon, h⟩ := bind_eq_ok_iff.mp h
      obtain ⟨⟨v, rest'⟩, hv, h⟩ := bind_eq_ok_iff.mp h
      cases h
      exact ⟨v, afterColon, readColon_eq_ok_iff.mp hcolon, ⟨_, strict_eq_ok_iff.mp hv⟩,
        adds_other hpath hport⟩

theorem readMembers_begin {fuel : Nat}
    (h : readMembers fuel fields cs = .ok (fields', rest)) :
    ∃ members, BeginMembers cs members rest ∧
      Adds (valuesOf "database_path" members) (valuesOf "port" members) fields fields' := by
  induction fuel generalizing fields cs with
  | zero => cases h
  | succ fuel ih =>
      rw [readMembers] at h
      split at h
      · rename_i afterQuote hquote
        obtain ⟨⟨name, afterName⟩, hname, h⟩ := bind_eq_ok_iff.mp h
        obtain ⟨⟨between, after⟩, hmember, h⟩ := bind_eq_ok_iff.mp h
        obtain ⟨v, afterColon, hcolon, hv, hadds⟩ := readMember_begin hmember
        dsimp only at h
        split at h
        · rename_i more hafter
          cases h
          have hname := strict_eq_ok_iff.mp hname
          exact ⟨_, Json.beginMembers_last hquote hname hcolon hv hafter, hadds⟩
        · rename_i more hafter
          obtain ⟨members, hmembers, hadds'⟩ := ih h
          have hall := hadds.trans hadds'
          rw [← valuesOf_append, ← valuesOf_append] at hall
          have hname := strict_eq_ok_iff.mp hname
          exact ⟨_, Json.beginMembers_cons hquote hname hcolon hv hafter hmembers, hall⟩
        · cases h
      · cases h

theorem readObject_begin (hcs : Json.skipSpace cs = '\x7b' :: after)
    (h : readObject after = .ok (fields, rest)) :
    ∃ v, Begin cs v rest ∧ Adds (pathValues v) (portValues v) {} fields := by
  rw [readObject] at h
  split at h
  · rename_i more hafter
    cases h
    exact ⟨_, Json.begin_object_nil hcs hafter, rfl, rfl⟩
  · rename_i hafter
    obtain ⟨members, hmembers, hadds⟩ := readMembers_begin h
    have hmembers := Json.beginMembers_of_skipSpace hmembers
    exact ⟨_, Json.begin_object hcs hafter hmembers, hadds⟩

theorem readArray_begin (hcs : Json.skipSpace cs = '[' :: after)
    (h : readArray after = .ok (fields, rest)) :
    ∃ v, Begin cs v rest ∧ Adds (pathValues v) (portValues v) {} fields := by
  rw [readArray] at h
  split at h
  · rename_i more hafter
    cases h
    exact ⟨_, Json.begin_array_nil hcs hafter, rfl, rfl⟩
  · rename_i hafter
    obtain ⟨⟨path, behind⟩, hpath, h⟩ := bind_eq_ok_iff.mp h
    have hpath := Json.begin_of_skipSpace (readDatabasePath_begin hpath)
    dsimp only at h
    split at h
    · rename_i more hbehind
      cases h
      exact ⟨_, Json.begin_array hcs hafter (Json.beginItems_last hpath hbehind), rfl, rfl⟩
    · rename_i next hbehind
      obtain ⟨⟨port, last⟩, hport, h⟩ := bind_eq_ok_iff.mp h
      obtain ⟨v, hv, hof⟩ := readPort_begin hport
      dsimp only at h
      split at h
      · rename_i more hlast
        cases h
        have hitems := Json.beginItems_cons hpath hbehind (Json.beginItems_last hv hlast)
        exact ⟨_, Json.begin_array hcs hafter hitems, rfl, congrArg (fun x => [x]) hof⟩
      · cases h
    · cases h

theorem adds_gives {α : Type} {of? : Value → Option α} {values : List Value} {field : Option α}
    {default : α} (h : values.map of? = field.toList.map some) :
    Gives of? default values (field.getD default) := by
  cases field with
  | none =>
      obtain rfl := List.map_eq_nil_iff.mp h
      exact .absent
  | some x =>
      obtain ⟨v, rfl, hv⟩ := List.map_eq_singleton_iff.mp h
      exact .present hv

theorem describes_of_begin {text : String} {v : Value} {a : Agent}
    (hv : Begin text.toList v rest) (hadds : Adds (pathValues v) (portValues v) {} fields)
    (h : (if (Json.skipSpace rest).isEmpty then .ok fields.agent else .error .malformed :
      Except Error Agent) = .ok a) : IsDocument text v ∧ Describes v a := by
  split at h
  · rename_i hrest
    cases h
    exact ⟨⟨rest, hv, List.isEmpty_iff.mp hrest⟩, adds_gives hadds.databasePath,
      adds_gives hadds.port⟩
  · cases h

/-- What is read of a file is what the document says that the file holds. -/
theorem parse_describes {text : String} {a : Agent} (h : parse text = .ok a) :
    ∃ v, IsDocument text v ∧ Describes v a := by
  rw [parse] at h
  split at h
  · rename_i after hcs
    obtain ⟨⟨fields, rest⟩, hread, h⟩ := bind_eq_ok_iff.mp h
    obtain ⟨v, hv, hadds⟩ := readObject_begin hcs hread
    exact ⟨v, describes_of_begin hv hadds h⟩
  · rename_i after hcs
    obtain ⟨⟨fields, rest⟩, hread, h⟩ := bind_eq_ok_iff.mp h
    obtain ⟨v, hv, hadds⟩ := readArray_begin hcs hread
    exact ⟨v, describes_of_begin hv hadds h⟩
  · cases h

end Reading

end Readiness.Config.Agent
