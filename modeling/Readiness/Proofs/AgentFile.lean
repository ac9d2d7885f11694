import Readiness.Config.Sources
import Readiness.Proofs.AgentReading
import Readiness.Proofs.JsonGrammar

/-!
Two members of an object are all that is read of an agent's configuration file. Whatever else the
object has, and in whatever order: the file gives the path that one member spells and the port that
the other one writes in digits, a default for either that is absent, and anything else is refused.
-/

namespace Readiness.Json

/-- Members of an object as they are written: their names, and the texts of their values. -/
inductive MembersText : List (String × List Char) → List Char → Prop
  | last {name : String} {written opening cs after : List Char}
    (hname : Spells name.toList written) (hopening : Opening written opening)
    (h : Derives .value cs) (hafter : Blank after) :
    MembersText [(name, cs)] (opening ++ (cs ++ after))
  | cons {name : String} {written opening cs after more : List Char}
    {members : List (String × List Char)} (hname : Spells name.toList written)
    (hopening : Opening written opening) (h : Derives .value cs) (hafter : Blank after)
    (hmore : MembersText members more) :
    MembersText ((name, cs) :: members) (opening ++ (cs ++ (after ++ ',' :: more)))

/-- An object as it is written, with nothing but white space around it. -/
inductive ObjectText : List (String × List Char) → List Char → Prop
  | empty {before gap after : List Char} (hbefore : Blank before) (hgap : Blank gap)
    (hafter : Blank after) : ObjectText [] (before ++ '\x7b' :: (gap ++ '\x7d' :: after))
  | members {members : List (String × List Char)} {before cs after : List Char}
    (hbefore : Blank before) (h : MembersText members cs) (hafter : Blank after) :
    ObjectText members (before ++ '\x7b' :: (cs ++ '\x7d' :: after))

theorem MembersText.skipSpace_append {members : List (String × List Char)} {cs : List Char}
    (h : MembersText members cs) :
    ∃ more, MembersText members ('"' :: more) ∧
      ∀ rest, skipSpace (cs ++ rest) = '"' :: (more ++ rest) := by
  cases h with
  | @last name written opening cs after hname hopening h hafter =>
      obtain ⟨front, hfront, hskip⟩ := hopening.skipSpace_append
      refine ⟨front ++ (cs ++ after), .last hname hfront h hafter, fun rest => ?_⟩
      simp only [List.append_assoc, hskip]
  | @cons name written opening cs after more members hname hopening h hafter hmore =>
      obtain ⟨front, hfront, hskip⟩ := hopening.skipSpace_append
      refine ⟨front ++ (cs ++ (after ++ ',' :: more)), .cons hname hfront h hafter hmore,
        fun rest => ?_⟩
      simp only [List.append_assoc, hskip]

end Readiness.Json

namespace Readiness.Config.Agent

open Json (Blank Derives EndsNumber Literal MembersText NumberText ObjectText Opening Spells
  StringText)

section Fields

/-- A path in quotes. -/
inductive PathText (path : String) : List Char → Prop
  | quoted {written : List Char} (h : Spells path.toList written) :
    PathText path ('"' :: (written ++ ['"']))

/-- A port in digits, and nothing but digits. -/
structure PortText (port : UInt16) (cs : List Char) : Prop where
  ne_nil : cs ≠ []
  digits : ∀ c ∈ cs, c.isDigit = true
  value : Nat.ofDigitChars 10 cs 0 = port.toNat

variable {gap cs rest after : List Char} {path : String} {port : UInt16}

theorem pathText_iff {written : List Char} :
    PathText path ('"' :: (written ++ ['"'])) ↔ Spells path.toList written := by
  constructor
  · intro h
    generalize htext : '"' :: (written ++ ['"']) = cs at h
    cases h with
    | quoted h =>
        rw [List.cons.injEq, List.append_cancel_right_eq] at htext
        rw [htext.2]
        exact h
  · exact .quoted

theorem readDatabasePath_eq_ok_iff (hgap : Blank gap) (h : Derives .value cs) :
    readDatabasePath (gap ++ (cs ++ rest)) = .ok (path, after) ↔
      PathText path cs ∧ after = rest := by
  rw [readDatabasePath, hgap.skipSpace_append]
  obtain ⟨pieces, written, hwritten, rfl⟩ | ⟨c, more, rfl, hc, hquote⟩ := h.string_or_not
  · rw [List.cons_append, List.append_assoc, List.singleton_append, Json.skipSpace_cons rfl,
      pathText_iff, ← Json.readString_eq_some_iff hwritten]
    exact strict_eq_ok_iff
  · rw [List.cons_append, Json.skipSpace_cons hc]
    constructor
    · intro hread
      split at hread
      · rename_i heq
        exact absurd (List.cons.inj heq).1 hquote
      · cases hread
    · rintro ⟨⟨⟩, -⟩
      exact absurd rfl hquote

section Numbers

variable {l : Literal} {n : Nat}

theorem portText_iff (h : NumberText l cs) :
    PortText port cs ↔ l.isWhole = true ∧ l.negative = false ∧
      Nat.ofDigitChars 10 l.whole 0 = port.toNat := by
  constructor
  · intro hport
    obtain ⟨hwhole, hsign⟩ := h.digits_iff.mp hport.digits
    rw [← h.eq_whole hwhole hsign]
    exact ⟨hwhole, hsign, hport.value⟩
  · rintro ⟨hwhole, hsign, hvalue⟩
    have hdigits := h.digits_iff.mpr ⟨hwhole, hsign⟩
    rw [h.eq_whole hwhole hsign] at hdigits ⊢
    exact ⟨h.proper.whole_ne_nil, hdigits, hvalue⟩

theorem ofLiteral?_eq_whole_iff (h : l.Proper) :
    Json.Number.ofLiteral? l = some (.whole n) ↔ l.isWhole = true ∧ l.negative = false ∧
      Nat.ofDigitChars 10 l.whole 0 = n ∧ n ≤ Json.Number.maxWhole := by
  have hread : Text.readNat? 10 l.whole = some (Nat.ofDigitChars 10 l.whole 0) := by
    rw [Text.readNat?_ten_eq_some_iff]
    exact ⟨h.whole_ne_nil, fun c hc => (Json.isDigit_eq c).symm.trans (h.whole_digits c hc), rfl⟩
  have hfloat : (Json.Number.float? l).map Json.Number.float ≠ some (.whole n) := by
    cases Json.Number.float? l <;> simp
  rw [Json.Number.ofLiteral?, hread, Option.getD_some]
  split
  · grind
  · split <;> grind

theorem readNumber_eq_ok_iff {number : Json.Number} (h : NumberText l cs)
    (hrest : EndsNumber rest) :
    readNumber (cs ++ rest) = .ok (number, after) ↔
      Json.Number.ofLiteral? l = some number ∧ after = rest := by
  rw [readNumber, Json.readNumber_text h hrest]
  cases hliteral : Json.Number.ofLiteral? l with
  | none => simp [strict, bind, Except.bind, hliteral]
  | some number' => simp [strict, bind, Except.bind, pure, Except.pure, hliteral, eq_comm]

theorem readPort_append (hgap : Blank gap) (cs : List Char) :
    readPort (gap ++ cs) = readPort cs := by
  rw [readPort, readPort, hgap.skipSpace_append]

theorem readPort_number_eq_ok_iff (h : NumberText l cs) (hrest : EndsNumber rest) :
    readPort (cs ++ rest) = .ok (port, after) ↔
      Json.Number.ofLiteral? l = some (.whole port.toNat) ∧ after = rest := by
  have hread (number : Json.Number) (after : List Char) :
      readNumber (cs ++ rest) = .ok (number, after) ↔ _ := readNumber_eq_ok_iff h hrest
  have hlt : port.toNat < UInt16.size := port.toNat_lt
  obtain ⟨c, more, rfl, hc⟩ := h.begins
  rw [List.cons_append] at hread ⊢
  rw [readPort, Json.skipSpace_cons (Json.isSpace_of_startsNumber hc)]
  dsimp only
  rw [if_pos hc, bind_eq_ok_iff]
  simp only [Prod.exists, hread]
  constructor
  · rintro ⟨number, rest, ⟨hnumber, rfl⟩, hport⟩
    cases number with
    | whole n =>
        dsimp only at hport
        split at hport
        · rename_i hn
          cases hport
          have hvalue : (UInt16.ofNat n).toNat = n := UInt16.toNat_ofNat_of_lt hn
          rw [hvalue]
          exact ⟨hnumber, rfl⟩
        · cases hport
    | negative | float => cases hport
  · rintro ⟨hnumber, rfl⟩
    refine ⟨_, _, ⟨hnumber, rfl⟩, ?_⟩
    dsimp only
    rw [if_pos hlt, UInt16.ofNat_toNat]
    rfl

theorem readPort_eq_ok_iff (hgap : Blank gap) (h : Derives .value cs)
    (hrest : EndsNumber rest) :
    readPort (gap ++ (cs ++ rest)) = .ok (port, after) ↔ PortText port cs ∧ after = rest := by
  rw [readPort_append hgap]
  obtain ⟨l, hl⟩ | ⟨c, more, rfl, hc, hnumber⟩ := h.number_or_not
  · have hlt : port.toNat < UInt16.size := port.toNat_lt
    have hle : port.toNat ≤ Json.Number.maxWhole := Nat.le_of_lt (Nat.lt_trans hlt (by decide))
    rw [readPort_number_eq_ok_iff hl hrest, ofLiteral?_eq_whole_iff hl.proper, portText_iff hl,
      and_iff_left hle]
  · rw [List.cons_append, readPort, Json.skipSpace_cons hc]
    dsimp only
    rw [if_neg (by simp [hnumber])]
    constructor
    · intro hread
      cases hread
    · rintro ⟨hport, -⟩
      have hdigit := hport.digits c List.mem_cons_self
      rw [Json.startsNumber, Bool.or_eq_false_iff, Json.isDigit_eq] at hnumber
      exact absurd hdigit (by simp [hnumber.2])

end Numbers

end Fields

section Members

/-- The texts of the values with a name. -/
def textsOf (name : String) (members : List (String × List Char)) : List (List Char) :=
  (members.filter fun m => m.1 == name).map Prod.snd

/-- A field that nothing was known of is set by the only text for it, and stays as it is without
one. -/
inductive Sets {α : Type} (IsText : α → List Char → Prop) :
    List (List Char) → Option α → Option α → Prop
  | absent (before : Option α) : Sets IsText [] before before
  | present {x : α} {cs : List Char} (h : IsText x cs) : Sets IsText [cs] none (some x)

/-- Members set the two fields. -/
structure SetsFields (members : List (String × List Char)) (before after : Fields) : Prop where
  databasePath :
    Sets PathText (textsOf "database_path" members) before.databasePath after.databasePath
  port : Sets PortText (textsOf "port" members) before.port after.port

variable {α : Type} {IsText : α → List Char → Prop} {cs rest after gap gap' : List Char}
  {name : String} {x z : Option α} {fields fields' : Fields}
  {members : List (String × List Char)}

theorem textsOf_cons_of_eq : textsOf name ((name, cs) :: members) = cs :: textsOf name members := by
  simp [textsOf]

theorem textsOf_cons_of_ne {other : String} (h : other ≠ name) :
    textsOf name ((other, cs) :: members) = textsOf name members := by
  simp [textsOf, h]

theorem sets_nil_iff : Sets IsText [] x z ↔ z = x := by
  constructor
  · rintro ⟨⟩
    rfl
  · rintro rfl
    exact .absent _

theorem sets_cons_iff {texts : List (List Char)} :
    Sets IsText (cs :: texts) x z ↔ x = none ∧ ∃ y, IsText y cs ∧ Sets IsText texts (some y) z := by
  constructor
  · intro h
    cases h with
    | present h => exact ⟨rfl, _, h, .absent _⟩
  · rintro ⟨rfl, y, hy, h⟩
    cases h
    exact .present hy

theorem setsFields_nil_iff : SetsFields [] fields fields' ↔ fields' = fields := by
  constructor
  · intro h
    have hpath := sets_nil_iff.mp h.databasePath
    have hport := sets_nil_iff.mp h.port
    cases fields'
    cases hpath
    cases hport
    rfl
  · rintro rfl
    exact ⟨.absent _, .absent _⟩

theorem setsFields_databasePath_iff :
    SetsFields (("database_path", cs) :: members) fields fields' ↔
      fields.databasePath = none ∧ ∃ path, PathText path cs ∧
        SetsFields members { fields with databasePath := some path } fields' := by
  have hport : textsOf "port" (("database_path", cs) :: members) = textsOf "port" members :=
    textsOf_cons_of_ne (by decide)
  constructor
  · intro h
    have hpath := h.databasePath
    rw [textsOf_cons_of_eq, sets_cons_iff] at hpath
    obtain ⟨hnone, path, hcs, hpath⟩ := hpath
    exact ⟨hnone, path, hcs, hpath, hport ▸ h.port⟩
  · rintro ⟨hnone, path, hcs, h⟩
    refine ⟨?_, hport ▸ h.port⟩
    rw [textsOf_cons_of_eq, sets_cons_iff]
    exact ⟨hnone, path, hcs, h.databasePath⟩

theorem setsFields_port_iff :
    SetsFields (("port", cs) :: members) fields fields' ↔
      fields.port = none ∧ ∃ port, PortText port cs ∧
        SetsFields members { fields with port := some port } fields' := by
  have hpath :
      textsOf "database_path" (("port", cs) :: members) = textsOf "database_path" members :=
    textsOf_cons_of_ne (by decide)
  constructor
  · intro h
    have hport := h.port
    rw [textsOf_cons_of_eq, sets_cons_iff] at hport
    obtain ⟨hnone, port, hcs, hport⟩ := hport
    exact ⟨hnone, port, hcs, hpath ▸ h.databasePath, hport⟩
  · rintro ⟨hnone, port, hcs, h⟩
    refine ⟨hpath ▸ h.databasePath, ?_⟩
    rw [textsOf_cons_of_eq, sets_cons_iff]
    exact ⟨hnone, port, hcs, h.port⟩

theorem setsFields_other_iff (hpath : name ≠ "database_path") (hport : name ≠ "port") :
    SetsFields ((name, cs) :: members) fields fields' ↔ SetsFields members fields fields' := by
  constructor
  · rintro ⟨h, h'⟩
    exact ⟨textsOf_cons_of_ne hpath ▸ h, textsOf_cons_of_ne hport ▸ h'⟩
  · rintro ⟨h, h'⟩
    exact ⟨(textsOf_cons_of_ne hpath).symm ▸ h, (textsOf_cons_of_ne hport).symm ▸ h'⟩

/-- Members set the fields one after the other. -/
theorem setsFields_cons_iff {m : String × List Char} {last : Fields} :
    SetsFields (m :: members) fields last ↔
      ∃ between, SetsFields [m] fields between ∧ SetsFields members between last := by
  obtain ⟨name, cs⟩ := m
  by_cases hpath : name = "database_path"
  · subst hpath
    simp only [setsFields_databasePath_iff, setsFields_nil_iff]
    constructor
    · rintro ⟨hnone, path, hcs, h⟩
      exact ⟨_, ⟨hnone, path, hcs, rfl⟩, h⟩
    · rintro ⟨_, ⟨hnone, path, hcs, rfl⟩, h⟩
      exact ⟨hnone, path, hcs, h⟩
  · by_cases hport : name = "port"
    · subst hport
      simp only [setsFields_port_iff, setsFields_nil_iff]
      constructor
      · rintro ⟨hnone, port, hcs, h⟩
        exact ⟨_, ⟨hnone, port, hcs, rfl⟩, h⟩
      · rintro ⟨_, ⟨hnone, port, hcs, rfl⟩, h⟩
        exact ⟨hnone, port, hcs, h⟩
    · simp only [setsFields_other_iff hpath hport, setsFields_nil_iff, exists_eq_left]

theorem readColon_blanks (hgap : Blank gap) (rest : List Char) :
    readColon (gap ++ ':' :: rest) = .ok rest :=
  readColon_eq_ok_iff.mpr (hgap.skipSpace_cons rfl rest)

theorem readMember_databasePath_eq_ok_iff (hgap : Blank gap) :
    readMember fields "database_path" (gap ++ ':' :: rest) = .ok (fields', after) ↔
      fields.databasePath = none ∧ ∃ path, readDatabasePath rest = .ok (path, after) ∧
        fields' = { fields with databasePath := some path } := by
  rw [readMember, readColon_blanks hgap]
  cases hbefore : fields.databasePath with
  | some path =>
      constructor
      · intro h
        cases h
      · rintro ⟨h, -⟩
        cases h
  | none =>
      change (readDatabasePath rest >>= fun r =>
        .ok ({ fields with databasePath := some r.1 }, r.2)) = .ok _ ↔ _
      rw [bind_eq_ok_iff]
      simp [eq_comm, and_comm]

theorem readMember_port_eq_ok_iff (hgap : Blank gap) :
    readMember fields "port" (gap ++ ':' :: rest) = .ok (fields', after) ↔
      fields.port = none ∧ ∃ port, readPort rest = .ok (port, after) ∧
        fields' = { fields with port := some port } := by
  rw [readMember, readColon_blanks hgap]
  cases hbefore : fields.port with
  | some port =>
      constructor
      · intro h
        cases h
      · rintro ⟨h, -⟩
        cases h
  | none =>
      change (readPort rest >>= fun r => .ok ({ fields with port := some r.1 }, r.2)) = .ok _ ↔ _
      rw [bind_eq_ok_iff]
      simp [eq_comm, and_comm]

theorem readMember_other (hpath : name ≠ "database_path") (hport : name ≠ "port")
    (hgap : Blank gap) (hgap' : Blank gap') (h : Derives .value cs) (hrest : EndsNumber rest) :
    readMember fields name (gap ++ ':' :: (gap' ++ (cs ++ rest))) = .ok (fields, rest) := by
  have hfuel : 2 * cs.length ≤ 2 * (gap' ++ (cs ++ rest)).length + 1 := by
    simp only [List.length_append]
    omega
  obtain ⟨v, hv⟩ := Json.readsAll Text.Utf8.replacement h _ rest hrest hfuel
  rw [readMember, if_neg (by simpa using hpath), if_neg (by simpa using hport),
    readColon_blanks hgap]
  change (strict (Json.readValue _ _ (gap' ++ (cs ++ rest))) >>= fun r => .ok (fields, r.2)) = _
  rw [Json.readValue_append hgap', hv]
  rfl

/-- A member sets the field of its name, if its value is one for it, and any other member is
skipped. -/
theorem readMember_eq_ok_iff (hgap : Blank gap) (hgap' : Blank gap') (h : Derives .value cs)
    (hrest : EndsNumber rest) :
    readMember fields name (gap ++ ':' :: (gap' ++ (cs ++ rest))) = .ok (fields', after) ↔
      SetsFields [(name, cs)] fields fields' ∧ after = rest := by
  by_cases hpath : name = "database_path"
  · subst hpath
    simp only [readMember_databasePath_eq_ok_iff hgap, readDatabasePath_eq_ok_iff hgap' h,
      setsFields_databasePath_iff, setsFields_nil_iff]
    grind
  · by_cases hport : name = "port"
    · subst hport
      simp only [readMember_port_eq_ok_iff hgap, readPort_eq_ok_iff hgap' h hrest,
        setsFields_port_iff, setsFields_nil_iff]
      grind
    · rw [readMember_other hpath hport hgap hgap' h hrest, setsFields_other_iff hpath hport,
        setsFields_nil_iff, Except.ok.injEq, Prod.mk.injEq]
      exact and_congr eq_comm eq_comm

/-- What is done behind a member. -/
def behindMember (fuel : Nat) (fields : Fields) : List Char → Except Error (Fields × List Char)
  | '\x7d' :: rest => .ok (fields, rest)
  | ',' :: rest => readMembers fuel fields rest
  | _ => .error .malformed

theorem readMembers_eq_ok_iff {written opening : List Char} {fuel : Nat}
    (hname : Spells name.toList written) (hopening : Opening written opening)
    (h : Derives .value cs) (hrest : EndsNumber rest) :
    readMembers (fuel + 1) fields (opening ++ (cs ++ rest)) = .ok (fields', after) ↔
      ∃ between, SetsFields [(name, cs)] fields between ∧
        behindMember fuel between (Json.skipSpace rest) = .ok (fields', after) := by
  cases hopening with
  | @mk before gap gap' hbefore hgap hgap' =>
      obtain ⟨pieces, hwritten, htext⟩ := Json.exists_of_spells hname
      have hread (rest : List Char) :
          Json.readString none (written ++ '"' :: rest) = some (name, rest) :=
        (Json.readString_eq_some_iff hwritten).mpr ⟨hname, rfl⟩
      simp only [List.append_assoc, List.cons_append]
      rw [readMembers, hbefore.skipSpace_cons rfl]
      change (strict (Json.readString none (written ++ '"' :: (gap ++ ':' :: _))) >>= fun r =>
        readMember fields r.1 r.2 >>= fun r => behindMember fuel r.1 (Json.skipSpace r.2)) = _ ↔ _
      rw [hread]
      change (readMember fields name _ >>= _) = _ ↔ _
      rw [bind_eq_ok_iff]
      simp only [Prod.exists, readMember_eq_ok_iff hgap hgap' h hrest]
      constructor
      · rintro ⟨between, rest, ⟨hsets, rfl⟩, hbehind⟩
        exact ⟨between, hsets, hbehind⟩
      · rintro ⟨between, hsets, hbehind⟩
        exact ⟨between, rest, ⟨hsets, rfl⟩, hbehind⟩

/-- Members up to the closing brace set the fields one after the other. -/
theorem readMembers_text (h : MembersText members cs) {fuel : Nat} (hfuel : cs.length < fuel) :
    readMembers fuel fields (cs ++ '\x7d' :: rest) = .ok (fields', after) ↔
      SetsFields members fields fields' ∧ after = rest := by
  -- The fuel is the length of the text, and every member has some of it.
  induction h generalizing fields fuel with
  | @last name written opening cs between hname hopening h hafter =>
      obtain ⟨fuel, rfl⟩ := Nat.exists_eq_add_one_of_ne_zero (Nat.ne_zero_of_lt hfuel)
      simp only [List.append_assoc]
      rw [readMembers_eq_ok_iff hname hopening h (hafter.endsNumber_cons (by decide) rest),
        hafter.skipSpace_cons rfl]
      simp only [behindMember, Except.ok.injEq, Prod.mk.injEq]
      grind
  | @cons name written opening cs between more members hname hopening h hafter hmore ih =>
      obtain ⟨fuel, rfl⟩ := Nat.exists_eq_add_one_of_ne_zero (Nat.ne_zero_of_lt hfuel)
      have hless : more.length < fuel := by
        simp only [List.length_append, List.length_cons] at hfuel
        omega
      simp only [List.append_assoc, List.cons_append]
      rw [readMembers_eq_ok_iff hname hopening h (hafter.endsNumber_cons (by decide) _),
        hafter.skipSpace_cons rfl]
      simp only [behindMember, ih hless]
      rw [setsFields_cons_iff]
      grind

end Members

section Objects

variable {members : List (String × List Char)} {text : String} {a : Agent}

/-- A field is what the only text for it says, or has its default where there is none. -/
inductive Says {α : Type} (IsText : α → List Char → Prop) (default : α) :
    List (List Char) → α → Prop
  | absent : Says IsText default [] default
  | present {x : α} {cs : List Char} (h : IsText x cs) : Says IsText default [cs] x

/-- The agent is what the members say: a path in quotes, and a port in digits. -/
structure Tells (members : List (String × List Char)) (a : Agent) : Prop where
  databasePath : Says PathText "" (textsOf "database_path" members) a.databasePath
  port : Says PortText 8787 (textsOf "port" members) a.port

theorem says_iff {α : Type} {IsText : α → List Char → Prop} {default x : α}
    {texts : List (List Char)} :
    Says IsText default texts x ↔
      ∃ field, Sets IsText texts none field ∧ field.getD default = x := by
  constructor
  · rintro (_ | h)
    · exact ⟨none, .absent _, rfl⟩
    · exact ⟨_, .present h, rfl⟩
  · rintro ⟨field, h, rfl⟩
    cases h with
    | absent => exact .absent
    | present h => exact .present h

theorem tells_iff :
    Tells members a ↔ ∃ fields, SetsFields members {} fields ∧ fields.agent = a := by
  constructor
  · rintro ⟨hpath, hport⟩
    obtain ⟨path, hpath, hpath'⟩ := says_iff.mp hpath
    obtain ⟨port, hport, hport'⟩ := says_iff.mp hport
    refine ⟨⟨path, port⟩, ⟨hpath, hport⟩, ?_⟩
    cases a
    cases hpath'
    cases hport'
    rfl
  · rintro ⟨fields, h, rfl⟩
    exact ⟨says_iff.mpr ⟨_, h.databasePath, rfl⟩, says_iff.mpr ⟨_, h.port, rfl⟩⟩

theorem readObject_eq_ok_iff {cs rest after : List Char} {fields : Fields}
    (h : MembersText members cs) :
    readObject (cs ++ '\x7d' :: rest) = .ok (fields, after) ↔
      SetsFields members {} fields ∧ after = rest := by
  obtain ⟨more, hmore, hskip⟩ := h.skipSpace_append
  rw [readObject, hskip]
  refine readMembers_text hmore ?_
  simp only [List.length_cons, List.length_append]
  omega

theorem parse_of_readObject {before inner after : List Char}
    (htext : text.toList = before ++ '\x7b' :: inner) (hbefore : Blank before)
    (hafter : Blank after)
    (hread : ∀ fields rest, readObject inner = .ok (fields, rest) ↔
      SetsFields members {} fields ∧ rest = after) :
    parse text = .ok a ↔ Tells members a := by
  have hnone : Json.skipSpace after = [] := by
    rw [← List.append_nil after]
    exact hafter.skipSpace_append []
  rw [parse, htext, hbefore.skipSpace_cons rfl, tells_iff]
  change (readObject inner >>= fun r =>
    if (Json.skipSpace r.2).isEmpty then .ok r.1.agent else .error .malformed) = _ ↔ _
  rw [bind_eq_ok_iff]
  simp only [Prod.exists, hread]
  constructor
  · rintro ⟨fields, rest, ⟨hsets, rfl⟩, h⟩
    rw [hnone] at h
    exact ⟨fields, hsets, Except.ok.inj h⟩
  · rintro ⟨fields, hsets, rfl⟩
    refine ⟨fields, after, ⟨hsets, rfl⟩, ?_⟩
    rw [hnone]
    rfl

/-- An object is read as the agent that two of its members tell, and not otherwise. -/
theorem parse_eq_ok_iff (h : ObjectText members text.toList) :
    parse text = .ok a ↔ Tells members a := by
  generalize htext : text.toList = cs at h
  cases h with
  | @empty before gap after hbefore hgap hafter =>
      refine parse_of_readObject htext hbefore hafter fun fields rest => ?_
      rw [readObject, hgap.skipSpace_cons rfl, setsFields_nil_iff]
      simp [eq_comm]
  | members hbefore h hafter =>
      exact parse_of_readObject htext hbefore hafter fun fields rest => readObject_eq_ok_iff h

theorem load_of_read {files : File.System} {p : Path} (h : files.read p = .ok text) :
    load files p = (parse text).mapError fun error => .configMisread p error.message := by
  rw [load, readFile, h]
  rfl

/-- A file that holds an object gives the agent that two of its members tell. Where they tell none,
the file is refused by its name; all other members, and the order, make no difference. -/
theorem load_tells {files : File.System} {p : Path} (hread : files.read p = .ok text)
    (h : ObjectText members text.toList) :
    (∀ a, load files p = .ok a ↔ Tells members a) ∧
      ((∀ a, ¬ Tells members a) →
        ∃ message, load files p = .error (.configMisread p message)) ∧
      ∀ (files' : File.System) (p' : Path) (text' : String) (members' : List (String × List Char)),
        files'.read p' = .ok text' → ObjectText members' text'.toList →
        (∀ name ∈ ["database_path", "port"], textsOf name members' = textsOf name members) →
        ∀ a, load files' p' = .ok a ↔ load files p = .ok a := by
  have hload {files : File.System} {p : Path} {text : String}
      {members : List (String × List Char)} (hread : files.read p = .ok text)
      (h : ObjectText members text.toList) (a : Agent) :
      load files p = .ok a ↔ Tells members a := by
    rw [load_of_read hread, mapError_eq_ok_iff, parse_eq_ok_iff h]
  refine ⟨hload hread h, fun hnone => ?_, fun files' p' text' members' hread' h' hsame a => ?_⟩
  · rw [load_of_read hread]
    cases hparse : parse text with
    | error error => exact ⟨error.message, rfl⟩
    | ok a => exact absurd ((parse_eq_ok_iff h).mp hparse) (hnone a)
  · rw [hload hread' h', hload hread h]
    have hpath := hsame "database_path" (by simp)
    have hport := hsame "port" (by simp)
    constructor
    · rintro ⟨hpath', hport'⟩
      exact ⟨hpath ▸ hpath', hport ▸ hport'⟩
    · rintro ⟨hpath', hport'⟩
      exact ⟨hpath.symm ▸ hpath', hport.symm ▸ hport'⟩

/-- A file with both members, one of them under a name with an escape, and another one between. -/
def agentText : String :=
  "\x7b\"port\": 9090, \"extra\":[null],\"d\\u0061tabase_path\" :\"C:\\\\db\"\x7d\n"

def agentMembers : List (String × List Char) :=
  [("port", "9090".toList), ("extra", "[null]".toList), ("database_path", "\"C:\\\\db\"".toList)]

theorem spells_folder : Spells "C:\\db".toList "C:\\\\db".toList := by
  have hdrive : Spells ['C', ':'] ['C', ':'] := Json.spells_self rfl
  have hback : Spells ['\\'] ['\\', '\\'] := .cons (.short (.tail _ (.head _))) .nil
  have hname : Spells ['d', 'b'] ['d', 'b'] := Json.spells_self rfl
  exact hdrive.append (hback.append hname)

theorem spells_escaped : Spells "database_path".toList "d\\u0061tabase_path".toList := by
  have hfirst : Spells ['d'] ['d'] := Json.spells_self rfl
  have hunit : Json.CharText 'a' ('\\' :: 'u' :: ['0', '0', '6', '1']) := .unit ⟨rfl, rfl⟩
  have hrest : Spells "tabase_path".toList "tabase_path".toList := Json.spells_self rfl
  exact hfirst.append (.cons hunit hrest)

theorem objectText_agentText : ObjectText agentMembers agentText.toList := by
  have hblank : Blank [] := List.forall_mem_nil _
  have hspace : Blank [' '] := List.forall_mem_singleton.mpr rfl
  have hnumber : Derives .value "9090".toList :=
    .number (.mk (Literal.ofNat_proper 9090) .none)
  have hnull : Derives .value "null".toList := .word (.head _)
  have harray : Derives .value ('[' :: (([] ++ ("null".toList ++ [])) ++ [']'])) :=
    .array (.item hblank hnull hblank)
  have hstring : Derives .value ('"' :: ("C:\\\\db".toList ++ ['"'])) := by
    obtain ⟨pieces, h, -⟩ := Json.exists_of_spells spells_folder
    exact .string h
  have hport : Spells "port".toList "port".toList := Json.spells_self rfl
  have hextra : Spells "extra".toList "extra".toList := Json.spells_self rfl
  have hthird : MembersText [("database_path", _)] _ :=
    .last spells_escaped (.mk hblank hspace hblank) hstring hblank
  have hsecond : MembersText (("extra", _) :: _) _ :=
    .cons hextra (.mk hspace hblank hblank) harray hblank hthird
  have hfirst : MembersText (("port", _) :: _) _ :=
    .cons hport (.mk hblank hblank hspace) hnumber hblank hsecond
  have hnewline : Blank ['\n'] := List.forall_mem_singleton.mpr rfl
  exact .members hblank hfirst hnewline

def agentFiles : File.System where
  kind := fun _ => .ok .file
  read := fun _ => .ok agentText
  names := fun _ => .ok []
  write := fun _ => .ok ()

theorem load_tells_agentText :
    agentFiles.read ⟨"agent.json"⟩ = .ok agentText ∧ ObjectText agentMembers agentText.toList ∧
      load agentFiles ⟨"agent.json"⟩ = .ok ⟨"C:\\db", 9090⟩ := by
  have htells : Tells agentMembers ⟨"C:\\db", 9090⟩ :=
    ⟨.present (.quoted spells_folder), .present ⟨by decide, List.all_eq_true.mp rfl, rfl⟩⟩
  exact ⟨rfl, objectText_agentText,
    ((load_tells (p := ⟨"agent.json"⟩) rfl objectText_agentText).1 _).mpr htells⟩

end Objects

end Readiness.Config.Agent
