import Readiness.Proofs.JsonScalars

/-!
What is printed reads back. A value whose numbers are written properly has, in either layout, a
text that the reader takes for the same value, and the reader leaves what follows the text.
-/

namespace Readiness.Json

section Blanks

/-- The text begins with neither white space nor the end of an array. -/
def Begins (cs : List Char) : Prop :=
  ∃ c rest, cs = c :: rest ∧ isSpace c = false ∧ c ≠ ']'

variable {stand : Option Char} {layout : Layout} {blanks : List Char}

theorem skipSpace_append (h : ∀ c ∈ blanks, isSpace c = true) (cs : List Char) :
    skipSpace (blanks ++ cs) = skipSpace cs :=
  List.dropWhile_append_of_pos h

theorem skipSpace_cons {c : Char} (h : isSpace c = false) (cs : List Char) :
    skipSpace (c :: cs) = c :: cs := by
  rw [skipSpace, List.dropWhile_cons, h]
  rfl

theorem isSpace_of_mem_lineBreak {depth : Nat} :
    ∀ c ∈ layout.lineBreak depth, isSpace c = true := by
  cases layout with
  | compact => exact fun c hc => by cases hc
  | indented =>
      intro c hc
      obtain rfl | hc := List.mem_cons.mp hc
      · rfl
      · obtain rfl := List.eq_of_mem_replicate hc
        rfl

theorem colon_eq (layout : Layout) :
    ∃ gap, layout.colon = ':' :: gap ∧ ∀ c ∈ gap, isSpace c = true := by
  cases layout with
  | compact => exact ⟨[], rfl, List.forall_mem_nil _⟩
  | indented => exact ⟨[' '], rfl, List.forall_mem_singleton.mpr rfl⟩

theorem readValue_append (h : ∀ c ∈ blanks, isSpace c = true) (fuel : Nat) (cs : List Char) :
    readValue stand fuel (blanks ++ cs) = readValue stand fuel cs := by
  cases fuel with
  | zero => rfl
  | succ fuel => rw [readValue, readValue, skipSpace_append h]

end Blanks

section Openings

variable {stand : Option Char} {fuel : Nat} {cs after rest : List Char}

theorem isSpace_of_startsNumber {c : Char} (h : startsNumber c = true) : isSpace c = false := by
  rw [Bool.eq_false_iff]
  intro hspace
  simp only [isSpace, Bool.or_eq_true, decide_eq_true_eq] at hspace
  rcases hspace with ((rfl | rfl) | rfl) | rfl <;> exact absurd h (by decide)

theorem ne_of_startsNumber {c x : Char} (hc : startsNumber c = true)
    (hx : startsNumber x = false) : c ≠ x := by
  rintro rfl
  exact Bool.false_ne_true (hx.symm.trans hc)

theorem exists_startsNumber (negative : Bool) {digits : List Char} (hne : digits ≠ [])
    (hdigits : ∀ c ∈ digits, isDigit c = true) (behind : List Char) :
    ∃ c more, (if negative then ['-'] else []) ++ (digits ++ behind) = c :: more ∧
      startsNumber c = true := by
  obtain ⟨first, more, rfl⟩ := List.exists_cons_of_ne_nil hne
  have hfirst : isDigit first = true := hdigits first List.mem_cons_self
  cases negative with
  | true => exact ⟨_, _, rfl, rfl⟩
  | false => exact ⟨first, _, rfl, by rw [startsNumber, hfirst, Bool.or_true]⟩

theorem readValue_number {c : Char} (h : startsNumber c = true) (fuel : Nat) (cs : List Char) :
    readValue stand (fuel + 1) (c :: cs) =
      (readNumber (c :: cs)).map fun (literal, rest) => (.number literal, rest) := by
  have hne (x : Char) (hx : startsNumber x = false) : c ≠ x := ne_of_startsNumber h hx
  rw [readValue, skipSpace_cons (isSpace_of_startsNumber h)]
  simp [hne '"' rfl, hne '[' rfl, hne '\x7b' rfl, hne 'n' rfl, hne 't' rfl, hne 'f' rfl, h]

theorem readValue_string {text : String} (hcs : skipSpace cs = '"' :: after)
    (h : readString stand after = some (text, rest)) :
    readValue stand (fuel + 1) cs = some (.string text, rest) := by
  simp only [readValue, hcs, h, Option.map_some]

theorem readValue_array_nil (hcs : skipSpace cs = '[' :: after)
    (hafter : skipSpace after = ']' :: rest) :
    readValue stand (fuel + 1) cs = some (.array [], rest) := by
  simp only [readValue, hcs, hafter]

theorem readValue_array {items : List Value} (hcs : skipSpace cs = '[' :: after)
    (hafter : ∀ more, skipSpace after ≠ ']' :: more)
    (h : readItems stand fuel after = some (items, rest)) :
    readValue stand (fuel + 1) cs = some (.array items, rest) := by
  simp only [readValue, hcs, h, Option.map_some]

theorem readValue_object_nil (hcs : skipSpace cs = '\x7b' :: after)
    (hafter : skipSpace after = '\x7d' :: rest) :
    readValue stand (fuel + 1) cs = some (.object [], rest) := by
  simp only [readValue, hcs, hafter]

theorem readValue_object {members : List (String × Value)} (hcs : skipSpace cs = '\x7b' :: after)
    (hafter : ∀ more, skipSpace after ≠ '\x7d' :: more)
    (h : readMembers stand fuel after = some (members, rest)) :
    readValue stand (fuel + 1) cs = some (.object members, rest) := by
  simp only [readValue, hcs, h, Option.map_some]

end Openings

section Values

/-- A value whose numbers are written properly. -/
inductive Value.Proper : Value → Prop
  | null : Proper .null
  | bool (b : Bool) : Proper (.bool b)
  | number {literal : Literal} (h : literal.Proper) : Proper (.number literal)
  | string (text : String) : Proper (.string text)
  | array {items : List Value} (h : ∀ v ∈ items, Proper v) : Proper (.array items)
  | object {members : List (String × Value)} (h : ∀ m ∈ members, Proper m.2) :
    Proper (.object members)

/-- The reader takes the text of the value for the value, if it has fuel for the text. -/
def Restores (stand : Option Char) (layout : Layout) (v : Value) : Prop :=
  ∀ depth fuel rest, EndsNumber rest → 2 * (v.chars layout depth).length ≤ fuel →
    readValue stand fuel (v.chars layout depth ++ rest) = some (v, rest)

variable {stand : Option Char} {layout : Layout} {depth : Nat}

theorem Literal.Proper.chars_eq_cons {l : Literal} (h : l.Proper) :
    ∃ c cs, l.chars = c :: cs ∧ startsNumber c = true := by
  rw [Literal.chars_eq]
  exact exists_startsNumber l.negative h.whole_ne_nil h.whole_digits _

theorem Value.Proper.begins {v : Value} (h : v.Proper) (layout : Layout) (depth : Nat) :
    Begins (v.chars layout depth) := by
  cases h with
  | null => exact ⟨_, _, rfl, rfl, by decide⟩
  | bool b => cases b <;> exact ⟨_, _, rfl, rfl, by decide⟩
  | number h =>
      obtain ⟨c, cs, hchars, hc⟩ := h.chars_eq_cons
      exact ⟨c, cs, hchars, isSpace_of_startsNumber hc, ne_of_startsNumber hc rfl⟩
  | string text => exact ⟨_, _, rfl, rfl, by decide⟩
  | @array items h => cases items <;> exact ⟨_, _, rfl, rfl, by decide⟩
  | @object members h => cases members <;> exact ⟨_, _, rfl, rfl, by decide⟩

/-- The text of an item, behind the comma or the opening bracket. -/
def itemText (layout : Layout) (depth : Nat) (item : Value) : List Char :=
  layout.lineBreak (depth + 1) ++ item.chars layout (depth + 1)

/-- The text of a member, behind the comma or the opening brace. -/
def memberText (layout : Layout) (depth : Nat) (name : String) (value : Value) : List Char :=
  layout.lineBreak (depth + 1) ++ (stringText name ++ (layout.colon ++
    value.chars layout (depth + 1)))

theorem itemChars_cons (item : Value) (items : List Value) :
    itemChars layout depth (item :: items) =
      ',' :: (itemText layout depth item ++ itemChars layout depth items) := by
  rw [itemChars, itemText, List.cons_append, List.cons_append]

theorem memberChars_cons (name : String) (value : Value) (members : List (String × Value)) :
    memberChars layout depth ((name, value) :: members) =
      ',' :: (memberText layout depth name value ++ memberChars layout depth members) := by
  simp only [memberChars, memberText, List.cons_append, List.append_assoc]

theorem chars_array (item : Value) (items : List Value) :
    (Value.array (item :: items)).chars layout depth =
      '[' :: (itemText layout depth item ++ itemChars layout depth items) := by
  rw [Value.chars, itemText, List.cons_append, List.cons_append]

theorem chars_object (name : String) (value : Value) (members : List (String × Value)) :
    (Value.object ((name, value) :: members)).chars layout depth =
      '\x7b' :: (memberText layout depth name value ++ memberChars layout depth members) := by
  simp only [Value.chars, memberText, List.cons_append, List.append_assoc]

theorem endsNumber_lineBreak {c : Char} (hc : isDigit c = false ∧ c ≠ '.' ∧ c ≠ 'e' ∧ c ≠ 'E')
    (rest : List Char) : EndsNumber (layout.lineBreak depth ++ c :: rest) := by
  intro d hd
  cases layout with
  | compact =>
      obtain rfl : c = d := Option.some.inj hd
      exact hc
  | indented =>
      obtain rfl : '\n' = d := Option.some.inj hd
      decide

theorem endsNumber_comma (rest : List Char) : EndsNumber (',' :: rest) := by
  intro c hc
  obtain rfl : ',' = c := Option.some.inj hc
  decide

theorem skipSpace_lineBreak {c : Char} (hc : isSpace c = false) (rest : List Char) :
    skipSpace (layout.lineBreak depth ++ c :: rest) = c :: rest := by
  rw [skipSpace_append isSpace_of_mem_lineBreak, skipSpace_cons hc]

section Items

variable {item : Value} {items : List Value} {fuel : Nat} {rest : List Char}

/-- What the reader does behind an item. -/
def behindItem (stand : Option Char) (fuel : Nat) (item : Value) : List Char → Read (List Value)
  | ']' :: after => some ([item], after)
  | ',' :: after =>
    (readItems stand fuel after).map fun (items, after) => (item :: items, after)
  | _ => none

theorem readItems_of_value {blanks cs : List Char} (hblanks : ∀ c ∈ blanks, isSpace c = true)
    (hv : readValue stand fuel cs = some (item, rest)) :
    readItems stand (fuel + 1) (blanks ++ cs) = behindItem stand fuel item (skipSpace rest) := by
  rw [readItems, readValue_append hblanks, hv]
  exact (behindItem.eq_def stand fuel item _).symm

theorem readItems_item (h : Restores stand layout item) (hrest : EndsNumber rest)
    (hfuel : 2 * (item.chars layout (depth + 1)).length ≤ fuel) :
    readItems stand (fuel + 1) (itemText layout depth item ++ rest) =
      behindItem stand fuel item (skipSpace rest) := by
  rw [itemText, List.append_assoc]
  exact readItems_of_value isSpace_of_mem_lineBreak (h (depth + 1) fuel rest hrest hfuel)

theorem readItems_chars (h : ∀ v ∈ item :: items, Restores stand layout v)
    (hfuel : 2 * (itemText layout depth item ++ itemChars layout depth items).length ≤ fuel) :
    readItems stand fuel (itemText layout depth item ++ (itemChars layout depth items ++ rest)) =
      some (item :: items, rest) := by
  -- An item takes one unit of fuel and has two for each of its characters.
  induction items generalizing item fuel with
  | nil =>
      obtain ⟨hitem, -⟩ := List.forall_mem_cons.mp h
      simp only [itemText, itemChars, List.length_append, List.length_singleton] at hfuel
      obtain ⟨fuel, rfl⟩ := Nat.exists_eq_add_one_of_ne_zero (n := fuel) (by omega)
      rw [itemChars, List.append_assoc, List.singleton_append,
        readItems_item hitem (endsNumber_lineBreak (by decide) rest) (by omega)]
      rw [skipSpace_lineBreak rfl, behindItem]
  | cons next items ih =>
      obtain ⟨hitem, hitems⟩ := List.forall_mem_cons.mp h
      simp only [itemChars_cons, List.length_append, List.length_cons] at hfuel
      have hlength : (item.chars layout (depth + 1)).length ≤
          (itemText layout depth item).length := by
        rw [itemText, List.length_append]
        omega
      obtain ⟨fuel, rfl⟩ := Nat.exists_eq_add_one_of_ne_zero (n := fuel) (by omega)
      have hleft : 2 * (itemText layout depth next ++ itemChars layout depth items).length ≤
          fuel := by
        rw [List.length_append]
        omega
      have hbehind := ih hitems hleft
      rw [itemChars_cons, List.cons_append, readItems_item hitem (endsNumber_comma _) (by omega)]
      rw [skipSpace_cons rfl, behindItem, List.append_assoc, hbehind]
      rfl

end Items

section Members

variable {name : String} {value : Value} {members : List (String × Value)} {fuel : Nat}
  {rest : List Char}

/-- What the reader does behind a member. -/
def behindMember (stand : Option Char) (fuel : Nat) (name : String) (value : Value) :
    List Char → Read (List (String × Value))
  | '\x7d' :: after => some ([(name, value)], after)
  | ',' :: after =>
    (readMembers stand fuel after).map fun (members, after) => ((name, value) :: members, after)
  | _ => none

theorem readMembers_of_value {before gap gap' written cs : List Char}
    (hbefore : ∀ c ∈ before, isSpace c = true) (hgap : ∀ c ∈ gap, isSpace c = true)
    (hgap' : ∀ c ∈ gap', isSpace c = true)
    (hname : ∀ rest, readString stand (written ++ '"' :: rest) = some (name, rest))
    (hv : readValue stand fuel cs = some (value, rest)) :
    readMembers stand (fuel + 1)
        (before ++ '"' :: (written ++ '"' :: (gap ++ ':' :: (gap' ++ cs)))) =
      behindMember stand fuel name value (skipSpace rest) := by
  rw [readMembers, skipSpace_append hbefore, skipSpace_cons rfl]
  simp only [hname, skipSpace_append hgap, skipSpace_cons (c := ':') rfl, readValue_append hgap',
    hv]
  exact (behindMember.eq_def stand fuel name value _).symm

theorem readMembers_member (h : Restores stand layout value) (hrest : EndsNumber rest)
    (hfuel : 2 * (value.chars layout (depth + 1)).length ≤ fuel) :
    readMembers stand (fuel + 1) (memberText layout depth name value ++ rest) =
      behindMember stand fuel name value (skipSpace rest) := by
  obtain ⟨gap, hcolon, hgap⟩ := colon_eq layout
  have htext : memberText layout depth name value ++ rest =
      layout.lineBreak (depth + 1) ++ '"' :: (name.toList.flatMap escapedChar ++ '"' :: ([] ++
        ':' :: (gap ++ (value.chars layout (depth + 1) ++ rest)))) := by
    simp only [memberText, stringText, hcolon, List.cons_append, List.append_assoc,
      List.nil_append]
  rw [htext]
  exact readMembers_of_value isSpace_of_mem_lineBreak (List.forall_mem_nil _) hgap
    (readString_chars name) (h (depth + 1) fuel rest hrest hfuel)

theorem readMembers_chars (h : ∀ m ∈ (name, value) :: members, Restores stand layout m.2)
    (hfuel : 2 * (memberText layout depth name value ++
      memberChars layout depth members).length ≤ fuel) :
    readMembers stand fuel (memberText layout depth name value ++
      (memberChars layout depth members ++ rest)) = some ((name, value) :: members, rest) := by
  induction members generalizing name value fuel with
  | nil =>
      have hvalue : Restores stand layout value := h _ List.mem_cons_self
      simp only [memberText, memberChars, List.length_append, List.length_singleton] at hfuel
      obtain ⟨fuel, rfl⟩ := Nat.exists_eq_add_one_of_ne_zero (n := fuel) (by omega)
      rw [memberChars, List.append_assoc, List.singleton_append,
        readMembers_member hvalue (endsNumber_lineBreak (by decide) rest) (by omega)]
      rw [skipSpace_lineBreak rfl, behindMember]
  | cons next members ih =>
      obtain ⟨name', value'⟩ := next
      have hvalue : Restores stand layout value := h _ List.mem_cons_self
      have hmembers := (List.forall_mem_cons.mp h).2
      simp only [memberChars_cons, List.length_append, List.length_cons] at hfuel
      have hlength : (value.chars layout (depth + 1)).length ≤
          (memberText layout depth name value).length := by
        simp only [memberText, List.length_append]
        omega
      obtain ⟨fuel, rfl⟩ := Nat.exists_eq_add_one_of_ne_zero (n := fuel) (by omega)
      have hleft : 2 * (memberText layout depth name' value' ++
          memberChars layout depth members).length ≤ fuel := by
        rw [List.length_append]
        omega
      have hbehind := ih hmembers hleft
      rw [memberChars_cons, List.cons_append,
        readMembers_member hvalue (endsNumber_comma _) (by omega)]
      rw [skipSpace_cons rfl, behindMember, List.append_assoc, hbehind]
      rfl

end Members

theorem restores_array {items : List Value} (hproper : ∀ v ∈ items, v.Proper)
    (h : ∀ v ∈ items, Restores stand layout v) : Restores stand layout (.array items) := by
  intro depth fuel rest _ hfuel
  cases items with
  | nil =>
      have hfour : 4 ≤ fuel := hfuel
      obtain ⟨fuel, rfl⟩ := Nat.exists_eq_add_one_of_ne_zero (n := fuel) (by omega)
      rfl
  | cons item items =>
      rw [chars_array] at hfuel ⊢
      rw [List.length_cons] at hfuel
      obtain ⟨fuel, rfl⟩ := Nat.exists_eq_add_one_of_ne_zero (n := fuel) (by omega)
      have hitems : readItems stand fuel (itemText layout depth item ++
          (itemChars layout depth items ++ rest)) = some (item :: items, rest) :=
        readItems_chars h (by omega)
      obtain ⟨c, cs, hitem, hspace, hbracket⟩ :=
        (hproper item List.mem_cons_self).begins layout (depth + 1)
      have hopening : skipSpace (itemText layout depth item ++
          (itemChars layout depth items ++ rest)) =
          c :: (cs ++ (itemChars layout depth items ++ rest)) := by
        rw [itemText, hitem, List.append_assoc]
        exact skipSpace_lineBreak hspace _
      rw [List.cons_append, List.append_assoc]
      -- No item begins like the end of an array.
      refine readValue_array (skipSpace_cons rfl _) (fun more heq => hbracket ?_) hitems
      exact (List.cons.inj (hopening.symm.trans heq)).1

theorem restores_object {members : List (String × Value)}
    (h : ∀ m ∈ members, Restores stand layout m.2) : Restores stand layout (.object members) := by
  intro depth fuel rest _ hfuel
  cases members with
  | nil =>
      have hfour : 4 ≤ fuel := hfuel
      obtain ⟨fuel, rfl⟩ := Nat.exists_eq_add_one_of_ne_zero (n := fuel) (by omega)
      rfl
  | cons member members =>
      obtain ⟨name, value⟩ := member
      rw [chars_object] at hfuel ⊢
      rw [List.length_cons] at hfuel
      obtain ⟨fuel, rfl⟩ := Nat.exists_eq_add_one_of_ne_zero (n := fuel) (by omega)
      have hmembers : readMembers stand fuel (memberText layout depth name value ++
          (memberChars layout depth members ++ rest)) = some ((name, value) :: members, rest) :=
        readMembers_chars h (by omega)
      have hopening : skipSpace (memberText layout depth name value ++
          (memberChars layout depth members ++ rest)) =
          '"' :: (name.toList.flatMap escapedChar ++ ['"'] ++ (layout.colon ++
            value.chars layout (depth + 1)) ++ (memberChars layout depth members ++ rest)) := by
        rw [memberText, List.append_assoc, stringText]
        exact skipSpace_lineBreak rfl _
      rw [List.cons_append, List.append_assoc]
      refine readValue_object (skipSpace_cons rfl _) (fun more heq => ?_) hmembers
      exact absurd (List.cons.inj (hopening.symm.trans heq)).1 (by decide)

theorem restores_null : Restores stand layout .null := by
  intro depth fuel rest _ hfuel
  have height : 8 ≤ fuel := hfuel
  obtain ⟨fuel, rfl⟩ := Nat.exists_eq_add_one_of_ne_zero (n := fuel) (by omega)
  rfl

theorem restores_bool (b : Bool) : Restores stand layout (.bool b) := by
  intro depth fuel rest _ hfuel
  cases b with
  | true =>
      have height : 8 ≤ fuel := hfuel
      obtain ⟨fuel, rfl⟩ := Nat.exists_eq_add_one_of_ne_zero (n := fuel) (by omega)
      rfl
  | false =>
      have hten : 10 ≤ fuel := hfuel
      obtain ⟨fuel, rfl⟩ := Nat.exists_eq_add_one_of_ne_zero (n := fuel) (by omega)
      rfl

theorem restores_number {literal : Literal} (h : literal.Proper) :
    Restores stand layout (.number literal) := by
  intro depth fuel rest hrest hfuel
  obtain ⟨c, cs, hchars, hc⟩ := h.chars_eq_cons
  have hread := readNumber_chars h hrest
  rw [Value.chars, hchars] at hfuel
  rw [List.length_cons] at hfuel
  obtain ⟨fuel, rfl⟩ := Nat.exists_eq_add_one_of_ne_zero (n := fuel) (by omega)
  rw [hchars, List.cons_append] at hread
  rw [Value.chars, hchars, List.cons_append, readValue_number hc, hread]
  rfl

theorem restores_string (text : String) : Restores stand layout (.string text) := by
  intro depth fuel rest _ hfuel
  rw [Value.chars, stringText] at hfuel ⊢
  rw [List.length_cons] at hfuel
  obtain ⟨fuel, rfl⟩ := Nat.exists_eq_add_one_of_ne_zero (n := fuel) (by omega)
  rw [List.cons_append, List.append_assoc]
  exact readValue_string (skipSpace_cons rfl _) (readString_chars text rest)

/-- Whatever stands behind it, a proper value is read back from its text. -/
theorem restores {v : Value} (h : v.Proper) : Restores stand layout v := by
  induction h with
  | null => exact restores_null
  | bool b => exact restores_bool b
  | number h => exact restores_number h
  | string text => exact restores_string text
  | array h ih => exact restores_array h ih
  | object h ih => exact restores_object ih

theorem endsNumber_blanks {blanks : List Char} (h : ∀ c ∈ blanks, isSpace c = true) :
    EndsNumber blanks := by
  intro c hc
  have hspace := h c (List.mem_of_mem_head? hc)
  simp only [isSpace, Bool.or_eq_true, decide_eq_true_eq] at hspace
  rcases hspace with ((rfl | rfl) | rfl) | rfl <;> decide

theorem parse?_chars {v : Value} (h : v.Proper) {blanks : List Char}
    (hblanks : ∀ c ∈ blanks, isSpace c = true) :
    Value.parse? (String.ofList (v.chars layout 0 ++ blanks)) = some v := by
  have hfuel : 2 * (v.chars layout 0).length ≤ 2 * (v.chars layout 0 ++ blanks).length + 1 := by
    rw [List.length_append]
    omega
  have hread : readValue none (2 * (v.chars layout 0 ++ blanks).length + 1)
      (v.chars layout 0 ++ blanks) = some (v, blanks) :=
    restores h 0 _ blanks (endsNumber_blanks hblanks) hfuel
  have hnone : skipSpace blanks = [] := by
    rw [← List.append_nil blanks]
    exact skipSpace_append hblanks []
  simp only [Value.parse?, String.toList_ofList, hread, hnone, List.isEmpty_nil, if_true]

end Values

end Readiness.Json
