import Readiness.Report.Html

/-!
Texts escaped and read back. An escaped text holds none of the signs that markup is made of, but for
the ampersands that begin its references, and un-escaping it gives the text again. Each text of that
kind is an escaped one.
-/

namespace Readiness.Report.Html

/-- Puts the characters in place of the references to them, from left to right. -/
def unescapeChars : List Char → List Char
  | '&' :: 'a' :: 'm' :: 'p' :: ';' :: rest => '&' :: unescapeChars rest
  | '&' :: 'l' :: 't' :: ';' :: rest => '<' :: unescapeChars rest
  | '&' :: 'g' :: 't' :: ';' :: rest => '>' :: unescapeChars rest
  | '&' :: 'q' :: 'u' :: 'o' :: 't' :: ';' :: rest => '"' :: unescapeChars rest
  | '&' :: '#' :: '3' :: '9' :: ';' :: rest => '\'' :: unescapeChars rest
  | c :: rest => c :: unescapeChars rest
  | [] => []

def unescape (text : String) : String := String.ofList (unescapeChars text.toList)

/-- The references that stand for characters. -/
def references : List String := ["&amp;", "&lt;", "&gt;", "&quot;", "&#39;"]

/-- No sign of markup stands in the characters but the ampersands of references. -/
structure Escaped (cs : List Char) : Prop where
  no_sign : ∀ c ∈ ['<', '>', '"', '\''], c ∉ cs
  refers : ∀ before after, cs = before ++ '&' :: after →
    ∃ reference ∈ references, reference.toList <+: '&' :: after

section Characters

variable {c : Char}

theorem toList_escape (text : String) : (escape text).toList = text.toList.flatMap escapeChar :=
  String.toList_ofList

theorem sign_not_mem_escapeChar (hc : c ∈ ['<', '>', '"', '\'']) (d : Char) :
    c ∉ escapeChar d := by
  fun_cases escapeChar d with
  | case1 | case2 | case3 | case4 | case5 =>
      simp only [List.mem_cons, List.not_mem_nil, or_false] at hc
      obtain rfl | rfl | rfl | rfl := hc <;> decide
  | case6 =>
      rw [List.mem_singleton]
      rintro rfl
      simp_all

theorem lt_not_mem_escape (text : String) : '<' ∉ (escape text).toList := by
  rw [toList_escape, List.mem_flatMap]
  rintro ⟨c, -, h⟩
  exact sign_not_mem_escapeChar (by decide) c h

theorem amp_not_mem_tail_escapeChar (c : Char) : '&' ∉ (escapeChar c).tail := by
  fun_cases escapeChar c with
  | case1 | case2 | case3 | case4 | case5 => decide
  | case6 => exact List.not_mem_nil

/-- An ampersand in what is written for a character begins it, and a reference is written. -/
theorem escapeChar_eq_append_amp {before after : List Char}
    (h : escapeChar c = before ++ '&' :: after) :
    before = [] ∧ ∃ reference ∈ references, reference.toList = escapeChar c := by
  cases before with
  | cons first before =>
      have htail : '&' ∈ (escapeChar c).tail := by simp [h]
      exact absurd htail (amp_not_mem_tail_escapeChar c)
  | nil =>
      refine ⟨rfl, ?_⟩
      revert h
      fun_cases escapeChar c with
      | case1 | case2 | case3 | case4 | case5 => exact fun _ => ⟨_, by decide, rfl⟩
      | case6 =>
          rename_i hamp _ _ _ _
          exact fun h => absurd (List.cons.inj h).1 hamp

end Characters

section Reading

theorem unescapeChars_cons {c : Char} (h : c ≠ '&') (rest : List Char) :
    unescapeChars (c :: rest) = c :: unescapeChars rest := by
  rw [unescapeChars.eq_def]
  split <;> simp_all

theorem unescapeChars_escapeChar (c : Char) (rest : List Char) :
    unescapeChars (escapeChar c ++ rest) = c :: unescapeChars rest := by
  fun_cases escapeChar c with
  | case1 | case2 | case3 | case4 | case5 => rfl
  | case6 =>
      rename_i hamp _ _ _ _
      exact unescapeChars_cons hamp rest

theorem unescape_escape (text : String) : unescape (escape text) = text := by
  have h (cs : List Char) : unescapeChars (cs.flatMap escapeChar) = cs := by
    induction cs with
    | nil => rfl
    | cons c cs ih => rw [List.flatMap_cons, unescapeChars_escapeChar, ih]
  rw [unescape, toList_escape, h, String.ofList_toList]

end Reading

section Escaped

variable {c : Char} {cs front back : List Char}

theorem escaped_nil : Escaped [] where
  no_sign _ _ := List.not_mem_nil
  refers before after h := by cases before <;> cases h

/-- What is written for a character may stand in front of what is escaped. -/
theorem Escaped.escapeChar_append (h : Escaped cs) (c : Char) : Escaped (escapeChar c ++ cs) where
  no_sign d hd := by
    rw [List.mem_append, not_or]
    exact ⟨sign_not_mem_escapeChar hd c, h.no_sign d hd⟩
  refers before after heq := by
    rcases List.append_eq_append_iff.mp heq with ⟨between, rfl, hcs⟩ | ⟨between, hc, hafter⟩
    · exact h.refers between after hcs
    · -- The ampersand is the first character behind, or stands in what is written for `c`.
      cases between with
      | nil => exact h.refers [] after hafter.symm
      | cons first between =>
          obtain ⟨rfl, rfl⟩ := List.cons.inj hafter
          obtain ⟨rfl, reference, hmem, hreference⟩ := escapeChar_eq_append_amp hc
          refine ⟨reference, hmem, ?_⟩
          rw [hreference, hc, List.nil_append]
          exact List.prefix_append ('&' :: between) cs

theorem escaped_escape (text : String) : Escaped (escape text).toList := by
  rw [toList_escape]
  induction text.toList with
  | nil => exact escaped_nil
  | cons c cs ih => exact ih.escapeChar_append c

theorem Escaped.of_append (front : List Char) (h : Escaped (front ++ back)) : Escaped back where
  no_sign c hc hmem := h.no_sign c hc (List.mem_append_right front hmem)
  refers before after heq := h.refers (front ++ before) after (by rw [heq, List.append_assoc])

theorem escapeChar_of_plain (hamp : c ≠ '&') (hsign : c ∉ ['<', '>', '"', '\'']) :
    escapeChar c = [c] := by
  fun_cases escapeChar c with
  | case1 => exact absurd rfl hamp
  | case2 | case3 | case4 | case5 => exact absurd (by decide) hsign
  | case6 => rfl

theorem exists_escapeChar_of_mem_references :
    ∀ reference ∈ references, ∃ c, reference.toList = escapeChar c := by
  simp only [references, List.forall_mem_cons]
  exact ⟨⟨'&', rfl⟩, ⟨'<', rfl⟩, ⟨'>', rfl⟩, ⟨'"', rfl⟩, ⟨'\'', rfl⟩, List.forall_mem_nil _⟩

theorem escapeChar_ne_nil (c : Char) : escapeChar c ≠ [] := by
  fun_cases escapeChar c with
  | case1 | case2 | case3 | case4 | case5 => decide
  | case6 => exact List.cons_ne_nil _ _

/-- What is escaped begins with what is written for some character. -/
theorem Escaped.exists_escapeChar_append (h : Escaped (c :: cs)) :
    ∃ d rest, c :: cs = escapeChar d ++ rest := by
  by_cases hamp : c = '&'
  · subst hamp
    obtain ⟨reference, hmem, rest, hrest⟩ := h.refers [] cs rfl
    obtain ⟨d, hd⟩ := exists_escapeChar_of_mem_references reference hmem
    exact ⟨d, rest, by rw [← hd, hrest]⟩
  · have hplain : escapeChar c = [c] :=
      escapeChar_of_plain hamp fun hsign => h.no_sign c hsign List.mem_cons_self
    exact ⟨c, cs, by rw [hplain]; rfl⟩

/-- What is escaped is written for a text. -/
theorem Escaped.exists_flatMap_eq (h : Escaped cs) :
    ∃ text : List Char, text.flatMap escapeChar = cs := by
  -- On the length: what is taken off the front is one character or a whole reference.
  induction hlength : cs.length using Nat.strongRecOn generalizing cs with
  | ind n ih =>
      cases cs with
      | nil => exact ⟨[], rfl⟩
      | cons c cs =>
          obtain ⟨d, rest, heq⟩ := h.exists_escapeChar_append
          rw [heq] at h hlength ⊢
          have hshorter : rest.length < n := by
            rw [← hlength, List.length_append]
            exact Nat.lt_add_of_pos_left (List.length_pos_iff.mpr (escapeChar_ne_nil d))
          obtain ⟨text, rfl⟩ := ih _ hshorter (h.of_append (escapeChar d)) rfl
          exact ⟨d :: text, List.flatMap_cons⟩

end Escaped

/-- What is written for a text holds no sign of markup, each ampersand in it begins one of the five
references, and it reads back as the text. All that is of this kind is written for the text that it
reads back as. No two texts are written alike, and a text in two parts is written part by part. -/
theorem escape_reads_back :
    (∀ text, Escaped (escape text).toList ∧ unescape (escape text) = text) ∧
      (∀ source, Escaped source.toList → escape (unescape source) = source) ∧
      Function.Injective escape ∧ ∀ a b, escape (a ++ b) = escape a ++ escape b := by
  refine ⟨fun text => ⟨escaped_escape text, unescape_escape text⟩, fun source hsource => ?_,
    Function.LeftInverse.injective unescape_escape, fun a b => ?_⟩
  · obtain ⟨text, htext⟩ := hsource.exists_flatMap_eq
    have hsource : source = escape (String.ofList text) := by
      rw [escape, String.toList_ofList, htext, String.ofList_toList]
    rw [hsource, unescape_escape]
  · rw [escape, String.toList_append, List.flatMap_append, String.ofList_append]
    rfl

end Readiness.Report.Html
