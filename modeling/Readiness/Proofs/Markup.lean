import Readiness.Proofs.Escaping

/-!
Markup read back. The tokens of a document are its tags and the characters outside of them; a
document in pieces has the tokens of its pieces, if no piece ends inside a tag. Escaped text holds
no sign that could begin one.
-/

namespace Readiness.Report.Html

section Tokens

/-- A tag, by what stands between its brackets, or a character outside of tags. -/
inductive Token
  | tag (name : String)
  | char (c : Char)
  deriving DecidableEq, Repr

def Token.tag? : Token → Option String
  | tag name => some name
  | char _ => none

/-- The tokens of characters that stand after the beginning of a tag or outside of tags, and the
beginning of a tag that they end in. -/
def scan : Option (List Char) → List Char → List Token × Option (List Char)
  | place, [] => ([], place)
  | none, c :: rest =>
    if c = '<' then scan (some []) rest
    else (.char c :: (scan none rest).1, (scan none rest).2)
  | some name, c :: rest =>
    if c = '>' then (.tag (String.ofList name) :: (scan none rest).1, (scan none rest).2)
    else scan (some (name ++ [c])) rest

def tokens (source : String) : List Token := (scan none source.toList).1

theorem scan_append {place : Option (List Char)} {a b : List Char} :
    scan place (a ++ b) =
      ((scan place a).1 ++ (scan (scan place a).2 b).1, (scan (scan place a).2 b).2) := by
  fun_induction scan place a with
  | case1 place => rfl
  | case2 rest ih => simpa only [List.cons_append, scan, if_true] using ih
  | case3 c rest h ih => simp only [List.cons_append, scan, if_neg h, ih]
  | case4 name rest ih => simp only [List.cons_append, scan, if_true, ih]
  | case5 name c rest h ih => simpa only [List.cons_append, scan, if_neg h] using ih

def tagsOf (ts : List Token) : List String := ts.filterMap Token.tag?

/-- The characters up to the next tag. -/
def textBefore : List Token → List Char
  | .char c :: rest => c :: textBefore rest
  | _ => []

/-- What follows the tags of a name, each up to the next tag. -/
def textsOf (name : String) : List Token → List String
  | [] => []
  | .char _ :: rest => textsOf name rest
  | .tag other :: rest =>
    if other = name then String.ofList (textBefore rest) :: textsOf name rest
    else textsOf name rest

/-- The tags of a document in their order, without their brackets. -/
def tags (source : String) : List String := tagsOf (tokens source)

/-- The texts of the elements that a tag opens and the next tag closes. -/
def texts (name source : String) : List String := textsOf name (tokens source)

theorem not_mem_ofList {c : Char} {cs : List Char} (h : c ∉ cs) :
    c ∉ (String.ofList cs).toList := by
  rwa [String.toList_ofList]

theorem scan_of_lt_not_mem {cs : List Char} (h : '<' ∉ cs) :
    scan none cs = (cs.map .char, none) := by
  induction cs with
  | nil => rfl
  | cons c cs ih =>
      have hc : c ≠ '<' := by
        rintro rfl
        exact h List.mem_cons_self
      have hcs : '<' ∉ cs := fun hmem => h (List.mem_cons_of_mem c hmem)
      simp only [scan, if_neg hc, ih hcs, List.map_cons]

theorem scan_of_gt_not_mem {cs : List Char} (h : '>' ∉ cs) (name : List Char) :
    scan (some name) cs = ([], some (name ++ cs)) := by
  induction cs generalizing name with
  | nil => rw [scan, List.append_nil]
  | cons c cs ih =>
      have hc : c ≠ '>' := by
        rintro rfl
        exact h List.mem_cons_self
      have hcs : '>' ∉ cs := fun hmem => h (List.mem_cons_of_mem c hmem)
      rw [scan, if_neg hc, ih hcs, List.append_assoc, List.singleton_append]

theorem tagsOf_append (a b : List Token) : tagsOf (a ++ b) = tagsOf a ++ tagsOf b :=
  List.filterMap_append

theorem tagsOf_chars (cs : List Char) : tagsOf (cs.map .char) = [] := by
  induction cs with
  | nil => rfl
  | cons c cs ih => exact ih

theorem textBefore_chars (cs : List Char) (next : String) (rest : List Token) :
    textBefore (cs.map .char ++ .tag next :: rest) = cs := by
  induction cs with
  | nil => rfl
  | cons c cs ih => exact congrArg (c :: ·) ih

variable {name : String} {a : List Token}

/-- Tokens without a tag of the name have no part in its texts. -/
theorem textsOf_append_of_not_mem (h : name ∉ tagsOf a) (b : List Token) :
    textsOf name (a ++ b) = textsOf name b := by
  induction a with
  | nil => rfl
  | cons t a ih =>
      cases t with
      | char c => exact ih h
      | tag other =>
          have hne : other ≠ name := by
            rintro rfl
            exact h List.mem_cons_self
          have hrest : name ∉ tagsOf a := fun hmem => h (List.mem_cons_of_mem other hmem)
          rw [List.cons_append, textsOf, if_neg hne, ih hrest]

theorem textsOf_chars_append (cs : List Char) (b : List Token) :
    textsOf name (cs.map .char ++ b) = textsOf name b := by
  refine textsOf_append_of_not_mem ?_ b
  rw [tagsOf_chars]
  exact List.not_mem_nil

end Tokens

section Rows

def blanks (count : Nat) : List Token := (List.replicate count ' ').map .char

/-- The tokens of a line that holds a tag. -/
def tagRow (indent : Nat) (name : String) : List Token :=
  blanks indent ++ [.tag name, .char '\n']

/-- The tokens of a line that holds a text between two tags. -/
def elementRow (indent : Nat) (name content close : String) : List Token :=
  (blanks indent ++ [.tag name]) ++ (content.toList.map .char ++ [.tag close, .char '\n'])

variable {indent : Nat} {name other content close : String}

theorem tagsOf_tagRow : tagsOf (tagRow indent name) = [name] := by
  rw [tagRow, blanks, tagsOf_append, tagsOf_chars]
  rfl

theorem tagsOf_elementRow : tagsOf (elementRow indent name content close) = [name, close] := by
  rw [elementRow, blanks, tagsOf_append, tagsOf_append, tagsOf_append, tagsOf_chars, tagsOf_chars]
  rfl

theorem textsOf_tagRow (h : other ≠ name) (rest : List Token) :
    textsOf name (tagRow indent other ++ rest) = textsOf name rest := by
  refine textsOf_append_of_not_mem ?_ rest
  rw [tagsOf_tagRow, List.mem_singleton]
  exact h.symm

/-- A line with an element is among the texts of its name. -/
theorem textsOf_elementRow_self (h : close ≠ name) (rest : List Token) :
    textsOf name (elementRow indent name content close ++ rest) =
      content :: textsOf name rest := by
  have hclose : textsOf name (.tag close :: .char '\n' :: rest) = textsOf name rest := by
    rw [textsOf, if_neg h, textsOf]
  simp only [elementRow, blanks, List.append_assoc, List.cons_append, List.nil_append]
  rw [textsOf_chars_append, textsOf, if_pos rfl, textBefore_chars, textsOf_chars_append, hclose,
    String.ofList_toList]

theorem textsOf_elementRow (hopen : other ≠ name) (hclose : close ≠ name) (rest : List Token) :
    textsOf name (elementRow indent other content close ++ rest) = textsOf name rest := by
  refine textsOf_append_of_not_mem ?_ rest
  rw [tagsOf_elementRow, List.mem_cons, List.mem_singleton, not_or]
  exact ⟨hopen.symm, hclose.symm⟩

end Rows

section Pieces

/-- Pieces that have these tokens, one piece after the other, and end outside of tags. -/
def Reads (pieces : List Piece) (ts : List Token) : Prop :=
  scan none (pieces.flatMap fun p => p.source.toList) = (ts, none)

variable {pieces more : List Piece} {ts us ws : List Token} {place place' : Option (List Char)}

theorem Reads.tokens_eq (h : Reads pieces ts) :
    tokens (String.join (pieces.map Piece.source)) = ts := by
  rw [tokens, String.toList_join, List.flatMap_map, h]

theorem Reads.append (h : Reads pieces ts) (h' : Reads more us) :
    Reads (pieces ++ more) (ts ++ us) := by
  simp only [Reads] at h h' ⊢
  rw [List.flatMap_append, scan_append, h, h']

theorem reads_flatMap {α : Type} {f : α → List Piece} {g : α → List Token}
    (h : ∀ a, Reads (f a) (g a)) (l : List α) : Reads (l.flatMap f) (l.flatMap g) := by
  induction l with
  | nil => rfl
  | cons a l ih => exact (h a).append ih

theorem reads_markup {cs : List Char} (h : scan none cs = (ts, none)) :
    Reads [.markup (String.ofList cs)] ts := by
  simpa [Reads, Piece.source] using h

theorem reads_text (content : String) :
    Reads [.text content] ((escape content).toList.map .char) := by
  simpa [Reads, Piece.source] using scan_of_lt_not_mem (lt_not_mem_escape content)

theorem reads_line {cs : List Char} (h : scan none (cs ++ ['\n']) = (ts, none)) :
    Reads (line (String.ofList cs)) ts := by
  have hsource : String.ofList cs ++ "\n" = String.ofList (cs ++ ['\n']) := by
    rw [String.ofList_append]
  rw [line, hsource]
  exact reads_markup h

/-- A text keeps to its place: what stands before and behind it is read as if it was not there. -/
theorem reads_textLine {before after : List Char} (hbefore : scan none before = (ts, none))
    (hafter : scan none (after ++ ['\n']) = (us, none)) (content : String) :
    Reads (textLine (String.ofList before) content (String.ofList after))
      (ts ++ ((escape content).toList.map .char ++ us)) :=
  (reads_markup hbefore).append ((reads_text content).append (reads_line hafter))

theorem scan_ofList {cs : List Char} (h : scan place cs = (ts, place')) :
    scan place (String.ofList cs).toList = (ts, place') := by
  rwa [String.toList_ofList]

theorem reads_spliced {before after : List Char} {middle : String}
    (hbefore : scan none before = (ts, place)) (hmiddle : scan place middle.toList = (us, place'))
    (hafter : scan place' (after ++ ['\n']) = (ws, none)) :
    Reads (line (String.ofList before ++ middle ++ String.ofList after)) (ts ++ (us ++ ws)) := by
  have hbreak : "\n".toList = ['\n'] := String.toList_ofList
  simp only [Reads, line, List.flatMap_singleton, Piece.source, String.toList_append,
    String.toList_ofList, hbreak]
  rw [List.append_assoc, List.append_assoc, scan_append, hbefore, scan_append, hmiddle, hafter]

/-- A tag with a text spliced in that cannot end it. -/
theorem reads_splicedTag {indent : Nat} {before beginning after ending : List Char}
    {middle : String} (hbefore : scan none before = (blanks indent, some beginning))
    (hmiddle : '>' ∉ middle.toList) (hafter : after = ending ++ ['>']) (hending : '>' ∉ ending) :
    Reads (line (String.ofList before ++ middle ++ String.ofList after))
      (tagRow indent (String.ofList beginning ++ middle ++ String.ofList ending)) := by
  have hname : String.ofList beginning ++ middle ++ String.ofList ending =
      String.ofList (beginning ++ middle.toList ++ ending) := by
    simp only [String.ofList_append, String.ofList_toList]
  have hrest : scan (some (beginning ++ middle.toList)) (after ++ ['\n']) =
      ([.tag (String.ofList (beginning ++ middle.toList ++ ending)), .char '\n'], none) := by
    rw [hafter, List.append_assoc ending, scan_append, scan_of_gt_not_mem hending]
    rfl
  rw [hname]
  exact reads_spliced hbefore (scan_of_gt_not_mem hmiddle beginning) hrest

end Pieces
end Readiness.Report.Html
