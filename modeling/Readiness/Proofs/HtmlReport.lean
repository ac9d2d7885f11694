import Mathlib.Data.List.Nodup
import Readiness.Proofs.CheckResult
import Readiness.Proofs.Markup

/-!
What the report as an HTML document says. Its tags are laid out by the verdict and by the classes
and ids of the results alone, and its texts read back as they were given, so that no two different
lists of results have the same document.
-/

namespace Readiness.Report.Html

section Layout

/-- The tag that opens the block of a result. -/
def itemName (c : ReportClass) (id : CheckId) : String :=
  "div class='check-item " ++ itemClass c ++ "' data-check='" ++ id.key ++ "'"

def messageName : String := "div class='message'"

def detailsName : String := "div class='details'"

def summaryName (canInstall : Bool) : String :=
  if canInstall then "div class='summary success'" else "div class='summary error'"

def itemTags (c : ReportClass) (id : CheckId) : List String :=
  [itemName c id, messageName, "/div", detailsName, "/div", "/div"]

/-- The tags in front of the blocks. -/
def frontTags (canInstall : Bool) : List String :=
  ["!DOCTYPE html", "html", "head", "meta charset='UTF-8'", "title", "/title", "style", "/style",
   "/head", "body", "div class='container'", "h1", "/h1", summaryName canInstall, "h2", "/h2",
   "p", "/p", "/div", "div style='margin-top: 30px;'"]

/-- The tags of a report that has a block for each of these classes and ids. -/
def outline (canInstall : Bool) (items : List (ReportClass × CheckId)) : List String :=
  frontTags canInstall ++ items.flatMap (fun (c, id) => itemTags c id) ++
    ["/div", "/div", "/body", "/html"]

end Layout

section Rows

def styleText : List Char :=
  (styleRules.flatMap fun rule => line ("        " ++ rule)).flatMap fun p => p.source.toList

def headRows (title : String) : List Token :=
  tagRow 0 "!DOCTYPE html" ++ tagRow 0 "html" ++ tagRow 0 "head" ++
  tagRow 4 "meta charset='UTF-8'" ++ elementRow 4 "title" (escape title) "/title" ++
  tagRow 4 "style" ++ styleText.map .char ++ tagRow 4 "/style" ++ tagRow 0 "/head"

def summaryRows (v : Verdict) : List Token :=
  tagRow 8 (summaryName v.canInstall) ++ elementRow 12 "h2" (summary v).headline "/h2" ++
  elementRow 12 "p" (escape (summary v).detail) "/p" ++ tagRow 8 "/div"

def itemRows (r : CheckResult) : List Token :=
  tagRow 12 (itemName r.reportClass r.id) ++ elementRow 16 messageName (escape r.message) "/div" ++
  elementRow 16 detailsName (escape r.details) "/div" ++ tagRow 12 "/div"

def frontRows (title : String) (v : Verdict) : List Token :=
  headRows title ++ tagRow 0 "body" ++ tagRow 4 "div class='container'" ++
  elementRow 8 "h1" (escape title) "/h1" ++ summaryRows v ++
  tagRow 8 "div style='margin-top: 30px;'"

def documentRows (title : String) (results : List CheckResult) (v : Verdict) : List Token :=
  frontRows title v ++ results.flatMap itemRows ++
  tagRow 8 "/div" ++ tagRow 4 "/div" ++ tagRow 0 "/body" ++ tagRow 0 "/html"

end Rows

section Reading

theorem lt_not_mem_styleRules : ∀ rule ∈ styleRules, '<' ∉ rule.toList := by
  simp only [styleRules, List.forall_mem_cons, String.toList_append, List.mem_append, not_or]
  refine ⟨?_, ?_, ⟨?_, ?_⟩, ⟨?_, ?_⟩, ?_, ?_, ?_, ?_, ?_, ?_, ?_, ?_, ?_, List.forall_mem_nil _⟩ <;>
    exact not_mem_ofList (by decide)

theorem reads_style :
    Reads (styleRules.flatMap fun rule => line ("        " ++ rule)) (styleText.map .char) := by
  refine scan_of_lt_not_mem ?_
  have hspace : '<' ∉ "        ".toList := not_mem_ofList (by decide)
  have hbreak : '<' ∉ "\n".toList := not_mem_ofList (by decide)
  simp only [List.mem_flatMap, line, List.mem_singleton, not_exists, not_and]
  rintro _ ⟨rule, hrule, rfl⟩
  simp only [Piece.source, String.toList_append, List.mem_append, not_or]
  exact ⟨⟨hspace, lt_not_mem_styleRules rule hrule⟩, hbreak⟩

theorem reads_head (title : String) : Reads (head title) (headRows title) :=
  (reads_line rfl : Reads (line "<!DOCTYPE html>") (tagRow 0 "!DOCTYPE html"))
    |>.append (reads_line rfl)
    |>.append (reads_line rfl)
    |>.append (reads_line rfl)
    |>.append (reads_textLine rfl rfl title)
    |>.append (reads_line rfl)
    |>.append reads_style
    |>.append (reads_line rfl)
    |>.append (reads_line rfl)

theorem reads_summaryBlock (v : Verdict) : Reads (summaryBlock v) (summaryRows v) := by
  have hclass : Reads (line ("        <div class='summary " ++ summaryClass v ++ "'>"))
      (tagRow 8 (summaryName v.canInstall)) := by
    simp only [summaryClass]
    cases v.canInstall with
    | true => exact reads_spliced rfl (scan_ofList rfl) rfl
    | false => exact reads_spliced rfl (scan_ofList rfl) rfl
  have hheadline : '<' ∉ (summary v).headline.toList := by
    simp only [summary]
    split <;> exact not_mem_ofList (by decide)
  have hrow : Reads (line ("            <h2>" ++ (summary v).headline ++ "</h2>"))
      (elementRow 12 "h2" (summary v).headline "/h2") :=
    reads_spliced rfl (scan_of_lt_not_mem hheadline) rfl
  exact hclass.append hrow
    |>.append (reads_textLine rfl rfl (summary v).detail)
    |>.append (reads_line rfl)

theorem reads_itemTag (c : ReportClass) (id : CheckId) :
    Reads (line (itemTag c id)) (tagRow 12 (itemName c id)) := by
  have hclass : '>' ∉ (itemClass c).toList := by
    cases c <;> exact not_mem_ofList (by decide)
  have hbetween : '>' ∉ "' data-check='".toList := not_mem_ofList (by decide)
  have hkey : '>' ∉ id.key.toList := by
    cases id <;> exact not_mem_ofList (by decide)
  have hmiddle : '>' ∉ (itemClass c ++ "' data-check='" ++ id.key).toList := by
    simp only [String.toList_append, List.mem_append, not_or]
    exact ⟨⟨hclass, hbetween⟩, hkey⟩
  have hending : '>' ∉ ['\''] := by decide
  -- Rewriting with associativity on the literals themselves would unfold them.
  have hassoc (a b c d e : String) : a ++ b ++ c ++ d ++ e = a ++ (b ++ c ++ d) ++ e := by
    simp only [String.append_assoc]
  have hline : itemTag c id = "            <div class='check-item " ++
      (itemClass c ++ "' data-check='" ++ id.key) ++ "'>" := hassoc _ _ _ _ _
  have hname : itemName c id = "div class='check-item " ++
      (itemClass c ++ "' data-check='" ++ id.key) ++ "'" := hassoc _ _ _ _ _
  rw [hline, hname]
  exact reads_splicedTag rfl hmiddle rfl hending

theorem reads_item (r : CheckResult) : Reads (item r) (itemRows r) :=
  reads_itemTag r.reportClass r.id
    |>.append (reads_textLine rfl rfl r.message)
    |>.append (reads_textLine rfl rfl r.details)
    |>.append (reads_line rfl)

theorem reads_document (title : String) (results : List CheckResult) (v : Verdict) :
    Reads (document title results v) (documentRows title results v) :=
  reads_head title
    |>.append (reads_line rfl)
    |>.append (reads_line rfl)
    |>.append (reads_textLine rfl rfl title)
    |>.append (reads_summaryBlock v)
    |>.append (reads_line rfl)
    |>.append (reads_flatMap reads_item results)
    |>.append (reads_line rfl)
    |>.append (reads_line rfl)
    |>.append (reads_line rfl)
    |>.append (reads_line rfl)

theorem tokens_text (title : String) (results : List CheckResult) (v : Verdict) :
    tokens (text title results v) = documentRows title results v :=
  (reads_document title results v).tokens_eq

end Reading

section Contents

variable (title : String) (results : List CheckResult) (v : Verdict)

theorem tagsOf_itemRows (r : CheckResult) :
    tagsOf (itemRows r) = itemTags r.reportClass r.id := by
  simp only [itemRows, tagsOf_append, tagsOf_tagRow, tagsOf_elementRow]
  rfl

theorem tagsOf_flatMap_itemRows :
    tagsOf (results.flatMap itemRows) = results.flatMap fun r => itemTags r.reportClass r.id := by
  induction results with
  | nil => rfl
  | cons r results ih =>
      rw [List.flatMap_cons, tagsOf_append, ih, tagsOf_itemRows, List.flatMap_cons]

theorem tagsOf_frontRows : tagsOf (frontRows title v) = frontTags v.canInstall := by
  simp only [frontRows, headRows, summaryRows, tagsOf_append, tagsOf_tagRow, tagsOf_elementRow,
    tagsOf_chars, frontTags, List.append_assoc, List.cons_append, List.nil_append]

theorem tags_text :
    tags (text title results v) =
      outline v.canInstall (results.map fun r => (r.reportClass, r.id)) := by
  rw [tags, tokens_text, outline, List.flatMap_map]
  simp only [documentRows, tagsOf_append, tagsOf_tagRow, tagsOf_frontRows,
    tagsOf_flatMap_itemRows, List.append_assoc, List.cons_append, List.nil_append]

theorem toList_itemName (c : ReportClass) (id : CheckId) :
    (itemName c id).toList = "div class='check-item ".toList ++ ((itemClass c).toList ++
      ("' data-check='".toList ++ (id.key.toList ++ "'".toList))) := by
  have happend (a b c d e : String) : (a ++ b ++ c ++ d ++ e).toList =
      a.toList ++ (b.toList ++ (c.toList ++ (d.toList ++ e.toList))) := by
    simp only [String.toList_append, List.append_assoc]
  exact happend _ _ _ _ _

theorem itemName_ne {name : String} (h : ¬ "div class='check-item ".toList <+: name.toList)
    (c : ReportClass) (id : CheckId) : itemName c id ≠ name := by
  rintro rfl
  exact h ⟨_, (toList_itemName c id).symm⟩

theorem summaryName_ne {name : String} (h : name ∉ [summaryName true, summaryName false])
    (canInstall : Bool) : summaryName canInstall ≠ name := by
  rintro rfl
  cases canInstall with
  | true => exact h List.mem_cons_self
  | false => exact h (List.mem_cons_of_mem _ List.mem_cons_self)

theorem itemName_ne_messageName (c : ReportClass) (id : CheckId) : itemName c id ≠ messageName :=
  itemName_ne (by decide) c id

theorem itemName_ne_detailsName (c : ReportClass) (id : CheckId) : itemName c id ≠ detailsName :=
  itemName_ne (by decide) c id

variable {name : String}

/-- The blocks have no part in the texts of a tag that is not theirs. -/
theorem textsOf_items (hitem : ¬ "div class='check-item ".toList <+: name.toList)
    (hother : name ∉ [messageName, detailsName, "/div"]) (rest : List Token) :
    textsOf name (results.flatMap itemRows ++ rest) = textsOf name rest := by
  simp only [List.mem_cons, List.not_mem_nil, or_false, not_or] at hother
  obtain ⟨hmessage, hdetails, hclose⟩ := hother
  induction results with
  | nil => rfl
  | cons r results ih =>
      simp only [List.flatMap_cons, itemRows, List.append_assoc]
      rw [textsOf_tagRow (itemName_ne hitem _ _),
        textsOf_elementRow (Ne.symm hmessage) (Ne.symm hclose),
        textsOf_elementRow (Ne.symm hdetails) (Ne.symm hclose), textsOf_tagRow (Ne.symm hclose), ih]

theorem textsOf_items_messageName (rest : List Token) :
    textsOf messageName (results.flatMap itemRows ++ rest) =
      results.map (fun r => escape r.message) ++ textsOf messageName rest := by
  have hdetails : detailsName ≠ messageName := by decide
  have hclose : "/div" ≠ messageName := by decide
  induction results with
  | nil => rfl
  | cons r results ih =>
      simp only [List.flatMap_cons, itemRows, List.append_assoc, List.map_cons, List.cons_append]
      rw [textsOf_tagRow (itemName_ne_messageName _ _), textsOf_elementRow_self hclose,
        textsOf_elementRow hdetails hclose, textsOf_tagRow hclose, ih]

theorem textsOf_items_detailsName (rest : List Token) :
    textsOf detailsName (results.flatMap itemRows ++ rest) =
      results.map (fun r => escape r.details) ++ textsOf detailsName rest := by
  have hmessage : messageName ≠ detailsName := by decide
  have hclose : "/div" ≠ detailsName := by decide
  induction results with
  | nil => rfl
  | cons r results ih =>
      simp only [List.flatMap_cons, itemRows, List.append_assoc, List.map_cons, List.cons_append]
      rw [textsOf_tagRow (itemName_ne_detailsName _ _), textsOf_elementRow hmessage hclose,
        textsOf_elementRow_self hclose, textsOf_tagRow hclose, ih]

theorem texts_text (name : String) :
    texts name (text title results v) = textsOf name (documentRows title results v ++ []) := by
  rw [texts, tokens_text, List.append_nil]

theorem texts_title : texts "title" (text title results v) = [escape title] := by
  rw [texts_text]
  simp (disch := first | decide | exact summaryName_ne (by decide) _) only [documentRows,
    frontRows, headRows, summaryRows, List.append_assoc, textsOf_tagRow, textsOf_elementRow_self,
    textsOf_elementRow, textsOf_chars_append, textsOf_items]
  rfl

theorem texts_detail : texts "p" (text title results v) = [escape (summary v).detail] := by
  rw [texts_text]
  simp (disch := first | decide | exact summaryName_ne (by decide) _) only [documentRows,
    frontRows, headRows, summaryRows, List.append_assoc, textsOf_tagRow, textsOf_elementRow_self,
    textsOf_elementRow, textsOf_chars_append, textsOf_items]
  rfl

/-- The texts of a tag that stands nowhere in front of the blocks. -/
theorem texts_of_not_mem_frontTags (h : ∀ canInstall, name ∉ frontTags canInstall) :
    texts name (text title results v) = textsOf name (results.flatMap itemRows ++
      (tagRow 8 "/div" ++ (tagRow 4 "/div" ++ (tagRow 0 "/body" ++ tagRow 0 "/html")))) := by
  have hfront : name ∉ tagsOf (frontRows title v) := by
    rw [tagsOf_frontRows]
    exact h v.canInstall
  rw [texts_text, List.append_nil]
  simp only [documentRows, List.append_assoc]
  exact textsOf_append_of_not_mem hfront _

theorem texts_messageName :
    texts messageName (text title results v) = results.map fun r => escape r.message := by
  have hfront : ∀ canInstall, messageName ∉ frontTags canInstall := by decide
  rw [texts_of_not_mem_frontTags title results v hfront, textsOf_items_messageName]
  exact List.append_nil _

theorem texts_detailsName :
    texts detailsName (text title results v) = results.map fun r => escape r.details := by
  have hfront : ∀ canInstall, detailsName ∉ frontTags canInstall := by decide
  rw [texts_of_not_mem_frontTags title results v hfront, textsOf_items_detailsName]
  exact List.append_nil _

end Contents

section Injectivity

theorem key_injective : Function.Injective CheckId.key := by
  intro a b h
  have hnodup : (CheckId.all.map CheckId.key).Nodup := by decide
  exact List.inj_on_of_nodup_map hnodup a.mem_all b.mem_all h

theorem itemClass_injective : Function.Injective itemClass := by
  intro a b h
  have hnodup : ([ReportClass.passed, .advisory, .blocking].map itemClass).Nodup := by decide
  refine List.inj_on_of_nodup_map hnodup ?_ ?_ h
  · cases a <;> decide
  · cases b <;> decide

/-- What stands before the first of a character is determined, and so is what stands after it. -/
theorem append_cons_cancel {α : Type} {q : α} {a b x y : List α} (ha : q ∉ a) (hb : q ∉ b)
    (h : a ++ q :: x = b ++ q :: y) : a = b ∧ x = y := by
  induction a generalizing b with
  | nil =>
      cases b with
      | nil => exact ⟨rfl, (List.cons.inj h).2⟩
      | cons c b => exact (hb (List.mem_cons.mpr (Or.inl (List.cons.inj h).1))).elim
  | cons c a ih =>
      cases b with
      | nil => exact (ha (List.mem_cons.mpr (Or.inl (List.cons.inj h).1.symm))).elim
      | cons d b =>
          obtain ⟨rfl, hrest⟩ := List.cons.inj h
          obtain ⟨rfl, rfl⟩ := ih (fun hmem => ha (List.mem_cons_of_mem c hmem))
            (fun hmem => hb (List.mem_cons_of_mem c hmem)) hrest
          exact ⟨rfl, rfl⟩

theorem itemName_inj {c c' : ReportClass} {id id' : CheckId} (h : itemName c id = itemName c' id') :
    c = c' ∧ id = id' := by
  have hquote (c : ReportClass) : '\'' ∉ (itemClass c).toList := by
    cases c <;> decide
  have hlists := congrArg String.toList h
  rw [toList_itemName, toList_itemName] at hlists
  have hrest := List.append_cancel_left hlists
  obtain ⟨hclass, htail⟩ := append_cons_cancel (hquote c) (hquote c') hrest
  have hbehind : id.key.toList ++ "'".toList = id'.key.toList ++ "'".toList :=
    (List.append_right_inj " data-check='".toList).mp htail
  have hkey := List.append_cancel_right hbehind
  exact ⟨itemClass_injective (String.toList_inj.mp hclass),
    key_injective (String.toList_inj.mp hkey)⟩

theorem flatMap_itemTags_inj {items items' : List (ReportClass × CheckId)}
    (h : (items.flatMap fun (c, id) => itemTags c id) =
      items'.flatMap fun (c, id) => itemTags c id) : items = items' := by
  induction items generalizing items' with
  | nil =>
      cases items' with
      | nil => rfl
      | cons item items' => cases h
  | cons item items ih =>
      cases items' with
      | nil => cases h
      | cons item' items' =>
          obtain ⟨hhead, htail⟩ := List.append_inj h rfl
          obtain ⟨hclass, hid⟩ := itemName_inj (List.cons.inj hhead).1
          rw [Prod.ext hclass hid, ih htail]

theorem outline_inj {canInstall canInstall' : Bool} {items items' : List (ReportClass × CheckId)}
    (h : outline canInstall items = outline canInstall' items') : items = items' := by
  have hfront := List.append_cancel_right h
  obtain ⟨-, hitems⟩ := List.append_inj hfront rfl
  exact flatMap_itemTags_inj hitems

/-- All that a document shows of a result. -/
def shown (r : CheckResult) : (ReportClass × CheckId) × String × String :=
  ((r.reportClass, r.id), r.message, r.details)

theorem map_shown (results : List CheckResult) :
    results.map shown =
      (results.map fun r => (r.reportClass, r.id)).zip
        ((results.map CheckResult.message).zip (results.map CheckResult.details)) := by
  rw [List.zip_map', List.zip_map']
  rfl

end Injectivity

/-- A document reads back: the tags tell whether the installation may proceed and the class and id
of every result, and the texts are the title, the detail of the summary, and the message and the
details of every result. Different results have different documents. -/
theorem document_reads_back (title : String) (results : List CheckResult) (v : Verdict) :
    tags (text title results v) =
        outline v.canInstall (results.map fun r => (r.reportClass, r.id)) ∧
      (texts "title" (text title results v)).map unescape = [title] ∧
      (texts "p" (text title results v)).map unescape = [(summary v).detail] ∧
      (texts "div class='message'" (text title results v)).map unescape =
        results.map CheckResult.message ∧
      (texts "div class='details'" (text title results v)).map unescape =
        results.map CheckResult.details ∧
      ∀ title' results' v', text title' results' v' = text title results v →
        results'.map shown = results.map shown := by
  have hmessages (title : String) (results : List CheckResult) (v : Verdict) :
      (texts messageName (text title results v)).map unescape =
        results.map CheckResult.message := by
    simp only [texts_messageName, List.map_map, Function.comp_def, unescape_escape]
  have hdetails (title : String) (results : List CheckResult) (v : Verdict) :
      (texts detailsName (text title results v)).map unescape =
        results.map CheckResult.details := by
    simp only [texts_detailsName, List.map_map, Function.comp_def, unescape_escape]
  refine ⟨tags_text title results v, ?_, ?_, hmessages title results v,
    hdetails title results v, ?_⟩
  · rw [texts_title, List.map_singleton, unescape_escape]
  · rw [texts_detail, List.map_singleton, unescape_escape]
  · intro title' results' v' h
    -- The tags give back classes and ids, the texts give back messages and details.
    have htags := congrArg tags h
    rw [tags_text, tags_text] at htags
    rw [map_shown, map_shown, outline_inj htags, ← hmessages title' results' v',
      ← hdetails title' results' v', h, hmessages, hdetails]

end Readiness.Report.Html
