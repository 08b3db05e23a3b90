import ClusterMigration.Proofs.Text.Writing
import ClusterMigration.Report.Page
import Mathlib.Data.List.Infix

/-!
# What the report page tells

Text is escaped before it comes into the page, and the escaped text has no markup in it. So the
markup of the page is all its own, and it can be told where each text, each row and each table
ends. The main statement, `page_faithful`, says that texts can be recovered and that reports
with the same page are the same.
-/

namespace ClusterMigration

namespace Report

namespace Page

open Writing

/-! ## Escaped text -/

def entities : List String := ["&amp;", "&lt;", "&gt;", "&quot;", "&#39;"]

/-- Each entity read as the character that it stands for. -/
def unescapeChars : List Char → List Char
  | '&' :: 'a' :: 'm' :: 'p' :: ';' :: rest => '&' :: unescapeChars rest
  | '&' :: 'l' :: 't' :: ';' :: rest => '<' :: unescapeChars rest
  | '&' :: 'g' :: 't' :: ';' :: rest => '>' :: unescapeChars rest
  | '&' :: 'q' :: 'u' :: 'o' :: 't' :: ';' :: rest => '"' :: unescapeChars rest
  | '&' :: '#' :: '3' :: '9' :: ';' :: rest => '\'' :: unescapeChars rest
  | c :: rest => c :: unescapeChars rest
  | [] => []

def unescape (text : String) : String := String.ofList (unescapeChars text.toList)

theorem unescapeChars_cons {c : Char} (h : c ≠ '&') (rest : List Char) :
    unescapeChars (c :: rest) = c :: unescapeChars rest := by
  rw [unescapeChars] <;> simp [h]

theorem escapeChar_cases (c : Char) :
    (c = '&' ∧ escapeChar c = "&amp;".toList) ∨ (c = '<' ∧ escapeChar c = "&lt;".toList) ∨
    (c = '>' ∧ escapeChar c = "&gt;".toList) ∨ (c = '"' ∧ escapeChar c = "&quot;".toList) ∨
    (c = '\'' ∧ escapeChar c = "&#39;".toList) ∨
    (c ∉ ['&', '<', '>', '"', '\''] ∧ escapeChar c = [c]) := by
  unfold escapeChar
  split <;> simp_all

theorem unescapeChars_escapeChar (c : Char) (rest : List Char) :
    unescapeChars (escapeChar c ++ rest) = c :: unescapeChars rest := by
  rcases escapeChar_cases c with ⟨rfl, -⟩ | ⟨rfl, -⟩ | ⟨rfl, -⟩ | ⟨rfl, -⟩ | ⟨rfl, -⟩ | ⟨hc, h⟩
  · rfl
  · rfl
  · rfl
  · rfl
  · rfl
  · rw [h]
    apply unescapeChars_cons
    rintro rfl
    exact hc (List.mem_cons_self ..)

theorem toList_escape (text : String) : (escape text).toList = text.toList.flatMap escapeChar :=
  String.toList_ofList

theorem unescape_escape (text : String) : unescape (escape text) = text := by
  have hchars (chars : List Char) : unescapeChars (chars.flatMap escapeChar) = chars := by
    induction chars with
    | nil => rfl
    | cons c rest ih => rw [List.flatMap_cons, unescapeChars_escapeChar, ih]
  rw [unescape, toList_escape, hchars, String.ofList_toList]

theorem not_markup_of_mem_escapeChar {c d : Char} (h : d ∈ escapeChar c) :
    d ∉ ['<', '>', '"', '\''] := by
  have hall {chars : List Char} (hd : d ∈ chars)
      (hchars : chars.all (fun x => decide (x ∉ ['<', '>', '"', '\''])) = true) :
      d ∉ ['<', '>', '"', '\''] := of_decide_eq_true (List.all_eq_true.mp hchars d hd)
  rcases escapeChar_cases c with ⟨-, hc⟩ | ⟨-, hc⟩ | ⟨-, hc⟩ | ⟨-, hc⟩ | ⟨-, hc⟩ | ⟨hplain, hc⟩
  iterate 5
    rw [hc] at h
    exact hall h (by decide)
  · rw [hc, List.mem_singleton] at h
    exact h ▸ mt (List.mem_cons_of_mem _) hplain

theorem not_markup_of_mem_escape {text : String} {d : Char} (h : d ∈ (escape text).toList) :
    d ∉ ['<', '>', '"', '\''] := by
  rw [toList_escape] at h
  obtain ⟨c, -, hd⟩ := List.mem_flatMap.mp h
  exact not_markup_of_mem_escapeChar hd

def InEntities (chars : List Char) : Prop :=
  ∀ rest, '&' :: rest <:+ chars → ∃ entity ∈ entities, entity.toList <+: '&' :: rest

theorem InEntities.cons {c : Char} {chars : List Char} (hc : c ≠ '&') (h : InEntities chars) :
    InEntities (c :: chars) := by
  intro rest hrest
  rcases List.suffix_cons_iff.mp hrest with heq | hrest
  · exact absurd (List.cons.inj heq).1.symm hc
  · exact h rest hrest

theorem InEntities.append {chars more : List Char} (hchars : '&' ∉ chars) (h : InEntities more) :
    InEntities (chars ++ more) := by
  induction chars with
  | nil => exact h
  | cons c chars ih =>
      obtain ⟨hc, hrest⟩ := not_or.mp (mt List.mem_cons.mpr hchars)
      exact (ih hrest).cons (Ne.symm hc)

theorem InEntities.entity {entity : String} {tail more : List Char} (hmem : entity ∈ entities)
    (hentity : entity.toList = '&' :: tail) (htail : '&' ∉ tail) (h : InEntities more) :
    InEntities (entity.toList ++ more) := by
  intro rest hrest
  rw [hentity, List.cons_append] at hrest
  rcases List.suffix_cons_iff.mp hrest with heq | hrest
  · refine ⟨entity, hmem, ?_⟩
    rw [heq, hentity, ← List.cons_append]
    exact List.prefix_append _ _
  · exact h.append htail rest hrest

theorem inEntities_escape (text : String) : InEntities (escape text).toList := by
  rw [toList_escape]
  induction text.toList with
  | nil => exact fun rest hrest => absurd (List.suffix_nil.mp hrest) (List.cons_ne_nil _ _)
  | cons c rest ih =>
      rw [List.flatMap_cons]
      rcases escapeChar_cases c with ⟨-, hc⟩ | ⟨-, hc⟩ | ⟨-, hc⟩ | ⟨-, hc⟩ | ⟨-, hc⟩ | ⟨hplain, hc⟩
      · exact hc ▸ ih.entity (by decide) rfl (by decide)
      · exact hc ▸ ih.entity (by decide) rfl (by decide)
      · exact hc ▸ ih.entity (by decide) rfl (by decide)
      · exact hc ▸ ih.entity (by decide) rfl (by decide)
      · exact hc ▸ ih.entity (by decide) rfl (by decide)
      · rw [hc]
        apply ih.cons
        rintro rfl
        exact hplain (List.mem_cons_self ..)

/-! ## Cells -/

theorem tells_text : Tells id fun text : String => (escape text).toList ++ ['<'] := by
  intro s t x y heq
  have hmarkup (text : String) : '<' ∉ (escape text).toList := fun hmem =>
    not_markup_of_mem_escape hmem (List.mem_cons_self ..)
  dsimp only at heq
  rw [List.append_assoc, List.append_assoc] at heq
  obtain ⟨hescape, hrest⟩ := eq_of_delimiter (hmarkup s) (hmarkup t) heq
  have htext : unescape (escape s) = unescape (escape t) :=
    congrArg unescape (String.toList_inj.mp hescape)
  rw [unescape_escape, unescape_escape] at htext
  exact ⟨htext, hrest⟩

theorem tells_literal {α : Type} (text : String) : Tells (fun _ : α => ()) fun _ => text.toList :=
  tells_fixed text.toList

theorem tells_cell : Tells id fun text : String => (cell (escape text)).toList := by
  intro s t x y heq
  have hcell (text : String) : (cell (escape text)).toList =
      "<td>".toList ++ ((escape text).toList ++ ['<']) ++ "/td>".toList := by
    rw [cell, String.toList_append, String.toList_append, List.append_assoc, List.append_assoc,
      List.append_assoc]
    rfl
  dsimp only at heq
  rw [hcell, hcell] at heq
  obtain ⟨hparts, hrest⟩ :=
    (((tells_literal "<td>").append tells_text).append (tells_literal "/td>")) heq
  exact ⟨congrArg (·.1.2) hparts, hrest⟩

theorem tells_plain_cell {α : Type} {text : α → String} (hplain : ∀ a, escape (text a) = text a)
    (hinj : ∀ a b, text a = text b → a = b) : Tells id fun a => (cell (text a)).toList := by
  intro a b x y heq
  dsimp only at heq
  rw [← hplain a, ← hplain b] at heq
  exact (tells_cell heq).imp_left (hinj a b)

theorem tells_flag :
    Tells id fun flag : Bool => (cell (if flag then "true" else "false")).toList := by
  apply tells_plain_cell
  · decide
  · decide

theorem tells_level : Tells id fun c : Confidence => (cell (toString c.level)).toList := by
  apply tells_plain_cell
  · rintro (_ | _ | _) <;> rfl
  · rintro (_ | _ | _) (_ | _ | _) <;> decide

theorem tells_colour : Tells id fun c : Confidence => c.colour.toList := by
  apply tells_of_length
  · rintro (_ | _ | _) (_ | _ | _) <;> decide
  · rintro (_ | _ | _) (_ | _ | _) <;> decide

/-! ## Rows, tables and pages -/

theorem toList_row (r : Row) : (row r).toList =
    "<tr style=\"background-color:".toList ++ r.confidence.colour.toList ++ "\">".toList ++
      (cell (escape r.name)).toList ++ (cell (escape r.kind)).toList ++
      (cell (if r.supported then "true" else "false")).toList ++
      (cell (toString r.confidence.level)).toList ++ (cell (escape r.comment)).toList ++
      "</tr>\n".toList := by
  unfold row
  rw [String.toList_append, String.toList_append, String.toList_append, String.toList_append,
    String.toList_append, String.toList_append, String.toList_append, String.toList_append]

theorem tells_row : Tells id fun r : Row => (row r).toList := by
  have hopen := ((tells_literal "<tr style=\"background-color:").append
    (tells_colour.comp Row.confidence)).append (tells_literal "\">")
  have hcells := ((((hopen.append (tells_cell.comp Row.name)).append
    (tells_cell.comp Row.kind)).append (tells_flag.comp Row.supported)).append
    (tells_level.comp Row.confidence)).append (tells_cell.comp Row.comment)
  have hrow := hcells.append (tells_literal "</tr>\n")
  intro r s x y heq
  dsimp only at heq
  rw [toList_row, toList_row] at heq
  obtain ⟨hparts, hrest⟩ := hrow heq
  refine ⟨?_, hrest⟩
  obtain ⟨name, kind, supported, confidence, comment⟩ := r
  simp only [id, Prod.mk.injEq] at hparts
  obtain ⟨⟨⟨⟨⟨⟨⟨⟨-, rfl⟩, -⟩, rfl⟩, rfl⟩, rfl⟩, -⟩, rfl⟩, -⟩ := hparts
  rfl

theorem toList_table (r : Report) : (table r).toList =
    "<h2>".toList ++ ((escape r.component).toList ++ ['<']) ++ "/h2>\n".toList ++
      tableHead.toList ++
        (r.rows.flatMap (fun row => (Page.row row).toList) ++ tableFoot.toList) := by
  rw [table, String.toList_append, String.toList_append, String.toList_append,
    String.toList_append, String.toList_append, String.toList_join, List.flatMap_map]
  simp only [List.append_assoc]
  rfl

theorem tells_table : Tells id fun r : Report => (table r).toList := by
  -- a row and the end of a table differ in their second characters
  have hrows : Tells id fun rows : List Row =>
      rows.flatMap (fun r => (row r).toList) ++ tableFoot.toList :=
    tells_row.list fun r x y => by
      rw [toList_row]
      simp only [List.append_assoc]
      exact append_ne_of_take 2 (by decide) (by decide) (by decide) _ _
  have htitle := ((tells_literal "<h2>").append (tells_text.comp Report.component)).append
    (tells_literal "/h2>\n")
  have htable := (htitle.append (tells_literal tableHead)).append (hrows.comp Report.rows)
  intro r s x y heq
  dsimp only at heq
  rw [toList_table, toList_table] at heq
  obtain ⟨hparts, hrest⟩ := htable heq
  refine ⟨?_, hrest⟩
  obtain ⟨component, rows⟩ := r
  simp only [id, Prod.mk.injEq] at hparts
  obtain ⟨⟨⟨⟨-, rfl⟩, -⟩, -⟩, rfl⟩ := hparts
  rfl

theorem toList_pageText (reports : List Report) : (pageText reports).toList =
    head.toList ++ (reports.flatMap (fun r => (table r).toList) ++ foot.toList) := by
  rw [pageText, String.toList_append, String.toList_append, String.toList_join, List.flatMap_map,
    List.append_assoc]

theorem pageText_injective : Function.Injective pageText := by
  have htables : Tells id fun reports : List Report =>
      reports.flatMap (fun r => (table r).toList) ++ foot.toList :=
    tells_table.list fun r x y => by
      rw [toList_table]
      simp only [List.append_assoc]
      exact append_ne_of_take 2 (by decide) (by decide) (by decide) _ _
  intro reports reports' heq
  have hpage : (pageText reports).toList = (pageText reports').toList := congrArg _ heq
  rw [toList_pageText, toList_pageText] at hpage
  exact htables.eq (List.append_cancel_left hpage)

/-- No markup is left in a text that is escaped, every ampersand in it begins an entity, and the
text can be recovered. And reports that are shown on the same page are the same reports, with
the same rows in the same order, whatever their texts are. -/
theorem page_faithful :
    (∀ text, (∀ c ∈ (escape text).toList, c ∉ ['<', '>', '"', '\'']) ∧
      InEntities (escape text).toList ∧ unescape (escape text) = text) ∧
    ∀ reports reports' : List Report, pageText reports = pageText reports' ↔ reports = reports' :=
  ⟨fun text => ⟨fun _ => not_markup_of_mem_escape, inEntities_escape text, unescape_escape text⟩,
    fun _ _ => pageText_injective.eq_iff⟩

end Page

end Report

end ClusterMigration
