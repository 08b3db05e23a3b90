import ClusterMigration.Manifest
import ClusterMigration.Proofs.Text.Writing

/-!
# The last value of a document

A document in block style ends with the value of its last member, and so does a member that
holds another object. Where that value is a text in one piece, without blanks and breaks, it
can be told from the document, whatever stands before it.
-/

namespace ClusterMigration

namespace Yaml

namespace Printer

/-! ## Texts in one piece -/

/-- A character that is written as it is and neither parts nor quotes words. -/
def isInk (c : Char) : Bool := isPrintable c && !isBreak c && !(c == ' ') && !(c == '\'')

section

variable {s : String} {indent : Nat}

theorem not_break_of_isInk {c : Char} (h : isInk c = true) : isBreak c = false := by
  simp only [isInk, Bool.and_eq_true, Bool.not_eq_true'] at h
  exact h.1.1.2

theorem not_space_of_isInk {c : Char} (h : isInk c = true) : Style.isSpace c = false := by
  simp only [isInk, Bool.and_eq_true, Bool.not_eq_true'] at h
  simpa [Style.isSpace] using h.1.2

theorem printable_of_isInk {c : Char} (h : isInk c = true) : isPrintable c = true := by
  simp only [isInk, Bool.and_eq_true] at h
  exact h.1.1.1

theorem not_quote_of_isInk {c : Char} (h : isInk c = true) : c ≠ '\'' := by
  rintro rfl
  cases h

theorem adjacent_eq_false {p q : Char → Bool} {chars : List Char}
    (h : ∀ c ∈ chars, p c = false) : Style.adjacent p q chars = false := by
  induction chars with
  | nil => rfl
  | cons a chars ih =>
      obtain ⟨ha, hrest⟩ := List.forall_mem_cons.mp h
      cases chars with
      | nil => rfl
      | cons b chars => rw [Style.adjacent, ha, Bool.false_and, Bool.false_or, ih hrest]

theorem quoted_of_isInk {chars : List Char} (h : ∀ c ∈ chars, isInk c = true) :
    Style.quoted chars = .single := by
  have hunprintable : Style.hasUnprintable chars = false := by
    rw [Style.hasUnprintable, List.any_eq_false]
    intro c hc
    simp [printable_of_isInk (h c hc)]
  rw [Style.quoted, Style.allowsSingle,
    adjacent_eq_false fun c hc => not_break_of_isInk (h c hc),
    adjacent_eq_false fun c hc => not_space_of_isInk (h c hc), hunprintable]
  rfl

theorem style_of_isInk (h : ∀ c ∈ s.toList, isInk c = true) :
    Style.of s = .plain ∨ Style.of s = .single := by
  have hfeed : s.toList.contains '\n' = false := by
    rw [List.contains_eq_mem, decide_eq_false_iff_not]
    intro hmem
    cases h _ hmem
  simp only [Style.of, hfeed, quoted_of_isInk h]
  rw [if_neg Bool.false_ne_true]
  split
  · exact .inr rfl
  · split
    · exact .inl rfl
    · exact .inr rfl

theorem endsBreak_of_isInk {chars : List Char} (h : ∀ c ∈ chars, isInk c = true) :
    Style.endsBreak chars = false := by
  unfold Style.endsBreak
  split
  · rename_i c hlast
    exact not_break_of_isInk (h c (List.mem_of_getLast? hlast))
  · rfl

theorem indentLines_of_isInk {chars : List Char} (h : ∀ c ∈ chars, isInk c = true) :
    indentLines indent (fun c => if c = '\'' then ['\'', '\''] else [c]) false chars = chars := by
  induction chars with
  | nil => rfl
  | cons c chars ih =>
      obtain ⟨hc, hrest⟩ := List.forall_mem_cons.mp h
      simp [indentLines, not_break_of_isInk hc, not_quote_of_isInk hc, ih hrest]

theorem text_of_isInk (indent : Nat) (h : ∀ c ∈ s.toList, isInk c = true) :
    text indent s = s.toList ∨ text indent s = '\'' :: (s.toList ++ ['\'']) := by
  rcases style_of_isInk h with hstyle | hstyle
  · exact .inl (by rw [text, hstyle])
  · right
    rw [text, hstyle]
    simp only [single, indentLines_of_isInk h, endsBreak_of_isInk h]
    simp

end

/-! ## Members -/

theorem suffix_blockMembers {key : String} {value : Json} {tail : List Char} {indent : Nat}
    (hkey : isSimpleKey key = true) (h : tail <:+ below indent value)
    (ms : List (String × Json)) (first : Bool) :
    tail <:+ blockMembers indent first (ms ++ [(key, value)]) := by
  induction ms generalizing first with
  | nil =>
      simp only [List.nil_append, blockMembers, hkey, if_true, List.append_nil, List.append_assoc]
      exact ((h.trans (List.suffix_append _ _)).trans (List.suffix_append _ _)).trans
        (List.suffix_append _ _)
  | cons m ms ih =>
      rw [List.cons_append, blockMembers]
      exact (ih false).trans (List.suffix_append _ _)

theorem suffix_below {key : String} {value : Json} {tail : List Char} {indent : Nat}
    (hkey : isSimpleKey key = true) (h : tail <:+ below (indent + 2) value)
    (ms : List (String × Json)) :
    tail <:+ below indent (.object (ms ++ [(key, value)])) := by
  rw [below, if_neg (by simp)]
  exact (suffix_blockMembers hkey h ms true).trans (List.suffix_append _ _)

theorem suffix_render {key : String} {value : Json} {tail : List Char}
    (hkey : isSimpleKey key = true) (h : tail <:+ below 0 value)
    (ms : List (String × Json)) :
    tail <:+ (render (.object (ms ++ [(key, value)]))).toList := by
  rw [render, if_neg (by simp), String.toList_ofList]
  exact suffix_blockMembers hkey h ms true

/-! ## Two documents -/

theorem below_of_isInk {s : String} (indent : Nat) (h : ∀ c ∈ s.toList, isInk c = true) :
    ∃ line, below indent (.string s) = ' ' :: line ∧
      (line = s.toList ++ ['\n'] ∨ line = '\'' :: (s.toList ++ ['\'', '\n'])) := by
  refine ⟨_, rfl, ?_⟩
  rcases text_of_isInk (indent + 2) h with htext | htext
  · left
    rw [scalar, htext, endLine, endsBreak_of_isInk h]
    rfl
  · right
    have hquote : Style.endsBreak ('\'' :: (s.toList ++ ['\''])) = false := by
      rw [Style.endsBreak, ← List.cons_append, List.getLast?_concat]
      rfl
    rw [scalar, htext, endLine, hquote]
    simp

/-- Of a text in one piece it makes no difference whether it is put in quotes. -/
theorem eq_of_line {s t : String} {line : List Char} (hs : ∀ c ∈ s.toList, isInk c = true)
    (ht : ∀ c ∈ t.toList, isInk c = true)
    (h : line = s.toList ++ ['\n'] ∨ line = '\'' :: (s.toList ++ ['\'', '\n']))
    (h' : line = t.toList ++ ['\n'] ∨ line = '\'' :: (t.toList ++ ['\'', '\n'])) : s = t := by
  have hquote {s : String} (hs : ∀ c ∈ s.toList, isInk c = true) :
      '\'' ∉ s.toList ++ ['\n'] := by
    intro hmem
    rcases List.mem_append.mp hmem with hmem | hmem
    · exact not_quote_of_isInk (hs _ hmem) rfl
    · cases List.mem_singleton.mp hmem
  rw [← String.toList_inj]
  rcases h with h | h <;> rcases h' with h' | h'
  · exact List.append_cancel_right (h.symm.trans h')
  · exact absurd (h ▸ h' ▸ List.mem_cons_self ..) (hquote hs)
  · exact absurd (h' ▸ h ▸ List.mem_cons_self ..) (hquote ht)
  · exact List.append_cancel_right (List.cons.inj (h.symm.trans h')).2

theorem eq_of_suffix {line line' document : List Char} (h : ' ' :: line <:+ document)
    (h' : ' ' :: line' <:+ document) (hblank : ' ' ∉ line) (hblank' : ' ' ∉ line') :
    line = line' := by
  obtain ⟨front, rfl⟩ := h
  obtain ⟨front', heq⟩ := h'
  have hreverse : line'.reverse ++ ' ' :: front'.reverse =
      line.reverse ++ ' ' :: front.reverse := by
    simpa using congrArg List.reverse heq
  obtain ⟨hline, -⟩ :=
    Writing.eq_of_delimiter (by simpa using hblank') (by simpa using hblank) hreverse
  exact (List.reverse_inj.mp hline).symm

theorem eq_of_below {s t : String} {indent : Nat} {document : List Char}
    (hs : ∀ c ∈ s.toList, isInk c = true) (ht : ∀ c ∈ t.toList, isInk c = true)
    (h : below indent (.string s) <:+ document) (h' : below indent (.string t) <:+ document) :
    s = t := by
  have hblank {s : String} {line : List Char} (hs : ∀ c ∈ s.toList, isInk c = true)
      (hline : line = s.toList ++ ['\n'] ∨ line = '\'' :: (s.toList ++ ['\'', '\n'])) :
      ' ' ∉ line := by
    have hspace : ' ' ∉ s.toList := fun hmem => nomatch hs _ hmem
    rcases hline with rfl | rfl <;> simp [hspace]
  obtain ⟨line, heq, hline⟩ := below_of_isInk indent hs
  obtain ⟨line', heq', hline'⟩ := below_of_isInk indent ht
  rw [heq] at h
  rw [heq'] at h'
  obtain rfl := eq_of_suffix h h' (hblank hs hline) (hblank ht hline')
  exact eq_of_line hs ht hline hline'

end Printer

end Yaml

end ClusterMigration
