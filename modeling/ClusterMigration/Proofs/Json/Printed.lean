import ClusterMigration.Proofs.Json.Layout

/-!
# Reading what was written

A value that is written and read again keeps its texts, its keys and its shape, in the compact
form as well as in the indented one. What either is read as is said by `parse?_toCompact` and
`parse?_toIndented`.
-/

namespace ClusterMigration

namespace Json

namespace Parser

open Printer

/-! ## The forms of a value -/

theorem toList_compactItems (vs : List Json) :
    (compactItems vs).toList = [','].intercalate (vs.map fun v => (compact v).toList) := by
  induction vs with
  | nil => rfl
  | cons v vs ih =>
      cases vs with
      | nil => simp [compactItems]
      | cons v' vs =>
          rw [List.map_cons, List.map_cons, List.intercalate_cons_cons]
          rw [List.map_cons] at ih
          simp [compactItems, ← ih]

theorem toList_compactMembers (ms : List (String × Json)) :
    (compactMembers ms).toList =
      [','].intercalate (ms.map fun m => (quote m.1).toList ++ ':' :: (compact m.2).toList) := by
  induction ms with
  | nil => rfl
  | cons m ms ih =>
      obtain ⟨key, v⟩ := m
      cases ms with
      | nil => simp [compactMembers]
      | cons m ms =>
          rw [List.map_cons, List.map_cons, List.intercalate_cons_cons]
          rw [List.map_cons] at ih
          simp [compactMembers, ← ih]

theorem toList_indentedItems (depth : Nat) (vs : List Json) :
    (indentedItems depth vs).toList =
      (vs.map fun v => (newline depth).toList ++ (indented depth v).toList).flatMap
        ([','] ++ ·) := by
  induction vs with
  | nil => rfl
  | cons v vs ih => simp [indentedItems, ih]

theorem toList_indentedMembers (depth : Nat) (ms : List (String × Json)) :
    (indentedMembers depth ms).toList =
      (ms.map fun m => (newline depth).toList ++
        ((quote m.1).toList ++ ':' :: ([' '] ++ (indented depth m.2).toList))).flatMap
          ([','] ++ ·) := by
  induction ms with
  | nil => rfl
  | cons m ms ih =>
      obtain ⟨key, v⟩ := m
      simp [indentedMembers, ih]

theorem readsAs_compact (v : Json) : ReadsAs v (compact v).toList := by
  induction v using Json.induction with
  | hplain v hv =>
      rw [compact_of_isPlain hv]
      exact readsAs_plain hv
  | hstring s => exact readsAs_string s
  | harray vs ih =>
      have hitems := List.forall₂_map_right_iff.mpr (List.forall₂_same.mpr ih)
      have htext : (compact (.array vs)).toList =
          '[' :: ((compactItems vs).toList ++ ([] ++ [']'])) := by simp [compact]
      rw [htext, toList_compactItems]
      exact readsAs_array hitems .nil
  | hobject ms ih =>
      have hmember : ∀ m ∈ ms,
          MemberReadsAs m ((quote m.1).toList ++ ':' :: (compact m.2).toList) :=
        fun m hm => ⟨[], _, .nil, ih m hm, rfl⟩
      have hmembers := List.forall₂_map_right_iff.mpr (List.forall₂_same.mpr hmember)
      have htext : (compact (.object ms)).toList =
          '\x7b' :: ((compactMembers ms).toList ++ ([] ++ ['\x7d'])) := by simp [compact]
      rw [htext, toList_compactMembers]
      exact readsAs_object hmembers .nil

theorem indented_of_isPlain {v : Json} (hv : v.isPlain = true) (depth : Nat) :
    indented depth v = scalar v := by
  cases v <;> first | rfl | cases hv

theorem readsAs_indented (v : Json) : ∀ depth, ReadsAs v (indented depth v).toList := by
  induction v using Json.induction with
  | hplain v hv =>
      intro depth
      rw [indented_of_isPlain hv]
      exact readsAs_plain hv
  | hstring s => exact fun _ => readsAs_string s
  | harray vs ih =>
      intro depth
      have hitem : ∀ v ∈ vs,
          ReadsAs v ((newline (depth + 1)).toList ++ (indented (depth + 1) v).toList) :=
        fun v hv => (ih v hv _).behind (blanks_newline _)
      have hitems := List.forall₂_map_right_iff.mpr (List.forall₂_same.mpr hitem)
      cases vs with
      | nil =>
          have htext : (indented depth (.array [])).toList =
              '[' :: ([','].intercalate [] ++ ([] ++ [']'])) := by simp [indented]
          rw [htext]
          exact readsAs_array .nil .nil
      | cons v vs =>
          have harray := readsAs_array hitems (blanks_newline depth)
          rw [List.map_cons, intercalate_cons, ← toList_indentedItems] at harray
          simpa [indented] using harray
  | hobject ms ih =>
      intro depth
      have hmember : ∀ m ∈ ms, MemberReadsAs m ((newline (depth + 1)).toList ++
          ((quote m.1).toList ++ ':' :: ([' '] ++ (indented (depth + 1) m.2).toList))) :=
        fun m hm => ⟨_, _, blanks_newline _, (ih m hm _).behind blanks_space, rfl⟩
      have hmembers := List.forall₂_map_right_iff.mpr (List.forall₂_same.mpr hmember)
      cases ms with
      | nil =>
          have htext : (indented depth (.object [])).toList =
              '\x7b' :: ([','].intercalate [] ++ ([] ++ ['\x7d'])) := by simp [indented]
          rw [htext]
          exact readsAs_object .nil .nil
      | cons m ms =>
          have hobject := readsAs_object hmembers (blanks_newline depth)
          rw [List.map_cons, intercalate_cons, ← toList_indentedMembers] at hobject
          obtain ⟨key, v⟩ := m
          simpa [indented] using hobject

end Parser

theorem parse?_of_readsAs {v : Json} {text : String} (h : Parser.ReadsAs v text.toList) :
    parse? text = (reread Parser.depthLimit v).map canonical := by
  have hstops : Parser.Stops fun w (rest : List Char) =>
      if rest.isEmpty then some w.canonical else none :=
    fun _ _ _ _ => rfl
  have hsteps : text.toList.length ≤ 2 * text.toList.length + 2 := by omega
  have hread : (Parser.value Parser.depthLimit (2 * text.toList.length + 2)
      (text.toList ++ [])).bind _ = (reread Parser.depthLimit v).bind _ :=
    h.reads hsteps (by simp [Parser.Delimited]) hstops
  rw [List.append_nil] at hread
  have hmap : (reread Parser.depthLimit v).map canonical =
      (reread Parser.depthLimit v).bind fun w => some w.canonical :=
    Option.map_eq_bind
  rw [hmap]
  refine Eq.trans ?_ hread
  simp only [parse?, readFirst?]
  cases Parser.value Parser.depthLimit (2 * text.toList.length + 2) text.toList with
  | none => rfl
  | some r =>
      simp only [Option.map_some, Option.bind_some]
      cases (Parser.skipBlanks r.2).isEmpty <;> rfl

/-- What the compact form of a value is read as. -/
theorem parse?_toCompact (v : Json) :
    parse? v.toCompact = (reread Parser.depthLimit v).map canonical :=
  parse?_of_readsAs (Parser.readsAs_compact v)

theorem parse?_toIndented (v : Json) :
    parse? v.toIndented = (reread Parser.depthLimit v).map canonical :=
  parse?_of_readsAs (Parser.readsAs_indented v 0)

/-! ## What is read again mirrors what was written -/

mutual

/-- The same texts under the same keys, with anything plain for what is plain. -/
inductive Mirrors : Json → Json → Prop
  | plain {v w : Json} (hv : v.isPlain = true) (hw : w.isPlain = true) : Mirrors v w
  | string (s : String) : Mirrors (string s) (string s)
  | array {vs ws : List Json} (h : List.Forall₂ Mirrors vs ws) : Mirrors (array vs) (array ws)
  | object {ms ns : List (String × Json)} (h : List.Forall₂ MirrorsMember ms ns) :
      Mirrors (object ms) (object ns)

inductive MirrorsMember : String × Json → String × Json → Prop
  | mk (key : String) {v w : Json} (h : Mirrors v w) : MirrorsMember (key, v) (key, w)

end

theorem forall₂_of_rereadItems {depth : Nat} {vs ws : List Json}
    (h : rereadItems depth vs = some ws) :
    List.Forall₂ (fun v w => reread depth v = some w) vs ws := by
  induction vs generalizing ws with
  | nil =>
      cases h
      exact .nil
  | cons v vs ih =>
      obtain ⟨w, hw, h⟩ := Option.bind_eq_some_iff.mp h
      obtain ⟨ws, hws, h⟩ := Option.bind_eq_some_iff.mp h
      cases h
      exact .cons hw (ih hws)

theorem forall₂_of_rereadMembers {depth : Nat} {ms ns : List (String × Json)}
    (h : rereadMembers depth ms = some ns) :
    List.Forall₂ (fun m n => m.1 = n.1 ∧ reread depth m.2 = some n.2) ms ns := by
  induction ms generalizing ns with
  | nil =>
      cases h
      exact .nil
  | cons m ms ih =>
      obtain ⟨w, hw, h⟩ := Option.bind_eq_some_iff.mp h
      obtain ⟨ns, hns, h⟩ := Option.bind_eq_some_iff.mp h
      cases h
      exact .cons ⟨rfl, hw⟩ (ih hns)

theorem isPlain_of_rereadPlain {v w : Json} (hv : v.isPlain = true)
    (h : rereadPlain v = some w) : w.isPlain = true := by
  unfold rereadPlain at h
  split at h
  · rename_i hvalue
    cases h
    exact (Parser.value_scalar hv hvalue).1
  · cases h

theorem reread_induction {P : Json → Json → Prop}
    (hplain : ∀ v w : Json, v.isPlain = true → rereadPlain v = some w → P v w)
    (hstring : ∀ s, P (string s) (string s))
    (harray : ∀ vs ws, List.Forall₂ P vs ws → P (array vs) (array ws))
    (hobject : ∀ ms ns : List (String × Json),
      List.Forall₂ (fun m n => m.1 = n.1 ∧ P m.2 n.2) ms ns → P (object ms) (object ns))
    (v : Json) : ∀ depth w, reread depth v = some w → P v w := by
  induction v using Json.induction with
  | hplain v hv =>
      intro depth w h
      rw [reread_of_isPlain hv] at h
      exact hplain v w hv h
  | hstring s =>
      intro depth w h
      cases h
      exact hstring s
  | harray vs ih =>
      intro depth w h
      rw [reread] at h
      split at h
      · cases h
      · obtain ⟨ws, hws, rfl⟩ := Option.map_eq_some_iff.mp h
        have hitems := (List.forall₂_and_left _ _).mpr ⟨ih, forall₂_of_rereadItems hws⟩
        exact harray vs ws (hitems.imp fun v w h => h.1 _ w h.2)
  | hobject ms ih =>
      intro depth w h
      rw [reread] at h
      split at h
      · cases h
      · obtain ⟨ns, hns, rfl⟩ := Option.map_eq_some_iff.mp h
        have hmembers := (List.forall₂_and_left _ _).mpr ⟨ih, forall₂_of_rereadMembers hns⟩
        exact hobject ms ns (hmembers.imp fun m n h => ⟨h.2.1, h.1 _ n.2 h.2.2⟩)

theorem mirrors_of_reread {depth : Nat} {v w : Json} (h : reread depth v = some w) :
    Mirrors v w := by
  refine reread_induction ?_ Mirrors.string (fun vs ws => Mirrors.array) ?_ v depth w h
  · exact fun v w hv h => .plain hv (isPlain_of_rereadPlain hv h)
  · intro ms ns hmembers
    refine .object (hmembers.imp ?_)
    rintro ⟨key, v⟩ ⟨_, w⟩ ⟨rfl, hvalue⟩
    exact .mk key hvalue

/-- The value that is read from the compact form mirrors the one that was written. -/
theorem mirrors_of_parse? {v u : Json} (h : parse? v.toCompact = some u) :
    ∃ w, Mirrors v w ∧ u = w.canonical := by
  rw [parse?_toCompact] at h
  obtain ⟨w, hw, rfl⟩ := Option.map_eq_some_iff.mp h
  exact ⟨w, mirrors_of_reread hw, rfl⟩

end Json

end ClusterMigration
