import ClusterMigration.Proofs.Json.Canonical

/-!
# Values that come back

A value in canonical form that is rid of its null members, written and read again is the
same as before but for its numbers, which may be other ones.
-/

namespace ClusterMigration

namespace Json

/-- In canonical form at every depth, with no number that is not finite. -/
inductive IsCanonical : Json → Prop
  | null : IsCanonical null
  | bool (b : Bool) : IsCanonical (bool b)
  | integer (i : Int) : IsCanonical (integer i)
  | float {x : Binary64} (h : x.isFinite = true) : IsCanonical (float x)
  | string (s : String) : IsCanonical (string s)
  | array {vs : List Json} (h : ∀ v ∈ vs, IsCanonical v) : IsCanonical (array vs)
  | object {ms : List (String × Json)} (hkeys : KeysSorted ms)
      (h : ∀ m ∈ ms, IsCanonical m.2) : IsCanonical (object ms)

mutual

/-- The same texts under the same keys, and a number for a number. -/
inductive Resembles : Json → Json → Prop
  | null : Resembles null null
  | bool (b : Bool) : Resembles (bool b) (bool b)
  | number {v w : Json} (hv : v.isNumber = true) (hw : w.isNumber = true) : Resembles v w
  | string (s : String) : Resembles (string s) (string s)
  | array {vs ws : List Json} (h : List.Forall₂ Resembles vs ws) :
      Resembles (array vs) (array ws)
  | object {ms ns : List (String × Json)} (h : List.Forall₂ ResemblesMember ms ns) :
      Resembles (object ms) (object ns)

inductive ResemblesMember : String × Json → String × Json → Prop
  | mk (key : String) {v w : Json} (h : Resembles v w) : ResemblesMember (key, v) (key, w)

end

variable {v w : Json} {vs ws : List Json} {ms ns : List (String × Json)}

theorem IsCanonical.items (h : IsCanonical (.array vs)) : ∀ v ∈ vs, IsCanonical v := by
  cases h with
  | array h => exact h

theorem IsCanonical.keys (h : IsCanonical (.object ms)) : KeysSorted ms := by
  cases h with
  | object hkeys _ => exact hkeys

theorem IsCanonical.members (h : IsCanonical (.object ms)) : ∀ m ∈ ms, IsCanonical m.2 := by
  cases h with
  | object _ h => exact h

/-! ## What resembles a value of each form -/

theorem Resembles.of_isPlain (h : Resembles v w) (hv : v.isPlain = true) :
    w.isPlain = true := by
  cases h with
  | number _ hw => exact isPlain_of_isNumber hw
  | null | bool => rfl
  | string | array | object => cases hv

theorem Resembles.of_string {s : String} (h : Resembles (.string s) w) : w = .string s := by
  cases h with
  | number hv _ => cases hv
  | string => rfl

theorem Resembles.of_array (h : Resembles (.array vs) w) :
    ∃ ws, w = .array ws ∧ List.Forall₂ Resembles vs ws := by
  cases h with
  | number hv _ => cases hv
  | array h => exact ⟨_, rfl, h⟩

theorem Resembles.of_object (h : Resembles (.object ms) w) :
    ∃ ns, w = .object ns ∧ List.Forall₂ ResemblesMember ms ns := by
  cases h with
  | number hv _ => cases hv
  | object h => exact ⟨_, rfl, h⟩

theorem not_isNull_of_isNumber (h : v.isNumber = true) : v.isNull = false := by
  cases v <;> first | rfl | cases h

theorem Resembles.isNull_eq (h : Resembles v w) : w.isNull = v.isNull := by
  cases h with
  | number hv hw => rw [not_isNull_of_isNumber hv, not_isNull_of_isNumber hw]
  | null | bool | string | array | object => rfl

theorem text?_of_isNumber (h : v.isNumber = true) : v.text? = none := by
  cases v <;> first | rfl | cases h

theorem Resembles.text?_eq (h : Resembles v w) : w.text? = v.text? := by
  cases h with
  | number hv hw => rw [text?_of_isNumber hv, text?_of_isNumber hw]
  | null | bool | string | array | object => rfl

theorem filter_of_resembles (key : String) (h : List.Forall₂ ResemblesMember ms ns) :
    List.Forall₂ ResemblesMember (ms.filter (·.1 == key)) (ns.filter (·.1 == key)) := by
  induction h with
  | nil => exact .nil
  | cons hm _ ih =>
      obtain ⟨k, hvalue⟩ := hm
      rw [List.filter_cons, List.filter_cons]
      split
      · exact .cons (.mk k hvalue) ih
      · exact ih

theorem keys_of_resembles (h : List.Forall₂ ResemblesMember ms ns) :
    ns.map Prod.fst = ms.map Prod.fst := by
  induction h with
  | nil => rfl
  | cons hm _ ih =>
      cases hm
      rw [List.map_cons, List.map_cons, ih]

/-! ## Null members -/

theorem dropNulls_of_isPlain (h : v.isPlain = true) : v.dropNulls = v := by
  cases v <;> first | rfl | cases h

theorem Resembles.dropNulls (h : Resembles v w) : Resembles v.dropNulls w.dropNulls := by
  induction v using Json.induction generalizing w with
  | hplain v hv =>
      rw [dropNulls_of_isPlain hv, dropNulls_of_isPlain (h.of_isPlain hv)]
      exact h
  | hstring s =>
      obtain rfl := h.of_string
      exact .string s
  | harray vs ih =>
      obtain ⟨ws, rfl, hitems⟩ := h.of_array
      refine .array ?_
      clear h
      induction hitems with
      | nil => exact .nil
      | cons hv _ ihrest =>
          obtain ⟨ihv, ihvs⟩ := List.forall_mem_cons.mp ih
          exact .cons (ihv hv) (ihrest ihvs)
  | hobject ms ih =>
      obtain ⟨ns, rfl, hmembers⟩ := h.of_object
      refine .object ?_
      clear h
      induction hmembers with
      | nil => exact .nil
      | cons hm _ ihrest =>
          obtain ⟨ihm, ihms⟩ := List.forall_mem_cons.mp ih
          obtain ⟨key, hvalue⟩ := hm
          rw [dropNullsMembers, dropNullsMembers, hvalue.isNull_eq]
          split
          · exact ihrest ihms
          · exact .cons (.mk key (ihm hvalue)) (ihrest ihms)

theorem isNull_dropNulls (v : Json) : v.dropNulls.isNull = v.isNull := by
  cases v <;> rfl

theorem dropNulls_dropNulls (v : Json) : v.dropNulls.dropNulls = v.dropNulls := by
  induction v using Json.induction with
  | hplain v hv => rw [dropNulls_of_isPlain hv, dropNulls_of_isPlain hv]
  | hstring s => rfl
  | harray vs ih =>
      refine congrArg Json.array ?_
      induction vs with
      | nil => rfl
      | cons v vs ihrest =>
          obtain ⟨ihv, ih⟩ := List.forall_mem_cons.mp ih
          rw [dropNullsItems, dropNullsItems, ihv, ihrest ih]
  | hobject ms ih =>
      refine congrArg Json.object ?_
      induction ms with
      | nil => rfl
      | cons m ms ihrest =>
          obtain ⟨ihm, ih⟩ := List.forall_mem_cons.mp ih
          rw [dropNullsMembers]
          split
          · exact ihrest ih
          · rename_i hnull
            rw [dropNullsMembers, isNull_dropNulls, if_neg hnull, ihm, ihrest ih]

theorem mem_dropNullsMembers {m : String × Json} (h : m ∈ dropNullsMembers ms) :
    ∃ v, (m.1, v) ∈ ms ∧ m.2 = v.dropNulls := by
  induction ms with
  | nil => cases h
  | cons n ms ih =>
      rw [dropNullsMembers] at h
      split at h
      · obtain ⟨v, hv, heq⟩ := ih h
        exact ⟨v, List.mem_cons_of_mem _ hv, heq⟩
      · rcases List.mem_cons.mp h with rfl | h
        · exact ⟨_, List.mem_cons_self .., rfl⟩
        · obtain ⟨v, hv, heq⟩ := ih h
          exact ⟨v, List.mem_cons_of_mem _ hv, heq⟩

theorem mem_dropNullsItems (h : v ∈ dropNullsItems vs) : ∃ w ∈ vs, v = w.dropNulls := by
  induction vs with
  | nil => cases h
  | cons w vs ih =>
      rcases List.mem_cons.mp h with rfl | h
      · exact ⟨w, List.mem_cons_self .., rfl⟩
      · obtain ⟨w, hw, heq⟩ := ih h
        exact ⟨w, List.mem_cons_of_mem _ hw, heq⟩

theorem IsCanonical.dropNulls (h : IsCanonical v) : IsCanonical v.dropNulls := by
  induction h with
  | null => exact .null
  | bool b => exact .bool b
  | integer i => exact .integer i
  | float h => exact .float h
  | string s => exact .string s
  | array _ ih =>
      refine .array fun v hv => ?_
      obtain ⟨w, hw, rfl⟩ := mem_dropNullsItems hv
      exact ih w hw
  | object hkeys _ ih =>
      refine .object (keysSorted_dropNullsMembers hkeys) fun m hm => ?_
      obtain ⟨w, hw, heq⟩ := mem_dropNullsMembers hm
      rw [heq]
      exact ih _ hw

/-! ## Canonical form -/

theorem canonical_of_isPlain (h : v.isPlain = true) : v.canonical = v := by
  cases v <;> first | rfl | cases h

theorem putMember_of_last {key : String} (h : ∀ m ∈ ms, m.1 < key) :
    putMember key v ms = ms ++ [(key, v)] := by
  induction ms with
  | nil => rfl
  | cons m ms ih =>
      obtain ⟨hm, hms⟩ := List.forall_mem_cons.mp h
      have hne : ¬ key = m.1 := fun heq => String.ne_of_lt hm heq.symm
      have hge : ¬ key < m.1 := fun hlt => String.lt_irrefl _ (String.lt_trans hm hlt)
      rw [putMember, if_neg hne, if_neg hge, ih hms, List.cons_append]

theorem ofMembers_of_keysSorted (h : KeysSorted ms) : ofMembers ms = object ms := by
  have hfoldl (acc rest : List (String × Json)) (h : KeysSorted (acc ++ rest)) :
      rest.foldl (fun sorted m => putMember m.1 m.2 sorted) acc = acc ++ rest := by
    induction rest generalizing acc with
    | nil => rw [List.foldl_nil, List.append_nil]
    | cons m rest ih =>
        have hlast : ∀ n ∈ acc, n.1 < m.1 := by
          intro n hn
          rw [KeysSorted, List.map_append, List.pairwise_append] at h
          exact h.2.2 _ (List.mem_map_of_mem hn) _ (List.mem_cons_self ..)
        have hstep : acc ++ m :: rest = acc ++ [m] ++ rest := by simp
        rw [hstep] at h ⊢
        rw [List.foldl_cons, putMember_of_last hlast]
        exact ih _ h
  exact congrArg object (hfoldl [] ms h)

theorem isCanonical_ofMembers (h : ∀ m ∈ ms, IsCanonical m.2) : IsCanonical (ofMembers ms) := by
  have hfoldl (acc : List (String × Json)) (hacc : ∀ m ∈ acc, IsCanonical m.2) :
      ∀ m ∈ ms.foldl (fun sorted m => putMember m.1 m.2 sorted) acc, IsCanonical m.2 := by
    induction ms generalizing acc with
    | nil => exact hacc
    | cons m ms ih =>
        obtain ⟨hm, hms⟩ := List.forall_mem_cons.mp h
        refine ih hms _ fun n hn => ?_
        rcases mem_putMember hn with rfl | hn
        · exact hm
        · exact hacc n hn
  have hnil : KeysSorted [] := List.Pairwise.nil
  exact .object (keysSorted_foldl_putMember ms hnil) (hfoldl [] fun _ hm => nomatch hm)

theorem Resembles.canonical_eq (h : Resembles v w) (hv : IsCanonical v) : w.canonical = w := by
  induction v using Json.induction generalizing w with
  | hplain v hplain => exact canonical_of_isPlain (h.of_isPlain hplain)
  | hstring s =>
      obtain rfl := h.of_string
      rfl
  | harray vs ih =>
      obtain ⟨ws, rfl, hitems⟩ := h.of_array
      have hvs := hv.items
      refine congrArg Json.array ?_
      clear h hv
      induction hitems with
      | nil => rfl
      | cons hv _ ihrest =>
          obtain ⟨ihv, ihvs⟩ := List.forall_mem_cons.mp ih
          obtain ⟨hcanonical, hvs⟩ := List.forall_mem_cons.mp hvs
          rw [canonicalItems, ihv hv hcanonical, ihrest ihvs hvs]
  | hobject ms ih =>
      obtain ⟨ns, rfl, hmembers⟩ := h.of_object
      have hsorted : KeysSorted ns := by
        rw [KeysSorted, keys_of_resembles hmembers]
        exact hv.keys
      have hms := hv.members
      have hcanonical : canonicalMembers ns = ns := by
        clear h hv hsorted
        induction hmembers with
        | nil => rfl
        | cons hm _ ihrest =>
            obtain ⟨ihm, ihms⟩ := List.forall_mem_cons.mp ih
            obtain ⟨hfirst, hrest⟩ := List.forall_mem_cons.mp hms
            obtain ⟨key, hvalue⟩ := hm
            rw [canonicalMembers, ihm hvalue hfirst, ihrest ihms hrest]
      rw [canonical, hcanonical, ofMembers_of_keysSorted hsorted]

/-! ## Writing and reading again -/

theorem resembles_of_rereadPlain (hv : IsCanonical v) (hplain : v.isPlain = true)
    (h : rereadPlain v = some w) : Resembles v w := by
  have hnumber (hv : v.isNumber = true) (hnumeral : Parser.Numeral (Printer.scalar v).toList)
      (hne : (Printer.scalar v).toList ≠ []) : Resembles v w := by
    unfold rereadPlain at h
    split at h
    · rename_i hvalue
      cases h
      exact .number hv (Parser.value_of_numeral hnumeral hne hvalue).1
    · cases h
  cases hv with
  | null =>
      simp [rereadPlain, Printer.scalar, Parser.value, Parser.skipBlanks, Parser.expect] at h
      rw [← h]
      exact .null
  | bool b =>
      cases b <;> simp [rereadPlain, Printer.scalar, Parser.value, Parser.skipBlanks,
        Parser.expect] at h <;> rw [← h] <;> exact .bool _
  | integer i => exact hnumber rfl (Parser.numeral_toString i) (Parser.toString_ne_nil i)
  | @float x hx =>
      have hscalar : Printer.scalar (.float x) = x.toCompact := by simp [Printer.scalar, hx]
      rw [hscalar] at hnumber
      exact hnumber rfl (Parser.numeral_toCompact hx) (Parser.toCompact_ne_nil x)
  | string | array | object => cases hplain

theorem resembles_of_reread {depth : Nat} (hv : IsCanonical v) (h : reread depth v = some w) :
    Resembles v w := by
  revert hv
  refine reread_induction (P := fun v w => IsCanonical v → Resembles v w) ?_ ?_ ?_ ?_ v depth w h
  · exact fun v w hplain h hv => resembles_of_rereadPlain hv hplain h
  · exact fun s _ => .string s
  · intro vs ws hitems hv
    have hall := (List.forall₂_and_left _ _).mpr ⟨hv.items, hitems⟩
    exact .array (hall.imp fun v w h => h.2 h.1)
  · intro ms ns hmembers hv
    have hall := (List.forall₂_and_left _ _).mpr ⟨hv.members, hmembers⟩
    refine .object (hall.imp ?_)
    rintro ⟨key, v⟩ ⟨_, w⟩ ⟨hcanonical, rfl, hvalue⟩
    exact .mk key (hvalue hcanonical)

/-- A value that is rid of its null members comes back as it was but for its numbers. -/
theorem resembles_of_parse? (hv : IsCanonical v) (h : parse? v.dropNulls.toCompact = some w) :
    Resembles v.dropNulls w.dropNulls := by
  rw [parse?_toCompact] at h
  obtain ⟨u, hu, rfl⟩ := Option.map_eq_some_iff.mp h
  have hresembles : Resembles v.dropNulls u := resembles_of_reread hv.dropNulls hu
  rw [hresembles.canonical_eq hv.dropNulls]
  have hdropped := hresembles.dropNulls
  rwa [dropNulls_dropNulls] at hdropped

end Json

end ClusterMigration
