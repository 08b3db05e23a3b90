import ClusterMigration.Proofs.Json.Record
import ClusterMigration.Proofs.Json.Resembles

/-!
# Members that are read back

An object in canonical form still gives the texts, flags, lists and maps of texts that it was
made of, also where an empty one was left out.
-/

namespace ClusterMigration

namespace Json

/-! ## Texts in containers -/

variable {v : Json}

/-- What reads single values back as they were written reads lists of them back too. -/
theorem mapM_eq_ok_iff {α β ε : Type} {read : α → Except ε β} {write : β → α}
    (h : ∀ a b, read a = .ok b ↔ a = write b) {as : List α} {bs : List β} :
    as.mapM read = .ok bs ↔ as = bs.map write := by
  constructor
  · intro hread
    induction as generalizing bs with
    | nil =>
        cases hread
        rfl
    | cons a as ih =>
        rw [List.mapM_cons] at hread
        cases ha : read a with
        | error e =>
            rw [ha] at hread
            cases hread
        | ok b =>
            cases has : as.mapM read with
            | error e =>
                rw [ha, has] at hread
                cases hread
            | ok cs =>
                rw [ha, has] at hread
                cases hread
                rw [(h a b).mp ha, ih has, List.map_cons]
  · rintro rfl
    induction bs with
    | nil => rfl
    | cons b bs ih =>
        rw [List.map_cons, List.mapM_cons, (h _ b).mpr rfl, ih]
        rfl

def textMap (texts : List (String × String)) : Json :=
  .object (texts.map fun (k, text) => (k, .string text))

theorem readTexts_eq_ok_iff {texts : List String} :
    readTexts v = .ok texts ↔ v = .array (texts.map .string) := by
  cases v with
  | array items => rw [readTexts, mapM_eq_ok_iff fun _ _ => readText_eq_ok, array.injEq]
  | null | bool | integer | float | string | object => simp [readTexts]

theorem readTextMap_eq_ok_iff {texts : List (String × String)} :
    readTextMap v = .ok texts ↔ v = textMap texts := by
  have hmember (m : String × Json) (t : String × String) :
      (readText m.2).map (m.1, ·) = .ok t ↔ m = (t.1, .string t.2) := by
    obtain ⟨key, v⟩ := m
    obtain ⟨k, text⟩ := t
    rw [map_eq_ok, Prod.mk.injEq, ← readText_eq_ok]
    constructor
    · rintro ⟨a, ha, heq⟩
      cases heq
      exact ⟨rfl, ha⟩
    · rintro ⟨rfl, ha⟩
      exact ⟨text, ha, rfl⟩
  cases v with
  | object members => rw [readTextMap, mapM_eq_ok_iff hmember, textMap, object.injEq]
  | null | bool | integer | float | string | array => simp [readTextMap, textMap]

/-! ## Members that count -/

/-- The member of an object that counts, in canonical form. -/
def counted (key : String) (members : List (String × Json)) : Option Json :=
  (last? key members).map canonical

section

variable {k key : String} {ms ns : List (String × Json)}

@[simp] theorem member?_canonical (ms : List (String × Json)) :
    (object ms).canonical.member? k = counted k ms := by
  rw [canonical, ofMembers, member?_object, lookup_foldl_putMember, last?_canonicalMembers,
    List.lookup_nil, Option.or_none, counted]

theorem counted_append : counted k (ms ++ ns) = (counted k ns).or (counted k ms) := by
  rw [counted, last?, List.reverse_append, List.lookup_append, Option.map_or]
  rfl

@[simp] theorem counted_nil : counted k [] = none := rfl

theorem counted_cons :
    counted k ((key, v) :: ms) =
      (counted k ms).or (if k = key then some v.canonical else none) := by
  rw [counted, last?_cons, Option.map_or]
  congr 1
  split <;> rfl

theorem counted_singleton : counted k [(key, v)] = if k = key then some v.canonical else none := by
  rw [counted_cons, counted_nil, Option.none_or]

@[simp] theorem canonical_string (text : String) : (string text).canonical = string text := rfl

@[simp] theorem canonical_bool (b : Bool) : (bool b).canonical = bool b := rfl

theorem canonicalItems_string (texts : List String) :
    canonicalItems (texts.map .string) = texts.map .string := by
  induction texts with
  | nil => rfl
  | cons text texts ih => rw [List.map_cons, canonicalItems, ih, canonical_string]

theorem canonical_texts (texts : List String) :
    (array (texts.map .string)).canonical = array (texts.map .string) := by
  rw [canonical, canonicalItems_string]

theorem canonicalMembers_textMap (texts : List (String × String)) :
    canonicalMembers (texts.map fun (k, text) => (k, .string text)) =
      texts.map fun (k, text) => (k, .string text) := by
  induction texts with
  | nil => rfl
  | cons text texts ih => rw [List.map_cons, canonicalMembers, ih, canonical_string]

theorem canonical_textMap {texts : List (String × String)}
    (h : (texts.map Prod.fst).Pairwise (· < ·)) : (textMap texts).canonical = textMap texts := by
  rw [textMap, canonical, canonicalMembers_textMap]
  refine ofMembers_of_keysSorted ?_
  rw [KeysSorted, List.map_map]
  exact h

end

/-! ## Optional members -/

variable {α : Type}

def readOr (read : Json → Except Mismatch α) (omitted : α) (v : Option Json) : α :=
  (v.bind fun v => (read v).toOption).getD omitted

def textAt (key : String) (v : Json) : String := readOr readText "" (v.member? key)

def textsAt (key : String) (v : Json) : List String := readOr readTexts [] (v.member? key)

@[simp] theorem readOr_none (read : Json → Except Mismatch α) (omitted : α) :
    readOr read omitted none = omitted := rfl

@[simp] theorem readOr_text (text : String) : readOr readText "" (some (.string text)) = text := rfl

@[simp] theorem readOr_flag (flag : Bool) : readOr readFlag false (some (.bool flag)) = flag := rfl

@[simp] theorem readOr_texts (texts : List String) :
    readOr readTexts [] (some (.array (texts.map .string))) = texts := by
  simp [readOr, readTexts_eq_ok_iff.mpr rfl, Except.toOption]

@[simp] theorem readOr_textMap (texts : List (String × String)) :
    readOr readTextMap [] (some (textMap texts)) = texts := by
  simp [readOr, readTextMap_eq_ok_iff.mpr rfl, Except.toOption]

/-! A member that is left out if empty tells the same as one that is not. -/

@[simp] theorem readOr_text_ite (text : String) :
    readOr readText "" (if text = "" then none else some (.string text)) = text := by
  by_cases h : text = "" <;> simp [h]

@[simp] theorem readOr_texts_ite (texts : List String) :
    readOr readTexts [] (if texts = [] then none else some (.array (texts.map .string))) =
      texts := by
  by_cases h : texts = [] <;> simp [h]

@[simp] theorem readOr_textMap_ite (texts : List (String × String)) :
    readOr readTextMap [] (if texts = [] then none else some (textMap texts)) = texts := by
  by_cases h : texts = [] <;> simp [h]

end Json

end ClusterMigration
