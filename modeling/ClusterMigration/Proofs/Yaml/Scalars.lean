import ClusterMigration.Yaml.Record

/-!
# Scalars that stand for the same

The same text may be written plain, in quotes or with a tag. Where two scalars with one text
stand for the same thing, no reader tells them apart.
-/

namespace ClusterMigration

namespace Yaml

variable {β : Type}

/-- The tags that say what a text is to be taken for. -/
def Tag.core : List String := [boolean, integer, float, nothing]

/-- What a scalar stands for. If it is plain, that is what its text is taken for, and its tag
may say no other; if it is not, that is its text. -/
structure Denotes (tag : Option String) (form : ScalarForm) (text : String) (found : Found) :
    Prop where
  notLocal : Tag.isLocal tag = false
  plain : form = .plain → found = Plain.resolve text ∧ scalarValue tag .plain text = .ok found
  otherwise : form ≠ .plain → found = .text text ∧ ∀ t ∈ tag, t ∉ Tag.core

/-- Two scalars with this text are written alike, or they stand for the same. -/
def SameScalar (q₁ : Properties) (form₁ : ScalarForm) (q₂ : Properties) (form₂ : ScalarForm)
    (text : String) : Prop :=
  (q₁.tag = q₂.tag ∧ form₁ = form₂) ∨
    ∃ found, Denotes q₁.tag form₁ text found ∧ Denotes q₂.tag form₂ text found

/-! ## What plain text is taken for -/

section

variable {text s : String}

theorem resolve_eq_nothing_iff :
    Plain.resolve text = .nothing ↔ text.isEmpty = true ∨ Plain.isNull text = true := by
  unfold Plain.resolve
  split
  · rename_i h
    exact iff_of_true rfl h
  · rename_i h
    refine iff_of_false ?_ h
    split
    · simp
    · dsimp only
      split
      · rename_i found hfound
        rintro rfl
        unfold Plain.integer? at hfound
        grind
      · split
        · simp
        · split <;> simp

theorem boolean?_of_resolve (h : Plain.resolve text = .text s) : Plain.boolean? text = none := by
  unfold Plain.resolve at h
  split at h
  · cases h
  · split at h
    · cases h
    · assumption

theorem integer?_of_resolve (h : Plain.resolve text = .text s) :
    Plain.integer? text.toList = none := by
  unfold Plain.resolve at h
  split at h
  · cases h
  · split at h
    · cases h
    · dsimp only at h
      split at h
      · rename_i found hfound
        subst h
        unfold Plain.integer? at hfound
        grind
      · assumption

def unsigned? (text : List Char) : Option Nat :=
  (Plain.natural? text).filter (· < Nat.pow 2 64)

theorem unsigned?_of_resolve (h : Plain.resolve text = .text s) :
    unsigned? text.toList = none := by
  have hinteger := integer?_of_resolve h
  unfold Plain.integer? at hinteger
  unfold unsigned?
  grind

theorem signed?_of_resolve (h : Plain.resolve text = .text s) : signed? text.toList = none := by
  have hinteger := integer?_of_resolve h
  unfold Plain.integer? at hinteger
  unfold signed?
  simp only [Nat.pow_eq, Nat.reducePow] at hinteger ⊢
  grind

end

/-! ## Views of a scalar -/

/-- Whether a scalar counts as absent where a value may be left out. -/
def absence (q : Properties) (form : ScalarForm) (text : String) : Except Mismatch Bool :=
  if form ≠ .plain then .ok false
  else match q.tag with
    | some tag =>
      if tag = Tag.nothing then
        if Plain.isNull text then .ok true else .error (.wrongValue (.text text) "null")
      else .ok false
    | none => .ok (text.isEmpty || Plain.isNull text)

section

variable {q : Properties} {form : ScalarForm} {text : String} {found : Found}

theorem Denotes.value (h : Denotes q.tag form text found) :
    scalarValue q.tag form text = .ok found := by
  by_cases hform : form = .plain
  · rw [hform]
    exact (h.plain hform).2
  · obtain ⟨rfl, hcore⟩ := h.otherwise hform
    cases htag : q.tag with
    | none => simp [scalarValue, hform]
    | some t =>
        have ht := hcore t htag
        simp only [Tag.core, List.mem_cons, List.not_mem_nil, or_false, not_or] at ht
        simp [scalarValue, hform, ht]

theorem Denotes.candidate {parse : String → Option β}
    (hparse : ∀ text s, Plain.resolve text = .text s → parse text = none) {tag : String}
    (htag : tag ∈ Tag.core) (h : Denotes q.tag form text found) :
    (if isCandidate tag q form then parse text else none) =
      if found = .text text then none else parse text := by
  by_cases hform : form = .plain
  · have hcandidate : isCandidate tag q form = true := by simp [isCandidate, hform]
    rw [if_pos hcandidate]
    split
    · rename_i htext
      exact hparse text text ((h.plain hform).1.symm.trans htext)
    · rfl
  · obtain ⟨rfl, hcore⟩ := h.otherwise hform
    have hother : q.tag ≠ some tag := fun heq => hcore tag heq htag
    have hcandidate : isCandidate tag q form = false := by simp [isCandidate, hform, hother]
    rw [hcandidate, if_pos rfl]
    rfl

theorem scalarValue_eq_nothing {tag : String} (hlocal : Tag.isLocal (some tag) = false)
    (h : scalarValue (some tag) .plain text = .ok .nothing) : tag = Tag.nothing := by
  have hboolean : (Plain.boolean? text).map Found.boolean ≠ some .nothing := by simp
  have hinteger : Plain.integer? text.toList ≠ some .nothing := by
    unfold Plain.integer?
    grind
  have hfloat : (Plain.float? text.toList).map Found.float ≠ some .nothing := by simp
  have hstart : tag.startsWith "!" = false := hlocal
  unfold scalarValue at h
  grind

theorem scalarValue_nothing (h : scalarValue (some Tag.nothing) form text = .ok found) :
    found = .nothing ∧ Plain.isNull text = true := by
  have hboolean : Tag.nothing ≠ Tag.boolean := by decide
  have hinteger : Tag.nothing ≠ Tag.integer := by decide
  have hfloat : Tag.nothing ≠ Tag.float := by decide
  unfold scalarValue at h
  grind

theorem Denotes.absence (h : Denotes q.tag form text found) :
    absence q form text = .ok (decide (found = .nothing)) := by
  unfold Yaml.absence
  by_cases hform : form = .plain
  · obtain ⟨hfound, hvalue⟩ := h.plain hform
    have hlocal := h.notLocal
    rw [if_neg (fun hne => hne hform)]
    split
    · rename_i tag htag
      rw [htag] at hvalue hlocal
      by_cases hnothing : tag = Tag.nothing
      · subst hnothing
        obtain ⟨rfl, hnull⟩ := scalarValue_nothing hvalue
        simp [hnull]
      · have hsome : found ≠ .nothing := by
          rintro rfl
          exact hnothing (scalarValue_eq_nothing hlocal hvalue)
        simp [hnothing, hsome]
    · rw [hfound]
      by_cases hnothing : Plain.resolve text = .nothing
      · have hempty := resolve_eq_nothing_iff.mp hnothing
        simpa [hnothing] using hempty
      · have hempty := mt resolve_eq_nothing_iff.mpr hnothing
        simpa [hnothing] using hempty
  · rw [if_pos hform, (h.otherwise hform).1]
    rfl

theorem Denotes.empty_iff (h : Denotes q.tag form text found) :
    form = .plain ∧ text = "" ↔ found = .nothing ∧ text = "" := by
  refine and_congr_left ?_
  rintro rfl
  by_cases hform : form = .plain
  · exact iff_of_true hform ((h.plain hform).1.trans rfl)
  · refine iff_of_false hform ?_
    rw [(h.otherwise hform).1]
    simp

end

section

variable {q₁ q₂ : Properties} {form₁ form₂ : ScalarForm} {text : String}

theorem SameScalar.value (h : SameScalar q₁ form₁ q₂ form₂ text) :
    scalarValue q₁.tag form₁ text = scalarValue q₂.tag form₂ text := by
  rcases h with ⟨htag, rfl⟩ | ⟨found, h₁, h₂⟩
  · rw [htag]
  · rw [h₁.value, h₂.value]

theorem SameScalar.isLocal (h : SameScalar q₁ form₁ q₂ form₂ text) :
    Tag.isLocal q₁.tag = Tag.isLocal q₂.tag := by
  rcases h with ⟨htag, rfl⟩ | ⟨found, h₁, h₂⟩
  · rw [htag]
  · rw [h₁.notLocal, h₂.notLocal]

theorem SameScalar.candidate (h : SameScalar q₁ form₁ q₂ form₂ text) {parse : String → Option β}
    (hparse : ∀ text s, Plain.resolve text = .text s → parse text = none) {tag : String}
    (htag : tag ∈ Tag.core) :
    (if isCandidate tag q₁ form₁ then parse text else none) =
      if isCandidate tag q₂ form₂ then parse text else none := by
  rcases h with ⟨htags, rfl⟩ | ⟨found, h₁, h₂⟩
  · rw [isCandidate, isCandidate, htags]
  · rw [h₁.candidate hparse htag, h₂.candidate hparse htag]

theorem SameScalar.absence (h : SameScalar q₁ form₁ q₂ form₂ text) :
    absence q₁ form₁ text = absence q₂ form₂ text := by
  rcases h with ⟨htag, rfl⟩ | ⟨found, h₁, h₂⟩
  · rw [Yaml.absence, Yaml.absence, htag]
  · rw [h₁.absence, h₂.absence]

theorem SameScalar.empty_iff (h : SameScalar q₁ form₁ q₂ form₂ text) :
    form₁ = .plain ∧ text = "" ↔ form₂ = .plain ∧ text = "" := by
  rcases h with ⟨-, rfl⟩ | ⟨found, h₁, h₂⟩
  · rfl
  · rw [h₁.empty_iff, h₂.empty_iff]

end

end Yaml

end ClusterMigration
