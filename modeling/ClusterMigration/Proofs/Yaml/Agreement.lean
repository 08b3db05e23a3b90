import ClusterMigration.Proofs.Yaml.Scalars
import Mathlib.Data.List.Forall2

/-!
# Readings that agree

What a reader makes of a node depends on what the node stands for. It depends neither on
the rest of the document nor on the aliases followed before, as long as these are not too
many. Readings are compared by what they come to, and nodes of two documents by a
relation that looks one level deep at a time, because aliases may lead back to a node
that stands around them.

Members may stand in another order, and then it may be another one that fails first. Where the
order is kept and keys are written alike, the error is the same too.
-/

namespace ClusterMigration

namespace Yaml

variable {α β : Type} {ordered : Bool}

/-! ## Outcomes -/

/-- What a reading ends with, wherever it begins to count, unless the count gets too high. -/
def ComesTo (x : Reading α) (outcome : Except ReadError α) : Prop :=
  ∀ followed, x.run followed = .error .exhausted ∨ (x.run followed).map Prod.fst = outcome

/-- The same value, or errors on both sides, which are the same where the order is kept. -/
inductive Matches (ordered : Bool) : Except ReadError α → Except ReadError α → Prop
  | ok (a : α) : Matches ordered (.ok a) (.ok a)
  | error {e₁ e₂ : ReadError} (h : ordered = true → e₁ = e₂) :
      Matches ordered (.error e₁) (.error e₂)

theorem Matches.refl (o : Except ReadError α) : Matches ordered o o := by
  cases o with
  | ok a => exact .ok a
  | error e => exact .error fun _ => rfl

theorem Matches.of_ok_iff {o₁ o₂ : Except ReadError α} (h : ∀ a, o₁ = .ok a ↔ o₂ = .ok a) :
    Matches false o₁ o₂ := by
  cases o₁ with
  | ok a =>
      rw [(h a).mp rfl]
      exact .ok a
  | error e₁ =>
      cases o₂ with
      | ok a => cases (h a).mpr rfl
      | error e₂ => exact .error nofun

theorem Matches.symm {o₁ o₂ : Except ReadError α} (h : Matches ordered o₁ o₂) :
    Matches ordered o₂ o₁ := by
  cases h with
  | ok a => exact .ok a
  | error h => exact .error fun hordered => (h hordered).symm

theorem Matches.trans {o₁ o₂ o₃ : Except ReadError α} (h₁ : Matches ordered o₁ o₂)
    (h₂ : Matches ordered o₂ o₃) : Matches ordered o₁ o₃ := by
  cases h₁ with
  | ok a => exact h₂
  | error h₁ =>
      cases h₂ with
      | error h₂ => exact .error fun h => (h₁ h).trans (h₂ h)

theorem Matches.bind {o₁ o₂ : Except ReadError α} {f₁ f₂ : α → Except ReadError β}
    (h : Matches ordered o₁ o₂) (hf : ∀ a, Matches ordered (f₁ a) (f₂ a)) :
    Matches ordered (o₁.bind f₁) (o₂.bind f₂) := by
  cases h with
  | ok a => exact hf a
  | error h => exact .error h

theorem Matches.map {o₁ o₂ : Except ReadError α} (h : Matches ordered o₁ o₂) (f : α → β) :
    Matches ordered (o₁.map f) (o₂.map f) := by
  cases h with
  | ok a => exact .ok (f a)
  | error h => exact .error h

theorem bind_eq_ok_iff {o : Except ReadError α} {f : α → Except ReadError β} {b : β} :
    o.bind f = .ok b ↔ ∃ a, o = .ok a ∧ f a = .ok b := by
  cases o <;> simp [Except.bind]

/-- Two readings that come to the same. -/
def Agree (ordered : Bool) (x y : Reading α) : Prop :=
  ∃ o₁ o₂, ComesTo x o₁ ∧ ComesTo y o₂ ∧ Matches ordered o₁ o₂

theorem comesTo_pure (a : α) : ComesTo (pure a) (.ok a) := fun _ => .inr rfl

theorem comesTo_throw (e : ReadError) : ComesTo (throw e : Reading α) (.error e) :=
  fun _ => .inr rfl

theorem ComesTo.bind_ok {x : Reading α} {f : α → Reading β} {a : α}
    {next : Except ReadError β} (hx : ComesTo x (.ok a)) (hf : ComesTo (f a) next) :
    ComesTo (x >>= f) next := by
  intro n
  rw [StateT.run_bind]
  cases hrun : x.run n with
  | error e =>
      rcases hx n with h | h <;> rw [hrun] at h <;> cases h
      exact .inl rfl
  | ok result =>
      obtain ⟨b, m⟩ := result
      rcases hx n with h | h <;> rw [hrun] at h <;> cases h
      exact hf m

theorem ComesTo.bind_error {x : Reading α} {f : α → Reading β} {e : ReadError}
    (hx : ComesTo x (.error e)) : ComesTo (x >>= f) (.error e) := by
  intro n
  rw [StateT.run_bind]
  cases hrun : x.run n with
  | error e' =>
      rcases hx n with h | h <;> rw [hrun] at h <;> cases h
      · exact .inl rfl
      · exact .inr rfl
  | ok result => rcases hx n with h | h <;> rw [hrun] at h <;> cases h

theorem ComesTo.bind_pure {x : Reading α} {o : Except ReadError α} (hx : ComesTo x o)
    {f : α → β} : ComesTo (x >>= fun a => pure (f a)) (o.map f) := by
  cases o with
  | ok a => exact hx.bind_ok (comesTo_pure (f a))
  | error e => exact hx.bind_error

theorem Agree.pure (a : α) : Agree ordered (Pure.pure a) (Pure.pure a) :=
  ⟨_, _, comesTo_pure a, comesTo_pure a, .ok a⟩

theorem Agree.throw {e₁ e₂ : ReadError} (h : ordered = true → e₁ = e₂) :
    Agree ordered (throw e₁ : Reading α) (MonadExcept.throw e₂) :=
  ⟨_, _, comesTo_throw e₁, comesTo_throw e₂, .error h⟩

theorem Agree.unreadable : Agree ordered (unreadable : Reading α) Yaml.unreadable :=
  .throw fun _ => rfl

theorem Agree.bind {x y : Reading α} {f g : α → Reading β} (hxy : Agree ordered x y)
    (hfg : ∀ a, Agree ordered (f a) (g a)) : Agree ordered (x >>= f) (y >>= g) := by
  obtain ⟨o₁, o₂, hx, hy, h⟩ := hxy
  cases h with
  | error h => exact ⟨_, _, hx.bind_error, hy.bind_error, .error h⟩
  | ok a =>
      obtain ⟨next₁, next₂, hf, hg, h⟩ := hfg a
      exact ⟨next₁, next₂, hx.bind_ok hf, hy.bind_ok hg, h⟩

theorem Agree.map {x y : Reading α} (f : α → β) (hxy : Agree ordered x y) :
    Agree ordered (f <$> x) (f <$> y) := by
  rw [map_eq_pure_bind, map_eq_pure_bind]
  exact hxy.bind fun a => Agree.pure (f a)

/-! ## Nodes that look alike -/

namespace Document

def standing (d : Document) : Node → Option Node
  | .alias slot => d.target? slot
  | n => some n

def keyText? (d : Document) (key : Node) : Option String :=
  match d.standing key with
  | some (.scalar _ _ text) => some text
  | _ => none

end Document

/-- Keys that stand for the same, with values that correspond. Where the order is kept, the keys
are written alike. -/
def Entry (ordered : Bool) (R : Node → Node → Prop) (m₁ m₂ : Node × Node) : Prop :=
  (ordered = true → m₁.1.label = m₂.1.label) ∧ R m₁.1 m₂.1 ∧ R m₁.2 m₂.2

/-- The same members. They may stand in another order if no key stands twice. -/
inductive Arranged (ordered : Bool) (d : Document) : List (Node × Node) → List (Node × Node) → Prop
  | refl (members : List (Node × Node)) : Arranged ordered d members members
  | perm {members₁ members₂ : List (Node × Node)} (hfree : ordered = false)
      (hperm : members₁.Perm members₂) (hkeys : (members₁.map fun m => d.keyText? m.1).Nodup) :
      Arranged ordered d members₁ members₂

/-- One level of two nodes is the same, anchors aside, and below it `R` holds. -/
inductive Node.Alike (ordered : Bool) (d : Document) (R : Node → Node → Prop) :
    Node → Node → Prop
  | scalar {q₁ q₂ : Properties} {form₁ form₂ : ScalarForm} {text : String}
      (h : SameScalar q₁ form₁ q₂ form₂ text) :
      Node.Alike ordered d R (.scalar q₁ form₁ text) (.scalar q₂ form₂ text)
  | sequence {q₁ q₂ : Properties} {items₁ items₂ : List Node} (htag : q₁.tag = q₂.tag)
      (hitems : List.Forall₂ R items₁ items₂) :
      Node.Alike ordered d R (.sequence q₁ items₁) (.sequence q₂ items₂)
  | mapping {q₁ q₂ : Properties} {members₁ members members₂ : List (Node × Node)}
      (htag : q₁.tag = q₂.tag) (harranged : Arranged ordered d members₁ members)
      (hmembers : List.Forall₂ (Entry ordered R) members members₂) :
      Node.Alike ordered d R (.mapping q₁ members₁) (.mapping q₂ members₂)
  | cut : Node.Alike ordered d R .cut .cut

def Related (ordered : Bool) (d₁ d₂ : Document) (R : Node → Node → Prop) (v₁ v₂ : Node) : Prop :=
  Option.Rel (Node.Alike ordered d₁ R) (d₁.standing v₁) (d₂.standing v₂)

/-- A relation between the nodes of two documents that holds only where they stand for
one value. -/
def Correspondence (ordered : Bool) (d₁ d₂ : Document) (R : Node → Node → Prop) : Prop :=
  ∀ ⦃v₁ v₂⦄, R v₁ v₂ → Related ordered d₁ d₂ R v₁ v₂

def WholeOnly (R : Node → Node → Prop) : Prop :=
  ∀ ⦃v₁ v₂⦄, R v₁ v₂ → v₁.isWhole = true ∧ v₂.isWhole = true

theorem Node.Alike.related {d₁ d₂ : Document} {R : Node → Node → Prop} {n₁ n₂ : Node}
    (h : Node.Alike ordered d₁ R n₁ n₂) : Related ordered d₁ d₂ R n₁ n₂ := by
  cases h with
  | scalar h => exact .some (.scalar h)
  | sequence htag hitems => exact .some (.sequence htag hitems)
  | mapping htag harranged hmembers => exact .some (.mapping htag harranged hmembers)
  | cut => exact .some .cut

/-! ## Places -/

/-- Places in two documents that are equally deep, and the same where the order is kept. -/
structure Beside (ordered : Bool) (d₁ d₂ : Document) (p₁ p₂ : Place) : Prop where
  left : p₁.document = d₁
  right : p₂.document = d₂
  depth : p₁.depth = p₂.depth
  path : ordered = true → p₁.path = p₂.path
  outer : ordered = true → p₁.outer = p₂.outer

section

variable {d₁ d₂ : Document} {R : Node → Node → Prop} {p₁ p₂ : Place}

theorem Beside.member (hp : Beside ordered d₁ d₂ p₁ p₂) {m₁ m₂ : Node × Node}
    (hm : Entry ordered R m₁ m₂) : Beside ordered d₁ d₂ (p₁.member m₁.1) (p₂.member m₂.1) where
  left := hp.left
  right := hp.right
  depth := hp.depth
  path h := by simp only [Place.member, hp.path h, hm.1 h]
  outer h := hp.outer h

theorem Beside.item (hp : Beside ordered d₁ d₂ p₁ p₂) (index : Nat) :
    Beside ordered d₁ d₂ (p₁.item index) (p₂.item index) where
  left := hp.left
  right := hp.right
  depth := hp.depth
  path h := by simp only [Place.item, hp.path h]
  outer h := hp.outer h

/-- How many aliases were followed does not matter for what a node is resolved to. -/
theorem comesTo_resolve (p : Place) :
    ∀ v, ComesTo (p.resolve v)
      (match p.document.standing v with
        | some n => .ok n
        | none => .error .unreadable)
  | .scalar .. | .sequence .. | .mapping .. | .cut => comesTo_pure _
  | .alias slot => by
      intro n
      by_cases hcount : aliasAllowance * p.document.size < n + 1
      · left
        simp [Place.resolve, hcount]
        rfl
      · right
        simp [Place.resolve, hcount, Document.standing]
        cases p.document.target? slot <;> rfl

theorem Agree.resolve {v₁ v₂ : Node} {f g : Node → Reading α} (hp : Beside ordered d₁ d₂ p₁ p₂)
    (h : Related ordered d₁ d₂ R v₁ v₂)
    (hfg : ∀ n₁ n₂, Node.Alike ordered d₁ R n₁ n₂ → Agree ordered (f n₁) (g n₂)) :
    Agree ordered (p₁.resolve v₁ >>= f) (p₂.resolve v₂ >>= g) := by
  have h₁ := comesTo_resolve p₁ v₁
  have h₂ := comesTo_resolve p₂ v₂
  rw [hp.left] at h₁
  rw [hp.right] at h₂
  unfold Related at h
  generalize d₁.standing v₁ = s₁ at h h₁
  generalize d₂.standing v₂ = s₂ at h h₂
  cases h with
  | none => exact ⟨_, _, h₁.bind_error, h₂.bind_error, .refl _⟩
  | some halike =>
      obtain ⟨next₁, next₂, hf, hg, hnext⟩ := hfg _ _ halike
      exact ⟨next₁, next₂, h₁.bind_ok hf, h₂.bind_ok hg, hnext⟩

theorem Agree.enter {f g : Place → Reading α} (hp : Beside ordered d₁ d₂ p₁ p₂)
    (hfg : ∀ q₁ q₂, Beside ordered d₁ d₂ q₁ q₂ → Agree ordered (f q₁) (g q₂)) :
    Agree ordered (p₁.enter >>= f) (p₂.enter >>= g) := by
  have hdepth := hp.depth
  cases hdepth₂ : p₂.depth with
  | zero =>
      simp only [Place.enter, hdepth, hdepth₂]
      exact ⟨_, _, (comesTo_throw .unreadable).bind_error, (comesTo_throw .unreadable).bind_error,
        .refl _⟩
  | succ depth =>
      simp only [Place.enter, hdepth, hdepth₂, pure_bind]
      exact hfg _ _ ⟨hp.left, hp.right, rfl, hp.path, hp.path⟩

theorem Agree.fail {m₁ m₂ : Mismatch} (hp : Beside ordered d₁ d₂ p₁ p₂) (hm : m₁ = m₂) :
    Agree ordered (p₁.fail m₁ : Reading α) (p₂.fail m₂) :=
  .throw fun h => by rw [hp.path h, hm]

theorem Agree.failOutside (hp : Beside ordered d₁ d₂ p₁ p₂) (m : Mismatch) :
    Agree ordered (p₁.failOutside m : Reading α) (p₂.failOutside m) :=
  .throw fun h => by rw [hp.outer h]

theorem Agree.refuse {n₁ n₂ : Node} (hp : Beside ordered d₁ d₂ p₁ p₂) (expected : String)
    (h : Node.Alike ordered d₁ R n₁ n₂) :
    Agree ordered (p₁.refuse n₁ expected : Reading α) (p₂.refuse n₂ expected) := by
  cases h with
  | scalar h => exact .fail hp (by simp only [Node.mismatch, h.value])
  | sequence htag hitems => exact .fail hp rfl
  | mapping htag harranged hmembers => exact .fail hp rfl
  | cut => exact .unreadable

end

/-! ## Readers -/

/-- A reader that goes by what the nodes stand for. -/
def Reader.Congruent (r : Reader α) : Prop :=
  ∀ ⦃ordered : Bool⦄ ⦃d₁ d₂ : Document⦄ ⦃R : Node → Node → Prop⦄,
    Correspondence ordered d₁ d₂ R → WholeOnly R →
    ∀ ⦃p₁ p₂ : Place⦄, Beside ordered d₁ d₂ p₁ p₂ →
    ∀ ⦃v₁ v₂ : Node⦄, Related ordered d₁ d₂ R v₁ v₂ → Agree ordered (r p₁ v₁) (r p₂ v₂)

theorem Reader.congruent_of_scalar {r : Reader α} {expected : String}
    {onScalar : Place → Properties → ScalarForm → String → Reading α}
    (hr : ∀ p n, r p n = p.resolve n >>= fun n => match n with
      | .scalar q form text => onScalar p q form text
      | n => p.refuse n expected)
    (hscalar : ∀ {ordered : Bool} {d₁ d₂ : Document} {p₁ p₂ : Place} {q₁ q₂ : Properties}
      {form₁ form₂ : ScalarForm} {text : String}, Beside ordered d₁ d₂ p₁ p₂ →
      SameScalar q₁ form₁ q₂ form₂ text →
      Agree ordered (onScalar p₁ q₁ form₁ text) (onScalar p₂ q₂ form₂ text)) :
    r.Congruent := by
  intro ordered d₁ d₂ R _ _ p₁ p₂ hp v₁ v₂ h
  rw [hr, hr]
  refine Agree.resolve hp h fun n₁ n₂ hn => ?_
  have hrefuse : Agree ordered (p₁.refuse n₁ expected : Reading α) (p₂.refuse n₂ expected) :=
    Agree.refuse hp expected hn
  cases hn with
  | scalar h => exact hscalar hp h
  | sequence htag hitems => exact hrefuse
  | mapping htag harranged hmembers => exact hrefuse
  | cut => exact hrefuse

section

variable {d₁ d₂ : Document} {p₁ p₂ : Place} {q₁ q₂ : Properties} {form₁ form₂ : ScalarForm}
  {text : String} (hp : Beside ordered d₁ d₂ p₁ p₂) (h : SameScalar q₁ form₁ q₂ form₂ text)

include hp h

theorem SameScalar.refuse (expected : String) :
    Agree ordered (p₁.refuse (.scalar q₁ form₁ text) expected : Reading α)
      (p₂.refuse (.scalar q₂ form₂ text) expected) :=
  .fail hp (by simp only [Node.mismatch, h.value])

end

theorem readTextAs_congruent (expected : String) : (readTextAs expected).Congruent :=
  Reader.congruent_of_scalar (fun _ _ => rfl) fun _ _ => Agree.pure _

theorem readFlag_congruent : readFlag.Congruent := by
  refine Reader.congruent_of_scalar (fun _ _ => rfl) fun hp h => ?_
  have htag : Tag.boolean ∈ Tag.core := by simp [Tag.core]
  rw [h.candidate (fun _ _ => boolean?_of_resolve) htag]
  split
  · exact .pure _
  · exact h.refuse hp _

/-- Whether a number does not parse or is too large makes no difference. -/
theorem readNatural_eq (bits : Nat) (expected : String) (p : Place) (n : Node) :
    readNatural bits expected p n = p.resolve n >>= fun n => match n with
      | .scalar q form text =>
        match if isCandidate Tag.integer q form then unsigned? text.toList else none with
        | some k =>
          if Nat.pow 2 bits ≤ k then p.fail (.wrongValue (.integer k) expected) else pure k
        | none => p.refuse (.scalar q form text) expected
      | n => p.refuse n expected := by
  unfold readNatural
  refine congrArg (p.resolve n >>= ·) (funext fun n => ?_)
  cases n with
  | scalar q form text =>
      dsimp only
      by_cases hcandidate : isCandidate Tag.integer q form = true
      · rw [if_pos hcandidate, if_pos hcandidate, unsigned?]
        cases Plain.natural? text.toList with
        | none => rfl
        | some k =>
            by_cases hlarge : Nat.pow 2 64 ≤ k
            · have hfilter : (some k).filter (· < Nat.pow 2 64) = none :=
                Option.filter_some_neg (by simpa using hlarge)
              rw [hfilter]
              exact if_pos hlarge
            · have hfilter : (some k).filter (· < Nat.pow 2 64) = some k :=
                Option.filter_some_pos (by simpa using hlarge)
              rw [hfilter]
              exact if_neg hlarge
      · rw [if_neg hcandidate, if_neg hcandidate]
  | sequence | mapping | «alias» | cut => rfl

theorem readNatural_congruent (bits : Nat) (expected : String) :
    (readNatural bits expected).Congruent := by
  refine Reader.congruent_of_scalar (readNatural_eq bits expected) fun hp h => ?_
  have htag : Tag.integer ∈ Tag.core := by simp [Tag.core]
  rw [h.candidate (fun _ _ => unsigned?_of_resolve) htag]
  split
  · split
    · exact .fail hp rfl
    · exact .pure _
  · exact h.refuse hp _

theorem readInteger_congruent (bits : Nat) (expected : String) :
    (readInteger bits expected).Congruent := by
  refine Reader.congruent_of_scalar (fun _ _ => rfl) fun hp h => ?_
  have htag : Tag.integer ∈ Tag.core := by simp [Tag.core]
  rw [h.candidate (fun _ _ => signed?_of_resolve) htag]
  split
  · split
    · exact .fail hp rfl
    · exact .pure _
  · exact h.refuse hp _

section

variable {d₁ d₂ : Document} {R : Node → Node → Prop} {p₁ p₂ : Place}

theorem readItems_agree {item : Reader α} (hitem : item.Congruent)
    (hR : Correspondence ordered d₁ d₂ R) (hwhole : WholeOnly R)
    (hp : Beside ordered d₁ d₂ p₁ p₂) {items₁ items₂ : List Node}
    (hitems : List.Forall₂ R items₁ items₂) (index : Nat) :
    Agree ordered (readItems item p₁ index items₁) (readItems item p₂ index items₂) := by
  induction hitems generalizing index with
  | nil => exact Agree.pure _
  | cons hv hrest ih =>
      refine (hitem hR hwhole (hp.item index) (hR hv)).bind fun value => ?_
      exact (ih (index + 1)).bind fun values => Agree.pure _

theorem SameScalar.empty {q₁ q₂ : Properties} {form₁ form₂ : ScalarForm} {text : String}
    (h : SameScalar q₁ form₁ q₂ form₂ text) (hp : Beside ordered d₁ d₂ p₁ p₂)
    (expected : String) (a : α) :
    Agree ordered
      (if form₁ = .plain ∧ text = "" then pure a
        else p₁.refuse (.scalar q₁ form₁ text) expected)
      (if form₂ = .plain ∧ text = "" then pure a
        else p₂.refuse (.scalar q₂ form₂ text) expected) := by
  by_cases hempty : form₁ = .plain ∧ text = ""
  · rw [if_pos hempty, if_pos (h.empty_iff.mp hempty)]
    exact Agree.pure a
  · rw [if_neg hempty, if_neg (mt h.empty_iff.mpr hempty)]
    exact h.refuse hp expected

end

theorem readList_eq (item : Reader α) (p : Place) (n : Node) :
    readList item p n = p.resolve n >>= fun n => match n with
      | .sequence _ items => p.enter >>= fun p => readItems item p 0 items
      | .scalar q form text =>
        if form = .plain ∧ text = "" then pure []
        else p.refuse (.scalar q form text) "a sequence"
      | n => p.refuse n "a sequence" := by
  unfold readList
  refine congrArg (p.resolve n >>= ·) (funext fun n => ?_)
  split
  · rfl
  · rfl
  · rename_i hsequence hempty
    split
    · exact absurd rfl (hsequence _ _)
    · rename_i q form text
      rw [if_neg]
      rintro ⟨rfl, rfl⟩
      exact hempty _ rfl
    · rfl

theorem readList_congruent {item : Reader α} (hitem : item.Congruent) :
    (readList item).Congruent := by
  intro ordered d₁ d₂ R hR hwhole p₁ p₂ hp v₁ v₂ h
  rw [readList_eq, readList_eq]
  refine Agree.resolve hp h fun n₁ n₂ hn => ?_
  have hrefuse : Agree ordered (p₁.refuse n₁ "a sequence" : Reading (List α))
      (p₂.refuse n₂ "a sequence") := Agree.refuse hp _ hn
  cases hn with
  | scalar h => exact h.empty hp _ _
  | sequence htag hitems =>
      exact Agree.enter hp fun q₁ q₂ hq => readItems_agree hitem hR hwhole hq hitems 0
  | mapping htag harranged hmembers => exact hrefuse
  | cut => exact hrefuse

theorem readOptional_eq (value : Reader α) (p : Place) (n : Node) :
    readOptional value p n = p.resolve n >>= fun n => match n with
      | .scalar q form text =>
        match absence q form text with
        | .ok true => pure none
        | .ok false => some <$> value p (.scalar q form text)
        | .error m => p.failOutside m
      | n => some <$> value p n := by
  unfold readOptional
  refine congrArg (p.resolve n >>= ·) (funext fun n => ?_)
  cases n with
  | scalar q form text =>
      dsimp only [absence]
      rcases eq_or_ne form .plain with rfl | hform
      · cases q.tag with
        | none => cases text.isEmpty <;> cases Plain.isNull text <;> simp
        | some tag =>
            by_cases htag : tag = Tag.nothing
            · cases Plain.isNull text <;> simp [htag]
            · simp [htag]
      · rw [if_pos hform, if_pos hform]
  | sequence | mapping | «alias» | cut => rfl

theorem readOptional_congruent {value : Reader α} (hvalue : value.Congruent) :
    (readOptional value).Congruent := by
  intro ordered d₁ d₂ R hR hwhole p₁ p₂ hp v₁ v₂ h
  rw [readOptional_eq, readOptional_eq]
  refine Agree.resolve hp h fun n₁ n₂ hn => ?_
  have hsome : Agree ordered (some <$> value p₁ n₁) (some <$> value p₂ n₂) :=
    (hvalue hR hwhole hp hn.related).map some
  cases hn with
  | scalar h =>
      simp only [h.absence]
      split
      · exact Agree.pure _
      · exact hsome
      · exact Agree.failOutside hp _
  | sequence htag hitems => exact hsome
  | mapping htag harranged hmembers => exact hsome
  | cut => exact hsome

end Yaml

end ClusterMigration
