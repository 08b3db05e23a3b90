import ClusterMigration.Proofs.Yaml.Mappings
import ClusterMigration.Proofs.Yaml.SameValue

/-!
# One field among the others

Reading a record takes its members one after the other, whatever fields they belong to.
Where all other fields can be read, the part of the record that one field fills depends
on the members under the name of this field alone.
-/

namespace ClusterMigration

namespace Yaml

variable {ρ σ : Type} {ordered : Bool}

namespace Document

def membersUnder (d : Document) (name : String) (members : List (Node × Node)) :
    List (Node × Node) :=
  members.filter fun m => d.keyText? m.1 == some name

end Document

theorem run_bind_eq_ok {α β : Type} {x : Reading α} {f : α → Reading β} {before after : Nat}
    {b : β} :
    (x >>= f).run before = .ok (b, after) ↔
      ∃ a n, x.run before = .ok (a, n) ∧ (f a).run n = .ok (b, after) := by
  rw [StateT.run_bind]
  cases x.run before with
  | error e =>
      constructor
      · intro h
        cases h
      · rintro ⟨a, n, h, _⟩
        cases h
  | ok result =>
      constructor
      · intro h
        exact ⟨result.1, result.2, rfl, h⟩
      · rintro ⟨a, n, h, hf⟩
        cases h
        exact hf

theorem ComesTo.eq_ok_of_run {α : Type} {x : Reading α} {outcome : Except ReadError α}
    {before after : Nat} {a : α} (hx : ComesTo x outcome)
    (hrun : x.run before = .ok (a, after)) : outcome = .ok a := by
  rcases hx before with h | h <;> rw [hrun] at h <;> cases h
  rfl

theorem keyText?_of_readTextAs {p : Place} {key : Node} {expected text : String}
    {before after : Nat}
    (h : (readTextAs expected p key).run before = .ok (text, after)) :
    p.document.keyText? key = some text :=
  keyOutcome_eq_ok_iff.mp ((comesTo_readTextAs expected p key).eq_ok_of_run h)

/-- A field that goes by what its node stands for, and stores nothing in `part`. -/
def Elsewhere (part : ρ → σ) (f : RecordField ρ) : Prop :=
  f.value.Congruent ∧ ∀ v r, part (f.set v r) = part r

/-- What members under one name amount to, given what the value of each comes to: the
value of the only one, if there is any. -/
def collect (twice : ReadError) : Bool → List (Except ReadError σ) → σ → Except ReadError σ
  | _, [], initial => .ok initial
  | true, _ :: _, _ => .error twice
  | false, outcome :: rest, _ => outcome.bind (collect twice true rest)

theorem matches_collect (twice : ReadError) {outcomes₁ outcomes₂ : List (Except ReadError σ)}
    (h : List.Forall₂ (Matches ordered) outcomes₁ outcomes₂) (given : Bool) (initial : σ) :
    Matches ordered (collect twice given outcomes₁ initial)
      (collect twice given outcomes₂ initial) := by
  induction h generalizing given initial with
  | nil => cases given <;> exact .refl _
  | cons ho _ ih =>
      cases given with
      | true => exact .refl _
      | false => exact ho.bind fun v => ih true v

/-! ## Members -/

theorem run_readMembers_cons {fields : List (RecordField ρ)} {p : Place} {given : List String}
    {key node : Node} {rest : List (Node × Node)} {r a : ρ} {before after : Nat}
    (h : (readMembers fields p given ((key, node) :: rest) r).run before = .ok (a, after)) :
    ∃ text n, p.document.keyText? key = some text ∧
      ((fields.find? (·.name == text) = none ∧
          (readMembers fields p given rest r).run n = .ok (a, after)) ∨
        ∃ f r' n', fields.find? (·.name == text) = some f ∧ given.contains text = false ∧
          (f.read r (p.member key) node).run n = .ok (r', n') ∧
          (readMembers fields p (text :: given) rest r').run n' = .ok (a, after)) := by
  obtain ⟨text, n, hkey, h⟩ := run_bind_eq_ok.mp h
  refine ⟨text, n, keyText?_of_readTextAs hkey, ?_⟩
  cases hfind : fields.find? (·.name == text) with
  | none =>
      simp only [hfind] at h
      split at h
      · exact .inl ⟨rfl, h⟩
      · cases h
  | some f =>
      simp only [hfind] at h
      split at h
      · cases h
      · rename_i hgiven
        obtain ⟨r', n', hread, hrest⟩ := run_bind_eq_ok.mp h
        exact .inr ⟨f, r', n', rfl, by simpa using hgiven, hread, hrest⟩

section

variable {fields : List (RecordField ρ)} {name : String}

theorem find?_others {text : String} (h : text ≠ name) :
    (fields.filter (·.name != name)).find? (·.name == text) =
      fields.find? (·.name == text) := by
  rw [List.find?_filter]
  congr 1
  funext f
  by_cases hf : f.name = text
  · simp [hf, h]
  · simp [hf]

theorem find?_others_self :
    (fields.filter (·.name != name)).find? (·.name == name) = none := by
  simp [List.find?_eq_none]

theorem Elsewhere.comesTo {part : ρ → σ} {f : RecordField ρ} (hf : Elsewhere part f)
    {p : Place} (hd : p.document.isWhole = true) {node : Node} (hnode : node.isWhole = true)
    {r₀ r₀' : ρ} {before after : Nat} (hrun : (f.read r₀ p node).run before = .ok (r₀', after))
    (r : ρ) : ∃ r', ComesTo (f.read r p node) (.ok r') ∧ part r' = part r := by
  obtain ⟨v, n, hv, _⟩ := run_bind_eq_ok.mp hrun
  obtain ⟨o, ho⟩ := hf.1.comesTo hd hnode
  cases ho.eq_ok_of_run hv
  exact ⟨f.set v r, ho.bind_ok (comesTo_pure _), hf.2 v r⟩

/-- The part of a record that comes from one field, where the other fields can be read.
The induction is on the members; the reading without the field goes along and shows that
no other member fails. -/
theorem readMembers_part {part : ρ → σ} {value : Reader σ} {set : σ → ρ → ρ}
    (hset : ∀ v r, part (set v r) = v)
    (hfield : fields.find? (·.name == name) = some (field name value set))
    (helse : ∀ f ∈ fields, f.name ≠ name → Elsewhere part f)
    {p : Place} (hd : p.document.isWhole = true) {members : List (Node × Node)}
    (hmembers : ∀ m ∈ members, m.1.isWhole = true ∧ m.2.isWhole = true)
    {outcomes : List (Except ReadError σ)}
    (houtcomes : List.Forall₂ (fun m o => ComesTo (value (p.member m.1) m.2) o)
      (p.document.membersUnder name members) outcomes)
    {given givenApart : List String}
    (hgiven : ∀ other, other ≠ name → given.contains other = givenApart.contains other)
    {r rApart a : ρ} {before after : Nat}
    (hapart : (readMembers (fields.filter (·.name != name)) p givenApart members rApart).run
      before = .ok (a, after)) :
    ∃ o, ComesTo (readMembers fields p given members r) o ∧
      o.map part = collect (.mismatch p.path (.duplicateField name)) (given.contains name)
        outcomes (part r) := by
  induction members generalizing outcomes given givenApart r rApart before with
  | nil =>
      cases houtcomes
      exact ⟨.ok r, comesTo_pure r, by simp [collect, Except.map]⟩
  | cons m rest ih =>
      obtain ⟨key, node⟩ := m
      simp only [List.forall_mem_cons] at hmembers
      obtain ⟨text, n, hkey, hapart⟩ := run_readMembers_cons hapart
      by_cases htext : text = name
      · subst htext
        have hunder : p.document.membersUnder text ((key, node) :: rest) =
            (key, node) :: p.document.membersUnder text rest := by
          simp [Document.membersUnder, hkey]
        rw [hunder] at houtcomes
        replace hapart := hapart.resolve_right fun ⟨_, _, _, hfind, _⟩ => by
          rw [find?_others_self] at hfind
          cases hfind
        cases houtcomes with
        | @cons _ o _ os ho hos =>
            cases hg : given.contains text with
            | true => exact ⟨_, comesTo_readMembers_twice hkey hfield hg, rfl⟩
            | false =>
                cases o with
                | error e =>
                    exact ⟨_, comesTo_readMembers_error hkey hfield hg ho.bind_error, rfl⟩
                | ok v =>
                    have hread : ComesTo ((field text value set).read r (p.member key) node)
                        (.ok (set v r)) := ho.bind_ok (comesTo_pure _)
                    have hgiven' (other : String) (hother : other ≠ text) :
                        (text :: given).contains other = givenApart.contains other := by
                      simpa [hother] using hgiven other hother
                    obtain ⟨o, hrest, hpart⟩ :=
                      ih hmembers.2 hos hgiven' (r := set v r) hapart.2
                    refine ⟨o, comesTo_readMembers_ok hkey hfield hg hread hrest, ?_⟩
                    rw [hpart, hset]
                    simp [collect, Except.bind]
      · have hunder : p.document.membersUnder name ((key, node) :: rest) =
            p.document.membersUnder name rest := by
          simp [Document.membersUnder, hkey, htext]
        rw [hunder] at houtcomes
        rw [find?_others htext] at hapart
        rcases hapart with ⟨hfind, hapart⟩ | ⟨f, r₀', n', hfind, hg, hread₀, hapart⟩
        · obtain ⟨o, hrest, hpart⟩ := ih hmembers.2 houtcomes hgiven hapart
          exact ⟨o, comesTo_readMembers_ignored hkey hfind hmembers.1.2 hrest, hpart⟩
        · have hname : f.name = text := by simpa using List.find?_some hfind
          have hf := helse f (List.mem_of_find?_eq_some hfind) (hname ▸ htext)
          obtain ⟨r', hread, hr'⟩ := hf.comesTo (p := p.member key) hd hmembers.1.2 hread₀ r
          have hgiven' (other : String) (hother : other ≠ name) :
              (text :: given).contains other = (text :: givenApart).contains other := by
            simp only [List.contains_cons, hgiven other hother]
          obtain ⟨o, hrest, hpart⟩ := ih hmembers.2 houtcomes hgiven' (r := r') hapart
          refine ⟨o, comesTo_readMembers_ok hkey hfind ((hgiven text htext).trans hg)
            hread hrest, ?_⟩
          rw [hpart, hr']
          simp [Ne.symm htext]

theorem exists_outcomes {value : Reader σ} (hvalue : value.Congruent) {d₁ d₂ : Document}
    {R : Node → Node → Prop} (hR : Correspondence ordered d₁ d₂ R) (hwhole : WholeOnly R)
    {p₁ p₂ : Place} (hp : Beside ordered d₁ d₂ p₁ p₂) {members₁ members₂ : List (Node × Node)}
    (hmembers : List.Forall₂ (Entry ordered R) members₁ members₂) :
    ∃ outcomes₁ outcomes₂ : List (Except ReadError σ),
      List.Forall₂ (fun m o => ComesTo (value (p₁.member m.1) m.2) o) members₁ outcomes₁ ∧
      List.Forall₂ (fun m o => ComesTo (value (p₂.member m.1) m.2) o) members₂ outcomes₂ ∧
      List.Forall₂ (Matches ordered) outcomes₁ outcomes₂ := by
  induction hmembers with
  | nil => exact ⟨[], [], .nil, .nil, .nil⟩
  | cons hm hrest ih =>
      obtain ⟨outcomes₁, outcomes₂, h₁, h₂, houtcomes⟩ := ih
      obtain ⟨o₁, o₂, ho₁, ho₂, ho⟩ := hvalue hR hwhole (hp.member hm) (hR hm.2.2)
      exact ⟨o₁ :: outcomes₁, o₂ :: outcomes₂, .cons ho₁ h₁, .cons ho₂ h₂, .cons ho houtcomes⟩

end

/-! ## Whole documents -/

def Document.top (d : Document) : Place := { document := d, depth := 127 }

def Document.under (d : Document) (name : String) : List (Node × Node) :=
  match d.root with
  | some (.mapping _ members) => d.membersUnder name members
  | _ => []

def Document.isMapping (d : Document) : Bool :=
  match d.root with
  | some (.mapping ..) => true
  | _ => false

/-- Nothing is wrong with the text of the document, and it is a mapping. -/
def Document.isWellFormedMapping (d : Document) : Bool :=
  d.isMapping && d.isWhole && d.complete

theorem Document.isWellFormedMapping_iff {d : Document} :
    d.isWellFormedMapping = true ↔
      (∃ q members, d.root = some (.mapping q members)) ∧ d.isWhole = true ∧
        d.complete = true := by
  have hmapping : d.isMapping = true ↔ ∃ q members, d.root = some (.mapping q members) := by
    unfold isMapping
    split <;> simp_all
  simp only [isWellFormedMapping, Bool.and_eq_true, hmapping, and_assoc]

theorem read_eq_of_mapping {d : Document} {q : Properties} {members : List (Node × Node)}
    (hroot : d.root = some (.mapping q members)) (type : String) (fields : List (RecordField ρ))
    (initial : ρ) :
    read (readRecord type fields initial) initial d =
      match (readMembers fields d.top [] members initial).run 0 with
      | .ok (r, _) => if d.complete then .ok r else .error .unreadable
      | .error e => .error e := by
  simp only [read, hroot]
  change Except.bind ((readMembers fields d.top [] members initial).run 0) _ = _
  cases (readMembers fields d.top [] members initial).run 0 <;> rfl

/-- A document from which all but one field of a record can be read, the aliases being few
enough to read the record. -/
structure Separable (type : String) (fields : List (RecordField ρ)) (initial : ρ)
    (name : String) (d : Document) : Prop where
  wellFormed : d.isWellFormedMapping = true
  others : (read (readRecord type (fields.filter (·.name != name)) initial) initial d).isOk = true
  allowed : read (readRecord type fields initial) initial d ≠ .error .exhausted

theorem Separable.whole {type : String} {fields : List (RecordField ρ)} {initial : ρ}
    {name : String} {d : Document} (hd : Separable type fields initial name d) :
    d.isWhole = true :=
  (Document.isWellFormedMapping_iff.mp hd.wellFormed).2.1

theorem Separable.of_isOk {type : String} {fields : List (RecordField ρ)} {initial : ρ}
    {name : String} {d : Document} (hwell : d.isWellFormedMapping = true)
    (hothers : (read (readRecord type (fields.filter (·.name != name)) initial) initial d).isOk
      = true)
    (hall : (read (readRecord type fields initial) initial d).isOk = true) :
    Separable type fields initial name d := by
  refine ⟨hwell, hothers, fun h => ?_⟩
  rw [h] at hall
  cases hall

section

variable {fields : List (RecordField ρ)} {name type : String} {initial : ρ}
variable {part : ρ → σ} {value : Reader σ} {set : σ → ρ → ρ}

theorem Separable.read_part {d : Document} (hd : Separable type fields initial name d)
    (hset : ∀ v r, part (set v r) = v)
    (hfield : fields.find? (·.name == name) = some (field name value set))
    (helse : ∀ f ∈ fields, f.name ≠ name → Elsewhere part f)
    {outcomes : List (Except ReadError σ)}
    (houtcomes : List.Forall₂ (fun m o => ComesTo (value (d.top.member m.1) m.2) o)
      (d.under name) outcomes) :
    (read (readRecord type fields initial) initial d).map part =
      collect (.mismatch "" (.duplicateField name)) false outcomes (part initial) := by
  obtain ⟨hwell, hothers, hallowed⟩ := hd
  obtain ⟨⟨q, members, hroot⟩, hwhole, hcomplete⟩ := Document.isWellFormedMapping_iff.mp hwell
  rw [read_eq_of_mapping hroot] at hothers hallowed ⊢
  rw [Document.under, hroot] at houtcomes
  have hmembers := Node.haveWhole_iff.mp (Document.isWhole_root hwhole hroot)
  cases hrun : (readMembers (fields.filter (·.name != name)) d.top [] members initial).run 0 with
  | error e =>
      rw [hrun] at hothers
      cases hothers
  | ok result =>
      obtain ⟨a', after⟩ := result
      obtain ⟨o, ho, hpart⟩ := readMembers_part hset hfield helse (p := d.top) hwhole hmembers
        houtcomes (fun _ _ => rfl) (r := initial) hrun
      rw [List.contains_nil] at hpart
      refine Eq.trans ?_ hpart
      rcases ho 0 with h | h
      · simp [h] at hallowed
      · rw [← h]
        cases (readMembers fields d.top [] members initial).run 0 with
        | error e => rfl
        | ok result => simp [hcomplete, Except.map]

theorem mem_under {d : Document} (hd : d.isWhole = true) {m : Node × Node} (hm : m ∈ d.under name) :
    m.1.isWhole = true ∧ m.2.isWhole = true := by
  unfold Document.under at hm
  split at hm
  · rename_i q members hroot
    exact Node.haveWhole_iff.mp (Document.isWhole_root hd hroot) m (List.mem_of_mem_filter hm)
  · cases hm

/-- Where all other fields can be read, two documents that hold the same under the name of
one field agree on the part of the record that it fills. -/
theorem Separable.matches_part {d₁ d₂ : Document}
    (hd₁ : Separable type fields initial name d₁) (hd₂ : Separable type fields initial name d₂)
    (hvalue : value.Congruent) (hset : ∀ v r, part (set v r) = v)
    (hfield : fields.find? (·.name == name) = some (field name value set))
    (helse : ∀ f ∈ fields, f.name ≠ name → Elsewhere part f)
    (hsame : SameMembers ordered d₁ d₂ (d₁.under name) (d₂.under name)) :
    Matches ordered ((read (readRecord type fields initial) initial d₁).map part)
      ((read (readRecord type fields initial) initial d₂).map part) := by
  obtain ⟨R, hR, hmembers⟩ := hsame
  have hbeside : Beside ordered d₁ d₂ d₁.top d₂.top := ⟨rfl, rfl, rfl, fun _ => rfl, fun _ => rfl⟩
  obtain ⟨outcomes₁, outcomes₂, h₁, h₂, houtcomes⟩ := exists_outcomes hvalue
    (hR.onWhole hd₁.whole hd₂.whole) (wholeOnly_onWhole R) hbeside
    (forall₂_entry_onWhole hmembers (fun _ => mem_under hd₁.whole)
      (fun _ => mem_under hd₂.whole))
  rw [hd₁.read_part hset hfield helse h₁, hd₂.read_part hset hfield helse h₂]
  exact matches_collect _ houtcomes _ _

end

end Yaml

end ClusterMigration
