import ClusterMigration.Proofs.Json.Canonical
import ClusterMigration.Proofs.Yaml.Agreement
import Mathlib.Data.List.Pairwise
import Mathlib.Data.List.Perm.Basic

/-!
# Readers of mappings

Each member of a mapping is a step, and a mapping is read one step after the other. The
members of a record may stand in any order, up to which error comes first, because what is
stored for one field leaves the others alone. So may those of a value of any shape, because
they are sorted by key.
-/

namespace ClusterMigration

namespace Yaml

variable {α σ ρ : Type} {ordered : Bool}

/-! ## Steps -/

/-- What a member does to what has been read before it. -/
abbrev Step (σ : Type) := σ → Except ReadError σ

namespace Step

def run : List (Step σ) → Step σ
  | [] => .ok
  | step :: rest => fun s => (step s).bind (run rest)

def Matches (ordered : Bool) (step₁ step₂ : Step σ) : Prop :=
  ∀ s, Yaml.Matches ordered (step₁ s) (step₂ s)

theorem matches_run {steps₁ steps₂ : List (Step σ)}
    (h : List.Forall₂ (Matches ordered) steps₁ steps₂) :
    Matches ordered (run steps₁) (run steps₂) := by
  induction h with
  | nil => exact fun s => .refl _
  | cons hstep _ ih => exact fun s => (hstep s).bind ih

/-- Either of two steps may come first, up to which error does. -/
def Commute (step₁ step₂ : Step σ) : Prop :=
  ∀ s, Yaml.Matches false ((step₁ s).bind step₂) ((step₂ s).bind step₁)

theorem Commute.symm {step₁ step₂ : Step σ} (h : Commute step₁ step₂) : Commute step₂ step₁ :=
  fun s => (h s).symm

theorem commute_error (e : ReadError) (step : Step σ) : Commute (fun _ => .error e) step := by
  intro s
  cases hs : step s <;> exact .error nofun

theorem commute_ok (step : Step σ) : Commute .ok step := by
  intro s
  cases hs : step s <;> simpa only [Except.bind, hs] using Yaml.Matches.refl _

theorem matches_run_perm {steps₁ steps₂ : List (Step σ)} (hperm : steps₁.Perm steps₂)
    (h : steps₁.Pairwise Commute) : Matches false (run steps₁) (run steps₂) := by
  induction hperm with
  | nil => exact fun s => .refl _
  | cons step _ ih => exact fun s => (Yaml.Matches.refl _).bind (ih h.of_cons)
  | swap step₁ step₂ rest =>
      intro s
      have hassoc (first second : Step σ) :
          run (first :: second :: rest) s = ((first s).bind second).bind (run rest) := by
        simp only [run]
        cases first s <;> rfl
      have hcommute : Commute step₂ step₁ := (List.pairwise_cons.mp h).1 _ (by simp)
      rw [hassoc, hassoc]
      exact (hcommute s).bind fun s => .refl _
  | trans hperm _ ih₁ ih₂ =>
      have h₂ := (hperm.pairwise_iff Commute.symm).mp h
      exact fun s => (ih₁ h s).trans (ih₂ h₂ s)

/-! ### Steps of members -/

section

variable {d : Document} {R : Node → Node → Prop} {members₁ members members₂ : List (Node × Node)}
variable {Takes₁ Takes₂ : Node × Node → Step σ → Prop}

theorem pairwise_commute {steps : List (Step σ)}
    (hcommute : ∀ m m' step step', d.keyText? m.1 ≠ d.keyText? m'.1 → Takes₁ m step →
      Takes₁ m' step' → Commute step step')
    (htakes : List.Forall₂ Takes₁ members steps)
    (hkeys : (members.map fun m => d.keyText? m.1).Nodup) : steps.Pairwise Commute := by
  rw [List.Nodup, List.pairwise_map, List.pairwise_iff_getElem] at hkeys
  have hlength := htakes.length_eq
  rw [List.pairwise_iff_getElem]
  intro i j hi hj hij
  exact hcommute _ _ _ _ (hkeys i j (by omega) (by omega) hij) (htakes.get (by omega) hi)
    (htakes.get (by omega) hj)

/-- Mappings with the same members come to the same if their members do one by one, and if
members with different keys may change places. -/
theorem exists_matches_run
    (hone : ∀ m₁ m₂, Entry ordered R m₁ m₂ →
      ∃ step₁ step₂, Takes₁ m₁ step₁ ∧ Takes₂ m₂ step₂ ∧ Matches ordered step₁ step₂)
    (hcommute : ∀ m m' step step', d.keyText? m.1 ≠ d.keyText? m'.1 → Takes₁ m step →
      Takes₁ m' step' → Commute step step')
    (harranged : Arranged ordered d members₁ members)
    (hmembers : List.Forall₂ (Entry ordered R) members members₂) :
    ∃ steps₁ steps₂, List.Forall₂ Takes₁ members₁ steps₁ ∧
      List.Forall₂ Takes₂ members₂ steps₂ ∧ Matches ordered (run steps₁) (run steps₂) := by
  have haligned : ∃ steps steps₂, List.Forall₂ Takes₁ members steps ∧
      List.Forall₂ Takes₂ members₂ steps₂ ∧ List.Forall₂ (Matches ordered) steps steps₂ := by
    clear harranged
    induction hmembers with
    | nil => exact ⟨[], [], .nil, .nil, .nil⟩
    | cons hm _ ih =>
        obtain ⟨step₁, step₂, h₁, h₂, hstep⟩ := hone _ _ hm
        obtain ⟨steps₁, steps₂, hs₁, hs₂, hsteps⟩ := ih
        exact ⟨step₁ :: steps₁, step₂ :: steps₂, .cons h₁ hs₁, .cons h₂ hs₂, .cons hstep hsteps⟩
  obtain ⟨steps, steps₂, h, h₂, hsteps⟩ := haligned
  cases harranged with
  | refl => exact ⟨steps, steps₂, h, h₂, matches_run hsteps⟩
  | perm hfree hperm hkeys =>
      subst hfree
      obtain ⟨steps₁, h₁, hperm⟩ := List.perm_comp_forall₂ hperm h
      have hpairwise := pairwise_commute hcommute h₁ hkeys
      exact ⟨steps₁, steps₂, h₁, h₂,
        fun s => (matches_run_perm hperm hpairwise s).trans (matches_run hsteps s)⟩

end

end Step

/-! ## Keys -/

/-- What a key is read as. -/
def keyOutcome (expected : String) (p : Place) (key : Node) : Except ReadError String :=
  match p.document.standing key with
  | none | some .cut => .error .unreadable
  | some (.scalar _ _ text) => .ok text
  | some n => .error (.mismatch p.path (n.mismatch expected))

theorem comesTo_readTextAs (expected : String) (p : Place) (key : Node) :
    ComesTo (readTextAs expected p key) (keyOutcome expected p key) := by
  have hresolve := comesTo_resolve p key
  unfold keyOutcome
  cases hs : p.document.standing key with
  | none =>
      rw [hs] at hresolve
      exact hresolve.bind_error
  | some n =>
      rw [hs] at hresolve
      refine hresolve.bind_ok ?_
      cases n with
      | scalar q form text => exact comesTo_pure text
      | sequence | mapping | «alias» | cut => exact comesTo_throw _

theorem keyOutcome_eq_ok_iff {expected : String} {p : Place} {key : Node} {text : String} :
    keyOutcome expected p key = .ok text ↔ p.document.keyText? key = some text := by
  unfold keyOutcome Document.keyText?
  cases p.document.standing key with
  | none => simp
  | some n => cases n <;> simp

theorem comesTo_key {p : Place} {key : Node} {text : String} (expected : String)
    (h : p.document.keyText? key = some text) :
    ComesTo (readTextAs expected p key) (.ok text) :=
  keyOutcome_eq_ok_iff.mpr h ▸ comesTo_readTextAs expected p key

section

variable {d₁ d₂ : Document} {R : Node → Node → Prop} {p₁ p₂ : Place}

theorem matches_keyOutcome (hp : Beside ordered d₁ d₂ p₁ p₂) {key₁ key₂ : Node}
    (h : Related ordered d₁ d₂ R key₁ key₂) (expected : String) :
    Matches ordered (keyOutcome expected p₁ key₁) (keyOutcome expected p₂ key₂) := by
  unfold keyOutcome
  rw [hp.left, hp.right]
  unfold Related at h
  generalize d₁.standing key₁ = s₁ at h ⊢
  generalize d₂.standing key₂ = s₂ at h ⊢
  cases h with
  | none => exact .refl _
  | some halike =>
      cases halike with
      | scalar h => exact .ok _
      | sequence htag hitems => exact .error fun h => by rw [hp.path h]; rfl
      | mapping htag harranged hmembers => exact .error fun h => by rw [hp.path h]; rfl
      | cut => exact .refl _

end

/-! ## Records -/

def RecordField.step (f : RecordField ρ) (path : String) (outcome : Except ReadError f.α) :
    Step ((String → Bool) × ρ) := fun s =>
  if s.1 f.name then .error (.mismatch path (.duplicateField f.name))
  else outcome.map fun a => (fun name => name == f.name || s.1 name, f.set a s.2)

/-- What is stored for either of two fields leaves alone what is stored for the other. -/
def RecordField.Apart (f g : RecordField ρ) : Prop :=
  ∀ a b r, f.set a (g.set b r) = g.set b (f.set a r)

instance : Std.Symm (@RecordField.Apart ρ) := ⟨fun _ _ h a b r => (h b a r).symm⟩

/-- Every field has a reader that goes by what the nodes stand for, and is stored on its own. -/
structure FieldsCongruent (fields : List (RecordField ρ)) : Prop where
  values : ∀ f ∈ fields, f.value.Congruent
  apart : fields.Pairwise RecordField.Apart

theorem RecordField.step_eq_ok_iff {f : RecordField ρ} {path : String}
    {outcome : Except ReadError f.α} {s t : (String → Bool) × ρ} :
    f.step path outcome s = .ok t ↔ s.1 f.name = false ∧
      ∃ a, outcome = .ok a ∧ (fun name => name == f.name || s.1 name, f.set a s.2) = t := by
  unfold RecordField.step
  cases hgiven : s.1 f.name with
  | true => exact iff_of_false nofun nofun
  | false =>
      cases outcome with
      | error e => exact iff_of_false nofun fun ⟨_, _, h, _⟩ => nomatch h
      | ok a =>
          constructor
          · rintro ⟨⟩
            exact ⟨rfl, a, rfl, rfl⟩
          · rintro ⟨-, _, ⟨⟩, rfl⟩
            rfl

/-- A field that can be given after another can be given before it. -/
theorem RecordField.exchange {f g : RecordField ρ} (hapart : f.name ≠ g.name → f.Apart g)
    {path : String} {o : Except ReadError f.α} {o' : Except ReadError g.α}
    {s t : (String → Bool) × ρ} (h : (f.step path o s).bind (g.step path o') = .ok t) :
    (g.step path o' s).bind (f.step path o) = .ok t := by
  obtain ⟨_, hfirst, hsecond⟩ := bind_eq_ok_iff.mp h
  obtain ⟨hf, a, rfl, rfl⟩ := step_eq_ok_iff.mp hfirst
  obtain ⟨hg, b, rfl, rfl⟩ := step_eq_ok_iff.mp hsecond
  obtain ⟨hother, hg⟩ := Bool.or_eq_false_iff.mp hg
  have hname : f.name ≠ g.name := (beq_eq_false_iff_ne.mp hother).symm
  have hf' : (f.name == g.name || s.1 f.name) = false := by simp [hf, hname]
  refine bind_eq_ok_iff.mpr
    ⟨_, step_eq_ok_iff.mpr ⟨hg, b, rfl, rfl⟩, step_eq_ok_iff.mpr ⟨hf', a, rfl, ?_⟩⟩
  exact Prod.ext (funext fun name => Bool.or_left_comm ..) (hapart hname a b s.2)

theorem RecordField.commute_step {f g : RecordField ρ} (hapart : f.name ≠ g.name → f.Apart g)
    (path : String) (o : Except ReadError f.α) (o' : Except ReadError g.α) :
    Step.Commute (f.step path o) (g.step path o') :=
  fun _ => .of_ok_iff fun _ =>
    ⟨exchange hapart, exchange fun hne a b r => (hapart hne.symm b a r).symm⟩

inductive Takes (fields : List (RecordField ρ)) (p : Place) :
    Node × Node → Step ((String → Bool) × ρ) → Prop
  | fails {m : Node × Node} {e : ReadError}
      (hkey : keyOutcome "field identifier" p m.1 = .error e) : Takes fields p m fun _ => .error e
  | passes {m : Node × Node} {name : String}
      (hkey : keyOutcome "field identifier" p m.1 = .ok name)
      (hfind : fields.find? (·.name == name) = none) (hwhole : m.2.isWhole = true) :
      Takes fields p m .ok
  | gives {m : Node × Node} {f : RecordField ρ} {outcome : Except ReadError f.α}
      (hkey : keyOutcome "field identifier" p m.1 = .ok f.name)
      (hfind : fields.find? (·.name == f.name) = some f)
      (hvalue : ComesTo (f.value (p.member m.1) m.2) outcome) :
      Takes fields p m (f.step p.path outcome)

section

variable {fields : List (RecordField ρ)}

theorem Takes.commute (hapart : fields.Pairwise RecordField.Apart) {p : Place}
    {m m' : Node × Node} {step step' : Step ((String → Bool) × ρ)} (h : Takes fields p m step)
    (h' : Takes fields p m' step') : Step.Commute step step' := by
  cases h with
  | fails hkey => exact Step.commute_error _ _
  | passes hkey hfind hwhole => exact Step.commute_ok _
  | @gives f outcome hkey hfind hvalue =>
      cases h' with
      | fails hkey' => exact (Step.commute_error _ _).symm
      | passes hkey' hfind' hwhole' => exact (Step.commute_ok _).symm
      | @gives g outcome' hkey' hfind' hvalue' =>
          refine RecordField.commute_step (fun hne => ?_) _ _ _
          refine hapart.forall (List.mem_of_find?_eq_some hfind)
            (List.mem_of_find?_eq_some hfind') ?_
          rintro rfl
          exact hne rfl

section

variable {p : Place} {given : List String} {key node : Node} {rest : List (Node × Node)} {r : ρ}
  {text : String}

theorem comesTo_readMembers_ignored {o : Except ReadError ρ}
    (hkey : p.document.keyText? key = some text)
    (hfind : fields.find? (·.name == text) = none) (hnode : node.isWhole = true)
    (hrest : ComesTo (readMembers fields p given rest r) o) :
    ComesTo (readMembers fields p given ((key, node) :: rest) r) o := by
  refine (comesTo_key _ hkey).bind_ok ?_
  simpa only [hfind, if_pos hnode] using hrest

theorem comesTo_readMembers_twice {f : RecordField ρ}
    (hkey : p.document.keyText? key = some text)
    (hfind : fields.find? (·.name == text) = some f) (hgiven : given.contains text = true) :
    ComesTo (readMembers fields p given ((key, node) :: rest) r)
      (.error (.mismatch p.path (.duplicateField text))) := by
  refine (comesTo_key _ hkey).bind_ok ?_
  simp only [hfind, if_pos hgiven]
  exact comesTo_throw _

theorem comesTo_readMembers_error {f : RecordField ρ} {e : ReadError}
    (hkey : p.document.keyText? key = some text)
    (hfind : fields.find? (·.name == text) = some f) (hgiven : given.contains text = false)
    (hread : ComesTo (f.read r (p.member key) node) (.error e)) :
    ComesTo (readMembers fields p given ((key, node) :: rest) r) (.error e) := by
  refine (comesTo_key _ hkey).bind_ok ?_
  simp only [hfind, hgiven]
  exact hread.bind_error

theorem comesTo_readMembers_ok {f : RecordField ρ} {r' : ρ} {o : Except ReadError ρ}
    (hkey : p.document.keyText? key = some text)
    (hfind : fields.find? (·.name == text) = some f) (hgiven : given.contains text = false)
    (hread : ComesTo (f.read r (p.member key) node) (.ok r'))
    (hrest : ComesTo (readMembers fields p (text :: given) rest r') o) :
    ComesTo (readMembers fields p given ((key, node) :: rest) r) o := by
  refine (comesTo_key _ hkey).bind_ok ?_
  simp only [hfind, hgiven]
  exact hread.bind_ok hrest

end

theorem comesTo_readMembers {p : Place} {members : List (Node × Node)}
    {steps : List (Step ((String → Bool) × ρ))}
    (h : List.Forall₂ (Takes fields p) members steps) (given : List String) (r : ρ) :
    ComesTo (readMembers fields p given members r)
      ((Step.run steps (given.contains, r)).map Prod.snd) := by
  induction h generalizing given r with
  | nil => exact comesTo_pure r
  | @cons m _ _ _ hm _ ih =>
      obtain ⟨key, node⟩ := m
      cases hm with
      | fails hkey =>
          have hread := comesTo_readTextAs "field identifier" p key
          rw [hkey] at hread
          exact hread.bind_error
      | passes hkey hfind hwhole =>
          exact comesTo_readMembers_ignored (keyOutcome_eq_ok_iff.mp hkey) hfind hwhole
            (ih given r)
      | @gives f outcome hkey hfind hvalue =>
          have hkey := keyOutcome_eq_ok_iff.mp hkey
          simp only [Step.run, RecordField.step]
          cases hg : given.contains f.name with
          | true => exact comesTo_readMembers_twice hkey hfind hg
          | false =>
              cases outcome with
              | error e => exact comesTo_readMembers_error hkey hfind hg hvalue.bind_error
              | ok a =>
                  have hgiven : (fun name => name == f.name || given.contains name) =
                      (f.name :: given).contains := by
                    funext name
                    exact List.contains_cons.symm
                  simp only [Except.map, Except.bind, hgiven]
                  exact comesTo_readMembers_ok hkey hfind hg (hvalue.bind_ok (comesTo_pure _))
                    (ih _ _)

variable {d₁ d₂ : Document} {R : Node → Node → Prop} {p₁ p₂ : Place}

theorem exists_takes (hvalues : ∀ f ∈ fields, f.value.Congruent)
    (hR : Correspondence ordered d₁ d₂ R) (hwhole : WholeOnly R)
    (hp : Beside ordered d₁ d₂ p₁ p₂) {m₁ m₂ : Node × Node} (hm : Entry ordered R m₁ m₂) :
    ∃ step₁ step₂, Takes fields p₁ m₁ step₁ ∧ Takes fields p₂ m₂ step₂ ∧
      Step.Matches ordered step₁ step₂ := by
  have hkeys := matches_keyOutcome hp (hR hm.2.1) "field identifier"
  generalize hkey₁ : keyOutcome "field identifier" p₁ m₁.1 = o₁ at hkeys
  generalize hkey₂ : keyOutcome "field identifier" p₂ m₂.1 = o₂ at hkeys
  cases hkeys with
  | error he => exact ⟨_, _, .fails hkey₁, .fails hkey₂, fun _ => .error he⟩
  | ok name =>
      cases hfind : fields.find? (·.name == name) with
      | none =>
          exact ⟨_, _, .passes hkey₁ hfind (hwhole hm.2.2).1,
            .passes hkey₂ hfind (hwhole hm.2.2).2, fun _ => .refl _⟩
      | some f =>
          obtain rfl : f.name = name := by simpa using List.find?_some hfind
          obtain ⟨o₁, o₂, ho₁, ho₂, ho⟩ := hvalues f (List.mem_of_find?_eq_some hfind)
            hR hwhole (hp.member hm) (hR hm.2.2)
          refine ⟨_, _, .gives hkey₁ hfind ho₁, .gives hkey₂ hfind ho₂, fun s => ?_⟩
          unfold RecordField.step
          split
          · exact .error fun h => by rw [hp.path h]
          · exact ho.map _

theorem readMembers_agree (hfields : FieldsCongruent fields)
    (hR : Correspondence ordered d₁ d₂ R) (hwhole : WholeOnly R)
    (hp : Beside ordered d₁ d₂ p₁ p₂) {members₁ members members₂ : List (Node × Node)}
    (harranged : Arranged ordered d₁ members₁ members)
    (hmembers : List.Forall₂ (Entry ordered R) members members₂) (r : ρ) :
    Agree ordered (readMembers fields p₁ [] members₁ r) (readMembers fields p₂ [] members₂ r) := by
  obtain ⟨steps₁, steps₂, h₁, h₂, hsteps⟩ := Step.exists_matches_run
    (fun _ _ => exists_takes hfields.values hR hwhole hp)
    (fun _ _ _ _ _ => Takes.commute hfields.apart) harranged hmembers
  exact ⟨_, _, comesTo_readMembers h₁ [] r, comesTo_readMembers h₂ [] r, (hsteps _).map _⟩

end

theorem readRecord_eq (type : String) (fields : List (RecordField ρ)) (initial : ρ) (p : Place)
    (n : Node) :
    readRecord type fields initial p n = p.resolve n >>= fun n => match n with
      | .mapping _ members => p.enter >>= fun p => readMembers fields p [] members initial
      | .scalar q form text =>
        if form = .plain ∧ text = "" then pure initial
        else p.refuse (.scalar q form text) type
      | n => p.refuse n type := by
  unfold readRecord
  refine congrArg (p.resolve n >>= ·) (funext fun n => ?_)
  split
  · rfl
  · rfl
  · rename_i hmapping hempty
    split
    · exact absurd rfl (hmapping _ _)
    · rename_i q form text
      rw [if_neg]
      rintro ⟨rfl, rfl⟩
      exact hempty _ rfl
    · rfl

theorem readRecord_congruent (type : String) {fields : List (RecordField ρ)}
    (hfields : FieldsCongruent fields) (initial : ρ) :
    (readRecord type fields initial).Congruent := by
  intro ordered d₁ d₂ R hR hwhole p₁ p₂ hp v₁ v₂ h
  rw [readRecord_eq, readRecord_eq]
  refine Agree.resolve hp h fun n₁ n₂ hn => ?_
  have hrefuse : Agree ordered (p₁.refuse n₁ type : Reading ρ) (p₂.refuse n₂ type) :=
    Agree.refuse hp _ hn
  cases hn with
  | scalar h => exact h.empty hp _ _
  | sequence htag hitems => exact hrefuse
  | mapping htag harranged hmembers =>
      exact Agree.enter hp fun q₁ q₂ hq =>
        readMembers_agree hfields hR hwhole hq harranged hmembers initial
  | cut => exact hrefuse

/-! ## Values of any shape -/

/-- What a member of an object does with what its value comes to. The first key is asked for
in other words than the next ones. -/
def jsonStep (p : Place) (key : Node) (outcome : Except ReadError Json) :
    Step (Bool × List (String × Json)) := fun s =>
  (keyOutcome (if s.1 then "a string key" else "a string") p key).bind fun name =>
    outcome.map fun v => (false, Json.putMember name v s.2)

/-- What a member does where a value of any shape is read. -/
def TakesJson (value : Reader Json) (p : Place) (m : Node × Node)
    (step : Step (Bool × List (String × Json))) : Prop :=
  ∃ outcome, ComesTo (value (p.member m.1) m.2) outcome ∧ step = jsonStep p m.1 outcome

theorem jsonStep_eq_ok_iff {p : Place} {key : Node} {outcome : Except ReadError Json}
    {s t : Bool × List (String × Json)} :
    jsonStep p key outcome s = .ok t ↔ ∃ name, p.document.keyText? key = some name ∧
      ∃ v, outcome = .ok v ∧ (false, Json.putMember name v s.2) = t := by
  simp only [jsonStep, bind_eq_ok_iff, keyOutcome_eq_ok_iff]
  cases outcome <;> simp [Except.map]

theorem jsonStep_exchange {p : Place} {key key' : Node}
    (hne : p.document.keyText? key ≠ p.document.keyText? key') {o o' : Except ReadError Json}
    {s t : Bool × List (String × Json)}
    (h : (jsonStep p key o s).bind (jsonStep p key' o') = .ok t) :
    (jsonStep p key' o' s).bind (jsonStep p key o) = .ok t := by
  obtain ⟨_, hfirst, hsecond⟩ := bind_eq_ok_iff.mp h
  obtain ⟨name, hname, v, rfl, rfl⟩ := jsonStep_eq_ok_iff.mp hfirst
  obtain ⟨name', hname', v', rfl, rfl⟩ := jsonStep_eq_ok_iff.mp hsecond
  have hnames : name ≠ name' := by simpa [hname, hname'] using hne
  refine bind_eq_ok_iff.mpr ⟨_, jsonStep_eq_ok_iff.mpr ⟨name', hname', v', rfl, rfl⟩,
    jsonStep_eq_ok_iff.mpr ⟨name, hname, v, rfl, ?_⟩⟩
  exact Prod.ext rfl (Json.putMember_comm hnames s.2)

section

variable {value : Reader Json}

theorem TakesJson.commute {p : Place} {m m' : Node × Node}
    (hne : p.document.keyText? m.1 ≠ p.document.keyText? m'.1)
    {step step' : Step (Bool × List (String × Json))} (h : TakesJson value p m step)
    (h' : TakesJson value p m' step') : Step.Commute step step' := by
  obtain ⟨o, -, rfl⟩ := h
  obtain ⟨o', -, rfl⟩ := h'
  exact fun s => .of_ok_iff fun t => ⟨jsonStep_exchange hne, jsonStep_exchange hne.symm⟩

theorem comesTo_readJsonMembers {p : Place} {members : List (Node × Node)}
    {steps : List (Step (Bool × List (String × Json)))}
    (h : List.Forall₂ (TakesJson value p) members steps) (first : Bool) :
    ∃ o, ComesTo (readJsonMembers value p first members) o ∧
      ∀ ms, (o.map fun new => new.foldl (fun sorted m => Json.putMember m.1 m.2 sorted) ms) =
        (Step.run steps (first, ms)).map Prod.snd := by
  induction h generalizing first with
  | nil => exact ⟨.ok [], comesTo_pure [], fun _ => rfl⟩
  | @cons m _ _ _ hm _ ih =>
      obtain ⟨key, node⟩ := m
      obtain ⟨outcome, hvalue, rfl⟩ := hm
      have hread := comesTo_readTextAs (if first then "a string key" else "a string") p key
      generalize hkey : keyOutcome (if first then "a string key" else "a string") p key = k at hread
      have hstep (ms : List (String × Json)) : jsonStep p key outcome (first, ms) =
          k.bind fun name => outcome.map fun v => (false, Json.putMember name v ms) := by
        rw [← hkey]
        rfl
      simp only [Step.run, hstep]
      cases k with
      | error e => exact ⟨.error e, hread.bind_error, fun _ => rfl⟩
      | ok name =>
          cases outcome with
          | error e => exact ⟨.error e, hread.bind_ok hvalue.bind_error, fun _ => rfl⟩
          | ok v =>
              obtain ⟨o, ho, heq⟩ := ih false
              refine ⟨o.map ((name, v) :: ·), hread.bind_ok (hvalue.bind_ok ho.bind_pure), ?_⟩
              intro ms
              refine Eq.trans ?_ (heq (Json.putMember name v ms))
              cases o <;> rfl

variable {d₁ d₂ : Document} {R : Node → Node → Prop} {p₁ p₂ : Place}

theorem exists_takesJson (hvalue : value.Congruent) (hR : Correspondence ordered d₁ d₂ R)
    (hwhole : WholeOnly R) (hp : Beside ordered d₁ d₂ p₁ p₂) {m₁ m₂ : Node × Node}
    (hm : Entry ordered R m₁ m₂) :
    ∃ step₁ step₂, TakesJson value p₁ m₁ step₁ ∧ TakesJson value p₂ m₂ step₂ ∧
      Step.Matches ordered step₁ step₂ := by
  obtain ⟨o₁, o₂, ho₁, ho₂, ho⟩ := hvalue hR hwhole (hp.member hm) (hR hm.2.2)
  exact ⟨_, _, ⟨o₁, ho₁, rfl⟩, ⟨o₂, ho₂, rfl⟩, fun s =>
    (matches_keyOutcome hp (hR hm.2.1) _).bind fun name => ho.map _⟩

theorem readJsonMembers_agree (hvalue : value.Congruent) (hR : Correspondence ordered d₁ d₂ R)
    (hwhole : WholeOnly R) (hp : Beside ordered d₁ d₂ p₁ p₂)
    {members₁ members members₂ : List (Node × Node)}
    (harranged : Arranged ordered d₁ members₁ members)
    (hmembers : List.Forall₂ (Entry ordered R) members members₂) :
    Agree ordered (readJsonMembers value p₁ true members₁ >>= fun ms => pure (Json.ofMembers ms))
      (readJsonMembers value p₂ true members₂ >>= fun ms => pure (Json.ofMembers ms)) := by
  obtain ⟨steps₁, steps₂, h₁, h₂, hsteps⟩ := Step.exists_matches_run
    (fun _ _ => exists_takesJson hvalue hR hwhole hp)
    (fun _ _ _ _ hne => TakesJson.commute (hp.left ▸ hne)) harranged hmembers
  obtain ⟨o₁, ho₁, heq₁⟩ := comesTo_readJsonMembers h₁ true
  obtain ⟨o₂, ho₂, heq₂⟩ := comesTo_readJsonMembers h₂ true
  have hmatches := ((hsteps (true, [])).map Prod.snd).map Json.object
  rw [← heq₁, ← heq₂] at hmatches
  refine ⟨_, _, ho₁.bind_pure, ho₂.bind_pure, ?_⟩
  cases o₁ <;> cases o₂ <;> exact hmatches

end

theorem jsonOfFound_agree (f : Found) : Agree ordered (jsonOfFound f) (jsonOfFound f) := by
  cases f <;> first | exact Agree.pure _ | exact Agree.unreadable

theorem readJsonWithin_congruent (nesting : Nat) : (readJsonWithin nesting).Congruent := by
  induction nesting with
  | zero => exact fun _ _ _ _ _ _ _ _ _ _ _ _ => Agree.unreadable
  | succ nesting ih =>
      intro ordered d₁ d₂ R hR hwhole p₁ p₂ hp v₁ v₂ h
      refine Agree.resolve hp h fun n₁ n₂ hn => ?_
      have hlocal : Tag.isLocal n₁.properties.tag = Tag.isLocal n₂.properties.tag := by
        cases hn with
        | scalar h => exact h.isLocal
        | sequence htag hitems => exact congrArg _ htag
        | mapping htag harranged hmembers => exact congrArg _ htag
        | cut => rfl
      rw [hlocal]
      split
      · exact Agree.fail hp rfl
      · cases hn with
        | @scalar q₁ q₂ form₁ form₂ text h =>
            simp only [h.value]
            split
            · exact jsonOfFound_agree _
            · exact Agree.fail hp rfl
        | sequence htag hitems =>
            exact Agree.enter hp fun q₁ q₂ hq =>
              (readItems_agree ih hR hwhole hq hitems 0).bind fun vs => Agree.pure _
        | mapping htag harranged hmembers =>
            exact Agree.enter hp fun q₁ q₂ hq =>
              readJsonMembers_agree ih hR hwhole hq harranged hmembers
        | cut => exact Agree.unreadable

theorem readJson_congruent : readJson.Congruent := by
  intro ordered d₁ d₂ R hR hwhole p₁ p₂ hp v₁ v₂ h
  unfold readJson
  rw [hp.depth]
  exact readJsonWithin_congruent _ hR hwhole hp h

end Yaml

end ClusterMigration
