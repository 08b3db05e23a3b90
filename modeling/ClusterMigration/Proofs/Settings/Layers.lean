import ClusterMigration.Proofs.Text.Words
import ClusterMigration.Settings.Environment
import ClusterMigration.Settings.Overrides
import Mathlib.Logic.Function.Basic

/-!
# Settings in layers

What the environment and the command line make of the settings that were there before. Each
setting has a variable and a flag of its own, and nothing else decides about it. The main
statement is `layers_prevail`.
-/

namespace ClusterMigration

namespace Settings

inductive TextField where
  | outputDirectory | hostname | sourceRoot | masterConfig | registriesConfig | crioConfig
  deriving DecidableEq

inductive Switch where
  | manifests | reporting | debug
  deriving DecidableEq

namespace TextField

def variableName : TextField → String
  | outputDirectory => "CPMA_OUTPUT_DIR"
  | hostname => "CPMA_HOSTNAME"
  | sourceRoot => "CPMA_SOURCE_ROOT"
  | masterConfig => "CPMA_MASTER_CONFIG_FILE"
  | registriesConfig => "CPMA_REGISTRIES_CONFIG_FILE"
  | crioConfig => "CPMA_CRIO_CONFIG_FILE"

def value : TextField → Settings → String
  | outputDirectory, s => s.outputDirectory
  | hostname, s => s.hostname
  | sourceRoot, s => s.sourceRoot
  | masterConfig, s => s.sources.masterConfig
  | registriesConfig, s => s.sources.registriesConfig
  | crioConfig, s => s.sources.crioConfig

def flag : TextField → Overrides → Option String
  | outputDirectory, o => o.outputDirectory
  | hostname, o => o.hostname
  | sourceRoot, o => o.sourceRoot
  | masterConfig, o => o.masterConfig
  | registriesConfig, o => o.registriesConfig
  | crioConfig, o => o.crioConfig

end TextField

namespace Switch

def variableName : Switch → String
  | manifests => "CPMA_MANIFESTS"
  | reporting => "CPMA_REPORTING"
  | debug => "CPMA_DEBUG"

def value : Switch → Settings → Bool
  | manifests, s => s.manifests
  | reporting, s => s.reporting
  | debug, s => s.debug

def flag : Switch → Overrides → Bool
  | manifests, o => o.noManifests
  | reporting, o => o.noReporting
  | debug, o => o.debug

/-- What the flag makes of the switch: it turns debugging on and the others off. -/
def flagged : Switch → Overrides → Bool → Bool
  | manifests, o, b => b && !o.noManifests
  | reporting, o, b => b && !o.noReporting
  | debug, o, b => b || o.debug

/-- The order in which the variables of the switches are read. -/
def inOrder : List Switch := [manifests, reporting, debug]

end Switch

def words : Bool → List String
  | true => ["true", "1", "yes"]
  | false => ["false", "0", "no"]

/-- Blanks around the word and capitals in it make no difference. -/
def Means (text : String) (b : Bool) : Prop := ∃ word ∈ words b, Spells text word

namespace Switch

/-- What the environment makes of a switch. -/
inductive Stands (k : Switch) (s : Settings) (env : Environment) : Bool → Prop where
  | unset (h : env k.variableName = none) : Stands k s env (k.value s)
  | set {text : String} {b : Bool} (h : env k.variableName = some text) (hmeans : Means text b) :
    Stands k s env b

def Garbled (k : Switch) (env : Environment) (text : String) : Prop :=
  env k.variableName = some text ∧ ∀ b, ¬ Means text b

end Switch

/-- The settings `t` come from `s`, and the command line prevails over the environment. -/
structure Layered (s : Settings) (env : Environment) (o : Overrides) (t : Settings) : Prop where
  texts (f : TextField) : f.value t = (f.flag o).getD ((env f.variableName).getD (f.value s))
  switches (k : Switch) : ∃ b, k.Stands s env b ∧ k.value t = k.flagged o b

/-- The first switch with a garbled variable is to blame. -/
def Refused (env : Environment) (e : SettingsError) : Prop :=
  ∃ earlier k later text, Switch.inOrder = earlier ++ k :: later ∧
    (∀ j ∈ earlier, ∀ other, ¬ j.Garbled env other) ∧ k.Garbled env text ∧
    e = .invalidValue k.variableName text

inductive Setting where
  | text (f : TextField)
  | switch (k : Switch)
  deriving DecidableEq

namespace Setting

def variableName : Setting → String
  | text f => f.variableName
  | switch k => k.variableName

def value : Setting → Settings → String ⊕ Bool
  | text f, s => .inl (f.value s)
  | switch k, s => .inr (k.value s)

def flag : Setting → Overrides → Option String ⊕ Bool
  | text f, o => .inl (f.flag o)
  | switch k, o => .inr (k.flag o)

/-- Nothing is told in another way, except about the setting. -/
structure ToldApart (x : Setting) (env env' : Environment) (o o' : Overrides) : Prop where
  environment (name : String) (h : name ≠ x.variableName) : env' name = env name
  commandLine (y : Setting) (h : y ≠ x) : y.flag o' = y.flag o

end Setting

section Words

variable {text : String}

theorem isSmall_of_mem_words (b : Bool) : ∀ word ∈ words b, ∀ d ∈ word.toList, IsSmall d := by
  have hall : (words b).all (fun word => word.toList.all fun d => decide (IsSmall d)) = true := by
    cases b <;> decide
  intro word hword d hd
  have hletters := List.all_eq_true.mp hall word hword
  exact of_decide_eq_true (List.all_eq_true.mp hletters d hd)

theorem means_iff (b : Bool) : Means text b ↔ (Blank.trim text).toLower ∈ words b := by
  constructor
  · rintro ⟨word, hword, hspells⟩
    rw [(toLower_trim_eq_iff (isSmall_of_mem_words b word hword) text).mpr hspells]
    exact hword
  · intro hword
    exact ⟨_, hword, (toLower_trim_eq_iff (isSmall_of_mem_words b _ hword) text).mp rfl⟩

theorem switch?_eq_some_iff (b : Bool) : switch? text = some b ↔ Means text b := by
  rw [means_iff]
  unfold switch?
  generalize (Blank.trim text).toLower = word
  split <;> cases b <;> simp_all [words]

example : switch? " \t\u00A0YeS\n" = some true ∧ switch? "on" = none := by decide +kernel

theorem switch?_eq_none_iff : switch? text = none ↔ ∀ b, ¬ Means text b := by
  simp only [← switch?_eq_some_iff, Option.eq_none_iff_forall_ne_some, ne_eq]

theorem Means.unique {b b' : Bool} (h : Means text b) (h' : Means text b') : b = b' := by
  rw [← switch?_eq_some_iff] at h h'
  exact Option.some.inj (h.symm.trans h')

end Words

namespace Switch

variable {s : Settings} {env : Environment} {k : Switch}

def complaint (env : Environment) (k : Switch) : Option SettingsError :=
  match env k.variableName with
  | none => none
  | some text => if switch? text = none then some (.invalidValue k.variableName text) else none

/-- The switch as the environment leaves it, where nothing is wrong with its variable. -/
def settled (s : Settings) (env : Environment) (k : Switch) : Bool :=
  ((env k.variableName).bind switch?).getD (k.value s)

theorem complaint_eq_some_iff {e : SettingsError} :
    k.complaint env = some e ↔
      ∃ text, k.Garbled env text ∧ e = .invalidValue k.variableName text := by
  unfold complaint Garbled
  cases henv : env k.variableName with
  | none => simp
  | some text =>
      simp only [switch?_eq_none_iff, Option.ite_none_right_eq_some, Option.some.injEq]
      constructor
      · rintro ⟨hnever, rfl⟩
        exact ⟨text, ⟨rfl, hnever⟩, rfl⟩
      · rintro ⟨_, ⟨rfl, hnever⟩, rfl⟩
        exact ⟨hnever, rfl⟩

theorem complaint_eq_none_iff : k.complaint env = none ↔ ∀ text, ¬ k.Garbled env text := by
  simp only [Option.eq_none_iff_forall_ne_some, ne_eq, complaint_eq_some_iff]
  constructor
  · intro h text hgarbled
    exact h _ ⟨text, hgarbled, rfl⟩
  · rintro h e ⟨text, hgarbled, _⟩
    exact h text hgarbled

theorem switchFrom_eq (s : Settings) (env : Environment) (k : Switch) :
    switchFrom env k.variableName (k.value s) =
      match k.complaint env with
      | some e => .error e
      | none => .ok (k.settled s env) := by
  unfold switchFrom complaint settled
  cases env k.variableName with
  | none => rfl
  | some text =>
      cases hswitch : switch? text with
      | none => simp [hswitch]
      | some b => simp [hswitch]

theorem stands_settled (h : k.complaint env = none) : k.Stands s env (k.settled s env) := by
  have hclear := complaint_eq_none_iff.mp h
  unfold settled
  cases henv : env k.variableName with
  | none => exact .unset henv
  | some text =>
      cases hswitch : switch? text with
      | none => exact absurd ⟨henv, switch?_eq_none_iff.mp hswitch⟩ (hclear text)
      | some b => simpa [hswitch] using Stands.set henv ((switch?_eq_some_iff b).mp hswitch)

theorem Stands.complaint_eq_none {b : Bool} (h : k.Stands s env b) : k.complaint env = none := by
  rw [complaint_eq_none_iff]
  rintro text ⟨htext, hnever⟩
  cases h with
  | unset hunset => rw [hunset] at htext; cases htext
  | set hset hmeans =>
      rw [hset] at htext
      cases htext
      exact hnever _ hmeans

theorem Stands.unique {b b' : Bool} (h : k.Stands s env b) (h' : k.Stands s env b') :
    b = b' := by
  cases h with
  | unset hunset =>
      cases h' with
      | unset => rfl
      | set hset => rw [hunset] at hset; cases hset
  | set hset hmeans =>
      cases h' with
      | unset hunset => rw [hunset] at hset; cases hset
      | set hset' hmeans' =>
          rw [hset] at hset'
          cases hset'
          exact hmeans.unique hmeans'

theorem Stands.congr {env' : Environment} {b : Bool}
    (henv : env' k.variableName = env k.variableName) (h : k.Stands s env b) :
    k.Stands s env' b := by
  cases h with
  | unset hunset => exact .unset (henv.trans hunset)
  | set hset hmeans => exact .set (henv.trans hset) hmeans

end Switch

section Layers

variable {s t t' : Settings} {env env' : Environment} {o o' : Overrides}

theorem eq_of_values (htexts : ∀ f : TextField, f.value t = f.value t')
    (hswitches : ∀ k : Switch, k.value t = k.value t') : t = t' := by
  obtain ⟨_, _, _, ⟨_, _, _⟩, _, _, _⟩ := t
  obtain ⟨_, _, _, ⟨_, _, _⟩, _, _, _⟩ := t'
  cases htexts .outputDirectory
  cases htexts .hostname
  cases htexts .sourceRoot
  cases htexts .masterConfig
  cases htexts .registriesConfig
  cases htexts .crioConfig
  cases hswitches .manifests
  cases hswitches .reporting
  cases hswitches .debug
  rfl

def fromEnvironment (s : Settings) (env : Environment) : Settings where
  outputDirectory := (env Variable.outputDirectory).getD s.outputDirectory
  hostname := (env Variable.hostname).getD s.hostname
  sourceRoot := (env Variable.sourceRoot).getD s.sourceRoot
  sources := {
    masterConfig := (env Variable.masterConfig).getD s.sources.masterConfig
    registriesConfig := (env Variable.registriesConfig).getD s.sources.registriesConfig
    crioConfig := (env Variable.crioConfig).getD s.sources.crioConfig }
  manifests := Switch.manifests.settled s env
  reporting := Switch.reporting.settled s env
  debug := Switch.debug.settled s env

theorem withEnvironment_eq (s : Settings) (env : Environment) :
    s.withEnvironment env =
      match Switch.inOrder.findSome? (Switch.complaint env) with
      | some e => .error e
      | none => .ok (fromEnvironment s env) := by
  have hmanifests : switchFrom env Variable.manifests s.manifests = _ :=
    Switch.switchFrom_eq s env .manifests
  have hreporting : switchFrom env Variable.reporting s.reporting = _ :=
    Switch.switchFrom_eq s env .reporting
  have hdebug : switchFrom env Variable.debug s.debug = _ :=
    Switch.switchFrom_eq s env .debug
  unfold withEnvironment Switch.inOrder
  rw [hmanifests, hreporting, hdebug]
  cases hm : Switch.complaint env .manifests with
  | some e => simp [hm]; rfl
  | none =>
      cases hr : Switch.complaint env .reporting with
      | some e => simp [hm, hr]; rfl
      | none =>
          cases hd : Switch.complaint env .debug with
          | some e => simp [hm, hr, hd]; rfl
          | none => simp [hm, hr, hd]; rfl

theorem run_eq (s : Settings) (env : Environment) (o : Overrides) :
    (s.withEnvironment env).map o.apply =
      match Switch.inOrder.findSome? (Switch.complaint env) with
      | some e => .error e
      | none => .ok (o.apply (fromEnvironment s env)) := by
  rw [withEnvironment_eq]
  split <;> rfl

theorem complaint_eq_none_of_findSome?
    (h : Switch.inOrder.findSome? (Switch.complaint env) = none) (k : Switch) :
    k.complaint env = none := by
  apply List.findSome?_eq_none_iff.mp h
  cases k <;> decide

theorem findSome?_complaint_of_layered (h : Layered s env o t) :
    Switch.inOrder.findSome? (Switch.complaint env) = none := by
  apply List.findSome?_eq_none_iff.mpr
  intro k _
  obtain ⟨b, hstands, _⟩ := h.switches k
  exact hstands.complaint_eq_none

theorem layered_of_clear (o : Overrides)
    (h : Switch.inOrder.findSome? (Switch.complaint env) = none) :
    Layered s env o (o.apply (fromEnvironment s env)) where
  texts f := by cases f <;> rfl
  switches k := by
    refine ⟨k.settled s env, Switch.stands_settled (complaint_eq_none_of_findSome? h k), ?_⟩
    cases k <;> rfl

theorem Layered.unique (h : Layered s env o t) (h' : Layered s env o t') : t = t' := by
  apply eq_of_values
  · intro f
    rw [h.texts f, h'.texts f]
  · intro k
    obtain ⟨b, hstands, hvalue⟩ := h.switches k
    obtain ⟨b', hstands', hvalue'⟩ := h'.switches k
    rw [hvalue, hvalue', hstands.unique hstands']

theorem run_eq_ok_iff :
    (s.withEnvironment env).map o.apply = .ok t ↔ Layered s env o t := by
  rw [run_eq]
  constructor
  · intro h
    split at h
    · cases h
    next hclear =>
      cases h
      exact layered_of_clear o hclear
  · intro h
    have hclear := findSome?_complaint_of_layered h
    rw [hclear]
    exact congrArg Except.ok ((layered_of_clear o hclear).unique h)

theorem run_eq_error_iff {e : SettingsError} :
    (s.withEnvironment env).map o.apply = .error e ↔ Refused env e := by
  have hfirst : (s.withEnvironment env).map o.apply = .error e ↔
      Switch.inOrder.findSome? (Switch.complaint env) = some e := by
    rw [run_eq]
    generalize Switch.inOrder.findSome? (Switch.complaint env) = found
    cases found <;> simp
  rw [hfirst, List.findSome?_eq_some_iff]
  unfold Refused
  simp only [Switch.complaint_eq_some_iff, Switch.complaint_eq_none_iff]
  constructor
  · rintro ⟨earlier, k, later, hsplit, ⟨text, hgarbled, he⟩, hbefore⟩
    exact ⟨earlier, k, later, text, hsplit, hbefore, hgarbled, he⟩
  · rintro ⟨earlier, k, later, text, hsplit, hbefore, hgarbled, he⟩
    exact ⟨earlier, k, later, hsplit, ⟨text, hgarbled, he⟩, hbefore⟩

theorem exists_refused_iff :
    (∃ e, Refused env e) ↔ ∃ (k : Switch) (text : String), k.Garbled env text := by
  constructor
  · rintro ⟨e, _, k, _, text, _, _, hgarbled, _⟩
    exact ⟨k, text, hgarbled⟩
  · rintro ⟨k, text, hgarbled⟩
    -- Some switch is garbled, so that the first one in order is found.
    cases hfind : Switch.inOrder.findSome? (Switch.complaint env) with
    | some e => exact ⟨e, run_eq_error_iff.mp (by rw [run_eq {} env {}, hfind])⟩
    | none =>
        have hclear := complaint_eq_none_of_findSome? hfind k
        exact absurd hgarbled (Switch.complaint_eq_none_iff.mp hclear text)

end Layers

namespace Setting

variable {s t t' : Settings} {env env' : Environment} {o o' : Overrides}

theorem variableName_injective {x y : Setting} (h : x.variableName = y.variableName) : x = y := by
  rcases x with f | k <;> rcases y with g | j
  · cases f <;> cases g <;> first | rfl | exact absurd h (by decide)
  · cases f <;> cases j <;> exact absurd h (by decide)
  · cases k <;> cases g <;> exact absurd h (by decide)
  · cases k <;> cases j <;> first | rfl | exact absurd h (by decide)

theorem value_eq (h : Layered s env o t) (h' : Layered s env' o' t') (y : Setting)
    (hvariable : env' y.variableName = env y.variableName) (hflag : y.flag o' = y.flag o) :
    y.value t' = y.value t := by
  cases y with
  | text f =>
      have hgiven : f.flag o' = f.flag o := Sum.inl.inj hflag
      have hset : env' f.variableName = env f.variableName := hvariable
      apply congrArg Sum.inl
      rw [h'.texts f, h.texts f, hgiven, hset]
  | switch k =>
      obtain ⟨b, hstands, hvalue⟩ := h.switches k
      obtain ⟨b', hstands', hvalue'⟩ := h'.switches k
      have hsame : b' = b := hstands'.unique (hstands.congr hvariable)
      have hgiven : k.flag o' = k.flag o := Sum.inr.inj hflag
      have hflagged : k.flagged o' b = k.flagged o b := by
        cases k <;> simp only [Switch.flag] at hgiven <;> simp only [Switch.flagged, hgiven]
      apply congrArg Sum.inr
      rw [hvalue', hvalue, hsame, hflagged]

theorem ToldApart.value_eq {x : Setting} (h : x.ToldApart env env' o o')
    (ht : Layered s env o t) (ht' : Layered s env' o' t') {y : Setting} (hne : y ≠ x) :
    y.value t' = y.value t := by
  apply Setting.value_eq ht ht' y
  · exact h.environment _ (fun hname => hne (variableName_injective hname))
  · exact h.commandLine y hne

end Setting

/-- Where all can be read, the command line prevails over the environment, and the environment
over what was there before. The run fails where a switch is garbled, and the first one is to
blame. What is told about one setting never changes another one. -/
theorem layers_prevail (s : Settings) (env : Environment) (o : Overrides) :
    (∀ t, (s.withEnvironment env).map o.apply = .ok t ↔ Layered s env o t) ∧
    ((∃ e, (s.withEnvironment env).map o.apply = .error e) ↔
      ∃ (k : Switch) (text : String), k.Garbled env text) ∧
    (∀ e, (s.withEnvironment env).map o.apply = .error e ↔ Refused env e) ∧
    ∀ (x : Setting) (env' : Environment) (o' : Overrides), x.ToldApart env env' o o' →
      ∀ t t', (s.withEnvironment env).map o.apply = .ok t →
        (s.withEnvironment env').map o'.apply = .ok t' →
        ∀ y, y ≠ x → y.value t' = y.value t := by
  refine ⟨fun t => run_eq_ok_iff, ?_, fun e => run_eq_error_iff, ?_⟩
  · simp only [run_eq_error_iff]
    exact exists_refused_iff
  · intro x env' o' happart t t' ht ht' y hne
    exact happart.value_eq (run_eq_ok_iff.mp ht) (run_eq_ok_iff.mp ht') hne

end Settings

end ClusterMigration
