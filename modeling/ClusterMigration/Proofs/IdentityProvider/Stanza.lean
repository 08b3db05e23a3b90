import ClusterMigration.IdentityProvider.Settings
import ClusterMigration.Proofs.Json.Record

/-!
# Where settings stand in a stanza

The settings that say where contents come from, kind by kind, and the members of the
stanza they are read from. A stanza that is written and read again gives the same ones.
-/

namespace ClusterMigration

open Json (MemberReturns Given RecordField TextAt field given_of_readRecord keeps_field last?
  last?_eq readRecord textAt_of_readRecord)

namespace StringSource

/-- The source that an object gives under a key, the empty one if it gives none. A member
that is null may count as none. -/
def At (key : String) (members : List (String × Json)) (source : StringSource) : Prop :=
  Given (fun v s => read v = .ok s ∨ v.isNull = true ∧ s = {}) {} key members source

variable {key : String} {ms ns : List (String × Json)} {a b : StringSource} {u v : Json}

theorem at_of_readRecord {ρ β : Type} {fields : List (RecordField ρ)} {type : String} {r s : ρ}
    {value : Json → Except Mismatch β} {set : β → ρ → ρ} (part : ρ → StringSource)
    (hread : readRecord type fields r (.object ms) = .ok s) (hr : part r = {})
    (hfind : fields.find? (·.name == key) = some (field key value set))
    (hset : ∀ v b r, value v = .ok b →
      read v = .ok (part (set b r)) ∨ v.isNull = true ∧ part (set b r) = {})
    (hkeeps : ∀ f ∈ fields, f.name ≠ key → f.Keeps part) : At key ms (part s) := by
  rw [At, ← hr]
  refine given_of_readRecord hread hfind (fun v b r hv => ?_) hkeeps
  rw [hr]
  exact hset v b r hv

theorem textAt_of_member? {text : String} (h : member? key ms = some text) :
    TextAt key ms text := by
  rw [TextAt, Given, last?_eq]
  unfold member? at h
  split at h
  · rename_i hfilter
    rw [hfilter]
    exact (Option.some.inj h).symm
  · rename_i k v hfilter
    rw [hfilter]
    cases v with
    | string s => exact congrArg Json.string (Option.some.inj h)
    | null | bool | integer | float | array | object => cases h
  · cases h

theorem textAt_of_ofMembers? (h : ofMembers? ms = some a) :
    TextAt "value" ms a.value ∧ TextAt "env" ms a.env ∧ TextAt "file" ms a.file ∧
      TextAt "keyFile" ms a.keyFile := by
  unfold ofMembers? at h
  obtain ⟨value, hvalue, h⟩ := Option.bind_eq_some_iff.mp h
  obtain ⟨env, henv, h⟩ := Option.bind_eq_some_iff.mp h
  obtain ⟨file, hfile, h⟩ := Option.bind_eq_some_iff.mp h
  obtain ⟨keyFile, hkeyFile, h⟩ := Option.bind_eq_some_iff.mp h
  cases h
  exact ⟨textAt_of_member? hvalue, textAt_of_member? henv, textAt_of_member? hfile,
    textAt_of_member? hkeyFile⟩

theorem read_object_eq_ok (h : read (.object ms) = .ok a) : ofMembers? ms = some a := by
  simp only [read] at h
  split at h
  · cases h
    assumption
  · cases h

theorem isPlain_of_read (h : read v = .ok a) : v.isPlain = false := by
  cases v with
  | null | bool | integer | float | array => cases h
  | string | object => rfl

theorem eq_of_returns (ha : read v = .ok a) (hb : read u = .ok b) (h : Json.Returns v u) :
    a = b := by
  cases v with
  | null | bool | integer | float | array => cases ha
  | string s =>
      obtain rfl := h.eq_string
      exact Except.ok.inj (ha.symm.trans hb)
  | object ms =>
      obtain ⟨ns, rfl, hmembers⟩ := h.object
      obtain ⟨hvalue, henv, hfile, hkey⟩ := textAt_of_ofMembers? (read_object_eq_ok ha)
      obtain ⟨hvalue', henv', hfile', hkey'⟩ := textAt_of_ofMembers? (read_object_eq_ok hb)
      cases a
      cases b
      congr 1
      · exact hvalue.eq hvalue' (hmembers _)
      · exact henv.eq henv' (hmembers _)
      · exact hfile.eq hfile' (hmembers _)
      · exact hkey.eq hkey' (hmembers _)

theorem At.eq (ha : At key ms a) (hb : At key ns b)
    (hreturns : MemberReturns (last? key ms) (last? key ns)) : a = b := by
  rw [At, Given] at ha hb
  revert ha hb
  generalize last? key ms = x at hreturns ⊢
  generalize last? key ns = y at hreturns ⊢
  intro ha hb
  cases hreturns with
  | absent => exact ha.trans hb.symm
  | lost hplain =>
      rcases ha with ha | ⟨_, ha⟩
      · rw [isPlain_of_read ha] at hplain
        cases hplain
      · exact ha.trans hb.symm
  | @kept v u h =>
      rcases ha with ha | ⟨hnull, ha⟩
      · rcases hb with hb | ⟨hnull, _⟩
        · exact eq_of_returns ha hb h
        · cases v with
          | null | bool | integer | float | array => cases ha
          | string s =>
              obtain rfl := h.eq_string
              cases hnull
          | object ms =>
              obtain ⟨ns, rfl, _⟩ := h.object
              cases hnull
      · rcases hb with hb | ⟨_, hb⟩
        · have hplain := h.isPlain (by cases v <;> first | rfl | cases hnull)
          rw [isPlain_of_read hb] at hplain
          cases hplain
        · exact ha.trans hb.symm

end StringSource

namespace IdentityProvider

namespace Settings

open StringSource (at_of_readRecord)

/-- The settings that say where contents come from stand in the stanza under their keys. -/
def StandIn (ms : List (String × Json)) : Settings → Prop
  | basicAuth s =>
    TextAt "ca" ms s.ca ∧ TextAt "certFile" ms s.certFile ∧ TextAt "keyFile" ms s.keyFile
  | gitHub s => TextAt "ca" ms s.ca ∧ StringSource.At "clientSecret" ms s.clientSecret
  | gitLab s => TextAt "ca" ms s.ca ∧ StringSource.At "clientSecret" ms s.clientSecret
  | google s => StringSource.At "clientSecret" ms s.clientSecret
  | htpasswd s => TextAt "file" ms s.file
  | keystone s =>
    TextAt "ca" ms s.ca ∧ TextAt "certFile" ms s.certFile ∧ TextAt "keyFile" ms s.keyFile
  | ldap s => TextAt "ca" ms s.ca ∧ StringSource.At "bindPassword" ms s.bindPassword
  | openId s => TextAt "ca" ms s.ca ∧ StringSource.At "clientSecret" ms s.clientSecret
  | requestHeader s => TextAt "clientCA" ms s.clientCa

variable {ms : List (String × Json)}

theorem BasicAuth.standIn {s : BasicAuth} (h : BasicAuth.read (.object ms) = .ok s) :
    StandIn ms (.basicAuth s) := by
  refine ⟨textAt_of_readRecord BasicAuth.ca h rfl rfl (fun _ _ => rfl) ?_,
    textAt_of_readRecord BasicAuth.certFile h rfl rfl (fun _ _ => rfl) ?_,
    textAt_of_readRecord BasicAuth.keyFile h rfl rfl (fun _ _ => rfl) ?_⟩
  all_goals simp [BasicAuth.fields, keeps_field]

theorem GitHub.standIn {s : GitHub} (h : GitHub.read (.object ms) = .ok s) :
    StandIn ms (.gitHub s) := by
  refine ⟨textAt_of_readRecord GitHub.ca h rfl rfl (fun _ _ => rfl) ?_,
    at_of_readRecord GitHub.clientSecret h rfl rfl (fun _ _ _ => .inl) ?_⟩
  all_goals simp [GitHub.fields, keeps_field]

theorem GitLab.standIn {s : GitLab} (h : GitLab.read (.object ms) = .ok s) :
    StandIn ms (.gitLab s) := by
  refine ⟨textAt_of_readRecord GitLab.ca h rfl rfl (fun _ _ => rfl) ?_,
    at_of_readRecord GitLab.clientSecret h rfl rfl (fun _ _ _ => .inl) ?_⟩
  all_goals simp [GitLab.fields, keeps_field]

theorem Google.standIn {s : Google} (h : Google.read (.object ms) = .ok s) :
    StandIn ms (.google s) := by
  refine at_of_readRecord Google.clientSecret h rfl rfl (fun _ _ _ => .inl) ?_
  simp [Google.fields, keeps_field]

theorem Htpasswd.standIn {s : Htpasswd} (h : Htpasswd.read (.object ms) = .ok s) :
    StandIn ms (.htpasswd s) := by
  refine textAt_of_readRecord Htpasswd.file h rfl rfl (fun _ _ => rfl) ?_
  simp [Htpasswd.fields]

theorem Keystone.standIn {s : Keystone} (h : Keystone.read (.object ms) = .ok s) :
    StandIn ms (.keystone s) := by
  refine ⟨textAt_of_readRecord Keystone.ca h rfl rfl (fun _ _ => rfl) ?_,
    textAt_of_readRecord Keystone.certFile h rfl rfl (fun _ _ => rfl) ?_,
    textAt_of_readRecord Keystone.keyFile h rfl rfl (fun _ _ => rfl) ?_⟩
  all_goals simp [Keystone.fields, keeps_field]

theorem Ldap.standIn {s : Ldap} (h : Ldap.read (.object ms) = .ok s) :
    StandIn ms (.ldap s) := by
  refine ⟨textAt_of_readRecord Ldap.ca h rfl rfl (fun _ _ => rfl) ?_,
    at_of_readRecord Ldap.bindPassword h rfl rfl (fun _ _ _ => .inl) ?_⟩
  all_goals simp [Ldap.fields, keeps_field]

theorem OpenId.standIn {s : OpenId} (h : OpenId.read (.object ms) = .ok s) :
    StandIn ms (.openId s) := by
  refine ⟨textAt_of_readRecord OpenId.ca h rfl rfl (fun _ _ => rfl) ?_,
    at_of_readRecord OpenId.clientSecret h rfl rfl (fun _ _ _ => .inl) ?_⟩
  all_goals simp [OpenId.fields, keeps_field]

theorem RequestHeader.standIn {s : RequestHeader} (h : RequestHeader.read (.object ms) = .ok s) :
    StandIn ms (.requestHeader s) := by
  refine textAt_of_readRecord RequestHeader.clientCa h rfl rfl (fun _ _ => rfl) ?_
  simp [RequestHeader.fields, keeps_field]

theorem standIn_of_read {k : Kind} {s : Settings} (h : Settings.read (.object ms) k = .ok s) :
    StandIn ms s := by
  cases k with
  | basicAuth =>
      obtain ⟨a, ha, rfl⟩ := Json.map_eq_ok.mp h
      exact BasicAuth.standIn ha
  | gitHub =>
      obtain ⟨a, ha, rfl⟩ := Json.map_eq_ok.mp h
      exact GitHub.standIn ha
  | gitLab =>
      obtain ⟨a, ha, rfl⟩ := Json.map_eq_ok.mp h
      exact GitLab.standIn ha
  | google =>
      obtain ⟨a, ha, rfl⟩ := Json.map_eq_ok.mp h
      exact Google.standIn ha
  | htpasswd =>
      obtain ⟨a, ha, rfl⟩ := Json.map_eq_ok.mp h
      exact Htpasswd.standIn ha
  | keystone =>
      obtain ⟨a, ha, rfl⟩ := Json.map_eq_ok.mp h
      exact Keystone.standIn ha
  | ldap =>
      obtain ⟨a, ha, rfl⟩ := Json.map_eq_ok.mp h
      exact Ldap.standIn ha
  | openId =>
      obtain ⟨a, ha, rfl⟩ := Json.map_eq_ok.mp h
      exact OpenId.standIn ha
  | requestHeader =>
      obtain ⟨a, ha, rfl⟩ := Json.map_eq_ok.mp h
      exact RequestHeader.standIn ha

end Settings

end IdentityProvider

end ClusterMigration
