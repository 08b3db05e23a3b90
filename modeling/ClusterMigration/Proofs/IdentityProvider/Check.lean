import ClusterMigration.Proofs.IdentityProvider.Batch

/-!
# The check and the package

The check of a list of providers and the package made of it read the same settings, each on
its own. A list that passes the check has a package, and where there is none the check tells
of the same provider or of one before it.
-/

namespace ClusterMigration

namespace IdentityProvider

variable {p : IdentityProvider} {ps before after : List IdentityProvider} {e : ProviderError}

theorem check_of_settings_error (h : p.settings = .error e) : p.check = .error e := by
  simp only [check, h]

theorem check_error_cases (h : p.check = .error e) :
    p.settings = .error e ∨ ¬ p.IsUndecodable ∧ ∃ v, e = .invalid v := by
  unfold check at h
  split at h
  · rename_i e' he
    cases h
    exact .inl he
  · cases h
  · rename_i s hs
    split at h
    · cases h
    · rename_i v _
      cases h
      exact .inr ⟨not_isUndecodable_of_settings hs, v, rfl⟩

theorem validate_of_first (hbefore : ∀ b ∈ before, b.check = .ok ()) (hp : p.check = .error e) :
    validate (before ++ p :: after) = .error e := by
  induction before with
  | nil => simp only [List.nil_append, validate, hp]
  | cons b before ih =>
      obtain ⟨hb, hbefore⟩ := List.forall_mem_cons.mp hbefore
      simp only [List.cons_append, validate, hb, ih hbefore]

theorem exists_first_failing (ps : List IdentityProvider) :
    (∀ p ∈ ps, p.check = .ok ()) ∨
      ∃ before p after e, ps = before ++ p :: after ∧ (∀ b ∈ before, b.check = .ok ()) ∧
        p.check = .error e := by
  induction ps with
  | nil => exact .inl fun _ hp => nomatch hp
  | cons p ps ih =>
      cases hp : p.check with
      | error e => exact .inr ⟨[], p, ps, e, rfl, fun _ hb => (nomatch hb), hp⟩
      | ok _ =>
          rcases ih with hall | ⟨before, q, after, e, rfl, hbefore, hq⟩
          · exact .inl (List.forall_mem_cons.mpr ⟨hp, hall⟩)
          · exact .inr ⟨p :: before, q, after, e, rfl, List.forall_mem_cons.mpr ⟨hp, hbefore⟩, hq⟩

theorem check_of_validate (h : validate ps = .ok ()) : ∀ p ∈ ps, p.check = .ok () := by
  rcases exists_first_failing ps with hall | ⟨before, p, after, e, rfl, hbefore, hp⟩
  · exact hall
  · rw [validate_of_first hbefore hp] at h
    cases h

theorem readable_of_validate (h : validate ps = .ok ()) : ∀ p ∈ ps, ¬ p.IsUndecodable := by
  intro p hp hu
  obtain ⟨e, he⟩ := isUndecodable_iff.mp hu
  have hcheck := check_of_validate h p hp
  rw [check_of_settings_error he] at hcheck
  cases hcheck

theorem validate_of_first_undecodable (hbefore : ∀ b ∈ before, ¬ b.IsUndecodable)
    (hp : p.settings = .error e) :
    validate (before ++ p :: after) = .error e ∨
      ∃ b ∈ before, ∃ v, b.check = .error (.invalid v) ∧
        validate (before ++ p :: after) = .error (.invalid v) := by
  rcases exists_first_failing before with hall | ⟨earlier, b, later, e', rfl, hearlier, hb⟩
  · exact .inl (validate_of_first hall (check_of_settings_error hp))
  · have hmem : b ∈ earlier ++ b :: later := List.mem_append_right _ (List.mem_cons_self ..)
    rcases check_error_cases hb with he | ⟨-, v, rfl⟩
    · exact absurd (isUndecodable_of_settings he) (hbefore b hmem)
    · refine .inr ⟨b, hmem, v, hb, ?_⟩
      rw [List.append_assoc, List.cons_append]
      exact validate_of_first hearlier hb

end IdentityProvider

namespace OAuthPackage

open IdentityProvider

variable {ps : List IdentityProvider} {tokenConfig : Option TokenConfig} {templates : Templates}
  {e : ProviderError}

theorem exists_of_validate (h : validate ps = .ok ()) :
    ∃ o, (ofProviders ps tokenConfig templates).2 = .ok o := by
  obtain ⟨cs, hcs⟩ := contributions_of_readable (readable_of_validate h)
  exact ⟨_, congrArg Prod.snd (ofProviders_of_ok hcs)⟩

/-- Where there is no package, the check tells of the same provider, or of a rule that one
before it breaks. -/
theorem validate_of_ofProviders_error (h : (ofProviders ps tokenConfig templates).2 = .error e) :
    ∃ before p after, ps = before ++ p :: after ∧ (∀ b ∈ before, ¬ b.IsUndecodable) ∧
      p.settings = .error e ∧
      (validate ps = .error e ∨
        ∃ b ∈ before, ∃ v, b.check = .error (.invalid v) ∧ validate ps = .error (.invalid v)) := by
  obtain ⟨q, hq, hu⟩ := ofProviders_error_iff.mp ⟨e, h⟩
  rcases exists_first ps with hall | ⟨before, p, after, rfl, hbefore, hp⟩
  · exact absurd hu (hall q hq)
  · obtain ⟨e', he'⟩ := isUndecodable_iff.mp hp
    rw [ofProviders_of_error (contributions_of_first hbefore he')] at h
    cases h
    exact ⟨before, p, after, rfl, hbefore, he', validate_of_first_undecodable hbefore he'⟩

end OAuthPackage

end ClusterMigration
