import ClusterMigration.Component.Sdn
import ClusterMigration.Proofs.Component.Gather
import ClusterMigration.Proofs.Decimal.Natural
import ClusterMigration.Proofs.Json.Member
import ClusterMigration.Proofs.Network.Address
import ClusterMigration.Proofs.Text.Writing

/-!
# Texts that are taken for ranges

A range is an address, a slash and a length, where the length is a run of decimal digits.
What is taken for a range is this or the same with a plus sign before the length. The main
statement, `isCidr_iff_isRange_iff`, says so of every text, and of every range in the network
resource of a configuration that passed the check.
-/

namespace ClusterMigration

namespace Network

/-- The digits write a number of at most the bits of an address. -/
structure IsLength (family : Family) (digits : List Char) : Prop where
  ne_nil : digits ≠ []
  isDigit : ∀ c ∈ digits, Decimal.isDigit c = true
  le_width : Decimal.number digits ≤ family.width

def IsRange (text : String) : Prop :=
  ∃ address family digits, text.toList = address ++ '/' :: digits ∧
    Address.family? address = some family ∧ IsLength family digits

def IsSignedRange (text : String) : Prop :=
  ∃ address family digits, text.toList = address ++ '/' :: '+' :: digits ∧
    Address.family? address = some family ∧ IsLength family digits

variable {text : String} {chars address before after digits length : List Char}
  {family : Family} {n : Nat}

/-! ## The length -/

theorem width_lt (family : Family) : family.width < 256 := by
  cases family <;> decide

theorem isLength_iff : IsLength family digits ↔
    ∃ n, Decimal.natural? 10 digits = some n ∧ n ≤ family.width := by
  constructor
  · rintro ⟨hne, hdigits, hwidth⟩
    exact ⟨_, Decimal.natural?_ten_eq_some_iff.mpr ⟨hne, hdigits, rfl⟩, hwidth⟩
  · rintro ⟨n, hn, hwidth⟩
    obtain ⟨hne, hdigits, rfl⟩ := Decimal.natural?_ten_eq_some_iff.mp hn
    exact ⟨hne, hdigits, hwidth⟩

theorem IsLength.not_mem {c : Char} (h : IsLength family digits)
    (hc : Decimal.isDigit c = false) : c ∉ digits := by
  intro hmem
  rw [h.isDigit c hmem] at hc
  cases hc

/-- A length is read where it stands in digits, with or without a plus sign. -/
theorem exists_prefixLength?_iff :
    (∃ n, prefixLength? length = some n ∧ n ≤ family.width) ↔
      IsLength family length ∨ ∃ digits, length = '+' :: digits ∧ IsLength family digits := by
  have hread (digits : List Char) :
      (∃ n, (Decimal.natural? 10 digits).filter (· < 256) = some n ∧ n ≤ family.width) ↔
        IsLength family digits := by
    rw [isLength_iff]
    constructor
    · rintro ⟨n, hn, hwidth⟩
      exact ⟨n, (Option.filter_eq_some_iff.mp hn).1, hwidth⟩
    · rintro ⟨n, hn, hwidth⟩
      have hlt := width_lt family
      exact ⟨n, Option.filter_eq_some_iff.mpr ⟨hn, decide_eq_true (by omega)⟩, hwidth⟩
  unfold prefixLength?
  split
  · rename_i digits
    rw [hread]
    have hplus : ¬ IsLength family ('+' :: digits) :=
      fun h => h.not_mem (by decide) (List.mem_cons_self ..)
    simp [hplus]
  · rename_i hplus
    rw [hread]
    have hnot : ¬ ∃ digits, length = '+' :: digits ∧ IsLength family digits := by
      rintro ⟨digits, rfl, -⟩
      exact hplus digits rfl
    simp [hnot]

/-! ## The slash -/

theorem split_at_slash (h : '/' ∉ before) :
    (before ++ '/' :: after).takeWhile (· ≠ '/') = before ∧
      (before ++ '/' :: after).dropWhile (· ≠ '/') = '/' :: after := by
  have hall : ∀ c ∈ before, decide (c ≠ '/') = true := by
    intro c hc
    exact decide_eq_true fun heq => h (heq ▸ hc)
  constructor
  · rw [List.takeWhile_append_of_pos hall]
    simp
  · rw [List.dropWhile_append_of_pos hall]
    simp

theorem isCidr_of_split (h : text.toList = address ++ '/' :: length) (hslash : '/' ∉ address) :
    isCidr text = true ↔ ∃ family, Address.family? address = some family ∧
      ∃ n, prefixLength? length = some n ∧ n ≤ family.width := by
  unfold isCidr
  simp only [h, (split_at_slash hslash).1, (split_at_slash hslash).2]
  cases Address.family? address <;> cases prefixLength? length <;> simp

theorem isCidr_iff_exists : isCidr text = true ↔
    ∃ address family length, text.toList = address ++ '/' :: length ∧
      Address.family? address = some family ∧
      ∃ n, prefixLength? length = some n ∧ n ≤ family.width := by
  constructor
  · intro h
    by_cases hslash : '/' ∈ text.toList
    · obtain ⟨address, length, htext, hnot⟩ := List.eq_append_cons_of_mem hslash
      obtain ⟨family, hfamily, hlength⟩ := (isCidr_of_split htext hnot).mp h
      exact ⟨address, family, length, htext, hfamily, hlength⟩
    · have hall : ∀ c ∈ text.toList, decide (c ≠ '/') = true :=
        fun c hc => decide_eq_true fun heq => hslash (heq ▸ hc)
      have hnone : text.toList.dropWhile (· ≠ '/') = [] := List.dropWhile_eq_nil_iff.mpr hall
      unfold isCidr at h
      simp only [hnone] at h
      cases h
  · rintro ⟨address, family, length, htext, hfamily, hlength⟩
    exact (isCidr_of_split htext (Address.slash_not_mem_of_family? hfamily)).mpr
      ⟨family, hfamily, hlength⟩

/-! ## Ranges -/

theorem isCidr_iff : isCidr text = true ↔ IsRange text ∨ IsSignedRange text := by
  rw [isCidr_iff_exists]
  constructor
  · rintro ⟨address, family, length, htext, hfamily, hlength⟩
    rcases exists_prefixLength?_iff.mp hlength with hdigits | ⟨digits, rfl, hdigits⟩
    · exact .inl ⟨address, family, length, htext, hfamily, hdigits⟩
    · exact .inr ⟨address, family, digits, htext, hfamily, hdigits⟩
  · rintro (⟨address, family, digits, htext, hfamily, hdigits⟩ |
      ⟨address, family, digits, htext, hfamily, hdigits⟩)
    · exact ⟨address, family, digits, htext, hfamily,
        exists_prefixLength?_iff.mpr (.inl hdigits)⟩
    · exact ⟨address, family, '+' :: digits, htext, hfamily,
        exists_prefixLength?_iff.mpr (.inr ⟨digits, rfl, hdigits⟩)⟩

theorem IsRange.not_isSignedRange (h : IsRange text) : ¬ IsSignedRange text := by
  rintro ⟨address', family', digits', htext', hfamily', -⟩
  obtain ⟨address, family, digits, htext, hfamily, hdigits⟩ := h
  obtain ⟨-, rfl⟩ := Writing.eq_of_delimiter (Address.slash_not_mem_of_family? hfamily)
    (Address.slash_not_mem_of_family? hfamily') (htext.symm.trans htext')
  exact hdigits.not_mem (by decide) (List.mem_cons_self ..)

theorem IsRange.count_slash (h : IsRange text) : text.toList.count '/' = 1 := by
  obtain ⟨address, family, digits, htext, hfamily, hdigits⟩ := h
  have hslash := Address.slash_not_mem_of_family? hfamily
  have hdigit : '/' ∉ digits := hdigits.not_mem (by decide)
  rw [htext, List.count_append, List.count_cons_self, List.count_eq_zero_of_not_mem hslash,
    List.count_eq_zero_of_not_mem hdigit]

end Network

/-! ## The network resource -/

namespace Component.Sdn

open Gather (result_bind_eq_ok)
open Network (IsRange IsSignedRange isCidr)

variable {c : NetworkConfig} {cidr : String}

def ranges (spec : Json) : List Json :=
  (items "clusterNetwork").filterMap (·.member? "cidr") ++ items "serviceNetwork"
where
  items (key : String) : List Json :=
    match spec.member? key with
    | some (.array items) => items
    | _ => []

theorem ranges_spec (c : NetworkConfig) (mode : String) :
    ranges (spec c mode) = (clusterCidrs c ++ [c.serviceNetworkCidr]).map .string := by
  simp [ranges, ranges.items, spec, Json.lookup_cons_eq, List.filterMap_map, Function.comp_def]

theorem isCidr_of_cidrViolation? (h : cidrViolation? cidr = none) : isCidr cidr = true := by
  unfold cidrViolation? at h
  split at h
  · cases h
  · split at h
    · assumption
    · cases h

theorem isCidr_of_violation? (h : violation? c = none) :
    ∀ cidr ∈ clusterCidrs c ++ [c.serviceNetworkCidr], isCidr cidr = true := by
  unfold violation? at h
  split at h
  · cases h
  · split at h
    · cases h
    · rename_i hservice
      split at h
      · cases h
      · split at h
        · cases h
        · rename_i hclusters
          rw [List.findSome?_eq_none_iff] at hclusters
          refine List.forall_mem_append.mpr ⟨fun cidr hcidr => ?_, ?_⟩
          · exact isCidr_of_cidrViolation? (hclusters cidr hcidr)
          · exact List.forall_mem_singleton.mpr (by simpa using hservice)

theorem validate_eq_ok_iff : validate c = .ok () ↔ violation? c = none := by
  unfold validate
  cases violation? c <;> simp

theorem transform_eq_ok {outputs : List Output} (h : (transform c).2 = .ok outputs) :
    ∃ mode, outputs = [
      .manifests [.ofResource "sdn" (resource c mode)], .report ⟨name, rows c⟩] := by
  unfold transform at h
  split at h
  · cases h
  · rename_i mode _
    exact ⟨mode, (Except.ok.inj h).symm⟩

/-- A text is taken for a range just where it is one, but for the signed ones, which are taken
for ranges too. Where the component succeeds, the ranges of its resource are those of the
configuration, and each of them is a range unless it is signed. -/
theorem isCidr_iff_isRange_iff (text : String) (files : Files) (path : String) :
    (isCidr text = true ↔ IsRange text ∨ IsSignedRange text) ∧
    ((isCidr text = true ↔ IsRange text) ↔ ¬ IsSignedRange text) ∧
    (IsRange text → text.toList.count '/' = 1) ∧
    ∀ (x : Extraction) (outputs : List Output),
      (sdn path).extract.result files = .ok x → x.validate = .ok () →
      x.transform.2 = .ok outputs →
      ∃ c document spec report, (gather path).result files = .ok c ∧
        outputs = [
          .manifests [⟨Manifest.domainFileName "sdn", Utf8.encode (Yaml.render document)⟩],
          .report report] ∧
        document.member? "spec" = some spec ∧
        ranges spec = (clusterCidrs c ++ [c.serviceNetworkCidr]).map .string ∧
        ∀ cidr ∈ clusterCidrs c ++ [c.serviceNetworkCidr],
          IsRange cidr ↔ ¬ IsSignedRange cidr := by
  refine ⟨Network.isCidr_iff, ?_, Network.IsRange.count_slash, ?_⟩
  · rw [Network.isCidr_iff]
    constructor
    · intro h hsigned
      exact (h.mp (.inr hsigned)).not_isSignedRange hsigned
    · intro hsigned
      exact or_iff_left hsigned
  · intro x outputs hextract hvalidate htransform
    obtain ⟨c, hgather, rfl⟩ := extract_announced_eq_ok.mp hextract
    obtain ⟨mode, rfl⟩ := transform_eq_ok htransform
    refine ⟨c, _, _, _, hgather, rfl, rfl, ranges_spec c mode, fun cidr hmem => ?_⟩
    have hcidr := isCidr_of_violation? (validate_eq_ok_iff.mp hvalidate) cidr hmem
    exact ⟨fun h => h.not_isSignedRange, (Network.isCidr_iff.mp hcidr).resolve_right⟩

section

private def signedRange : Bytes := Utf8.encode
  "networkConfig: \x7bserviceNetworkCIDR: 172.30.0.0/16, clusterNetworkCIDR: fd00::/+48,
    networkPluginName: redhat/openshift-ovs-subnet\x7d"

private def signedFiles : Files := fun _ => .ok signedRange

private def signedConfig : NetworkConfig where
  clusterNetworkCidr := "fd00::/+48"
  pluginName := "redhat/openshift-ovs-subnet"
  serviceNetworkCidr := "172.30.0.0/16"

private theorem gather_signed : (gather "/master").result signedFiles = .ok signedConfig := by
  decide +kernel

theorem ranges_with_signed :
    ∃ x outputs, (sdn "/master").extract.result signedFiles = .ok x ∧ x.validate = .ok () ∧
      x.transform.2 = .ok outputs ∧
      ∃ document spec report,
        outputs = [
          .manifests [⟨Manifest.domainFileName "sdn", Utf8.encode (Yaml.render document)⟩],
          .report report] ∧
        document.member? "spec" = some spec ∧
        ranges spec = [.string "fd00::/+48", .string "172.30.0.0/16"] ∧
        ∀ text ∈ ["fd00::/+48", "172.30.0.0/16"], IsRange text ↔ ¬ IsSignedRange text := by
  have hextract : (sdn "/master").extract.result signedFiles = .ok _ :=
    extract_announced_eq_ok.mpr ⟨signedConfig, gather_signed, rfl⟩
  have hvalidate : validate signedConfig = .ok () := by decide +kernel
  obtain ⟨-, -, -, hmanifest⟩ := isCidr_iff_isRange_iff "fd00::/+48" signedFiles "/master"
  obtain ⟨c, document, spec, report, hgather, houtputs, hspec, hranges, hall⟩ :=
    hmanifest _ _ hextract hvalidate rfl
  obtain rfl : signedConfig = c := Except.ok.inj (gather_signed.symm.trans hgather)
  exact ⟨_, _, hextract, hvalidate, rfl, document, spec, report, houtputs, hspec, hranges, hall⟩

/-- A plus sign before the length does not keep a text from being taken for a range. -/
theorem isCidr_signed : ¬ ∀ text, isCidr text = true ↔ IsRange text := by
  intro h
  have hsigned : IsSignedRange "10.0.0.0/+8" :=
    ⟨"10.0.0.0".toList, .v4, ['8'], rfl, by decide, Network.isLength_iff.mpr ⟨8, by decide⟩⟩
  exact ((h _).mp (by decide)).not_isSignedRange hsigned

end

end Component.Sdn

end ClusterMigration
