import ClusterMigration.IdentityProvider.Package
import ClusterMigration.Proofs.Text.Base64
import ClusterMigration.Proofs.Text.Utf8
import ClusterMigration.Proofs.Yaml.LastValue
import Mathlib.Data.List.Forall2

/-!
# What documents hold of artifacts

Each artifact of a package has a manifest of its own, in order. The document in it holds the
content of the artifact as its only entry of data: that of a secret in base 64, from which all
bytes come back, and that of a config map as text, from which they come back just if they are
well-formed. The main statement is `manifests_carry`.
-/

namespace ClusterMigration

/-- A document that bears the name, lives in the namespace of the configuration and has the text
under the key for all its data. -/
structure Json.Documents (document : Json) (name key text : String) : Prop where
  metadata : document.member? "metadata" =
    some (.object [("name", .string name), ("namespace", .string configNamespace)])
  data : document.member? "data" = some (.object [(key, .string text)])

theorem Json.Documents.text_eq {document : Json} {name name' key key' text text' : String}
    (h : document.Documents name key text) (h' : document.Documents name' key' text') :
    text = text' := by
  have hdata := h.data.symm.trans h'.data
  simp only [Option.some.injEq, Json.object.injEq, List.cons.injEq, Prod.mk.injEq,
    Json.string.injEq, and_true] at hdata
  exact hdata.2

/-! ## Secrets -/

namespace Secret

/-- The manifest of a secret, with a document whose data stands for the content and for no other
bytes. -/
structure Carries (s : Secret) (m : Manifest) : Prop where
  manifest : m = ⟨Manifest.secretFileName s.name, Utf8.encode (Yaml.render s.document)⟩
  content : ∃ text, s.document.Documents s.name s.purpose.dataKey text ∧
    ∀ bytes, Base64.decode? text = some bytes ↔ bytes = s.content

theorem documents (s : Secret) :
    s.document.Documents s.name s.purpose.dataKey (Base64.encode s.content) :=
  ⟨rfl, rfl⟩

theorem carries (s : Secret) : s.Carries (.ofSecret s) := by
  refine ⟨rfl, _, s.documents, fun bytes => ?_⟩
  rw [Base64.decode?_eq_some_iff]
  exact Base64.encode_injective.eq_iff.trans eq_comm

theorem content_of_document {s t : Secret} (h : s.document = t.document) :
    s.content = t.content := by
  have ht : s.document.Documents t.name t.purpose.dataKey (Base64.encode t.content) :=
    h ▸ t.documents
  exact Base64.encode_injective (s.documents.text_eq ht)

/-! ### Files of secrets -/

open Yaml.Printer (isInk isSimpleKey below suffix_render suffix_below eq_of_below)

theorem isInk_of_mem_encode {bytes : Bytes} {c : Char} (h : c ∈ (Base64.encode bytes).toList) :
    isInk c = true := by
  have hdigits : ∀ v < 64, isInk (Base64.digit v) = true := by decide
  rw [Base64.encode, String.toList_ofList] at h
  rcases Base64.mem_encodeChars h with rfl | ⟨v, hv, rfl⟩
  · rfl
  · exact hdigits v hv

theorem suffix_document (s : Secret) :
    below 2 (.string (Base64.encode s.content)) <:+ (Yaml.render s.document).toList := by
  have hkey : isSimpleKey s.purpose.dataKey = true := by cases s.purpose <;> decide
  have hdata : below 2 (.string (Base64.encode s.content)) <:+
      below 0 (.object [(s.purpose.dataKey, .string (Base64.encode s.content))]) :=
    suffix_below hkey List.suffix_rfl []
  exact suffix_render (by decide) hdata [("apiVersion", .string "v1"), ("kind", .string "Secret"),
    ("type", .string "Opaque"), ("metadata", artifactMetadata s.name)]

theorem content_of_manifest {s t : Secret}
    (h : (Manifest.ofSecret s).content = (Manifest.ofSecret t).content) :
    s.content = t.content := by
  have hrender : Yaml.render s.document = Yaml.render t.document := Utf8.encode_injective h
  have hsuffix := t.suffix_document
  rw [← hrender] at hsuffix
  apply Base64.encode_injective
  exact eq_of_below (fun _ => isInk_of_mem_encode) (fun _ => isInk_of_mem_encode)
    s.suffix_document hsuffix

end Secret

/-! ## Config maps -/

namespace ConfigMap

/-- The manifest of a config map, with a document whose data encodes the content if that is
well-formed, and only then. -/
structure Carries (c : ConfigMap) (m : Manifest) : Prop where
  manifest : m = ⟨Manifest.configMapFileName c.name, Utf8.encode (Yaml.render c.document)⟩
  content : ∃ text, c.document.Documents c.name Purpose.caBundle.dataKey text ∧
    (Utf8.encode text = c.content ↔ (Utf8.decode? c.content).isSome = true)

theorem carries (c : ConfigMap) : c.Carries (.ofConfigMap c) :=
  ⟨rfl, _, ⟨rfl, rfl⟩, Utf8.encode_decodeLossy_iff⟩

end ConfigMap

/-! ## Packages -/

namespace OAuthPackage

/-- The resource has the first manifest, and the secrets and then the config maps have one each,
in order, with documents that hold their contents. Secrets that hold something else have other
documents, and other files. -/
theorem manifests_carry (o : OAuthPackage) :
    (∃ secrets configMaps,
      o.manifests = .ofResource "oauth" o.resource :: (secrets ++ configMaps) ∧
      List.Forall₂ Secret.Carries o.secrets secrets ∧
      List.Forall₂ ConfigMap.Carries o.configMaps configMaps) ∧
    ∀ s t : Secret, s.content ≠ t.content →
      s.document ≠ t.document ∧ (Manifest.ofSecret s).content ≠ (Manifest.ofSecret t).content := by
  refine ⟨⟨o.secrets.map .ofSecret, o.configMaps.map .ofConfigMap, rfl, ?_, ?_⟩, ?_⟩
  · rw [List.forall₂_map_right_iff, List.forall₂_same]
    exact fun s _ => s.carries
  · rw [List.forall₂_map_right_iff, List.forall₂_same]
    exact fun c _ => c.carries
  · intro s t hne
    exact ⟨mt Secret.content_of_document hne, mt Secret.content_of_manifest hne⟩

end OAuthPackage

end ClusterMigration
