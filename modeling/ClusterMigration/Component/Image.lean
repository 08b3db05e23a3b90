import ClusterMigration.Component.Basic

/-!
# Image policy
-/

namespace ClusterMigration

namespace Component

namespace Image

def name : String := "Image"

def unsupported (p : ImagePolicy) : List (String × Bool) := [
  ("AdditionalTrustedCA", !p.additionalTrustedCa.isEmpty),
  ("InternalRegistryHostname", !p.internalRegistryHostname.isEmpty),
  ("DisableScheduledImport", p.disableScheduledImport),
  ("MaxImagesBulkImportedPerRepository", p.maxImagesBulkImported != 0),
  ("MaxScheduledImageImportsPerMinute", p.maxScheduledImportsPerMinute != 0),
  ("ScheduledImageImportMinimumIntervalSeconds", p.minimumImportIntervalSeconds != 0)]

def hostnames (p : ImagePolicy) : List String :=
  if p.externalRegistryHostname.isEmpty then [] else [p.externalRegistryHostname]

def rows (p : ImagePolicy) : List Report.Row :=
  p.allowedRegistries.map (fun r => .carried r.domainName "AllowedRegistriesForImport")
    ++ (hostnames p).map (fun h => .carried h "ExternalRegistryHostnames")
    ++ ((unsupported p).filter (·.2)).map fun (setting, _) =>
      .dropped setting setting "Not supported by OCP4"

def allowedRegistry (r : RegistryLocation) : Json :=
  .object [("domainName", .string r.domainName), ("insecure", .bool r.insecure)]

def spec (p : ImagePolicy) : Json :=
  let allowed :=
    if p.allowedRegistries.isEmpty then []
    else [("allowedRegistriesForImport", Json.array (p.allowedRegistries.map allowedRegistry))]
  let external :=
    if (hostnames p).isEmpty then []
    else [("externalRegistryHostnames", Json.array ((hostnames p).map .string))]
  .object (allowed ++ external)

def validate (p : ImagePolicy) : Except Failure Unit :=
  if p.isEmpty then
    .error (.invalid "no image policy configuration detected, not generating a cr or report")
  else .ok ()

def transform (p : ImagePolicy) : List Notice × Except Failure (List Output) :=
  ([], .ok (resourceAndReport "image" (createOnlyResource "Image" (spec p)) ⟨name, rows p⟩))

def gather (masterConfigFile : String) : Gather ImagePolicy := do
  return (← masterConfig masterConfigFile).imagePolicy.getD {}

end Image

def image (masterConfigFile : String) : Component :=
  announced Image.name (Image.gather masterConfigFile) Image.validate Image.transform

end Component

end ClusterMigration
