import ClusterMigration.TokenConfig
import ClusterMigration.Yaml.Record

/-!
# The master configuration

The part of the configuration of the old cluster's master that can be migrated. One
document holds a section for each concern, and a document is read as a whole: a
section that is not of the shape expected makes all of it unreadable.
-/

namespace ClusterMigration

open Yaml (RecordField field readText readFlag readNatural readInteger readList readOptional
  readRecord readJson)

/-- An entry for an identity provider, whose own settings have a shape that depends on
their kind. -/
structure ProviderEntry where
  name : String := ""
  challenge : Bool := false
  login : Bool := false
  mappingMethod : String := ""
  provider : Json := .null

structure TemplatePaths where
  login : String := ""
  error : String := ""
  providerSelection : String := ""
  deriving DecidableEq, Repr

structure OAuthConfig where
  identityProviders : List ProviderEntry := []
  tokenConfig : Option TokenConfig := none
  templates : Option TemplatePaths := none

structure ClusterNetwork where
  cidr : String := ""
  hostSubnetLength : Nat := 0
  deriving DecidableEq, Repr

/-- The network of a single range is the older form of the list of networks. -/
structure NetworkConfig where
  clusterNetworks : List ClusterNetwork := []
  clusterNetworkCidr : String := ""
  hostSubnetLength : Nat := 0
  pluginName : String := ""
  serviceNetworkCidr : String := ""
  deriving DecidableEq, Repr

structure RegistryLocation where
  domainName : String := ""
  insecure : Bool := false
  deriving DecidableEq, Repr

structure ImagePolicy where
  allowedRegistries : List RegistryLocation := []
  additionalTrustedCa : String := ""
  externalRegistryHostname : String := ""
  internalRegistryHostname : String := ""
  disableScheduledImport : Bool := false
  maxImagesBulkImported : Int := 0
  maxScheduledImportsPerMinute : Int := 0
  minimumImportIntervalSeconds : Int := 0
  deriving DecidableEq, Repr

def ImagePolicy.isEmpty (p : ImagePolicy) : Bool := p == {}

structure SecurityAllocator where
  uidRange : String := ""
  mcsRange : String := ""
  mcsLabelsPerProject : Int := 0
  deriving DecidableEq, Repr

structure ProjectConfig where
  defaultNodeSelector : String := ""
  requestMessage : String := ""
  requestTemplate : String := ""
  securityAllocator : Option SecurityAllocator := none
  deriving DecidableEq, Repr

structure MasterConfig where
  oauth : Option OAuthConfig := none
  network : Option NetworkConfig := none
  imagePolicy : Option ImagePolicy := none
  project : Option ProjectConfig := none

def ProviderEntry.fields : List (RecordField ProviderEntry) := [
  field "name" readText fun v r => { r with name := v },
  field "challenge" readFlag fun v r => { r with challenge := v },
  field "login" readFlag fun v r => { r with login := v },
  field "mappingMethod" readText fun v r => { r with mappingMethod := v },
  field "provider" readJson fun v r => { r with provider := v }]

def TokenConfig.fields : List (RecordField TokenConfig) := [
  field "accessTokenMaxAgeSeconds" (readInteger 32 "i32") fun v r =>
    { r with accessTokenMaxAgeSeconds := v },
  field "authorizeTokenMaxAgeSeconds" (readInteger 32 "i32") fun v r =>
    { r with authorizeTokenMaxAgeSeconds := v }]

def TemplatePaths.fields : List (RecordField TemplatePaths) := [
  field "login" readText fun v r => { r with login := v },
  field "error" readText fun v r => { r with error := v },
  field "providerSelection" readText fun v r => { r with providerSelection := v }]

def OAuthConfig.fields : List (RecordField OAuthConfig) := [
  field "identityProviders"
    (readList (readRecord "struct IdentityProviderEntry" ProviderEntry.fields {})) fun v r =>
    { r with identityProviders := v },
  field "tokenConfig" (readOptional (readRecord "struct TokenConfig" TokenConfig.fields {}))
    fun v r => { r with tokenConfig := v },
  field "templates" (readOptional (readRecord "struct OAuthTemplates" TemplatePaths.fields {}))
    fun v r => { r with templates := v }]

def ClusterNetwork.fields : List (RecordField ClusterNetwork) := [
  field "cidr" readText fun v r => { r with cidr := v },
  field "hostSubnetLength" (readNatural 32 "u32") fun v r => { r with hostSubnetLength := v }]

def NetworkConfig.fields : List (RecordField NetworkConfig) := [
  field "clusterNetworks"
    (readList (readRecord "struct ClusterNetworkEntry" ClusterNetwork.fields {})) fun v r =>
    { r with clusterNetworks := v },
  field "clusterNetworkCIDR" readText fun v r => { r with clusterNetworkCidr := v },
  field "hostSubnetLength" (readNatural 32 "u32") fun v r => { r with hostSubnetLength := v },
  field "networkPluginName" readText fun v r => { r with pluginName := v },
  field "serviceNetworkCIDR" readText fun v r => { r with serviceNetworkCidr := v }]

def RegistryLocation.fields : List (RecordField RegistryLocation) := [
  field "domainName" readText fun v r => { r with domainName := v },
  field "insecure" readFlag fun v r => { r with insecure := v }]

def ImagePolicy.fields : List (RecordField ImagePolicy) := [
  field "allowedRegistriesForImport"
    (readList (readRecord "struct RegistryLocation" RegistryLocation.fields {})) fun v r =>
    { r with allowedRegistries := v },
  field "additionalTrustedCA" readText fun v r => { r with additionalTrustedCa := v },
  field "externalRegistryHostname" readText fun v r => { r with externalRegistryHostname := v },
  field "internalRegistryHostname" readText fun v r => { r with internalRegistryHostname := v },
  field "disableScheduledImport" readFlag fun v r => { r with disableScheduledImport := v },
  field "maxImagesBulkImportedPerRepository" (readInteger 64 "i64") fun v r =>
    { r with maxImagesBulkImported := v },
  field "maxScheduledImageImportsPerMinute" (readInteger 64 "i64") fun v r =>
    { r with maxScheduledImportsPerMinute := v },
  field "scheduledImageImportMinimumIntervalSeconds" (readInteger 64 "i64") fun v r =>
    { r with minimumImportIntervalSeconds := v }]

def SecurityAllocator.fields : List (RecordField SecurityAllocator) := [
  field "uidAllocatorRange" readText fun v r => { r with uidRange := v },
  field "mcsAllocatorRange" readText fun v r => { r with mcsRange := v },
  field "mcsLabelsPerProject" (readInteger 32 "i32") fun v r => { r with mcsLabelsPerProject := v }]

def ProjectConfig.fields : List (RecordField ProjectConfig) := [
  field "defaultNodeSelector" readText fun v r => { r with defaultNodeSelector := v },
  field "projectRequestMessage" readText fun v r => { r with requestMessage := v },
  field "projectRequestTemplate" readText fun v r => { r with requestTemplate := v },
  field "securityAllocator"
    (readOptional (readRecord "struct SecurityAllocator" SecurityAllocator.fields {})) fun v r =>
    { r with securityAllocator := v }]

namespace MasterConfig

def fields : List (RecordField MasterConfig) := [
  field "oauthConfig" (readOptional (readRecord "struct OAuthConfig" OAuthConfig.fields {}))
    fun v r => { r with oauth := v },
  field "networkConfig" (readOptional (readRecord "struct NetworkConfig" NetworkConfig.fields {}))
    fun v r => { r with network := v },
  field "imagePolicyConfig"
    (readOptional (readRecord "struct ImagePolicyConfig" ImagePolicy.fields {})) fun v r =>
    { r with imagePolicy := v },
  field "projectConfig" (readOptional (readRecord "struct ProjectConfig" ProjectConfig.fields {}))
    fun v r => { r with project := v }]

def ofDocument (d : Yaml.Document) : Except Yaml.ReadError MasterConfig :=
  Yaml.read (readRecord "struct MasterConfig" fields {}) {} d

def decode (content : Bytes) : Except Yaml.ReadError MasterConfig :=
  ofDocument (.ofBytes content)

end MasterConfig

end ClusterMigration
