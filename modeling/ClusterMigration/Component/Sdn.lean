import ClusterMigration.Component.Basic
import ClusterMigration.Network.Cidr

/-!
# Cluster network
-/

namespace ClusterMigration

namespace Component

namespace Sdn

def name : String := "SDN"

/-- The ranges of the cluster network: the list of networks, or where that is empty the
single range of the older form. -/
def clusterCidrs (c : NetworkConfig) : List String :=
  if c.clusterNetworks.isEmpty ∧ !c.clusterNetworkCidr.isEmpty then [c.clusterNetworkCidr]
  else c.clusterNetworks.map (·.cidr)

inductive Violation where
  | emptyServiceCidr
  | invalidServiceCidr
  | noClusterNetwork
  | emptyClusterCidr
  | invalidClusterCidr
  | emptyPlugin
  deriving DecidableEq, Repr

def Violation.message : Violation → String
  | emptyServiceCidr => "Service network CIDR can't be empty"
  | invalidServiceCidr => "Not valid service network CIDR"
  | noClusterNetwork => "Cluster network must have at least 1 entry"
  | emptyClusterCidr => "Cluster network CIDR can't be empty"
  | invalidClusterCidr => "Not valid cluster network CIDR"
  | emptyPlugin => "Plugin name can't be empty"

def cidrViolation? (cidr : String) : Option Violation :=
  if cidr.isEmpty then some .emptyClusterCidr
  else if Network.isCidr cidr then none
  else some .invalidClusterCidr

def violation? (c : NetworkConfig) : Option Violation :=
  if c.serviceNetworkCidr.isEmpty then some .emptyServiceCidr
  else if !Network.isCidr c.serviceNetworkCidr then some .invalidServiceCidr
  else if (clusterCidrs c).isEmpty then some .noClusterNetwork
  else match (clusterCidrs c).findSome? cidrViolation? with
    | some v => some v
    | none => if c.pluginName.isEmpty then some .emptyPlugin else none

def validate (c : NetworkConfig) : Except Failure Unit :=
  match violation? c with
  | some v => .error (.invalid v.message)
  | none => .ok ()

/-- The mode of the new cluster's network that does what the plugin did. -/
def mode? : String → Option String
  | "redhat/openshift-ovs-multitenant" => some "Multitenant"
  | "redhat/openshift-ovs-networkpolicy" => some "NetworkPolicy"
  | "redhat/openshift-ovs-subnet" => some "Subnet"
  | _ => none

/-- The size of a node's share of the network, where it cannot be carried over. -/
def hostPrefix : Nat := 23

def spec (c : NetworkConfig) (mode : String) : Json :=
  .object [
    ("clusterNetwork", .array ((clusterCidrs c).map fun cidr =>
      .object [("cidr", .string cidr), ("hostPrefix", .integer hostPrefix)])),
    ("serviceNetwork", .array [.string c.serviceNetworkCidr]),
    ("defaultNetwork", .object [
      ("type", .string "OpenShiftSDN"),
      ("openshiftSDNConfig", .object [("mode", .string mode)])])]

def resource (c : NetworkConfig) (mode : String) : Resource :=
  ⟨"operator.openshift.io/v1", "Network", { name := "cluster" }, spec c mode⟩

def installationOnly : String := "Networks must be configured during installation"

def rows (c : NetworkConfig) : List Report.Row :=
  [{ Report.Row.carried c.serviceNetworkCidr "serviceNetwork" with comment := installationOnly }]
    ++ (clusterCidrs c).map (fun cidr =>
      { Report.Row.carried cidr "clusterNetwork" with comment := installationOnly })
    ++ [{ Report.Row.carried "hostSubnetLength" "clusterNetwork" with
          confidence := .part
          comment := installationOnly ++ ", hostPrefix is defaulted to 23" },
        .carried c.pluginName "plugin"]

def transform (c : NetworkConfig) : List Notice × Except Failure (List Output) :=
  match mode? c.pluginName with
  | none => ([], .error (.unsupported "Network plugin not supported"))
  | some mode => ([], .ok (resourceAndReport "sdn" (resource c mode) ⟨name, rows c⟩))

def gather (masterConfigFile : String) : Gather NetworkConfig := do
  return (← masterConfig masterConfigFile).network.getD {}

end Sdn

def sdn (masterConfigFile : String) : Component :=
  announced Sdn.name (Sdn.gather masterConfigFile) Sdn.validate Sdn.transform

end Component

end ClusterMigration
