import Mathlib.Data.List.Nodup
import Proxbox.Library.Json
/-!
# The stored inventory

The rows the intent path reads: the plugin's Proxmox endpoints, nodes and clusters, the core virtual
machine with its sync-state and intent sidecars, and the six firewall models. Columns that no modelled
function reads are left out. A relation is the object it loads, `none` when it is null; a nullable text
column is an optional text.
-/

namespace Proxbox

open Python

/-- `ProxmoxEndpoint`. A stored row has a positive primary key. -/
structure ProxmoxEndpoint where
  pk : Int
  pk_pos : 0 < pk
  name : String
  enabled : Bool
  allowWrites : Bool
  domain : Option String
  /-- `ip_address.address`, the linked address with its mask. -/
  ipAddress : Option String
  port : Nat
  deriving DecidableEq

def ProxmoxEndpoint.ip (endpoint : ProxmoxEndpoint) : Option String :=
  endpoint.ipAddress.map (splitHead '/')

/-- `str(endpoint)`: the name, else the domain, else the address. -/
def ProxmoxEndpoint.str (endpoint : ProxmoxEndpoint) : String :=
  ([some endpoint.name, endpoint.domain, endpoint.ip].findSome? fun text => text.filter (· ≠ "")).getD
    s!"ProxmoxEndpoint({endpoint.pk})"

/-- The endpoint table in the order its queryset yields it, by name and then by primary key. -/
structure EndpointTable where
  rows : List ProxmoxEndpoint
  pk_nodup : (rows.map ProxmoxEndpoint.pk).Nodup

theorem EndpointTable.eq_of_pk_eq (table : EndpointTable) {left right : ProxmoxEndpoint}
    (hleft : left ∈ table.rows) (hright : right ∈ table.rows) (hpk : left.pk = right.pk) :
    left = right :=
  List.inj_on_of_nodup_map table.pk_nodup hleft hright hpk

def eastEndpoint : ProxmoxEndpoint := ⟨1, by decide, "east", true, true, some "east.example", none, 8006⟩

structure ProxmoxNode where
  name : String
  endpoint : ProxmoxEndpoint
  deriving DecidableEq

def ProxmoxNode.str (node : ProxmoxNode) : String := s!"{node.name} ({node.endpoint.str})"

structure ProxmoxCluster where
  endpoint : ProxmoxEndpoint
  deriving DecidableEq

/-- `ProxboxVirtualMachineSyncState`. `resolve_vm_endpoint_context` compares the endpoint column with the row it
loads. -/
structure SyncState where
  virtualMachineId : Int
  endpointId : Option Int
  endpoint : Option ProxmoxEndpoint
  proxmoxNode : Option ProxmoxNode
  proxmoxNodeName : String
  proxmoxCluster : Option ProxmoxCluster
  proxmoxVmId : Option Int
  proxmoxVmType : String
  deriving DecidableEq

structure IntentValues where
  targetNode : String
  targetStorage : String
  iso : String
  templateVmid : Option Int
  swap : Option Int
  rootfs : String
  ostemplate : String
  cloudInitUser : String
  cloudInitSshKeys : String
  cloudInitUserData : String
  cloudInitNetwork : String
  intentState : String
  lastApplyRunId : String
  deriving DecidableEq

structure Labelled where
  pk : Int
  slug : String
  name : String
  deriving DecidableEq

structure Device where
  pk : Int
  name : Option String
  deriving DecidableEq

structure VMInterface where
  name : String
  macAddress : Option String
  enabled : Bool
  mtu : Option Int
  description : String
  deriving DecidableEq

/-- A core `VirtualMachine` with its Proxbox sidecars; `vcpus` is given in hundredths. -/
structure VirtualMachine where
  pk : Int
  name : String
  vcpus : Option Int
  memory : Option Int
  description : String
  tags : List String
  virtualDisks : List Int
  interfaces : List VMInterface
  primaryIp4 : Option String
  primaryIp6 : Option String
  customFieldData : Fields
  virtualMachineType : Option Labelled
  role : Option Labelled
  tenant : Option Int
  site : Option Int
  platform : Option Int
  cluster : Option Int
  device : Option Device
  syncState : Option SyncState
  intent : Option IntentValues

/-- A `ProxmoxVMIntent` row as a changed object. Its relation loads the machine its column names. -/
structure ProxmoxVMIntent where
  virtualMachineId : Option Int
  virtualMachine : Option VirtualMachine
  linked : ∀ vm, virtualMachine = some vm → virtualMachineId = some vm.pk

/-! ### Firewall models -/

inductive FirewallZone where
  | datacenter
  | node
  | vmQemu
  | vmLxc
  | securityGroup
  | vnet
  deriving DecidableEq

def FirewallZone.value : FirewallZone → String
  | .datacenter => "datacenter"
  | .node => "node"
  | .vmQemu => "vm_qemu"
  | .vmLxc => "vm_lxc"
  | .securityGroup => "security_group"
  | .vnet => "vnet"

inductive FirewallScope where
  | datacenter
  | vmQemu
  | vmLxc
  deriving DecidableEq

def FirewallScope.value : FirewallScope → String
  | .datacenter => "datacenter"
  | .vmQemu => "vm_qemu"
  | .vmLxc => "vm_lxc"

def FirewallScope.zone : FirewallScope → FirewallZone
  | .datacenter => .datacenter
  | .vmQemu => .vmQemu
  | .vmLxc => .vmLxc

structure FirewallSecurityGroup where
  pk : Int
  endpoint : Option ProxmoxEndpoint
  name : String
  comment : Option String

def FirewallSecurityGroup.str (group : FirewallSecurityGroup) : String :=
  (group.endpoint.map ProxmoxEndpoint.str).getD "None" ++ " / " ++ group.name

structure FirewallRule where
  pk : Int
  endpoint : Option ProxmoxEndpoint
  zone : FirewallZone
  proxmoxNode : Option ProxmoxNode
  virtualMachine : Option VirtualMachine
  securityGroup : Option FirewallSecurityGroup
  pos : Int
  ruleType : String
  action : String
  enable : Bool
  macroName : String
  iface : String
  source : String
  dest : String
  proto : String
  dport : String
  sport : String
  log : String
  icmpType : String
  comment : Option String
  digest : String

structure FirewallIPSet where
  pk : Int
  endpoint : Option ProxmoxEndpoint
  scope : FirewallScope
  virtualMachine : Option VirtualMachine
  name : String
  comment : Option String

def FirewallIPSet.str (ipset : FirewallIPSet) : String := ipset.scope.value ++ " / " ++ ipset.name

structure FirewallIPSetEntry where
  pk : Int
  ipset : FirewallIPSet
  cidr : String
  comment : Option String
  noMatch : Bool

structure FirewallAlias where
  pk : Int
  endpoint : Option ProxmoxEndpoint
  scope : FirewallScope
  virtualMachine : Option VirtualMachine
  name : String
  cidr : String
  comment : Option String

/-- `ProxmoxFirewallOptions`. The zone's own options are a JSON object. -/
structure FirewallOptions where
  pk : Int
  endpoint : Option ProxmoxEndpoint
  zone : FirewallZone
  proxmoxNode : Option ProxmoxNode
  virtualMachine : Option VirtualMachine
  enable : Option Bool
  policyIn : String
  policyOut : String
  options : Fields

inductive FirewallModel where
  | securityGroup
  | rule
  | ipset
  | ipsetEntry
  | alias
  | options
  deriving DecidableEq

def FirewallModel.name : FirewallModel → String
  | .securityGroup => "proxmoxfirewallsecuritygroup"
  | .rule => "proxmoxfirewallrule"
  | .ipset => "proxmoxfirewallipset"
  | .ipsetEntry => "proxmoxfirewallipsetentry"
  | .alias => "proxmoxfirewallalias"
  | .options => "proxmoxfirewalloptions"

inductive FirewallObject where
  | securityGroup (row : FirewallSecurityGroup)
  | rule (row : FirewallRule)
  | ipset (row : FirewallIPSet)
  | ipsetEntry (row : FirewallIPSetEntry)
  | alias (row : FirewallAlias)
  | options (row : FirewallOptions)

def FirewallObject.model : FirewallObject → FirewallModel
  | .securityGroup _ => .securityGroup
  | .rule _ => .rule
  | .ipset _ => .ipset
  | .ipsetEntry _ => .ipsetEntry
  | .alias _ => .alias
  | .options _ => .options

def FirewallObject.pk : FirewallObject → Int
  | .securityGroup row => row.pk
  | .rule row => row.pk
  | .ipset row => row.pk
  | .ipsetEntry row => row.pk
  | .alias row => row.pk
  | .options row => row.pk

end Proxbox
