import Proxbox.Intent.FirewallPush
/-!
# Routes of firewall pushes

Where a direct push sends a firewall object. Names stand in the path, as segments of their own, or in the query,
and are checked or quoted first. The key of an IP set entry is appended to a path that may already have its query.
-/

namespace Proxbox

open Python

/-! ### Segments -/

def isSegmentText : List Char → Bool
  | [] => false
  | c :: rest => c.isAlphanum && rest.all fun c => c.isAlphanum || c == '.' || c == '_' || c == '-'

def safePathSegment (value : String) : Option (List Char) :=
  let text := strip value
  if 253 < text.toList.length || !isSegmentText text.toList || contains ".." text then none
  else some (quote text.toList)

def invalidIdentifier : FirewallPushError :=
  ⟨"invalid_identifier", "A firewall object name, node name, or VNet name is not a valid Proxmox identifier, "
    ++ "so no backend request was made.", 400⟩

def pathSegment (value : String) : Except FirewallPushError (List Char) :=
  match safePathSegment value with
  | some segment => .ok segment
  | none => .error invalidIdentifier

def ipsetEntrySegment (isNetwork : String → Bool) (cidr : String) : Except FirewallPushError (List Char) :=
  if isNetwork (strip cidr) then .ok (quote (strip cidr).toList) else pathSegment (strip cidr)

def pushNodeName (node : Option ProxmoxNode) : Except FirewallPushError String :=
  let name := strip ((node.map ProxmoxNode.name).getD "")
  if name = "" then .error ⟨"node_required", "Node-level firewall pushes require a Proxmox node.", 400⟩ else .ok name

structure VmContext where
  vmid : Int
  node : String
  vmType : String

def vmContext (vm : Option VirtualMachine) (zone : FirewallZone) : Except FirewallPushError VmContext :=
  let vmid := (vm.bind VirtualMachine.syncState).bind SyncState.proxmoxVmId
  let node := strip ((vm.map resolveVmNode).getD "")
  match vmid with
  | none => .error ⟨"vmid_required", "VM-scoped firewall pushes require a Proxmox VM ID in the Proxbox "
      ++ "sync-state record. Run a Proxbox sync.", 400⟩
  | some vmid =>
    if node = "" then
      .error ⟨"vm_node_required", "VM-scoped firewall pushes require a Proxmox node name on the VM.", 400⟩
    else if 1 ≤ vmid ∧ vmid ≤ 999999999 then .ok ⟨vmid, node, if zone = .vmLxc then "lxc" else "qemu"⟩
    else .error ⟨"vmid_invalid", "The Proxmox VM ID recorded for this VM is not a valid identifier.", 400⟩

/-! ### Paths -/

def words (texts : List String) : List (List Char) := texts.map String.toList

/-- The path of the segments, with the parameters as its query. -/
def targetText (segments : List (List Char)) (params : List (List Char × List Char)) : List Char :=
  segments.flatMap ('/' :: ·) ++ if params = [] then [] else
    '?' :: ['&'].intercalate (params.map fun param => param.1 ++ '=' :: param.2)

/-- `?node=…&vm_type=…`. -/
def VmContext.params (context : VmContext) : List (List Char × List Char) :=
  [("node".toList, quote context.node.toList), ("vm_type".toList, context.vmType.toList)]

def VmContext.segment (context : VmContext) : List Char := (toString context.vmid).toList

/-- `_has_remote_marker`, for the raw configuration of the row. Aliases have neither that nor a digest. -/
def hasRemoteMarker (raw : Fields) : FirewallObject → Bool
  | .rule row => row.digest ≠ "" || !raw.isEmpty
  | .alias _ => false
  | _ => !raw.isEmpty

def rulePushTarget (marked : Bool) (rule : FirewallRule) : Except FirewallPushError (List Char) := do
  let suffix := if marked then [(toString rule.pos).toList] else []
  match rule.zone with
  | .datacenter => return targetText (words ["proxmox", "firewall", "datacenter", "rules"] ++ suffix) []
  | .node =>
    let name ← pathSegment (← pushNodeName rule.proxmoxNode)
    return targetText (words ["proxmox", "firewall", "nodes"] ++ [name] ++ words ["rules"] ++ suffix) []
  | .securityGroup =>
    let name := (rule.securityGroup.map FirewallSecurityGroup.name).getD ""
    ensure (name ≠ "") ⟨"security_group_required", "Security-group firewall rules require a security group.", 400⟩
    let name ← pathSegment name
    let groups := words ["proxmox", "firewall", "datacenter", "groups"]
    return targetText (groups ++ [name] ++ words ["rules"] ++ suffix) []
  | .vnet =>
    ensure (strip rule.iface ≠ "")
      ⟨"vnet_required", "VNet firewall rules require the interface field to hold the VNet name.", 400⟩
    let name ← pathSegment (strip rule.iface)
    return targetText (words ["proxmox", "firewall", "vnets"] ++ [name] ++ words ["rules"] ++ suffix) []
  | zone =>
    let context ← vmContext rule.virtualMachine zone
    let vms := words ["proxmox", "firewall", "vms"]
    return targetText (vms ++ [context.segment] ++ words ["rules"] ++ suffix) context.params

def scopedCollectionPath (scope : FirewallScope) (vm : Option VirtualMachine) (noun : String) :
    Except FirewallPushError (List Char) :=
  match scope with
  | .datacenter => return targetText (words ["proxmox", "firewall", "datacenter", noun]) []
  | scope => do
    let context ← vmContext vm scope.zone
    return targetText (words ["proxmox", "firewall", "vms"] ++ [context.segment] ++ words [noun]) context.params

/-- Segments go before the query. -/
def pathAddSegments (path : List Char) (segments : List (List Char)) : List Char :=
  let slashless := fun text : List Char => (text.dropWhile (· == '/')).rdropWhile (· == '/')
  let base := (path.takeWhile (· ≠ '?')).rdropWhile (· == '/')
  ['/'].intercalate (base :: segments.map slashless) ++ path.dropWhile (· ≠ '?')

def ipsetEntryPath (entry : FirewallIPSetEntry) : Except FirewallPushError (List Char) := do
  let collection ← scopedCollectionPath entry.ipset.scope entry.ipset.virtualMachine "ipsets"
  let name ← pathSegment entry.ipset.name
  return pathAddSegments collection [name, "entries".toList]

def optionsPath (options : FirewallOptions) : Except FirewallPushError (List Char) :=
  match options.zone with
  | .datacenter => return targetText (words ["proxmox", "firewall", "datacenter", "options"]) []
  | .node => do
    let name ← pathSegment (← pushNodeName options.proxmoxNode)
    return targetText (words ["proxmox", "firewall", "nodes"] ++ [name] ++ words ["options"]) []
  | .securityGroup => .error unsupported
  | .vnet => .error unsupported
  | zone => do
    let context ← vmContext options.virtualMachine zone
    let vms := words ["proxmox", "firewall", "vms"]
    return targetText (vms ++ [context.segment] ++ words ["options"]) context.params
where
  unsupported : FirewallPushError :=
    ⟨"unsupported_firewall_options_zone",
      "Firewall options pushes are only supported for datacenter, node, and VM zones.", 400⟩

/-! ### The push of each model, up to `_call_firewall_backend` -/

def putOrPost (marked : Bool) : String := if marked then "put" else "post"

def pushSecurityGroup (group : FirewallSecurityGroup) : PushRoute :=
  ⟨"post", "/proxmox/firewall/datacenter/groups",
    dropEmpty [("group", .str group.name), ("comment", Json.ofText? group.comment)]⟩

def pushRule (raw : Fields) (rule : FirewallRule) : Except FirewallPushError PushRoute := do
  let marked := hasRemoteMarker raw (.rule rule)
  return ⟨putOrPost marked, String.ofList (← rulePushTarget marked rule), rulePayload rule⟩

def pushIpset (ipset : FirewallIPSet) : Except FirewallPushError PushRoute := do
  let path ← scopedCollectionPath ipset.scope ipset.virtualMachine "ipsets"
  return ⟨"post", String.ofList path,
    dropEmpty [("name", .str ipset.name), ("comment", Json.ofText? ipset.comment)]⟩

def pushIpsetEntry (isNetwork : String → Bool) (raw : Fields) (entry : FirewallIPSetEntry) :
    Except FirewallPushError PushRoute := do
  let path ← ipsetEntryPath entry
  let payload := dropEmpty
    [("cidr", .str entry.cidr), ("comment", Json.ofText? entry.comment), ("nomatch", .bool entry.noMatch)]
  if hasRemoteMarker raw (.ipsetEntry entry) then
    return ⟨"put", String.ofList (path ++ '/' :: (← ipsetEntrySegment isNetwork entry.cidr)), payload⟩
  else return ⟨"post", String.ofList path, payload⟩

def pushAlias (raw : Fields) (row : FirewallAlias) : Except FirewallPushError PushRoute := do
  let collection ← scopedCollectionPath row.scope row.virtualMachine "aliases"
  let payload := dropEmpty
    [("name", .str row.name), ("cidr", .str row.cidr), ("comment", Json.ofText? row.comment)]
  if hasRemoteMarker raw (.alias row) then
    return ⟨"put", String.ofList (pathAddSegments collection [← pathSegment row.name]), payload⟩
  else return ⟨"post", String.ofList collection, payload⟩

def pushOptions (options : FirewallOptions) : Except FirewallPushError PushRoute := do
  return ⟨"put", String.ofList (← optionsPath options), dropEmpty
    [("enable", match options.enable with
        | some enable => .bool enable
        | none => .null),
      ("policy_in", .str options.policyIn), ("policy_out", .str options.policyOut),
      ("options", .obj options.options)]⟩

def pushRoute (isNetwork : String → Bool) (raw : Fields) : FirewallObject → Except FirewallPushError PushRoute
  | .securityGroup group => .ok (pushSecurityGroup group)
  | .rule rule => pushRule raw rule
  | .ipset ipset => pushIpset ipset
  | .ipsetEntry entry => pushIpsetEntry isNetwork raw entry
  | .alias row => pushAlias raw row
  | .options options => pushOptions options

def pushBody : FirewallObject → Fields
  | .securityGroup row => dropEmpty [("group", .str row.name), ("comment", Json.ofText? row.comment)]
  | .options row => dropEmpty
      [("enable", match row.enable with
          | some enable => .bool enable
          | none => .null),
        ("policy_in", .str row.policyIn), ("policy_out", .str row.policyOut), ("options", .obj row.options)]
  | obj => firewallObjectState obj

theorem pushRoute_payload {isNetwork : String → Bool} {raw : Fields} {obj : FirewallObject} {route : PushRoute}
    (h : pushRoute isNetwork raw obj = .ok route) : route.payload = pushBody obj := by
  cases obj with
  | securityGroup group =>
    obtain rfl := Except.ok.inj h
    rfl
  | rule rule =>
    obtain ⟨path, -, h⟩ := bind_eq_ok.1 h
    obtain rfl := Except.ok.inj h
    rfl
  | ipset ipset =>
    obtain ⟨path, -, h⟩ := bind_eq_ok.1 h
    obtain rfl := Except.ok.inj h
    rfl
  | ipsetEntry entry =>
    obtain ⟨path, -, h⟩ := bind_eq_ok.1 h
    dsimp only at h
    split_ifs at h
    · obtain ⟨key, -, h⟩ := bind_eq_ok.1 h
      obtain rfl := Except.ok.inj h
      rfl
    · obtain rfl := Except.ok.inj h
      rfl
  | «alias» row =>
    obtain ⟨collection, -, h⟩ := bind_eq_ok.1 h
    dsimp only at h
    split_ifs at h
    · obtain ⟨name, -, h⟩ := bind_eq_ok.1 h
      obtain rfl := Except.ok.inj h
      rfl
    · obtain rfl := Except.ok.inj h
      rfl
  | options options =>
    obtain ⟨path, -, h⟩ := bind_eq_ok.1 h
    obtain rfl := Except.ok.inj h
    rfl

end Proxbox
