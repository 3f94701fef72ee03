import Proxbox.Intent.VmIdentity
import Proxbox.Library.Dict
/-!
# The write gate of a firewall object

A direct push binds a firewall object to one endpoint before it sends anything: the endpoint the row is
linked to, which must be the one its machine, node or security group belongs to, must be enabled, and
must allow writes.
-/

namespace Proxbox

open Python

structure FirewallPushError where
  reason : String
  detail : String
  statusCode : Nat
  deriving DecidableEq

def explicitFirewallEndpoint : FirewallObject → Option ProxmoxEndpoint
  | .securityGroup row => row.endpoint
  | .rule row => row.endpoint
  | .ipset row => row.endpoint
  | .ipsetEntry row => row.ipset.endpoint
  | .alias row => row.endpoint
  | .options row => row.endpoint

def firewallScopeForObject : FirewallObject → Option FirewallZone
  | .securityGroup _ => none
  | .rule row => some row.zone
  | .ipset row => some row.scope.zone
  | .ipsetEntry row => some row.ipset.scope.zone
  | .alias row => some row.scope.zone
  | .options row => some row.zone

def virtualMachineForScope : FirewallObject → Option VirtualMachine
  | .securityGroup _ => none
  | .rule row => row.virtualMachine
  | .ipset row => row.virtualMachine
  | .ipsetEntry row => row.ipset.virtualMachine
  | .alias row => row.virtualMachine
  | .options row => row.virtualMachine

def firewallNodeEndpoint : FirewallObject → Option ProxmoxEndpoint
  | .rule row => row.proxmoxNode.map ProxmoxNode.endpoint
  | .options row => row.proxmoxNode.map ProxmoxNode.endpoint
  | _ => none

def firewallGroupEndpoint : FirewallObject → Option ProxmoxEndpoint
  | .rule row => row.securityGroup.bind FirewallSecurityGroup.endpoint
  | _ => none

def requireMatchingEndpoint (endpoint : ProxmoxEndpoint) (related : Option ProxmoxEndpoint)
    (detail : String) : Except FirewallPushError Unit :=
  if related.map ProxmoxEndpoint.pk = some endpoint.pk then .ok ()
  else .error ⟨"endpoint_mismatch", detail, 403⟩

variable (obj : FirewallObject)

def validateVmEndpointIdentity (endpoint : ProxmoxEndpoint) :
    Except FirewallPushError Unit :=
  let vm := virtualMachineForScope obj
  match vm.bind resolveVmEndpointContext with
  | none =>
    match (vm.bind VirtualMachine.syncState).bind SyncState.endpoint with
    | some stateEndpoint =>
      if stateEndpoint.enabled then .error identityRequired
      else .error ⟨"endpoint_disabled", "The VM's authoritative Proxmox endpoint is disabled.", 403⟩
    | none => .error identityRequired
  | some (endpointId, _, kind) =>
    if endpoint.pk ≠ endpointId then
      .error ⟨"endpoint_mismatch",
        "The firewall object's endpoint does not own its virtual machine.", 403⟩
    else if kind ≠ (if firewallScopeForObject obj = some .vmLxc then .lxc else .qemu) then
      .error ⟨"firewall_scope_mismatch",
        "The firewall object's VM scope does not match its authoritative VM type.", 400⟩
    else .ok ()
where
  identityRequired : FirewallPushError :=
    ⟨"vm_endpoint_identity_required",
      "VM-scoped firewall operations require a complete, consistent Proxbox " ++
        "sync-state endpoint identity.", 400⟩

def validateFirewallScope (endpoint : ProxmoxEndpoint) :
    Except FirewallPushError Unit :=
  match firewallScopeForObject obj with
  | some .vmQemu => validateVmEndpointIdentity obj endpoint
  | some .vmLxc => validateVmEndpointIdentity obj endpoint
  | some .node => requireMatchingEndpoint endpoint (firewallNodeEndpoint obj)
      "The firewall object's node belongs to a different Proxmox endpoint."
  | some .securityGroup => requireMatchingEndpoint endpoint (firewallGroupEndpoint obj)
      "The firewall object's security group belongs to a different Proxmox endpoint."
  | _ => .ok ()

def requireConsistentFirewallEndpoint :
    Except FirewallPushError ProxmoxEndpoint :=
  match explicitFirewallEndpoint obj with
  | none => .error ⟨"endpoint_required",
      "This firewall object is not explicitly linked to a Proxmox endpoint.", 400⟩
  | some endpoint => do
      validateFirewallScope obj endpoint
      return endpoint

def resolveFirewallEndpoint : Option ProxmoxEndpoint :=
  (requireConsistentFirewallEndpoint obj).toOption

/-- The checks of `_firewall_operational_target` up to the choice of a backend: the endpoint a direct push
of the object may write to. -/
def firewallWriteEndpoint : Except FirewallPushError ProxmoxEndpoint := do
  let endpoint ← requireConsistentFirewallEndpoint obj
  ensure (endpoint.enabled = true)
    ⟨"endpoint_disabled", "The linked Proxmox endpoint is disabled.", 403⟩
  ensure (endpoint.allowWrites = true)
    ⟨"writes_disabled_for_endpoint", "Firewall writes are disabled on the linked Proxmox endpoint.", 403⟩
  return endpoint

theorem firewallWriteEndpoint_eq_ok {obj : FirewallObject} {endpoint : ProxmoxEndpoint} :
    firewallWriteEndpoint obj = .ok endpoint ↔
      requireConsistentFirewallEndpoint obj = .ok endpoint ∧ endpoint.enabled = true ∧
        endpoint.allowWrites = true := by
  simp only [firewallWriteEndpoint, bind_eq_ok, ensure_eq_ok]
  constructor
  · rintro ⟨found, hfound, -, henabled, -, hwrites, h⟩
    obtain rfl := Except.ok.inj h
    exact ⟨hfound, henabled, hwrites⟩
  · rintro ⟨hfound, henabled, hwrites⟩
    exact ⟨endpoint, hfound, (), henabled, (), hwrites, rfl⟩

/-! ### The state sent for an object -/

def rulePayload (row : FirewallRule) : Fields :=
  dropEmpty
    [("pos", .int row.pos), ("type", .str row.ruleType), ("action", .str row.action),
      ("enable", .bool row.enable), ("macro", .str row.macroName), ("iface", .str row.iface),
      ("source", .str row.source), ("dest", .str row.dest), ("proto", .str row.proto),
      ("dport", .str row.dport), ("sport", .str row.sport), ("log", .str row.log),
      ("icmp-type", .str row.icmpType), ("comment", Json.ofText? row.comment),
      ("digest", .str row.digest)]

def firewallObjectState : FirewallObject → Fields
  | .securityGroup row => dropEmpty [("name", .str row.name), ("comment", Json.ofText? row.comment)]
  | .rule row => rulePayload row
  | .ipset row => dropEmpty [("name", .str row.name), ("comment", Json.ofText? row.comment)]
  | .ipsetEntry row =>
    dropEmpty
      [("cidr", .str row.cidr), ("comment", Json.ofText? row.comment), ("nomatch", .bool row.noMatch)]
  | .alias row =>
    dropEmpty
      [("name", .str row.name), ("cidr", .str row.cidr), ("comment", Json.ofText? row.comment)]
  | .options row =>
    -- The zone's own options overwrite the three columns where they share a name.
    dropEmpty (row.options.foldl (fun state field => Dict.setItem field.1 field.2 state)
      [("enable", match row.enable with
          | some enable => .bool enable
          | none => .null),
        ("policy_in", .str row.policyIn), ("policy_out", .str row.policyOut)])

end Proxbox
