import Proxbox.Model.ChangeDiff
/-!
# The Proxmox identity of a virtual machine

What the typed sync-state sidecar says about a NetBox virtual machine: its Proxmox VMID, node and guest
kind, and the endpoint that owns it when every recorded link agrees.
-/

namespace Proxbox

open Python

inductive GuestKind where
  | qemu
  | lxc
  deriving DecidableEq

def GuestKind.text : GuestKind → String
  | .qemu => "qemu"
  | .lxc => "lxc"

variable (vm : VirtualMachine)

def resolveVmNode : String :=
  let recorded := vm.syncState.bind fun state =>
    match state.proxmoxNode with
    | some node => if node.name ≠ "" then some node.name else some state.proxmoxNodeName
    | none => some state.proxmoxNodeName
  match recorded with
  | some name => if name ≠ "" then name else deviceName
  | none => deviceName
where
  deviceName : String := (vm.device.bind Device.name).getD ""

/-- `resolve_known_vm_type`: the supported guest kind, `none` when it is unknown or there is no
machine. -/
def resolveKnownVmType (vm : Option VirtualMachine) : Option GuestKind :=
  let typed := lower (strip (((vm.bind VirtualMachine.syncState).map SyncState.proxmoxVmType).getD ""))
  if typed = "qemu" then some .qemu
  else if typed = "lxc" then some .lxc
  else
    let slug := lower (strip (((vm.bind VirtualMachine.virtualMachineType).map Labelled.slug).getD ""))
    if contains "lxc" slug then some .lxc
    else if contains "qemu" slug then some .qemu
    else none

def resolveVmType : GuestKind := (resolveKnownVmType (some vm)).getD .qemu

def positiveInt (value : Option Int) : Option Int := value.filter fun n => decide (0 < n)

def linkedEndpointMatches (linked : Option ProxmoxEndpoint) (endpointId : Int) : Bool :=
  match linked with
  | none => true
  | some endpoint => positiveInt (some endpoint.pk) == some endpointId

/-- `resolve_vm_endpoint_context`: the endpoint, VMID and kind of a machine whose sync state is
complete and consistent, and whose endpoint is enabled. -/
def resolveVmEndpointContext : Option (Int × Int × GuestKind) := do
  let state ← vm.syncState
  let vmId ← positiveInt (some vm.pk)
  if positiveInt (some state.virtualMachineId) ≠ some vmId then none
  let endpoint ← state.endpoint
  let endpointId ← positiveInt state.endpointId
  if positiveInt (some endpoint.pk) ≠ some endpointId then none
  if endpoint.enabled ≠ true then none
  if linkedEndpointMatches (state.proxmoxCluster.map ProxmoxCluster.endpoint) endpointId ≠ true then none
  if linkedEndpointMatches (state.proxmoxNode.map ProxmoxNode.endpoint) endpointId ≠ true then none
  let vmid ← positiveInt state.proxmoxVmId
  return (endpointId, vmid, resolveVmType vm)

def resolveVmVmid : String :=
  match vm.syncState.bind SyncState.proxmoxVmId with
  | some vmid => toString vmid
  | none => ""

end Proxbox
