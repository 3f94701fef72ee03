import Proxbox.Intent.ApplyScope
import Proxbox.Intent.FirewallPush
import Proxbox.Sync.Stages
/-!
# Endpoint ids on the wire

Three senders name an endpoint to the backend: the stages of a sync, the direct push of a firewall object,
and the apply job. The backend reads such an id as one of its own rows. The first two translate the
plugin's key; the apply job sends the key itself, so it names the right row only where the two numberings
agree.
-/

namespace Proxbox

open Python

def resolvedId (view : BackendView) (table : EndpointTable) (pk : Int) : Option Int :=
  match table.rows.find? fun endpoint => endpoint.pk = pk with
  | none => none
  | some endpoint =>
    match resolveBackendEndpointId view endpoint with
    | .ok (.ok id) => some id
    | _ => none

def chosenEndpoint (cfg : ApplyConfig) (row : ChangeDiff) : DiffKind → Option Int
  | .guest _ => defaultProxmoxEndpointId cfg.endpoints
  | .firewall =>
    match buildFirewallApplyDiff row with
    | .ok (some diff) => diff.endpointId
    | _ => none

/-- Each endpoint id that reaches the backend is the one the resolver gives the plugin endpoint it is sent for.
-/
def WireIdsLocal (view : BackendView) (cfg : ApplyConfig) (backend : Backend) (branch : Branch) : Prop :=
  (∀ stageCfg stageBackend params stages log, stageCfg.view = view → stageCfg.endpoints = cfg.endpoints →
    runAllStagesSync stageCfg stageBackend params stages = .ok log →
    ∀ request ∈ log.sent, request.Resolved stageCfg) ∧
  (∀ pushCfg user obj route actor request, pushCfg.view = view → pushCfg.endpoints = cfg.endpoints →
    pushFirewallObject pushCfg user obj route actor = .ok (.ok request) →
    ∃ owner endpoint, requireConsistentFirewallEndpoint obj = .ok owner ∧ endpoint.pk = owner.pk ∧
      resolveBackendEndpointId pushCfg.view endpoint = .ok (.ok request.endpointId)) ∧
  ∀ row request, .post row request ∈ (run cfg backend branch).log →
    ∀ pk, chosenEndpoint cfg row request.diff.kind = some pk →
      ∃ id, resolvedId view cfg.endpoints pk = some id ∧ request.endpointId = some id

/-- The backend numbers each endpoint the job chooses for a row it sends as the plugin does. -/
def ChosenIdsAgree (view : BackendView) (cfg : ApplyConfig) (branch : Branch) : Prop :=
  (∀ item ∈ virtualMachineDiffUnion cfg.tables branch, ∀ vm, item.vm = some vm → item.op ≠ .delete →
    GuestPasses cfg item vm → ∀ pk, defaultProxmoxEndpointId cfg.endpoints = some pk →
      resolvedId view cfg.endpoints pk = some pk) ∧
  (cfg.Reachable → ∀ row ∈ firewallChangediffs branch, ∀ diff,
    buildFirewallApplyDiff row = .ok (some diff) → ∀ pk, diff.endpointId = some pk →
      resolvedId view cfg.endpoints pk = some pk)

theorem endpointId_of_post {cfg : ApplyConfig} {backend : Backend} {branch : Branch} {row : ChangeDiff}
    {request : ApplyRequest} (hpost : .post row request ∈ (run cfg backend branch).log) :
    request.endpointId = chosenEndpoint cfg row request.diff.kind := by
  cases hkind : request.diff.kind with
  | guest kind =>
    obtain ⟨item, -, -, -, -, -, -, hdispatch⟩ := guest_of_post hpost hkind
    exact (passes_of_guestDispatch hdispatch).1
  | firewall =>
    obtain ⟨-, -, diff, hdiff, hendpoint⟩ := firewall_of_post hpost hkind
    rw [hendpoint, chosenEndpoint, hdiff]

/-- The ids on the wire are the backend's exactly when the two numberings agree on the endpoints the apply
job sends. -/
theorem wireIdsLocal_iff (view : BackendView) (cfg : ApplyConfig) (backend : Backend) (branch : Branch) :
    WireIdsLocal view cfg backend branch ↔ ChosenIdsAgree view cfg branch := by
  constructor
  · rintro ⟨-, -, hlocal⟩
    constructor
    · intro item hitem vm hvm hop hpasses pk hpk
      obtain ⟨request, hdispatch, hendpoint, -⟩ := exists_request_of_passes branch hvm hop hpasses
      obtain ⟨hpost, kind, hkind⟩ := (post_iff_guestDispatch backend hitem).2 hdispatch
      obtain ⟨id, hid, hsent⟩ := hlocal item.row request hpost pk (by rw [hkind]; exact hpk)
      rw [hendpoint, hpk] at hsent
      rw [hid, hsent]
    · intro hreachable row hrow diff hdiff pk hpk
      obtain ⟨request, hpost, hkind, hendpoint⟩ := exists_post_of_firewall backend hreachable hrow hdiff
      obtain ⟨id, hid, hsent⟩ := hlocal row request hpost pk (by rw [hkind, chosenEndpoint, hdiff]; exact hpk)
      rw [hendpoint, hpk] at hsent
      rw [hid, hsent]
  · rintro ⟨hguests, hfirewall⟩
    refine ⟨fun _ _ _ _ _ _ _ h => runAllStagesSync_resolved h,
      fun _ _ _ _ _ _ _ _ h => pushFirewallObject_resolved h, ?_⟩
    intro row request hpost pk hchosen
    refine ⟨pk, ?_, (endpointId_of_post hpost).trans hchosen⟩
    cases hkind : request.diff.kind with
    | guest kind =>
      obtain ⟨item, hitem, -, -, hdelete, -, -, hdispatch⟩ := guest_of_post hpost hkind
      obtain ⟨-, vm, hvm, hpasses⟩ := passes_of_guestDispatch hdispatch
      rw [hkind] at hchosen
      exact hguests item hitem vm hvm hdelete hpasses pk hchosen
    | firewall =>
      obtain ⟨hreachable, hrow, diff, hdiff, -⟩ := firewall_of_post hpost hkind
      rw [hkind, chosenEndpoint, hdiff] at hchosen
      exact hfirewall hreachable row hrow diff hdiff pk hchosen

/-- The resolver gives the endpoint of key 1 the id 7, and the job sends 1. -/
theorem apply_sends_plugin_key :
    resolvedId renumberingView twoEndpointConfig.endpoints 1 = some 7 ∧
      requestScopes (run twoEndpointConfig refusesFirst twoGuestBranch)
        = [(some 11, some 1), (some 12, some 1)] := by
  decide +kernel

end Proxbox
