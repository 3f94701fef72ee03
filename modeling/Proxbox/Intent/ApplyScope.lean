import Proxbox.Intent.ApplyResults
/-!
# Where a run sends its requests, and what they carry

Three properties of the requests of a run, each with the condition on the branch and the inventory under
which it holds: an update of a guest goes to the endpoint that owns the guest, an update carries the
fields of the guest's own kind, and a firewall request passes the write gate of a direct push.
-/

namespace Proxbox

open Python

/-! ### The request of an operation -/

variable {branch : Branch}

theorem union_eq_of_row_eq {tables : Tables} {left right : UnionEntry}
    (hleft : left ∈ virtualMachineDiffUnion tables branch)
    (hright : right ∈ virtualMachineDiffUnion tables branch) (hrow : left.row = right.row) :
    left = right := by
  -- A row of one stream is not a row of the other.
  have hdisjoint : ∀ row, row ∈ coreRows branch → row ∉ intentRows branch := by
    intro row hcore hintent
    have hmachine := (List.mem_filter.1 hcore).2
    have hplan := (List.mem_filter.1 hintent).2
    cases hobject : row.object <;> simp [hobject] at hmachine hplan
  rcases mem_union_cases hleft with ⟨hl, hleft⟩ | ⟨hl, hleft⟩ <;>
    rcases mem_union_cases hright with ⟨hr, hright⟩ | ⟨hr, hright⟩
  · rw [hrow, hright] at hleft
    exact (Option.some.inj hleft).symm
  · exact absurd hr (hdisjoint _ (hrow ▸ hl))
  · exact absurd (hrow ▸ hl) (hdisjoint _ hr)
  · rw [hrow, hright] at hleft
    exact (Option.some.inj hleft).symm

variable {item : UnionEntry} {request : ApplyRequest}

theorem post_iff_guestDispatch {cfg : ApplyConfig} (backend : Backend)
    (hitem : item ∈ virtualMachineDiffUnion cfg.tables branch) :
    (.post item.row request ∈ (run cfg backend branch).log ∧ ∃ kind, request.diff.kind = .guest kind)
      ↔ guestDispatch cfg branch item = some (.apply item.row request) := by
  constructor
  · rintro ⟨hpost, kind, hkind⟩
    obtain ⟨other, hother, hrow, -, -, -, -, hdispatch⟩ := guest_of_post hpost hkind
    rwa [union_eq_of_row_eq hother hitem hrow] at hdispatch
  · intro hdispatch
    have hpost : .post item.row request ∈ (run cfg backend branch).log :=
      mem_log_of_apply (mem_run_dispatches.2 (.inl ⟨item, hitem, hdispatch⟩))
    exact ⟨hpost, _, (apply_of_guestDispatch hdispatch).2.2.2⟩

theorem update_of_guestDispatch {cfg : ApplyConfig} (hdispatch : guestDispatch cfg branch item = some (.apply item.row request))
    (hop : request.diff.op = .update) :
    item.op = .update ∧ request.endpointId = defaultProxmoxEndpointId cfg.endpoints ∧
      ∃ vm payload, item.vm = some vm ∧
        buildPayload cfg.payloadEnv (classifyKind item.vm item.row) vm = .ok payload ∧
        buildUpdateDelta cfg.payloadEnv vm (.obj []) = .ok request.diff.payload := by
  obtain ⟨payload, hpayload, -, ⟨-, -, _, -, heq⟩ | ⟨vm, sent, hvm, heq, hendpoint, hdiff⟩⟩ :=
    guestDispatch_eq_some hdispatch
  · cases heq
  · obtain ⟨-, rfl⟩ := Dispatch.apply.inj heq
    have hbuilt : buildPayload cfg.payloadEnv (classifyKind item.vm item.row) vm = .ok payload := by
      simpa [roundPayload, hvm] using hpayload
    rcases hdiff with ⟨-, hdiff⟩ | ⟨hupdate, delta, hdelta, hdiff⟩
    · rw [hdiff] at hop
      cases hop
    · refine ⟨hupdate, hendpoint, vm, payload, hvm, hbuilt, ?_⟩
      rw [hdiff]
      exact hdelta

variable (cfg : ApplyConfig)

def ApplyConfig.Reachable : Prop := ∃ url, cfg.httpUrl = some url ∧ url ≠ ""

theorem applyRequest_ok_iff (diff : ApplyDiff) (endpointId : Option Int) :
    (∃ request, applyRequest cfg diff endpointId = .ok request) ↔ cfg.Reachable := by
  unfold applyRequest ApplyConfig.Reachable
  cases hurl : cfg.httpUrl with
  | none => simp
  | some url => by_cases hempty : url = "" <;> simp [hempty]

/-- The checks of a round before it sends a create or an update. -/
def GuestPasses (item : UnionEntry) (vm : VirtualMachine) : Prop :=
  (∃ payload, buildPayload cfg.payloadEnv (classifyKind item.vm item.row) vm = .ok payload) ∧
    (item.op = .update → ∃ delta, buildUpdateDelta cfg.payloadEnv vm (.obj []) = .ok delta ∧ delta ≠ []) ∧
    cfg.permits (permissionFor item.op (classifyKind item.vm item.row)) = true ∧ cfg.Reachable

theorem guestRequest_isSome {cfg : ApplyConfig} {row : ChangeDiff} {op : Op} {kind : GuestKind}
    {payload : Fields} :
    (guestRequest cfg row op kind payload).isSome = true ↔
      cfg.permits (permissionFor op kind) = true ∧ cfg.Reachable := by
  have hrequest := applyRequest_ok_iff cfg ⟨op, .guest kind, none, payload⟩
    (defaultProxmoxEndpointId cfg.endpoints)
  unfold guestRequest
  split_ifs with hpermits
  · rw [Option.isSome_map, Option.isSome_iff_exists, ← hrequest]
    simp only [toOption_eq_some, hpermits, true_and]
  · simp [hpermits]

variable {vm : VirtualMachine}

theorem guestDispatch_isSome {cfg : ApplyConfig} (hvm : item.vm = some vm) (hop : item.op ≠ .delete) :
    (guestDispatch cfg branch item).isSome = true ↔ GuestPasses cfg item vm := by
  obtain ⟨_, op, row⟩ := item
  subst hvm
  unfold guestDispatch GuestPasses
  cases hpayload : buildPayload cfg.payloadEnv (classifyKind (some vm) row) vm with
  | error raised => simp [roundPayload, hpayload]
  | ok payload =>
    cases op with
    | create => simp [roundPayload, hpayload, guestRequest_isSome]
    | update =>
      cases hdelta : buildUpdateDelta cfg.payloadEnv vm (.obj []) with
      | error raised => simp [roundPayload, hpayload, hdelta, Except.toOption]
      | ok delta =>
        by_cases hempty : delta = []
        · simp [roundPayload, hpayload, hdelta, Except.toOption, hempty]
        · simp [roundPayload, hpayload, hdelta, Except.toOption, hempty, guestRequest_isSome]
    | delete => exact absurd rfl hop

theorem exists_request_of_passes {cfg : ApplyConfig}
    (branch : Branch) (hvm : item.vm = some vm) (hop : item.op ≠ .delete) (hpasses : GuestPasses cfg item vm) :
    ∃ request, guestDispatch cfg branch item = some (.apply item.row request) ∧
      request.endpointId = defaultProxmoxEndpointId cfg.endpoints ∧ request.diff.op = item.op := by
  obtain ⟨dispatch, hdispatch⟩ := Option.isSome_iff_exists.1 ((guestDispatch_isSome hvm hop).2 hpasses)
  obtain ⟨_, -, -, ⟨hdelete, -⟩ | ⟨_, request, -, rfl, hendpoint, -⟩⟩ := guestDispatch_eq_some hdispatch
  · exact absurd hdelete hop
  · exact ⟨request, hdispatch, hendpoint, (apply_of_guestDispatch hdispatch).2.1.symm⟩

theorem passes_of_guestDispatch {cfg : ApplyConfig} {row : ChangeDiff}
    (hdispatch : guestDispatch cfg branch item = some (.apply row request)) :
    request.endpointId = defaultProxmoxEndpointId cfg.endpoints ∧
      ∃ vm, item.vm = some vm ∧ GuestPasses cfg item vm := by
  obtain ⟨-, -, hdelete, -⟩ := apply_of_guestDispatch hdispatch
  obtain ⟨_, -, -, ⟨-, -, _, -, heq⟩ | ⟨vm, sent, hvm, heq, hendpoint, -⟩⟩ := guestDispatch_eq_some hdispatch
  · cases heq
  · obtain ⟨-, rfl⟩ := Dispatch.apply.inj heq
    exact ⟨hendpoint, vm, hvm, (guestDispatch_isSome hvm hdelete).1 (by rw [hdispatch]; rfl)⟩

/-! ### The endpoint of an update -/

def vmOwner (vm : VirtualMachine) : Option Int := vm.syncState.bind SyncState.endpointId

/-- Each update of a guest with an owner is addressed to that owner, which allows writes. -/
def UpdatesReachOwner (backend : Backend) (branch : Branch) : Prop :=
  ∀ item ∈ virtualMachineDiffUnion cfg.tables branch, ∀ vm owner request,
    item.vm = some vm → vmOwner vm = some owner →
    .post item.row request ∈ (run cfg backend branch).log →
    (∃ kind, request.diff.kind = .guest kind) → request.diff.op = .update →
    request.endpointId = some owner ∧
      ∃ endpoint ∈ cfg.endpoints.rows, endpoint.pk = owner ∧ endpoint.allowWrites = true

variable (table : EndpointTable)

def firstWritable : Option ProxmoxEndpoint :=
  table.rows.find? fun endpoint => endpoint.allowWrites && endpoint.enabled

/-- Each guest with an owner whose update passes the checks of its round is owned by the first writable
endpoint. -/
def OwnersFirstWritable (branch : Branch) : Prop :=
  ∀ item ∈ virtualMachineDiffUnion cfg.tables branch, ∀ vm owner,
    item.vm = some vm → vmOwner vm = some owner → item.op = .update → GuestPasses cfg item vm →
    (firstWritable cfg.endpoints).map ProxmoxEndpoint.pk = some owner

theorem default_writable_iff (owner : Int) :
    (defaultProxmoxEndpointId table = some owner ∧
        ∃ endpoint ∈ table.rows, endpoint.pk = owner ∧ endpoint.allowWrites = true)
      ↔ (firstWritable table).map ProxmoxEndpoint.pk = some owner := by
  unfold defaultProxmoxEndpointId firstWritable
  cases hwritable : table.rows.find? fun endpoint => endpoint.allowWrites && endpoint.enabled with
  | some endpoint =>
    have hmem := List.mem_of_find?_eq_some hwritable
    have hboth := List.find?_some hwritable
    simp only [Bool.and_eq_true] at hboth
    simp only [Option.some_or, Option.map_some, Option.some.injEq]
    exact ⟨And.left, fun hpk => ⟨hpk, endpoint, hmem, hpk, hboth.1⟩⟩
  | none =>
    -- The fallback is enabled, so a writable endpoint of its key would have been found first.
    simp only [Option.none_or, Option.map_none, reduceCtorEq, iff_false, not_and]
    rintro hdefault ⟨endpoint, hmem, hpk, hwrites⟩
    obtain ⟨fallback, hfallback, hkey⟩ := Option.map_eq_some_iff.1 hdefault
    have heq := table.eq_of_pk_eq hmem (List.mem_of_find?_eq_some hfallback) (hpk.trans hkey.symm)
    have henabled : endpoint.enabled = true := heq ▸ List.find?_some hfallback
    have hnone := List.find?_eq_none.1 hwritable endpoint hmem
    simp [hwrites, henabled] at hnone

/-- Updates reach the owners of their guests exactly when every such owner is the first writable
endpoint. -/
theorem updatesReachOwner_iff (cfg : ApplyConfig) (backend : Backend) (branch : Branch) :
    UpdatesReachOwner cfg backend branch ↔ OwnersFirstWritable cfg branch := by
  constructor
  · intro hreach item hitem vm owner hvm howner hop hpasses
    obtain ⟨request, hdispatch, -, hupdate⟩ :=
      exists_request_of_passes branch hvm (by rw [hop]; decide) hpasses
    rw [hop] at hupdate
    obtain ⟨hpost, hguest⟩ := (post_iff_guestDispatch backend hitem).2 hdispatch
    have hscope := hreach item hitem vm owner request hvm howner hpost hguest hupdate
    rw [(update_of_guestDispatch hdispatch hupdate).2.1] at hscope
    exact (default_writable_iff cfg.endpoints owner).1 hscope
  · intro hfirst item hitem vm owner request hvm howner hpost hguest hupdate
    have hdispatch := (post_iff_guestDispatch backend hitem).1 ⟨hpost, hguest⟩
    obtain ⟨hop, -⟩ := update_of_guestDispatch hdispatch hupdate
    obtain ⟨hendpoint, vm', hvm', hpasses⟩ := passes_of_guestDispatch hdispatch
    obtain rfl : vm = vm' := by simpa [hvm] using hvm'
    rw [hendpoint, default_writable_iff]
    exact hfirst item hitem vm owner hvm howner hop hpasses

variable (applied : ApplyRun)

def requestScopes : List (Option Int × Option Int) :=
  applied.log.filterMap fun event => match event with
    | .post row request => some (row.objectId, request.endpointId)
    | _ => none

/-- The guest of the second endpoint is updated through the first. -/
theorem update_sent_to_other_endpoint :
    vmOwner (guestOn westEndpoint 12 "db") = some 2 ∧
      requestScopes (run twoEndpointConfig refusesFirst twoGuestBranch)
        = [(some 11, some 1), (some 12, some 1)] := by
  decide +kernel

/-! ### The fields of an update -/

theorem buildUpdateDelta_nil_eq_ok {env : PayloadEnv} {delta : Fields}
    (h : buildUpdateDelta env vm (.obj []) = .ok delta) :
    ∃ qemu, buildVmPayload env vm = .ok qemu ∧ delta = deltaFields [] qemu := by
  have hhint : ¬ lower ((Fields.get (Json.obj []).asDict "kind").or (.str "")).text = "lxc" := by decide
  unfold buildUpdateDelta at h
  rw [if_neg hhint] at h
  obtain ⟨qemu, hqemu, h⟩ := bind_eq_ok.1 h
  exact ⟨qemu, hqemu, (Except.ok.inj h).symm⟩

/-- Each update of a guest carries what the builder of the guest's kind gives. -/
def UpdatesOfOwnKind (backend : Backend) (branch : Branch) : Prop :=
  ∀ item ∈ virtualMachineDiffUnion cfg.tables branch, ∀ vm request kind,
    item.vm = some vm → .post item.row request ∈ (run cfg backend branch).log →
    request.diff.kind = .guest kind → request.diff.op = .update →
    ∃ payload, buildPayload cfg.payloadEnv kind vm = .ok payload ∧
      request.diff.payload = deltaFields [] payload

/-- Each container whose update passes the checks of its round has no field of one kind only. -/
def ContainersPlain (branch : Branch) : Prop :=
  ∀ item ∈ virtualMachineDiffUnion cfg.tables branch, ∀ vm,
    item.vm = some vm → item.op = .update → classifyKind item.vm item.row = .lxc →
    GuestPasses cfg item vm → NoKindFields vm

/-- Updates carry the fields of their guest's kind exactly when every updated container is plain. -/
theorem updatesOfOwnKind_iff (cfg : ApplyConfig) (backend : Backend) (branch : Branch) :
    UpdatesOfOwnKind cfg backend branch ↔ ContainersPlain cfg branch := by
  constructor
  · intro hown item hitem vm hvm hop hlxc hpasses
    obtain ⟨request, hdispatch, -, hupdate⟩ :=
      exists_request_of_passes branch hvm (by rw [hop]; decide) hpasses
    rw [hop] at hupdate
    obtain ⟨hpost, -⟩ := (post_iff_guestDispatch backend hitem).2 hdispatch
    obtain ⟨-, -, -, hkind⟩ := apply_of_guestDispatch hdispatch
    obtain ⟨-, -, vm', -, hvm', -, hdelta⟩ := update_of_guestDispatch hdispatch hupdate
    obtain rfl : vm = vm' := by simpa [hvm] using hvm'
    obtain ⟨payload, hpayload, hfields⟩ := hown item hitem vm request _ hvm hpost hkind hupdate
    obtain ⟨qemu, hqemu, hsent⟩ := buildUpdateDelta_nil_eq_ok hdelta
    rw [hlxc] at hpayload
    exact (deltaFields_builders_eq_iff hqemu hpayload).1 (hsent.symm.trans hfields)
  · intro hplain item hitem vm request kind hvm hpost hkind hupdate
    have hdispatch := (post_iff_guestDispatch backend hitem).1 ⟨hpost, kind, hkind⟩
    obtain ⟨hop, -, vm', payload, hvm', hpayload, hdelta⟩ := update_of_guestDispatch hdispatch hupdate
    obtain rfl : vm = vm' := by simpa [hvm] using hvm'
    have hclass : kind = classifyKind item.vm item.row :=
      DiffKind.guest.inj (hkind.symm.trans (apply_of_guestDispatch hdispatch).2.2.2)
    rw [← hclass] at hpayload
    obtain ⟨qemu, hqemu, hsent⟩ := buildUpdateDelta_nil_eq_ok hdelta
    refine ⟨payload, hpayload, hsent.trans ?_⟩
    cases kind with
    | qemu => rw [Except.ok.inj (hqemu.symm.trans hpayload)]
    | lxc =>
      have hpasses := (guestDispatch_isSome hvm (by rw [hop]; decide)).1 (by rw [hdispatch]; rfl)
      exact (deltaFields_builders_eq_iff hqemu hpayload).2
        (hplain item hitem vm hvm hop hclass.symm hpasses)

def containerWithRootfs : VirtualMachine :=
  let guest := guestOn eastEndpoint 11 "ct"
  { guest with
    syncState := guest.syncState.map fun state => { state with proxmoxVmType := "lxc" }
    intent := some
      { targetNode := "", targetStorage := "", iso := "", templateVmid := none, swap := some 512,
        rootfs := "local:8", ostemplate := "", cloudInitUser := "", cloudInitSshKeys := "",
        cloudInitUserData := "", cloudInitNetwork := "", intentState := "", lastApplyRunId := "" } }

def requestFields : List (DiffKind × List String) :=
  applied.log.filterMap fun event => match event with
    | .post _ request => some (request.diff.kind, request.diff.payload.map Prod.fst)
    | _ => none

/-- The update of a container leaves out the two fields its own builder gives. -/
theorem container_update_drops_fields :
    requestFields (run twoEndpointConfig refusesFirst
        ⟨some 1, "br1", "b", some [updateRow containerWithRootfs]⟩)
      = [(.guest .lxc, ["name", "cores", "memory", "tags", "vmid", "node"])] ∧
    ((buildLxcPayload twoEndpointConfig.payloadEnv containerWithRootfs).toOption.map fun payload =>
        (deltaFields [] payload).map Prod.fst)
      = some ["name", "cores", "memory", "swap", "rootfs", "tags", "vmid", "node"] := by
  decide +kernel

/-! ### The gate of a firewall request -/

/-- Each firewall request of a run is for a live object that a direct push may write. -/
def FirewallGated (backend : Backend) (branch : Branch) : Prop :=
  ∀ row request, .post row request ∈ (run cfg backend branch).log → request.diff.kind = .firewall →
    ∃ obj endpoint, rowObject row = some obj ∧ requireConsistentFirewallEndpoint obj = .ok endpoint ∧
      endpoint.enabled = true ∧ endpoint.allowWrites = true

/-- Each firewall row that can be turned into a request has a live object that passes the gate of a direct push.
-/
def FirewallRowsWritable (branch : Branch) : Prop :=
  cfg.Reachable → ∀ row ∈ firewallChangediffs branch, ∀ diff,
    buildFirewallApplyDiff row = .ok (some diff) →
    ∃ obj endpoint, rowObject row = some obj ∧ firewallWriteEndpoint obj = .ok endpoint

theorem exists_post_of_firewall {cfg : ApplyConfig} {row : ChangeDiff}
    {diff : FirewallApplyDiff} (backend : Backend) (hreachable : cfg.Reachable)
    (hrow : row ∈ firewallChangediffs branch) (hdiff : buildFirewallApplyDiff row = .ok (some diff)) :
    ∃ request, .post row request ∈ (run cfg backend branch).log ∧ request.diff.kind = .firewall ∧
      request.endpointId = diff.endpointId := by
  obtain ⟨request, hrequest⟩ := (applyRequest_ok_iff cfg
    ⟨diff.op, .firewall, diff.netboxId, diff.payload⟩ diff.endpointId).2 hreachable
  have hdispatch : firewallDispatch cfg row = some (.apply row request) := by
    simp [firewallDispatch, hdiff, hrequest, Except.toOption]
  have hpost : .post row request ∈ (run cfg backend branch).log :=
    mem_log_of_apply (mem_run_dispatches.2 (.inr ⟨row, hrow, hdispatch⟩))
  obtain ⟨hsent, hendpoint⟩ := applyRequest_eq_ok hrequest
  exact ⟨request, hpost, congrArg ApplyDiff.kind hsent, hendpoint⟩

theorem firewall_of_post {cfg : ApplyConfig} {backend : Backend} {row : ChangeDiff}
    (hpost : .post row request ∈ (run cfg backend branch).log) (hkind : request.diff.kind = .firewall) :
    cfg.Reachable ∧ row ∈ firewallChangediffs branch ∧
      ∃ diff, buildFirewallApplyDiff row = .ok (some diff) ∧ request.endpointId = diff.endpointId := by
  rcases mem_run_dispatches.1 (mem_dispatches_of_post hpost) with
    ⟨item, hitem, hdispatch⟩ | ⟨row', hrow, hdispatch⟩
  · rw [(apply_of_guestDispatch hdispatch).2.2.2] at hkind
    cases hkind
  · obtain rfl : row = row' := firewallDispatch_row hdispatch
    obtain ⟨found, hfound, hsent⟩ := Option.bind_eq_some_iff.1 hdispatch
    obtain ⟨diff, rfl, hsent⟩ := Option.bind_eq_some_iff.1 hsent
    obtain ⟨sent, hrequest, heq⟩ := Option.map_eq_some_iff.1 hsent
    obtain ⟨-, rfl⟩ := Dispatch.apply.inj heq
    have hok := toOption_eq_some.1 hrequest
    exact ⟨(applyRequest_ok_iff _ _ _).1 ⟨sent, hok⟩, hrow, diff, toOption_eq_some.1 hfound,
      (applyRequest_eq_ok hok).2⟩

/-- Firewall requests pass the gate exactly when every row that becomes one has an object that does: the
run itself refuses none. -/
theorem firewallGated_iff (cfg : ApplyConfig) (backend : Backend) (branch : Branch) :
    FirewallGated cfg backend branch ↔ FirewallRowsWritable cfg branch := by
  constructor
  · intro hgated hreachable row hrow diff hdiff
    obtain ⟨request, hpost, hkind, -⟩ := exists_post_of_firewall backend hreachable hrow hdiff
    obtain ⟨obj, endpoint, hobj, hgate⟩ := hgated row request hpost hkind
    exact ⟨obj, endpoint, hobj, firewallWriteEndpoint_eq_ok.2 hgate⟩
  · intro hwritable row request hpost hkind
    obtain ⟨hreachable, hrow, diff, hdiff, -⟩ := firewall_of_post hpost hkind
    obtain ⟨obj, endpoint, hobj, hgate⟩ := hwritable hreachable row hrow diff hdiff
    exact ⟨obj, endpoint, hobj, firewallWriteEndpoint_eq_ok.1 hgate⟩

def readOnlyAlias : FirewallObject :=
  .alias
    { pk := 7, endpoint := some { eastEndpoint with allowWrites := false }, scope := .datacenter,
      virtualMachine := none, name := "lan", cidr := "10.0.0.0/8", comment := none }

def firewallRow (obj : FirewallObject) : ChangeDiff where
  pk := none
  object := .firewall obj.model (some obj) (by rintro _ ⟨⟩; rfl)
  objectId := some obj.pk
  objectRepr := none
  action := some "create"
  original := .null
  modified := .null
  current := .null
  prechangeData := .null
  postchangeData := .null

/-- A direct push of the object is refused, and the run sends it. -/
theorem readOnly_object_sent :
    (firewallWriteEndpoint readOnlyAlias).toOption = none ∧
      requestScopes (run twoEndpointConfig refusesFirst
        ⟨some 1, "br1", "b", some [firewallRow readOnlyAlias]⟩) = [(some 7, some 1)] := by
  decide +kernel

end Proxbox
