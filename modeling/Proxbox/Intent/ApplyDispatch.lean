import Proxbox.Intent.ApplyJob
/-!
# What a run dispatches

A dispatch is a request to the apply route or a deletion request. Each round makes at most one, and
which one is a function of its item and of the configuration: no answer of the backend, and no earlier
round, changes it. `guestDispatch` and `firewallDispatch` are those functions; `run_dispatches` says that
a run dispatches what they give, row by row.
-/

namespace Proxbox

open Python

inductive Dispatch where
  | apply (row : ChangeDiff) (request : ApplyRequest)
  | deletion (row : ChangeDiff) (record : DeletionRecord)

def Dispatch.row : Dispatch → ChangeDiff
  | .apply row _ => row
  | .deletion row _ => row

def Event.dispatch : Event → Option Dispatch
  | .post row request => some (.apply row request)
  | .saveDeletion row record => some (.deletion row record)
  | _ => none

def ApplyRun.dispatches (applied : ApplyRun) : List Dispatch := applied.log.filterMap Event.dispatch

variable (cfg : ApplyConfig)

def roundPayload (item : UnionEntry) : Except Raised Fields :=
  match item.vm with
  | some vm => buildPayload cfg.payloadEnv (classifyKind item.vm item.row) vm
  | none => .ok []

def guestRequest (row : ChangeDiff) (op : Op) (kind : GuestKind) (payload : Fields) :
    Option Dispatch :=
  if cfg.permits (permissionFor op kind) then
    (applyRequest cfg ⟨op, .guest kind, none, payload⟩ (defaultProxmoxEndpointId cfg.endpoints)).toOption.map
      (Dispatch.apply row)
  else none

def guestDispatch (branch : Branch) (item : UnionEntry) : Option Dispatch :=
  let kind := classifyKind item.vm item.row
  match roundPayload cfg item with
  | .error _ => none
  | .ok payload =>
    match item.op, item.vm with
    | .delete, vm =>
      if cfg.destroyConfirmed branch && cfg.permits (permissionFor .delete kind) then
        (deletionSnapshot vm item.row).toOption.map fun found =>
          .deletion item.row (deletionRecord cfg branch kind found)
      else none
    | _, none => none
    | .update, some vm =>
      (buildUpdateDelta cfg.payloadEnv vm (.obj [])).toOption.bind fun delta =>
        if delta.isEmpty then none else guestRequest cfg item.row .update kind delta
    | .create, some _ => guestRequest cfg item.row .create kind payload

def firewallDispatch (row : ChangeDiff) : Option Dispatch :=
  (buildFirewallApplyDiff row).toOption.bind fun found =>
    found.bind fun diff =>
      (applyRequest cfg ⟨diff.op, .firewall, diff.netboxId, diff.payload⟩ diff.endpointId).toOption.map
        (Dispatch.apply row)

/-! ### One round -/

theorem callApplyEndpoint_events (backend : Backend) (log : List Event)
    (row : ChangeDiff) (diff : ApplyDiff) (endpointId : Option Int) :
    (callApplyEndpoint cfg backend log row diff endpointId).2.filterMap Event.dispatch
      = ((applyRequest cfg diff endpointId).toOption.map (Dispatch.apply row)).toList := by
  unfold callApplyEndpoint
  cases applyRequest cfg diff endpointId <;> rfl

theorem sendGuest_events (backend : Backend) (log : List Event) (row : ChangeDiff)
    (vm : VirtualMachine) (op : Op) (kind : GuestKind) (key : String) (vmid : Json) (payload : Fields) :
    (sendGuest cfg backend log row vm op kind key vmid payload).events.filterMap Event.dispatch
      = (guestRequest cfg row op kind payload).toList := by
  have hcall := callApplyEndpoint_events cfg backend log row ⟨op, .guest kind, none, payload⟩
    (defaultProxmoxEndpointId cfg.endpoints)
  unfold sendGuest guestRequest
  dsimp only
  cases hpermits : cfg.permits (permissionFor op kind) with
  | false => simp
  | true =>
    rw [if_pos rfl, ← hcall]
    clear hcall
    obtain ⟨reply, events⟩ := callApplyEndpoint cfg backend log row ⟨op, .guest kind, none, payload⟩
      (defaultProxmoxEndpointId cfg.endpoints)
    cases reply with
    | error raised => simp
    | ok body =>
      -- A stamp is no dispatch.
      simp only [Bool.not_true, Bool.false_eq_true, if_false, List.filterMap_append]
      split_ifs
      · simp [Event.dispatch]
      · simp

theorem updateGuest_events (backend : Backend) (log : List Event) (row : ChangeDiff)
    (vm : VirtualMachine) (kind : GuestKind) (key : String) (vmid : Json) :
    (updateGuest cfg backend log row vm kind key vmid).events.filterMap Event.dispatch
      = ((buildUpdateDelta cfg.payloadEnv vm (.obj [])).toOption.bind fun delta =>
          if delta.isEmpty then none else guestRequest cfg row .update kind delta).toList := by
  unfold updateGuest
  cases buildUpdateDelta cfg.payloadEnv vm (.obj []) with
  | error raised => simp [Except.toOption]
  | ok delta =>
    simp only [Except.toOption, Option.bind_some]
    split_ifs
    · simp
    · exact sendGuest_events cfg backend log row vm .update kind key vmid delta

theorem deleteGuest_events (backend : Backend) (branch : Branch) (log : List Event)
    (index : Nat) (row : ChangeDiff) (vm : Option VirtualMachine) (kind : GuestKind) (key : String)
    (vmid : Json) :
    (deleteGuest cfg backend branch log index row vm kind key vmid).events.filterMap Event.dispatch
      = (if cfg.destroyConfirmed branch && cfg.permits (permissionFor .delete kind) then
          (deletionSnapshot vm row).toOption.map fun found =>
            Dispatch.deletion row (deletionRecord cfg branch kind found)
        else none).toList := by
  unfold deleteGuest
  dsimp only
  cases cfg.destroyConfirmed branch with
  | false => simp
  | true =>
    cases cfg.permits (permissionFor .delete kind) with
    | false => simp
    | true =>
      cases deletionSnapshot vm row with
      | error raised => simp [Except.toOption]
      | ok found =>
        simp only [Bool.not_true, Bool.false_eq_true, if_false, Bool.and_self, if_true,
          Except.toOption, Option.map_some, Option.toList_some]
        cases backend.saveDeletion log (deletionRecord cfg branch kind found) with
        | error text => rfl
        | ok pk =>
          -- A tag is no dispatch either.
          dsimp only
          split_ifs <;> rfl

theorem vmRound_events (backend : Backend) (branch : Branch) (log : List Event)
    (index : Nat) (item : UnionEntry) :
    (vmRound cfg backend branch log index item).events.filterMap Event.dispatch
      = (guestDispatch cfg branch item).toList := by
  obtain ⟨vm, op, row⟩ := item
  simp only [vmRound, guestDispatch, roundPayload, classifyDiff_text]
  cases vm with
  | none =>
    cases op with
    | create => simp
    | update => simp
    | delete => simp only [deleteGuest_events]
  | some vm =>
    cases hpayload : buildPayload cfg.payloadEnv (classifyKind (some vm) row) vm with
    | error raised => simp [hpayload]
    | ok payload =>
      cases op with
      | create => simp only [hpayload, sendGuest_events]
      | delete => simp only [hpayload, deleteGuest_events]
      | update => simp only [hpayload, updateGuest_events]

theorem firewallRound_events (backend : Backend) (log : List Event) (index : Nat) (row : ChangeDiff) :
    (firewallRound cfg backend log index row).events.filterMap Event.dispatch
      = (firewallDispatch cfg row).toList := by
  unfold firewallRound firewallDispatch
  cases buildFirewallApplyDiff row with
  | error raised => rfl
  | ok found =>
    cases found with
    | none => rfl
    | some diff =>
      have hcall := callApplyEndpoint_events cfg backend log row
        ⟨diff.op, .firewall, diff.netboxId, diff.payload⟩ diff.endpointId
      simp only [Except.toOption, Option.bind_some] at hcall ⊢
      rw [← hcall]
      clear hcall
      obtain ⟨reply, events⟩ := callApplyEndpoint cfg backend log row
        ⟨diff.op, .firewall, diff.netboxId, diff.payload⟩ diff.endpointId
      cases reply with
      | error raised => rfl
      | ok body =>
        dsimp only
        split
        · split <;> simp [Event.dispatch]
        · rfl

/-! ### The run -/

/-- A run dispatches what its rows stand for, first the guests and then the firewall rows. -/
theorem run_dispatches (backend : Backend) (branch : Branch) :
    (run cfg backend branch).dispatches
      = (virtualMachineDiffUnion cfg.tables branch).filterMap (guestDispatch cfg branch)
        ++ (firewallChangediffs branch).filterMap (firewallDispatch cfg) := by
  have hguests := Rounds.filterMap_eventsOf_rounds
    (fun log item => vmRound cfg backend branch log item.2 item.1) Event.dispatch
    (fun item => guestDispatch cfg branch item.1)
    (fun log item => vmRound_events cfg backend branch log item.2 item.1) []
    ((virtualMachineDiffUnion cfg.tables branch).zipIdx 1)
  have hfirewall := Rounds.filterMap_eventsOf_rounds
    (fun log item => firewallRound cfg backend log item.2 item.1) Event.dispatch
    (fun item => firewallDispatch cfg item.1)
    (fun log item => firewallRound_events cfg backend log item.2 item.1)
    (vmLoop cfg backend branch).log ((firewallChangediffs branch).zipIdx 1)
  rw [ApplyRun.dispatches, run, firewallLoop, Rounds.loop_log, List.filterMap_append, hfirewall, vmLoop,
    Rounds.loop_log, List.nil_append, hguests]
  congr 1
  · conv_rhs => rw [← List.zipIdx_map_fst 1 (virtualMachineDiffUnion cfg.tables branch)]
    rw [List.filterMap_map]
    rfl
  · conv_rhs => rw [← List.zipIdx_map_fst 1 (firewallChangediffs branch)]
    rw [List.filterMap_map]
    rfl

/-! ### What a dispatch tells about its row -/

variable {request : ApplyRequest}

theorem applyRequest_eq_ok {cfg : ApplyConfig} {diff : ApplyDiff} {endpointId : Option Int}
    (h : applyRequest cfg diff endpointId = .ok request) :
    request.diff = diff ∧ request.endpointId = endpointId := by
  unfold applyRequest at h
  cases hurl : cfg.httpUrl with
  | none => simp [hurl] at h
  | some httpUrl =>
    by_cases hempty : httpUrl = ""
    · simp [hurl, hempty] at h
    · simp only [hurl, hempty, if_false, Except.ok.injEq] at h
      subst h
      exact ⟨rfl, rfl⟩

theorem guestRequest_eq_some {cfg : ApplyConfig} {row : ChangeDiff} {op : Op} {kind : GuestKind}
    {payload : Fields} {dispatch : Dispatch} (h : guestRequest cfg row op kind payload = some dispatch) :
    cfg.permits (permissionFor op kind) = true ∧ ∃ request, dispatch = .apply row request ∧
      request.diff = ⟨op, .guest kind, none, payload⟩ ∧
      request.endpointId = defaultProxmoxEndpointId cfg.endpoints := by
  unfold guestRequest at h
  split_ifs at h with hpermits
  obtain ⟨request, hrequest, rfl⟩ := Option.map_eq_some_iff.1 h
  obtain ⟨hdiff, hendpoint⟩ := applyRequest_eq_ok (toOption_eq_some.1 hrequest)
  exact ⟨hpermits, request, rfl, hdiff, hendpoint⟩

variable {branch : Branch} {item : UnionEntry}

theorem guestDispatch_eq_some {cfg : ApplyConfig}
    {dispatch : Dispatch} (h : guestDispatch cfg branch item = some dispatch) :
    ∃ payload, roundPayload cfg item = .ok payload ∧
      cfg.permits (permissionFor item.op (classifyKind item.vm item.row)) = true ∧
      ((item.op = .delete ∧ cfg.destroyConfirmed branch = true ∧
          ∃ found, deletionSnapshot item.vm item.row = .ok found ∧ dispatch =
            .deletion item.row (deletionRecord cfg branch (classifyKind item.vm item.row) found)) ∨
        ∃ vm request, item.vm = some vm ∧ dispatch = .apply item.row request ∧
          request.endpointId = defaultProxmoxEndpointId cfg.endpoints ∧
          ((item.op = .create ∧
              request.diff = ⟨.create, .guest (classifyKind item.vm item.row), none, payload⟩) ∨
            (item.op = .update ∧ ∃ delta, buildUpdateDelta cfg.payloadEnv vm (.obj []) = .ok delta ∧
              request.diff = ⟨.update, .guest (classifyKind item.vm item.row), none, delta⟩))) := by
  obtain ⟨vm, op, row⟩ := item
  unfold guestDispatch at h
  cases hpayload : roundPayload cfg ⟨vm, op, row⟩ with
  | error raised => simp [hpayload] at h
  | ok payload =>
    simp only [hpayload] at h
    refine ⟨payload, rfl, ?_⟩
    cases op with
    | delete =>
      simp only [Bool.and_eq_true] at h
      split_ifs at h with hguard
      obtain ⟨found, hfound, rfl⟩ := Option.map_eq_some_iff.1 h
      exact ⟨hguard.2, .inl ⟨rfl, hguard.1, found, toOption_eq_some.1 hfound, rfl⟩⟩
    | create =>
      cases vm with
      | none => simp at h
      | some vm =>
        obtain ⟨hpermits, request, rfl, hdiff, hendpoint⟩ := guestRequest_eq_some h
        exact ⟨hpermits, .inr ⟨vm, request, rfl, rfl, hendpoint, .inl ⟨rfl, hdiff⟩⟩⟩
    | update =>
      cases vm with
      | none => simp at h
      | some vm =>
        obtain ⟨delta, hdelta, h⟩ := Option.bind_eq_some_iff.1 h
        split_ifs at h
        obtain ⟨hpermits, request, rfl, hdiff, hendpoint⟩ := guestRequest_eq_some h
        exact ⟨hpermits, .inr ⟨vm, request, rfl, rfl, hendpoint,
          .inr ⟨rfl, delta, toOption_eq_some.1 hdelta, hdiff⟩⟩⟩

theorem apply_of_guestDispatch {cfg : ApplyConfig} {row : ChangeDiff}
    (h : guestDispatch cfg branch item = some (.apply row request)) :
    item.row = row ∧ item.op = request.diff.op ∧ item.op ≠ .delete ∧
      request.diff.kind = .guest (classifyKind item.vm item.row) := by
  obtain ⟨_, -, -, ⟨-, -, _, -, heq⟩ | ⟨_, sent, -, heq, -, hdiff⟩⟩ := guestDispatch_eq_some h
  · cases heq
  · obtain ⟨rfl, rfl⟩ := Dispatch.apply.inj heq
    rcases hdiff with ⟨hop, hdiff⟩ | ⟨hop, delta, -, hdiff⟩
    · rw [hdiff, hop]
      exact ⟨rfl, rfl, by decide, rfl⟩
    · rw [hdiff, hop]
      exact ⟨rfl, rfl, by decide, rfl⟩

theorem firewallDispatch_eq_some {cfg : ApplyConfig} {row : ChangeDiff} {dispatch : Dispatch}
    (h : firewallDispatch cfg row = some dispatch) :
    ∃ diff request, buildFirewallApplyDiff row = .ok (some diff) ∧ dispatch = .apply row request ∧
      request.diff = ⟨diff.op, .firewall, diff.netboxId, diff.payload⟩ ∧
      request.endpointId = diff.endpointId := by
  obtain ⟨found, hfound, h⟩ := Option.bind_eq_some_iff.1 h
  obtain ⟨diff, rfl, h⟩ := Option.bind_eq_some_iff.1 h
  obtain ⟨request, hrequest, rfl⟩ := Option.map_eq_some_iff.1 h
  obtain ⟨hdiff, hendpoint⟩ := applyRequest_eq_ok (toOption_eq_some.1 hrequest)
  exact ⟨diff, request, toOption_eq_some.1 hfound, rfl, hdiff, hendpoint⟩

theorem guestDispatch_row {cfg : ApplyConfig}
    {dispatch : Dispatch} (h : guestDispatch cfg branch item = some dispatch) :
    dispatch.row = item.row := by
  obtain ⟨_, -, -, ⟨-, -, _, -, rfl⟩ | ⟨_, _, -, rfl, -⟩⟩ := guestDispatch_eq_some h <;> rfl

theorem firewallDispatch_row {cfg : ApplyConfig} {row : ChangeDiff} {dispatch : Dispatch}
    (h : firewallDispatch cfg row = some dispatch) : dispatch.row = row := by
  obtain ⟨_, _, -, rfl, -⟩ := firewallDispatch_eq_some h
  rfl

theorem mem_run_dispatches {cfg : ApplyConfig} {backend : Backend} {dispatch : Dispatch} :
    dispatch ∈ (run cfg backend branch).dispatches ↔
      (∃ item ∈ virtualMachineDiffUnion cfg.tables branch, guestDispatch cfg branch item = some dispatch) ∨
        ∃ row ∈ firewallChangediffs branch, firewallDispatch cfg row = some dispatch := by
  rw [run_dispatches, List.mem_append, List.mem_filterMap, List.mem_filterMap]

theorem mem_dispatches_of_post {cfg : ApplyConfig} {backend : Backend}
    {row : ChangeDiff} (h : .post row request ∈ (run cfg backend branch).log) :
    .apply row request ∈ (run cfg backend branch).dispatches :=
  List.mem_filterMap.2 ⟨_, h, rfl⟩

theorem mem_log_of_apply {applied : ApplyRun} {row : ChangeDiff}
    (h : .apply row request ∈ applied.dispatches) : .post row request ∈ applied.log := by
  obtain ⟨event, hevent, heq⟩ := List.mem_filterMap.1 h
  cases event <;> simp [Event.dispatch] at heq
  obtain ⟨rfl, rfl⟩ := heq
  exact hevent

theorem mem_dispatches_of_saveDeletion {cfg : ApplyConfig} {backend : Backend}
    {row : ChangeDiff} {record : DeletionRecord} (h : .saveDeletion row record ∈ (run cfg backend branch).log) :
    .deletion row record ∈ (run cfg backend branch).dispatches :=
  List.mem_filterMap.2 ⟨_, h, rfl⟩

theorem streams_subperm (branch : Branch) :
    ((coreRows branch ++ intentRows branch) ++ firewallChangediffs branch).Subperm branch.rows := by
  unfold coreRows intentRows firewallChangediffs
  induction branch.rows with
  | nil => simp
  | cons row rest ih =>
    cases hobject : row.object with
    | virtualMachine object =>
      simp only [List.filter_cons, hobject, rowFirewallModel, Option.isSome_none, Bool.false_eq_true,
        if_false, if_true, List.cons_append] at ih ⊢
      exact (List.subperm_cons row).2 ih
    | vmIntent object =>
      simp only [List.filter_cons, hobject, rowFirewallModel, Option.isSome_none, Bool.false_eq_true,
        if_false, if_true, List.append_assoc, List.cons_append] at ih ⊢
      exact List.perm_middle.subperm.trans ((List.subperm_cons row).2 ih)
    | firewall model object hmodel =>
      simp only [List.filter_cons, hobject, rowFirewallModel, Option.isSome_some, Bool.false_eq_true,
        if_false, if_true] at ih ⊢
      exact List.perm_middle.subperm.trans ((List.subperm_cons row).2 ih)
    | other =>
      simp only [List.filter_cons, hobject, rowFirewallModel, Option.isSome_none, Bool.false_eq_true,
        if_false] at ih ⊢
      exact ih.trans (List.sublist_cons_self row rest).subperm

theorem dispatch_rows_subperm (backend : Backend) (branch : Branch) :
    ((run cfg backend branch).dispatches.map Dispatch.row).Subperm branch.rows := by
  have hguests := (map_filterMap_sublist (h := UnionEntry.row)
    (fun _ _ (hdispatch : guestDispatch cfg branch _ = some _) => guestDispatch_row hdispatch)
    (virtualMachineDiffUnion cfg.tables branch)).trans
    (union_rows_sublist cfg.tables branch)
  have hfirewall := map_filterMap_sublist (h := id)
    (fun _ _ (hdispatch : firewallDispatch cfg _ = some _) => firewallDispatch_row hdispatch)
    (firewallChangediffs branch)
  rw [List.map_id] at hfirewall
  rw [run_dispatches, List.map_append]
  exact (hguests.append hfirewall).subperm.trans (streams_subperm branch)

@[simp] theorem deletionRecord_kind (branch : Branch) (kind : GuestKind)
    (found : Fields × Int × String × String) : (deletionRecord cfg branch kind found).kind = kind := rfl

theorem deletion_of_saveDeletion {cfg : ApplyConfig} {backend : Backend}
    {row : ChangeDiff} {record : DeletionRecord} (h : .saveDeletion row record ∈ (run cfg backend branch).log) :
    cfg.destroyConfirmed branch = true ∧ ∃ item ∈ virtualMachineDiffUnion cfg.tables branch,
      item.row = row ∧ item.op = .delete ∧ record.kind = classifyKind item.vm item.row ∧
        cfg.permits (permissionFor .delete (classifyKind item.vm item.row)) = true := by
  rcases mem_run_dispatches.1 (mem_dispatches_of_saveDeletion h) with
    ⟨item, hitem, hdispatch⟩ | ⟨row', -, hdispatch⟩
  · obtain ⟨_, -, hpermits, ⟨hop, hconfirmed, found, -, heq⟩ | ⟨_, _, -, heq, -⟩⟩ :=
      guestDispatch_eq_some hdispatch
    · obtain ⟨hrow, hrecord⟩ := Dispatch.deletion.inj heq
      rw [hop] at hpermits
      refine ⟨hconfirmed, item, hitem, hrow.symm, hop, ?_, hpermits⟩
      rw [hrecord, deletionRecord_kind]
    · cases heq
  · obtain ⟨_, _, -, heq, -⟩ := firewallDispatch_eq_some hdispatch
    cases heq

theorem guest_of_post {cfg : ApplyConfig} {backend : Backend} {row : ChangeDiff} {kind : GuestKind}
    (h : .post row request ∈ (run cfg backend branch).log) (hkind : request.diff.kind = .guest kind) :
    ∃ item ∈ virtualMachineDiffUnion cfg.tables branch, item.row = row ∧
      item.op = request.diff.op ∧ item.op ≠ .delete ∧ kind = classifyKind item.vm item.row ∧
      cfg.permits (permissionFor item.op kind) = true ∧
      guestDispatch cfg branch item = some (.apply row request) := by
  rcases mem_run_dispatches.1 (mem_dispatches_of_post h) with
    ⟨item, hitem, hdispatch⟩ | ⟨row', -, hdispatch⟩
  · obtain ⟨-, -, hpermits, -⟩ := guestDispatch_eq_some hdispatch
    obtain ⟨hrow, hop, hdelete, hsent⟩ := apply_of_guestDispatch hdispatch
    have hclass : kind = classifyKind item.vm item.row := DiffKind.guest.inj (hkind.symm.trans hsent)
    rw [← hclass] at hpermits
    exact ⟨item, hitem, hrow, hop, hdelete, hclass, hpermits, hdispatch⟩
  · obtain ⟨diff, sent, -, heq, hdiff, -⟩ := firewallDispatch_eq_some hdispatch
    obtain ⟨-, hrequest⟩ := Dispatch.apply.inj heq
    rw [hrequest, hdiff] at hkind
    cases hkind

/-- Whatever the backend answers: deletions are requested with the confirmation of the branch, everything has
the permission of its kind, each row is dispatched at most once, and as a function of the row and the
configuration alone. -/
theorem run_dispatch_discipline (cfg : ApplyConfig) (backend : Backend) (branch : Branch) :
    (∀ row record, .saveDeletion row record ∈ (run cfg backend branch).log →
      cfg.destroyConfirmed branch = true ∧ ∃ item ∈ virtualMachineDiffUnion cfg.tables branch,
        item.row = row ∧ item.op = .delete ∧ record.kind = classifyKind item.vm item.row ∧
          cfg.permits (permissionFor .delete (classifyKind item.vm item.row)) = true) ∧
    (∀ row request kind, .post row request ∈ (run cfg backend branch).log →
      request.diff.kind = .guest kind → request.diff.op ≠ .delete) ∧
    (∀ row request kind, .post row request ∈ (run cfg backend branch).log →
      request.diff.kind = .guest kind →
      cfg.permits (permissionFor request.diff.op kind) = true ∧
        ∃ item ∈ virtualMachineDiffUnion cfg.tables branch, item.row = row ∧
          item.op = request.diff.op ∧ kind = classifyKind item.vm item.row) ∧
    ((run cfg backend branch).dispatches.map Dispatch.row).Subperm branch.rows ∧
    (run cfg backend branch).dispatches
      = (virtualMachineDiffUnion cfg.tables branch).filterMap (guestDispatch cfg branch)
        ++ (firewallChangediffs branch).filterMap (firewallDispatch cfg) ∧
    ∀ other : Backend, (run cfg other branch).dispatches = (run cfg backend branch).dispatches := by
  refine ⟨fun row record => deletion_of_saveDeletion, ?_, ?_, dispatch_rows_subperm cfg backend branch,
    run_dispatches cfg backend branch, ?_⟩
  · intro row request kind hevent hkind
    obtain ⟨item, -, -, hop, hdelete, -⟩ := guest_of_post hevent hkind
    rw [← hop]
    exact hdelete
  · intro row request kind hevent hkind
    obtain ⟨item, hitem, hrow, hop, -, hclass, hpermits, -⟩ := guest_of_post hevent hkind
    rw [hop] at hpermits
    exact ⟨hpermits, item, hitem, hrow, hop, hclass⟩
  · intro other
    rw [run_dispatches, run_dispatches]

end Proxbox
