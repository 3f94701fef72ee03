import Proxbox.Intent.ApplyDispatch
/-!
# The results of a run

The results of a run are keyed by a text: the VMID of a guest, else its primary key, else what identifies
its row; a firewall row by its model and object. The key of a round depends on its item only, so the keys
of a run are known before it starts. Every round keeps its entry, and the state speaks for all of them,
exactly when no two of these keys are equal.
-/

namespace Proxbox

open Python

variable (cfg : ApplyConfig)

def guestResultKey (branch : Branch) (index : Nat) (item : UnionEntry) : String :=
  match roundPayload cfg item with
  | .error _ => diffIdentifier item.row index
  | .ok payload =>
    let key := resultKey item.row item.vm (Fields.get payload "vmid") index
    if item.op = .delete && cfg.destroyConfirmed branch &&
        cfg.permits (permissionFor .delete (classifyKind item.vm item.row)) then
      match deletionSnapshot item.vm item.row with
      | .error _ => key
      | .ok found => resultKey item.row item.vm (.int found.2.1) index
    else key

def resultKeys (branch : Branch) : List String :=
  (((virtualMachineDiffUnion cfg.tables branch).zipIdx 1).map fun item =>
      guestResultKey cfg branch item.2 item.1)
    ++ ((firewallChangediffs branch).zipIdx 1).map fun item => firewallResultKey item.1 item.2

def runRounds (backend : Backend) (branch : Branch) : List Outcome :=
  Rounds.rounds (fun log item => vmRound cfg backend branch log item.2 item.1) []
      ((virtualMachineDiffUnion cfg.tables branch).zipIdx 1)
    ++ Rounds.rounds (fun log item => firewallRound cfg backend log item.2 item.1)
      (vmLoop cfg backend branch).log ((firewallChangediffs branch).zipIdx 1)

theorem run_results (backend : Backend) (branch : Branch) :
    (run cfg backend branch).perVmResults
      = Dict.ofWrites (Rounds.writes (runRounds cfg backend branch)) := by
  rw [run, firewallLoop, Rounds.loop_results, vmLoop, Rounds.loop_results, runRounds, Rounds.writes,
    Rounds.writes, Rounds.writes, List.map_append, Dict.ofWrites, List.foldl_append]
  rfl

/-! ### Keys of rounds -/

theorem sendGuest_key (backend : Backend) (log : List Event) (row : ChangeDiff)
    (vm : VirtualMachine) (op : Op) (kind : GuestKind) (key : String) (vmid : Json) (payload : Fields) :
    (sendGuest cfg backend log row vm op kind key vmid payload).key = key := by
  unfold sendGuest
  dsimp only
  split_ifs
  · rfl
  · cases (callApplyEndpoint cfg backend log row ⟨op, .guest kind, none, payload⟩
      (defaultProxmoxEndpointId cfg.endpoints)).1 <;> rfl

theorem updateGuest_key (backend : Backend) (log : List Event) (row : ChangeDiff)
    (vm : VirtualMachine) (kind : GuestKind) (key : String) (vmid : Json) :
    (updateGuest cfg backend log row vm kind key vmid).key = key := by
  unfold updateGuest
  cases buildUpdateDelta cfg.payloadEnv vm (.obj []) with
  | error raised => rfl
  | ok delta =>
    dsimp only
    split_ifs
    · rfl
    · exact sendGuest_key cfg backend log row vm .update kind key vmid delta

theorem deleteGuest_key (backend : Backend) (branch : Branch) (log : List Event)
    (index : Nat) (row : ChangeDiff) (vm : Option VirtualMachine) (kind : GuestKind) (key : String)
    (vmid : Json) :
    (deleteGuest cfg backend branch log index row vm kind key vmid).key
      = if cfg.destroyConfirmed branch && cfg.permits (permissionFor .delete kind) then
          match deletionSnapshot vm row with
          | .error _ => key
          | .ok found => resultKey row vm (.int found.2.1) index
        else key := by
  unfold deleteGuest
  dsimp only
  cases cfg.destroyConfirmed branch with
  | false => simp
  | true =>
    cases cfg.permits (permissionFor .delete kind) with
    | false => simp
    | true =>
      cases deletionSnapshot vm row with
      | error raised => simp
      | ok found =>
        simp only [Bool.not_true, Bool.false_eq_true, if_false, Bool.and_self, if_true]
        -- The save has its key before it is tried.
        cases backend.saveDeletion log (deletionRecord cfg branch kind found) <;> rfl

theorem vmRound_key (backend : Backend) (branch : Branch) (log : List Event) (index : Nat) (item : UnionEntry) :
    (vmRound cfg backend branch log index item).key = guestResultKey cfg branch index item := by
  obtain ⟨vm, op, row⟩ := item
  simp only [vmRound, guestResultKey, roundPayload, classifyDiff_text]
  cases vm with
  | none =>
    cases op with
    | create => simp
    | update => simp
    | delete => simp [deleteGuest_key]
  | some vm =>
    cases hpayload : buildPayload cfg.payloadEnv (classifyKind (some vm) row) vm with
    | error raised => simp [hpayload]
    | ok payload =>
      cases op with
      | create => simp [hpayload, sendGuest_key]
      | update => simp [hpayload, updateGuest_key]
      | delete => simp [hpayload, deleteGuest_key]

theorem firewallRound_key (backend : Backend) (log : List Event) (index : Nat) (row : ChangeDiff) :
    (firewallRound cfg backend log index row).key = firewallResultKey row index := by
  unfold firewallRound
  cases buildFirewallApplyDiff row with
  | error raised => rfl
  | ok found =>
    cases found with
    | none => rfl
    | some diff =>
      dsimp only
      split
      · rfl
      · split
        · split <;> rfl
        · rfl

theorem map_key_runRounds (backend : Backend) (branch : Branch) :
    (runRounds cfg backend branch).map Rounds.Round.key = resultKeys cfg branch := by
  have hguests := Rounds.map_key_rounds
    (fun log item => vmRound cfg backend branch log item.2 item.1)
    (fun item => guestResultKey cfg branch item.2 item.1)
    (fun log item => vmRound_key cfg backend branch log item.2 item.1) []
    ((virtualMachineDiffUnion cfg.tables branch).zipIdx 1)
  have hfirewall := Rounds.map_key_rounds
    (fun log item => firewallRound cfg backend log item.2 item.1)
    (fun item => firewallResultKey item.1 item.2)
    (fun log item => firewallRound_key cfg backend log item.2 item.1)
    (vmLoop cfg backend branch).log ((firewallChangediffs branch).zipIdx 1)
  rw [runRounds, resultKeys, List.map_append, hguests, hfirewall]

/-! ### Soundness of the state -/

/-- Every round has an entry of its own, and a run that calls itself succeeded had no round that did
not. -/
def ResultsSound (backend : Backend) (branch : Branch) : Prop :=
  (run cfg backend branch).perVmResults.HoldsEach
      ((runRounds cfg backend branch).map Rounds.Round.entry) ∧
    ((run cfg backend branch).state = .succeeded →
      ∀ round ∈ runRounds cfg backend branch, statusIsSuccess round.entry.status = true)

theorem stateFromResults_eq_succeeded {results : Dict String ResultEntry}
    (h : stateFromResults results = .succeeded) :
    ∀ entry ∈ results.values, statusIsSuccess entry.status = true := by
  unfold stateFromResults at h
  dsimp only at h
  split_ifs at h with hall
  intro entry hentry
  exact List.all_eq_true.1 hall _ (List.mem_map_of_mem hentry)

/-- The results of a run are sound exactly when the keys of its rounds are pairwise different, whatever
the backend answers. -/
theorem resultsSound_iff_keys_nodup (cfg : ApplyConfig) (backend : Backend) (branch : Branch) :
    ResultsSound cfg backend branch ↔ (resultKeys cfg branch).Nodup := by
  have hkeys : (Rounds.writes (runRounds cfg backend branch)).map Prod.fst = resultKeys cfg branch := by
    rw [← map_key_runRounds cfg backend branch, Rounds.writes, List.map_map]
    rfl
  have hentries : (Rounds.writes (runRounds cfg backend branch)).map Prod.snd
      = (runRounds cfg backend branch).map Rounds.Round.entry := by
    rw [Rounds.writes, List.map_map]
    rfl
  have hholds := Dict.holdsEach_ofWrites_iff (Rounds.writes (runRounds cfg backend branch))
  rw [hkeys, hentries, ← run_results] at hholds
  refine ⟨fun hsound => hholds.1 hsound.1, fun hnodup => ⟨hholds.2 hnodup, ?_⟩⟩
  intro hstate round hround
  have hvalue : round.entry ∈ (run cfg backend branch).perVmResults.values := by
    rw [run_results, Dict.values, Dict.items_ofWrites_of_nodup (by rw [hkeys]; exact hnodup), hentries]
    exact List.mem_map_of_mem hround
  exact stateFromResults_eq_succeeded hstate _ hvalue

/-! ### Two guests with one VMID

Proxmox numbers the guests of each endpoint on its own. -/

def westEndpoint : ProxmoxEndpoint := ⟨2, by decide, "west", true, true, some "west.example", none, 8006⟩

def guestOn (endpoint : ProxmoxEndpoint) (pk : Int) (name : String) : VirtualMachine where
  pk := pk
  name := name
  vcpus := some 200
  memory := some 2048
  description := ""
  tags := []
  virtualDisks := []
  interfaces := []
  primaryIp4 := none
  primaryIp6 := none
  customFieldData := []
  virtualMachineType := none
  role := none
  tenant := none
  site := none
  platform := none
  cluster := none
  device := none
  syncState := some
    { virtualMachineId := pk
      endpointId := some endpoint.pk
      endpoint := some endpoint
      proxmoxNode := none
      proxmoxNodeName := "pve"
      proxmoxCluster := none
      proxmoxVmId := some 100
      proxmoxVmType := "qemu" }
  intent := none

def updateRow (vm : VirtualMachine) : ChangeDiff where
  pk := none
  object := .virtualMachine (some vm)
  objectId := some vm.pk
  objectRepr := some vm.name
  action := some "update"
  original := .null
  modified := .null
  current := .null
  prechangeData := .null
  postchangeData := .null

def twoEndpointConfig : ApplyConfig where
  tables := Tables.none
  endpoints := ⟨[eastEndpoint, westEndpoint], by decide⟩
  payloadEnv := ⟨false, fun _ => none⟩
  httpUrl := some "http://backend"
  actor := some ⟨"alice", fun _ => true⟩
  branchStore := ⟨.ok true, fun _ _ => .ok true, fun _ _ => .ok (some ⟨true, true⟩)⟩
  runUuid := "run"
  overflowText := "overflow"
  unhashableText := "unhashable"

def refusesFirst : Backend where
  post log _ :=
    if log.isEmpty then .connectionError "refused"
    else .body (.obj [("results", .arr [.obj [("status", .str "applied")]])])
  saveDeletion _ _ := .ok 1
  saveStatus _ _ := .ok ()

def twoGuestBranch : Branch :=
  ⟨some 1, "br1", "b", some
    [updateRow (guestOn eastEndpoint 11 "app"), updateRow (guestOn westEndpoint 12 "db")]⟩

/-- The update of one guest fails, the update of the other succeeds under the same key, and the run is
recorded as succeeded. -/
theorem succeeded_with_failed_round :
    (run twoEndpointConfig refusesFirst twoGuestBranch).state = .succeeded ∧
      (run twoEndpointConfig refusesFirst twoGuestBranch).perVmResults.keys = ["100"] ∧
      (runRounds twoEndpointConfig refusesFirst twoGuestBranch).map (fun round => round.entry.status)
        = ["failed", "applied"] := by
  decide +kernel

end Proxbox
