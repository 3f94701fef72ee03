import Proxbox.Intent.ApplyDispatch
/-!
# The merge validator

`validate_proxmox_intent` decides whether a branch may be merged. Once the instance and the branch have
both opted into Proxmox, it turns the rows of the branch into a plan request, has the backend judge it,
and permits the merge on the backend's word. The apply job walks the same rows after the merge. The last
section compares the two: whatever the job sends was in the plan.
-/

namespace Proxbox

open Python

structure PluginSettings where
  netboxToProxmoxEnabled : Bool
  intentWarnPlaintextPassword : Bool

structure MergeConfig where
  settings : Option PluginSettings
  branchStore : BranchStore
  endpoints : EndpointTable
  httpUrl : Option String
  user : Option String

structure Indicator where
  permitted : Bool
  message : String
  deriving DecidableEq

inductive PlanFailure where
  | client (text : String)
  | raised (raised : Raised)
  | typeError
  | attributeError
  deriving DecidableEq

variable (settings : Option PluginSettings)

def isIntentEnabled : Bool :=
  match settings with
  | none => false
  | some settings => settings.netboxToProxmoxEnabled

variable (store : BranchStore)

def branchOptedIn (branch : Branch) : Bool :=
  (resolveBranchIntentFlags store branch).applyToProxmox

def branchDestroyConfirmed (branch : Branch) : Bool :=
  (resolveBranchIntentFlags store branch).applyDestroyConfirmed

def warnPlaintextPasswordEnabled : Bool :=
  match settings with
  | none => true
  | some settings => settings.intentWarnPlaintextPassword

/-! ### The plan -/

def vmPlanDiff (item : UnionEntry) : Fields :=
  let name := virtualMachineDiffName item.vm item.row
  [("op", .str (classifyDiff item.vm item.op.text item.row).1.text),
    ("kind", .str "virtualmachine"),
    ("netbox_id", .ofInt? (virtualMachineDiffId item.vm item.row)),
    ("name", if name = "" then .null else .str name)]

variable (tables : Tables)

def classifyVmDiffs (branch : Branch) : List Fields :=
  (virtualMachineDiffUnion tables branch).map vmPlanDiff

def firewallPlanDiff (row : ChangeDiff) : Except Raised (Option Fields) := do
  match ← buildFirewallApplyDiff row with
  | none => return none
  | some diff =>
    return some (dropNone [("op", .str diff.op.text), ("kind", .str "firewall"),
      ("netbox_id", .ofInt? diff.netboxId), ("name", .ofText? (row.objectRepr.filter (· ≠ ""))),
      ("type", Fields.get diff.payload "action"), ("endpoint_id", .ofInt? diff.endpointId)])

/-- `build_firewall_plan_diffs`: rows the backend cannot apply are left out. -/
def buildFirewallPlanDiffs (branch : Branch) : Except Raised (List Fields) := do
  let diffs ← (firewallChangediffs branch).mapM firewallPlanDiff
  return diffs.filterMap id

def intentDiffs (branch : Branch) : Except Raised (List Fields) := do
  let firewall ← buildFirewallPlanDiffs branch
  return classifyVmDiffs tables branch ++ firewall

def hasVmDelete (diffs : List Fields) : Bool :=
  diffs.any fun diff =>
    Json.eq (Fields.get diff "op") (.str "delete") && !Json.eq (Fields.get diff "kind") (.str "firewall")

def firstEndpointIdFromDiffs : List Fields → Except Raised (Option Int)
  | [] => .ok none
  | diff :: rest => do
      match ← intValueOrNone (Fields.get diff "endpoint_id") with
      | some id => return some id
      | none => firstEndpointIdFromDiffs rest

/-! ### Warnings of the validator's own -/

def containsPlaintextPassword (userData : String) : Bool := contains "password:" (lower userData)

variable (vm : VirtualMachine)

def vmName : String := if vm.name ≠ "" then vm.name else toString vm.pk

def plaintextPasswordWarning : Fields :=
  [("vm", .str (vmName vm)), ("level", .str "warn"), ("code", .str "plaintext_password_warning"),
    ("message", .str "cloud_init_user_data contains a plaintext password line")]

def plaintextPasswordWarnings (branch : Branch) :
    List Fields :=
  if !warnPlaintextPasswordEnabled settings then []
  else (virtualMachineDiffUnion tables branch).filterMap fun item =>
    match item.op, item.vm with
    | .delete, _ => none
    | _, none => none
    | _, some vm =>
      match vm.intent with
      | some intent =>
        if containsPlaintextPassword intent.cloudInitUserData then some (plaintextPasswordWarning vm)
        else none
      | none => none

/-! ### The plan client -/

structure PlanRequest where
  url : String
  endpointId : Int
  branchId : Option Int
  actor : Option String
  diffs : List Fields

structure PlanClientResult where
  permitted : Bool
  summary : String
  verdicts : List Json

def listOf : Json → Except PlanFailure (List Json)
  | .arr xs => .ok xs
  | .str s => .ok (s.toList.map fun c => .str (String.ofList [c]))
  | .obj fields => .ok (fields.map fun field => .str field.1)
  | _ => .error .typeError

def replyPermits (body : Fields) : Bool := (Fields.getD body "permitted" (.bool false)).truthy

def PlanClientResult.fromPayload (body : Fields) : Except PlanFailure PlanClientResult := do
  let verdicts ← listOf ((Fields.get body "verdicts").or (.arr []))
  return ⟨replyPermits body, (Fields.getD body "summary" (.str "")).text, verdicts⟩

def planReplyBody : String → HttpReply → Except String Fields := replyBody "Plan" 30 "/intent/plan"

def planUrl (httpUrl : Option String) : Except String String :=
  match httpUrl with
  | none => .error "No FastAPIEndpoint is configured; cannot validate merge intent."
  | some httpUrl =>
    if httpUrl = "" then .error "FastAPIEndpoint has no resolvable http_url; cannot reach proxbox-api."
    else .ok (rstripOf '/' httpUrl ++ "/intent/plan")

def planResult (request : PlanRequest) (reply : HttpReply) : Except PlanFailure PlanClientResult := do
  let body ← (planReplyBody request.url reply).mapError .client
  PlanClientResult.fromPayload body

/-! ### The verdict -/

def verdictFields : Json → Except PlanFailure Fields
  | .obj fields => .ok fields
  | _ => .error .attributeError

def verdictMessage (fields : Fields) : Except PlanFailure String :=
  match Fields.getD fields "message" (.str "") with
  | .str text => .ok (strip text)
  | _ => .error .attributeError

variable (verdicts : List Json)

def formatRemoteFailure (summary : String) (verdicts : List Json) : Except PlanFailure String := do
  let fields ← verdicts.mapM verdictFields
  let blockers := fields.filter fun verdict =>
    Json.eq (Fields.get verdict "verdict") (.str "blocked")
  if blockers.isEmpty then
    if summary ≠ "" then return "proxbox-api refused the merge: " ++ summary
    else return "proxbox-api refused the merge."
  else
    let bullets ← blockers.mapM fun verdict => do
      let message ← verdictMessage verdict
      return (Fields.getD verdict "reason" (.str "blocked")).text ++ ": " ++ message
    return "proxbox-api blocked the merge: " ++ String.intercalate "; " bullets

def formatSuccess (summary : String) (verdicts : List Json) : Except PlanFailure String := do
  let fields ← verdicts.mapM verdictFields
  let warned := fields.filter fun verdict =>
    Json.eq (Fields.get verdict "level") (.str "warn") &&
      Json.eq (Fields.get verdict "code") (.str "plaintext_password_warning")
  let warnings ← warned.mapM fun verdict => do
    let message ← verdictMessage verdict
    return (Fields.getD verdict "vm" (.str "unknown")).text ++ ": " ++ message
  if warnings.isEmpty then return summary
  else
    let text := String.intercalate "; " warnings
    if summary ≠ "" then return summary ++ " Warnings: " ++ text
    else return "Warnings: " ++ text

def judge (warnings : List Fields) : Except PlanFailure PlanClientResult → Except PlanFailure Indicator
  | .error (.client text) => .ok ⟨false, "Could not validate merge against proxbox-api: " ++ text⟩
  | .error failure => .error failure
  | .ok result => do
      let verdicts := result.verdicts ++ warnings.map .obj
      if !result.permitted then return ⟨false, ← formatRemoteFailure result.summary verdicts⟩
      else return ⟨true, ← formatSuccess result.summary verdicts⟩

structure Validation where
  verdict : Except PlanFailure Indicator
  requests : List PlanRequest

def destroyNotConfirmedMessage : String :=
  "Branch contains DELETE diffs but apply_destroy_confirmed=False. Enable the Proxbox branch intent " ++
    "setting (and grant authorize_deletion_request to a separate user) before merging."

variable (plan : PlanRequest → HttpReply)

def askBackend (cfg : MergeConfig) (plan : PlanRequest → HttpReply) (branch : Branch)
    (diffs : List Fields) (endpointId : Int) : Validation :=
  let warnings := plaintextPasswordWarnings cfg.settings tables branch
  match planUrl cfg.httpUrl with
  | .error text => ⟨judge warnings (.error (.client text)), []⟩
  | .ok url =>
    let request := ⟨url, endpointId, branch.pk, cfg.user, diffs⟩
    ⟨judge warnings (planResult request (plan request)), [request]⟩

def validateProxmoxIntent (cfg : MergeConfig) (plan : PlanRequest → HttpReply) (branch : Branch) : Validation :=
  if !isIntentEnabled cfg.settings then ⟨.ok ⟨true, ""⟩, []⟩
  else if !branchOptedIn cfg.branchStore branch then ⟨.ok ⟨true, ""⟩, []⟩
  else match intentDiffs tables branch with
    | .error raised => ⟨.error (.raised raised), []⟩
    | .ok diffs =>
      if diffs.isEmpty then
        ⟨.ok ⟨true, "No VM or firewall diffs on branch; Proxmox merge will be a no-op."⟩, []⟩
      else if hasVmDelete diffs && !branchDestroyConfirmed cfg.branchStore branch then
        ⟨.ok ⟨false, destroyNotConfirmedMessage⟩, []⟩
      else match firstEndpointIdFromDiffs diffs with
        | .error raised => ⟨.error (.raised raised), []⟩
        | .ok first =>
          match (first.filter (· ≠ 0)).or (defaultProxmoxEndpointId cfg.endpoints) with
          | none =>
            ⟨.ok ⟨false, "No ProxmoxEndpoint is configured; cannot validate Proxmox intent."⟩, []⟩
          | some endpointId => askBackend tables cfg plan branch diffs endpointId

/-! ### What a validation can do -/

def IntentEngaged (branch : Branch) : Prop :=
  isIntentEnabled settings = true ∧ branchOptedIn store branch = true

def Validation.Permits (validation : Validation) : Prop :=
  ∃ message, validation.verdict = .ok ⟨true, message⟩

variable {branch : Branch}

theorem validateProxmoxIntent_of_not_engaged {cfg : MergeConfig} (h : ¬ IntentEngaged cfg.settings cfg.branchStore branch) :
    validateProxmoxIntent tables cfg plan branch = ⟨.ok ⟨true, ""⟩, []⟩ := by
  unfold validateProxmoxIntent
  by_cases henabled : isIntentEnabled cfg.settings = true
  · have hopted : branchOptedIn cfg.branchStore branch = false :=
      Bool.eq_false_iff.2 fun hopted => h ⟨henabled, hopted⟩
    simp [henabled, hopted]
  · simp [Bool.eq_false_iff.2 henabled]

/-- What the plan request of a branch needs: diffs, their deletions confirmed, an endpoint and a backend with an
address. -/
structure PlanReady (tables : Tables) (cfg : MergeConfig) (branch : Branch) (request : PlanRequest) : Prop where
  planned : intentDiffs tables branch = .ok request.diffs
  nonempty : request.diffs ≠ []
  confirmed : hasVmDelete request.diffs = true → branchDestroyConfirmed cfg.branchStore branch = true
  endpoint : ∃ first, firstEndpointIdFromDiffs request.diffs = .ok first ∧
    (first.filter (· ≠ 0)).or (defaultProxmoxEndpointId cfg.endpoints) = some request.endpointId
  address : planUrl cfg.httpUrl = .ok request.url
  sender : request.branchId = branch.pk ∧ request.actor = cfg.user

theorem validateProxmoxIntent_cases {cfg : MergeConfig} (hengaged : IntentEngaged cfg.settings cfg.branchStore branch) :
    ((validateProxmoxIntent tables cfg plan branch).requests = [] ∧
      ((validateProxmoxIntent tables cfg plan branch).Permits → intentDiffs tables branch = .ok [])) ∨
    ∃ request, PlanReady tables cfg branch request ∧
      validateProxmoxIntent tables cfg plan branch
        = ⟨judge (plaintextPasswordWarnings cfg.settings tables branch)
            (planResult request (plan request)), [request]⟩ := by
  obtain ⟨henabled, hopted⟩ := hengaged
  unfold validateProxmoxIntent Validation.Permits
  simp only [henabled, hopted, Bool.not_true, Bool.false_eq_true, if_false]
  cases hdiffs : intentDiffs tables branch with
  | error raised => simp
  | ok diffs =>
    dsimp only
    split_ifs with hempty hdelete
    · simp [List.isEmpty_iff.1 hempty]
    · simp
    · cases hfirst : firstEndpointIdFromDiffs diffs with
      | error raised => simp
      | ok first =>
        dsimp only
        cases hendpoint : (first.filter (· ≠ 0)).or (defaultProxmoxEndpointId cfg.endpoints) with
        | none => simp
        | some endpointId =>
          dsimp only [askBackend]
          cases hurl : planUrl cfg.httpUrl with
          | error text => simp [judge]
          | ok url =>
            refine .inr ⟨⟨url, endpointId, branch.pk, cfg.user, diffs⟩, ?_, rfl⟩
            exact ⟨hdiffs, mt List.isEmpty_iff.2 hempty, by simpa using hdelete, ⟨first, hfirst, hendpoint⟩, hurl,
              rfl, rfl⟩

theorem requests_eq_iff {cfg : MergeConfig} {request : PlanRequest}
    (hengaged : IntentEngaged cfg.settings cfg.branchStore branch) :
    (validateProxmoxIntent tables cfg plan branch).requests = [request] ↔ PlanReady tables cfg branch request := by
  refine ⟨fun hsent => ?_, fun hready => ?_⟩
  · rcases validateProxmoxIntent_cases tables plan hengaged with ⟨hnone, -⟩ | ⟨found, hready, hvalidation⟩
    · rw [hnone] at hsent
      cases hsent
    · rw [hvalidation] at hsent
      exact (List.cons.inj hsent).1 ▸ hready
  obtain ⟨henabled, hopted⟩ := hengaged
  obtain ⟨first, hfirst, hendpoint⟩ := hready.endpoint
  have hkept : ¬ ((hasVmDelete request.diffs && !branchDestroyConfirmed cfg.branchStore branch) = true) := by
    simpa using hready.confirmed
  have hsome : ¬ (request.diffs.isEmpty = true) := by
    rw [List.isEmpty_iff]
    exact hready.nonempty
  simp only [validateProxmoxIntent, henabled, hopted, Bool.not_true, Bool.false_eq_true, if_false, hready.planned,
    if_neg hsome, if_neg hkept, hfirst, hendpoint, askBackend, hready.address, ← hready.sender.1, ← hready.sender.2]

theorem judge_permits {warnings : List Fields} {result : Except PlanFailure PlanClientResult}
    {message : String} (h : judge warnings result = .ok ⟨true, message⟩) :
    ∃ found, result = .ok found ∧ found.permitted = true := by
  cases result with
  | error failure => cases failure <;> simp [judge] at h
  | ok found =>
    refine ⟨found, rfl, ?_⟩
    by_contra hpermitted
    simp only [judge, Bool.eq_false_iff.2 hpermitted, Bool.not_false, if_true] at h
    obtain ⟨text, -, h⟩ := bind_eq_ok.1 h
    cases h

variable {request : PlanRequest}

theorem planResult_permits {reply : HttpReply} {result : PlanClientResult}
    (h : planResult request reply = .ok result) (hpermitted : result.permitted = true) :
    ∃ body, reply = .body (.obj body) ∧ replyPermits body = true := by
  obtain ⟨body, hbody, h⟩ := bind_eq_ok.1 h
  obtain ⟨verdicts, -, h⟩ := bind_eq_ok.1 h
  obtain rfl := Except.ok.inj h
  refine ⟨body, ?_, hpermitted⟩
  cases reply with
  | body json =>
    cases json with
    | obj fields =>
      have hsame : fields = body := Except.ok.inj hbody
      rw [hsame]
    | _ => cases hbody
  | _ => cases hbody

/-! ### Plan and apply -/

def Planned (diffs : List Fields) (op : Op) (kind : String) (id : Option Int) : Prop :=
  ∃ diff ∈ diffs, Fields.get diff "op" = .str op.text ∧ Fields.get diff "kind" = .str kind ∧
    Fields.get diff "netbox_id" = .ofInt? id

variable {diffs : List Fields}

theorem intentDiffs_eq_ok {tables : Tables} (h : intentDiffs tables branch = .ok diffs) :
    ∃ firewall, (firewallChangediffs branch).mapM firewallPlanDiff = .ok firewall ∧
      diffs = classifyVmDiffs tables branch ++ firewall.filterMap id := by
  obtain ⟨kept, hkept, h⟩ := bind_eq_ok.1 h
  obtain ⟨firewall, hfirewall, hkept⟩ := bind_eq_ok.1 hkept
  obtain rfl := Except.ok.inj hkept
  exact ⟨firewall, hfirewall, (Except.ok.inj h).symm⟩

theorem planned_guest {tables : Tables} {item : UnionEntry} (hdiffs : intentDiffs tables branch = .ok diffs)
    (hitem : item ∈ virtualMachineDiffUnion tables branch) :
    Planned diffs item.op "virtualmachine" item.vmId := by
  obtain ⟨firewall, -, rfl⟩ := intentDiffs_eq_ok hdiffs
  refine ⟨vmPlanDiff item, List.mem_append_left _ (List.mem_map_of_mem hitem), ?_, rfl, rfl⟩
  rw [vmPlanDiff, classifyDiff_text]
  rfl

theorem planned_firewall {tables : Tables} {row : ChangeDiff}
    {diff : FirewallApplyDiff} (hdiffs : intentDiffs tables branch = .ok diffs)
    (hrow : row ∈ firewallChangediffs branch) (hdiff : buildFirewallApplyDiff row = .ok (some diff)) :
    Planned diffs diff.op "firewall" diff.netboxId := by
  obtain ⟨firewall, hfirewall, rfl⟩ := intentDiffs_eq_ok hdiffs
  have hplan : ∃ planned, firewallPlanDiff row = .ok (some planned) ∧
      Fields.get planned "op" = .str diff.op.text ∧ Fields.get planned "kind" = .str "firewall" ∧
      Fields.get planned "netbox_id" = .ofInt? diff.netboxId := by
    refine ⟨_, by rw [firewallPlanDiff, hdiff]; rfl, ?_, ?_, ?_⟩ <;> rw [get_dropNone _ (by simp)] <;> rfl
  obtain ⟨planned, hplanned, hop, hkind, hid⟩ := hplan
  have hmem := (mem_mapM_eq_ok hfirewall).2 ⟨row, hrow, hplanned⟩
  exact ⟨planned, List.mem_append_right _ (List.mem_filterMap.2 ⟨_, hmem, rfl⟩), hop, hkind, hid⟩

theorem hasVmDelete_of_planned {id : Option Int}
    (h : Planned diffs .delete "virtualmachine" id) : hasVmDelete diffs = true := by
  obtain ⟨diff, hmem, hop, hkind, -⟩ := h
  rw [hasVmDelete, List.any_eq_true]
  refine ⟨diff, hmem, ?_⟩
  rw [hop, hkind, Json.eq_str, Json.eq_str]
  decide

/-- Every operation a run of the apply job sends, or turns into a deletion request, is in the plan of the
branch. -/
def AppliesPlanned (cfg : ApplyConfig) (backend : Backend) (branch : Branch) (diffs : List Fields) :
    Prop :=
  (∀ row sent, .post row sent ∈ (run cfg backend branch).log →
    (sent.diff.kind = .firewall ∧ Planned diffs sent.diff.op "firewall" sent.diff.netboxId) ∨
      ∃ item ∈ virtualMachineDiffUnion cfg.tables branch, item.row = row ∧
        guestDispatch cfg branch item = some (.apply row sent) ∧
        Planned diffs sent.diff.op "virtualmachine" item.vmId) ∧
  ∀ row record, .saveDeletion row record ∈ (run cfg backend branch).log →
    ∃ item ∈ virtualMachineDiffUnion cfg.tables branch, item.row = row ∧
      guestDispatch cfg branch item = some (.deletion row record) ∧
      Planned diffs .delete "virtualmachine" item.vmId

variable {cfg : ApplyConfig}

theorem appliesPlanned_of_intentDiffs
    (backend : Backend) (hdiffs : intentDiffs cfg.tables branch = .ok diffs) :
    AppliesPlanned cfg backend branch diffs := by
  constructor
  · intro row sent hpost
    rcases mem_run_dispatches.1 (mem_dispatches_of_post hpost) with
      ⟨item, hitem, hdispatch⟩ | ⟨row', hrow, hdispatch⟩
    · obtain ⟨hrow, hop, -⟩ := apply_of_guestDispatch hdispatch
      have hplanned := planned_guest hdiffs hitem
      rw [hop] at hplanned
      exact .inr ⟨item, hitem, hrow, hdispatch, hplanned⟩
    · obtain ⟨diff, request, hdiff, heq, hsent, -⟩ := firewallDispatch_eq_some hdispatch
      obtain ⟨-, rfl⟩ := Dispatch.apply.inj heq
      rw [hsent]
      exact .inl ⟨rfl, planned_firewall hdiffs hrow hdiff⟩
  · intro row record hsave
    rcases mem_run_dispatches.1 (mem_dispatches_of_saveDeletion hsave) with
      ⟨item, hitem, hdispatch⟩ | ⟨row', -, hdispatch⟩
    · have hplanned := planned_guest hdiffs hitem
      obtain ⟨_, -, -, ⟨hop, -⟩ | ⟨_, _, -, heq, -⟩⟩ := guestDispatch_eq_some hdispatch
      · rw [hop] at hplanned
        exact ⟨item, hitem, (guestDispatch_row hdispatch).symm, hdispatch, hplanned⟩
      · cases heq
    · obtain ⟨_, _, -, heq, -⟩ := firewallDispatch_eq_some hdispatch
      cases heq

theorem run_dispatches_eq_nil (backend : Backend)
    (hdiffs : intentDiffs cfg.tables branch = .ok []) : (run cfg backend branch).dispatches = [] := by
  rw [List.eq_nil_iff_forall_not_mem]
  intro dispatch hmem
  rcases mem_run_dispatches.1 hmem with ⟨item, hitem, -⟩ | ⟨row, hrow, hdispatch⟩
  · obtain ⟨diff, hdiff, -⟩ := planned_guest hdiffs hitem
    cases hdiff
  · obtain ⟨found, _, hfound, -⟩ := firewallDispatch_eq_some hdispatch
    obtain ⟨diff, hdiff, -⟩ := planned_firewall hdiffs hrow hfound
    cases hdiff

theorem requests_planned {merge : MergeConfig} {plan : PlanRequest → HttpReply} (backend : Backend)
    (hmem : request ∈ (validateProxmoxIntent cfg.tables merge plan branch).requests) :
    AppliesPlanned cfg backend branch request.diffs := by
  by_cases hengaged : IntentEngaged merge.settings merge.branchStore branch
  · rcases validateProxmoxIntent_cases cfg.tables plan hengaged with ⟨hnone, -⟩ |
      ⟨sent, hready, hvalidation⟩
    · rw [hnone] at hmem
      cases hmem
    · rw [hvalidation] at hmem
      obtain rfl := List.mem_singleton.1 hmem
      exact appliesPlanned_of_intentDiffs backend hready.planned
  · rw [validateProxmoxIntent_of_not_engaged cfg.tables plan hengaged] at hmem
    cases hmem

theorem permits_cases {tables : Tables} {merge : MergeConfig} {plan : PlanRequest → HttpReply}
    (hengaged : IntentEngaged merge.settings merge.branchStore branch)
    (hpermits : (validateProxmoxIntent tables merge plan branch).Permits) :
    intentDiffs tables branch = .ok [] ∨
      ∃ request body, (validateProxmoxIntent tables merge plan branch).requests = [request] ∧
        plan request = .body (.obj body) ∧ replyPermits body = true := by
  rcases validateProxmoxIntent_cases tables plan hengaged with ⟨-, hempty⟩ |
    ⟨request, -, hvalidation⟩
  · exact .inl (hempty hpermits)
  · rw [hvalidation] at hpermits ⊢
    obtain ⟨message, hmessage⟩ := hpermits
    obtain ⟨result, hresult, hpermitted⟩ := judge_permits hmessage
    obtain ⟨body, hbody, hreply⟩ := planResult_permits hresult hpermitted
    exact .inr ⟨request, body, rfl, hbody, hreply⟩

theorem verdict_of_plan_error {tables : Tables} {merge : MergeConfig} {plan : PlanRequest → HttpReply} {text : String}
    (hengaged : IntentEngaged merge.settings merge.branchStore branch)
    (hmem : request ∈ (validateProxmoxIntent tables merge plan branch).requests)
    (herror : planReplyBody request.url (plan request) = .error text) :
    (validateProxmoxIntent tables merge plan branch).verdict
      = .ok ⟨false, "Could not validate merge against proxbox-api: " ++ text⟩ := by
  rcases validateProxmoxIntent_cases tables plan hengaged with ⟨hnone, -⟩ | ⟨sent, -, hvalidation⟩
  · rw [hnone] at hmem
    cases hmem
  · rw [hvalidation] at hmem ⊢
    obtain rfl := List.mem_singleton.1 hmem
    have hresult : planResult request (plan request) = .error (.client text) := by
      rw [planResult, herror]
      rfl
    rw [hresult]
    rfl

theorem unconfirmed_delete_blocks {tables : Tables} {merge : MergeConfig} {item : UnionEntry}
    (hengaged : IntentEngaged merge.settings merge.branchStore branch)
    (hconfirmed : branchDestroyConfirmed merge.branchStore branch = false)
    (hitem : item ∈ virtualMachineDiffUnion tables branch) (hop : item.op = .delete) :
    ¬ (validateProxmoxIntent tables merge plan branch).Permits ∧
      (validateProxmoxIntent tables merge plan branch).requests = [] := by
  rcases validateProxmoxIntent_cases tables plan hengaged with ⟨hnone, hempty⟩ |
    ⟨request, hready, -⟩
  · refine ⟨fun hpermits => ?_, hnone⟩
    obtain ⟨diff, hdiff, -⟩ := planned_guest (hempty hpermits) hitem
    cases hdiff
  · have hplanned := planned_guest hready.planned hitem
    rw [hop] at hplanned
    rw [hready.confirmed (hasVmDelete_of_planned hplanned)] at hconfirmed
    cases hconfirmed

/-- Every request of a validation plans everything the job sends, and an engaged validation sends one exactly if
there is something to plan and a backend to ask. It permits the merge only when the job has nothing to send or
when the backend's reply permits it. -/
theorem validation_covers_run (cfg : ApplyConfig) (backend : Backend) (merge : MergeConfig)
    (plan : PlanRequest → HttpReply) (branch : Branch) :
    (∀ request ∈ (validateProxmoxIntent cfg.tables merge plan branch).requests,
      AppliesPlanned cfg backend branch request.diffs) ∧
    (IntentEngaged merge.settings merge.branchStore branch →
      (∀ request, (validateProxmoxIntent cfg.tables merge plan branch).requests = [request] ↔
        PlanReady cfg.tables merge branch request) ∧
      ((validateProxmoxIntent cfg.tables merge plan branch).Permits →
        (intentDiffs cfg.tables branch = .ok [] ∧ (run cfg backend branch).dispatches = []) ∨
        ∃ request body, (validateProxmoxIntent cfg.tables merge plan branch).requests = [request] ∧
          plan request = .body (.obj body) ∧ replyPermits body = true) ∧
      (∀ request ∈ (validateProxmoxIntent cfg.tables merge plan branch).requests, ∀ text,
        planReplyBody request.url (plan request) = .error text →
        (validateProxmoxIntent cfg.tables merge plan branch).verdict
          = .ok ⟨false, "Could not validate merge against proxbox-api: " ++ text⟩) ∧
      (branchDestroyConfirmed merge.branchStore branch = false →
        (∃ item ∈ virtualMachineDiffUnion cfg.tables branch, item.op = .delete) →
        ¬ (validateProxmoxIntent cfg.tables merge plan branch).Permits ∧
          (validateProxmoxIntent cfg.tables merge plan branch).requests = [])) := by
  refine ⟨fun request hmem => requests_planned backend hmem, fun hengaged => ⟨?_, ?_, ?_, ?_⟩⟩
  · exact fun request => requests_eq_iff cfg.tables plan hengaged
  · intro hpermits
    rcases permits_cases hengaged hpermits with hempty | hreply
    · exact .inl ⟨hempty, run_dispatches_eq_nil backend hempty⟩
    · exact .inr hreply
  · intro request hmem text herror
    exact verdict_of_plan_error hengaged hmem herror
  · rintro hconfirmed ⟨item, hitem, hop⟩
    exact unconfirmed_delete_blocks plan hengaged hconfirmed hitem hop

end Proxbox
