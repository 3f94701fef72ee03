import Proxbox.Intent.ApplyScope
import Proxbox.Intent.MergeValidator
/-!
# After the merge

`handle_branch_merged` queues the apply job once a branch is merged. It looks at the union of the machine
and intent rows to see whether there is anything to do, while the job itself also walks the firewall
rows. The two agree exactly on branches whose firewall rows come with a machine or intent row.
-/

namespace Proxbox

open Python

structure EnqueuedJob where
  branch : Branch
  user : Option String

variable (tables : Tables) (branch : Branch)

def mergeableVirtualMachines : List UnionEntry :=
  match branch.changediffSet with
  | none => []
  | some _ => virtualMachineDiffUnion tables branch

variable (settings : Option PluginSettings) (store : BranchStore) (user : Option String)

def handleBranchMerged (tables : Tables) (branch : Branch) (user : Option String) : Option EnqueuedJob :=
  if !isIntentEnabled settings then none
  else if !branchOptedIn store branch then none
  else if (mergeableVirtualMachines tables branch).isEmpty then none
  else some ⟨branch, user⟩

def workList : List ChangeDiff :=
  (virtualMachineDiffUnion tables branch).map UnionEntry.row ++ firewallChangediffs branch

theorem mergeableVirtualMachines_eq :
    mergeableVirtualMachines tables branch = virtualMachineDiffUnion tables branch := by
  obtain ⟨pk, schemaId, name, changediffSet⟩ := branch
  cases changediffSet with
  | none => rfl
  | some rows => rfl

theorem handleBranchMerged_isSome {settings : Option PluginSettings} {store : BranchStore} {branch : Branch}
    (hengaged : IntentEngaged settings store branch) :
    (handleBranchMerged settings store tables branch user).isSome = true ↔
      virtualMachineDiffUnion tables branch ≠ [] := by
  obtain ⟨henabled, hopted⟩ := hengaged
  unfold handleBranchMerged
  rw [mergeableVirtualMachines_eq, henabled, hopted]
  cases virtualMachineDiffUnion tables branch <;> simp

/-- A merged branch that is opted in has its job queued exactly when the job has work. -/
def EnqueuesWork (tables : Tables) (branch : Branch) (user : Option String) : Prop :=
  IntentEngaged settings store branch →
    ((handleBranchMerged settings store tables branch user).isSome = true ↔ workList tables branch ≠ [])

/-- The job is queued exactly for work when no opted-in branch has firewall rows alone. -/
theorem enqueuesWork_iff (settings : Option PluginSettings) (store : BranchStore) (tables : Tables)
    (branch : Branch) (user : Option String) :
    EnqueuesWork settings store tables branch user ↔
      (IntentEngaged settings store branch → firewallChangediffs branch ≠ [] →
        virtualMachineDiffUnion tables branch ≠ []) := by
  unfold EnqueuesWork
  refine forall_congr' fun hengaged => ?_
  rw [handleBranchMerged_isSome tables user hengaged]
  have hwork : workList tables branch ≠ [] ↔
      virtualMachineDiffUnion tables branch ≠ [] ∨ firewallChangediffs branch ≠ [] := by
    rw [workList, Ne, List.append_eq_nil_iff, List.map_eq_nil_iff, not_and_or]
  rw [hwork]
  constructor
  · intro hqueued hfirewall
    exact hqueued.2 (.inr hfirewall)
  · intro haccompanied
    refine ⟨.inl, fun hany => ?_⟩
    rcases hany with hunion | hfirewall
    · exact hunion
    · exact haccompanied hfirewall

def optedInConfig : MergeConfig where
  settings := some ⟨true, true⟩
  branchStore := twoEndpointConfig.branchStore
  endpoints := twoEndpointConfig.endpoints
  httpUrl := some "http://backend"
  user := some "alice"

def firewallOnlyBranch : Branch := ⟨some 1, "br1", "b", some [firewallRow readOnlyAlias]⟩

theorem firewall_only_branch_dropped :
    IntentEngaged optedInConfig.settings optedInConfig.branchStore firewallOnlyBranch ∧
      (validateProxmoxIntent Tables.none optedInConfig
        (fun _ => .body (.obj [("permitted", .bool true)])) firewallOnlyBranch).requests.length = 1 ∧
      (validateProxmoxIntent Tables.none optedInConfig
        (fun _ => .body (.obj [("permitted", .bool true)])) firewallOnlyBranch).verdict.toOption
          = some ⟨true, ""⟩ ∧
      (workList Tables.none firewallOnlyBranch).length = 1 ∧
      (handleBranchMerged optedInConfig.settings optedInConfig.branchStore Tables.none
        firewallOnlyBranch (some "alice")).isSome = false := by
  refine ⟨⟨by decide, by decide⟩, ?_⟩
  decide +kernel

end Proxbox
