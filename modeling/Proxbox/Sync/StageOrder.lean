import Mathlib.Data.List.Sort
import Proxbox.Sync.Stages
/-!
# The stages a run selects

A run is asked for sync types by their slugs. Slugs it does not know are dropped, the rest is put into the order
in which the stages depend on one another, and the stages an interface or an address needs are added.
-/

namespace Proxbox

open Python

def SyncType.slug : SyncType → String
  | .devices => "devices"
  | .storage => "storage"
  | .virtualMachines => "virtual-machines"
  | .taskHistory => "task-history"
  | .virtualMachinesDisks => "vm-disks"
  | .virtualMachinesBackups => "vm-backups"
  | .virtualMachinesSnapshots => "vm-snapshots"
  | .networkInterfaces => "network-interfaces"
  | .vmInterfaces => "vm-interfaces"
  | .ipAddresses => "ip-addresses"
  | .sdn => "sdn"
  | .replications => "replications"
  | .backupRoutines => "backup-routines"

def syncStageOrder : List SyncType :=
  [.devices, .storage, .virtualMachines, .taskHistory, .virtualMachinesDisks, .virtualMachinesBackups,
    .virtualMachinesSnapshots, .networkInterfaces, .vmInterfaces, .ipAddresses, .sdn, .replications,
    .backupRoutines]

def SyncType.orderIndex (stage : SyncType) : Nat := syncStageOrder.idxOf stage

theorem SyncType.orderIndex_injective {left right : SyncType} (h : left.orderIndex = right.orderIndex) :
    left = right := by
  have hmem (stage : SyncType) : stage ∈ syncStageOrder := by cases stage <;> decide
  exact (List.idxOf_inj (hmem left)).1 h

def SyncType.Before (left right : SyncType) : Prop := left.orderIndex ≤ right.orderIndex

instance : DecidableRel SyncType.Before := fun left right =>
  inferInstanceAs (Decidable (left.orderIndex ≤ right.orderIndex))

instance : Std.Total SyncType.Before := ⟨fun left right => Nat.le_total left.orderIndex right.orderIndex⟩

instance : IsTrans SyncType SyncType.Before := ⟨fun _ _ _ hleft hright => Nat.le_trans hleft hright⟩

def sortStages (stages : List SyncType) : List SyncType := stages.insertionSort SyncType.Before

/-- What the type list of a run holds: `all` alone, or stages. -/
inductive SyncSelection where
  | all
  | types (stages : List SyncType)

def stageOfSlug (slug : String) : Option SyncType := syncStageOrder.find? fun stage => stage.slug = slug

variable (selected : List String)

def normalizeSyncTypes : SyncSelection :=
  let known := (selected.map strip).filter fun slug => slug = "all" || (stageOfSlug slug).isSome
  let slugs := known.eraseDups
  if slugs.isEmpty then .all
  else if slugs.contains "all" then .all
  else .types (sortStages (slugs.filterMap stageOfSlug))

/-- An interface stage that `needed` asks for and that is not selected itself. -/
def withVmInterfaces (needed : SyncType) (stages : List SyncType) : List SyncType :=
  if stages.contains needed && !stages.contains .vmInterfaces then stages ++ [.vmInterfaces] else stages

def expandedSyncStages : SyncSelection → List SyncType
  | .all => syncStageOrder
  | .types stages =>
    (sortStages (withVmInterfaces .ipAddresses (withVmInterfaces .networkInterfaces stages))).eraseDups

def SyncSelection.slugs : SyncSelection → List String
  | .all => ["all"]
  | .types stages => stages.map SyncType.slug

def SyncSelection.stages : SyncSelection → List SyncType
  | .all => syncStageOrder
  | .types stages => stages

/-! ### Slugs -/

section Slugs

variable (stage : SyncType)

theorem stageOfSlug_slug : stageOfSlug stage.slug = some stage := by cases stage <;> decide

theorem slug_of_stageOfSlug {slug : String} {stage : SyncType} (h : stageOfSlug slug = some stage) : stage.slug = slug := by
  simpa using List.find?_some h

theorem slug_injective {left right : SyncType} (h : left.slug = right.slug) : left = right :=
  Option.some.inj ((stageOfSlug_slug left).symm.trans (h ▸ stageOfSlug_slug right))

theorem slug_ne_all : stage.slug ≠ "all" := by cases stage <;> decide

theorem strip_slug : strip stage.slug = stage.slug := by cases stage <;> decide

theorem mem_syncStageOrder : stage ∈ syncStageOrder := by cases stage <;> decide

end Slugs

/-! ### Sorted lists -/

theorem eq_of_mem_iff {stages others : List SyncType} (hstages : stages.Pairwise (·.orderIndex < ·.orderIndex))
    (hothers : others.Pairwise (·.orderIndex < ·.orderIndex)) (h : ∀ stage, stage ∈ stages ↔ stage ∈ others) :
      stages = others := by
  have hnodup {list : List SyncType} (hlist : list.Pairwise (·.orderIndex < ·.orderIndex)) : list.Nodup := by
    refine hlist.imp ?_
    intro left right hless hsame
    rw [hsame] at hless
    exact Nat.lt_irrefl _ hless
  have hperm := (List.perm_ext_iff_of_nodup (hnodup hstages) (hnodup hothers)).2 h
  exact hperm.eq_of_pairwise (fun left right _ _ hless hmore => absurd (Nat.lt_trans hless hmore) (Nat.lt_irrefl _))
    hstages hothers

theorem pairwise_eraseDups {stages : List SyncType} (h : stages.Pairwise SyncType.Before) :
    stages.eraseDups.Pairwise (·.orderIndex < ·.orderIndex) := by
  induction hlen : stages.length using Nat.strong_induction_on generalizing stages with
  | _ n ih =>
    cases stages with
    | nil => exact .nil
    | cons stage rest =>
      obtain ⟨hfirst, hrest⟩ := List.pairwise_cons.1 h
      have hshorter : (rest.filter fun other => !other == stage).length < n := by
        have hfilter := List.length_filter_le (fun other => !other == stage) rest
        rw [List.length_cons] at hlen
        omega
      rw [List.eraseDups_cons]
      refine List.pairwise_cons.2 ⟨fun other hother => ?_, ih _ hshorter (hrest.filter _) rfl⟩
      obtain ⟨hmem, hne⟩ := List.mem_filter.1 (List.mem_eraseDups.1 hother)
      have hindex : stage.orderIndex ≠ other.orderIndex := by
        intro hsame
        rw [SyncType.orderIndex_injective hsame] at hne
        simp at hne
      have hle : stage.orderIndex ≤ other.orderIndex := hfirst other hmem
      omega

theorem pairwise_sortStages {stages : List SyncType} (h : stages.Nodup) :
    (sortStages stages).Pairwise (·.orderIndex < ·.orderIndex) := by
  have hdistinct : (sortStages stages).Nodup := (List.perm_insertionSort SyncType.Before stages).nodup_iff.2 h
  refine ((List.pairwise_insertionSort SyncType.Before stages).and hdistinct).imp ?_
  intro left right hboth
  refine Nat.lt_of_le_of_ne hboth.1 fun hsame => ?_
  exact hboth.2 (SyncType.orderIndex_injective hsame)

theorem nodup_eraseDups (slugs : List String) : slugs.eraseDups.Nodup := by
  induction hlen : slugs.length using Nat.strong_induction_on generalizing slugs with
  | _ n ih =>
    cases slugs with
    | nil => exact List.nodup_nil
    | cons slug rest =>
      have hshorter : (rest.filter fun other => !other == slug).length < n :=
        (List.length_filter_le _ rest).trans_lt (hlen ▸ Nat.lt_succ_self rest.length)
      rw [List.eraseDups_cons, List.nodup_cons, List.mem_eraseDups]
      refine ⟨fun hmem => ?_, ih _ hshorter _ rfl⟩
      have hother := (List.mem_filter.1 hmem).2
      simp at hother

/-! ### The normal form -/

/-- The stages of `_SYNC_STAGE_ORDER` that are named, unless `all` is named or none is. -/
theorem normalizeSyncTypes_eq : normalizeSyncTypes selected =
    if "all" ∈ selected.map strip ∨ ∀ stage ∈ syncStageOrder, stage.slug ∉ selected.map strip then .all
    else .types (syncStageOrder.filter fun stage => stage.slug ∈ selected.map strip) := by
  unfold normalizeSyncTypes
  dsimp only
  generalize hslugs : ((selected.map strip).filter fun slug => slug = "all" || (stageOfSlug slug).isSome).eraseDups = slugs
  have hmem (slug : String) : slug ∈ slugs ↔ slug ∈ selected.map strip ∧
      (slug = "all" ∨ ∃ stage, stageOfSlug slug = some stage) := by
    rw [← hslugs, List.mem_eraseDups, List.mem_filter, Bool.or_eq_true, decide_eq_true_eq, Option.isSome_iff_exists]
  have hstage (stage : SyncType) : stage.slug ∈ slugs ↔ stage.slug ∈ selected.map strip :=
    (hmem _).trans (and_iff_left (.inr ⟨stage, stageOfSlug_slug stage⟩))
  have hall : "all" ∈ slugs ↔ "all" ∈ selected.map strip := (hmem _).trans (and_iff_left (.inl rfl))
  by_cases hnamed : "all" ∈ selected.map strip
  · have hempty : ¬slugs.isEmpty = true := by
      rw [List.isEmpty_iff]
      exact List.ne_nil_of_mem (hall.2 hnamed)
    rw [if_neg hempty, if_pos (List.contains_iff_mem.2 (hall.2 hnamed)), if_pos (.inl hnamed)]
  have hcontains : ¬slugs.contains "all" = true := by
    rw [List.contains_iff_mem, hall]
    exact hnamed
  by_cases hnone : ∀ stage ∈ syncStageOrder, stage.slug ∉ selected.map strip
  · have hempty : slugs.isEmpty = true := by
      rw [List.isEmpty_iff, List.eq_nil_iff_forall_not_mem]
      intro slug hslug
      obtain ⟨hslug, hknown⟩ := (hmem slug).1 hslug
      cases hknown with
      | inl h => exact hnamed (h ▸ hslug)
      | inr h =>
        obtain ⟨stage, h⟩ := h
        rw [← slug_of_stageOfSlug h] at hslug
        exact hnone stage (mem_syncStageOrder stage) hslug
    rw [if_pos hempty, if_pos (.inr hnone)]
  · obtain ⟨stage, -, hstageNamed⟩ : ∃ stage ∈ syncStageOrder, stage.slug ∈ selected.map strip := by simpa using hnone
    have hempty : ¬slugs.isEmpty = true := by
      rw [List.isEmpty_iff]
      exact List.ne_nil_of_mem ((hstage stage).2 hstageNamed)
    have hnodup : (slugs.filterMap stageOfSlug).Nodup := by
      refine (hslugs ▸ nodup_eraseDups _ : slugs.Nodup).filterMap fun left right stage hleft hright => ?_
      rw [← slug_of_stageOfSlug hleft, ← slug_of_stageOfSlug hright]
    have hsorted : syncStageOrder.Pairwise (·.orderIndex < ·.orderIndex) := by decide
    rw [if_neg hempty, if_neg hcontains, if_neg (not_or.2 ⟨hnamed, hnone⟩)]
    refine congrArg SyncSelection.types (eq_of_mem_iff (pairwise_sortStages hnodup) (hsorted.filter _) fun stage => ?_)
    rw [sortStages, List.mem_insertionSort, List.mem_filterMap, List.mem_filter, decide_eq_true_eq, ← hstage]
    constructor
    · intro h
      obtain ⟨slug, hslug, hread⟩ := h
      rw [slug_of_stageOfSlug hread]
      exact ⟨mem_syncStageOrder stage, hslug⟩
    · intro h
      exact ⟨stage.slug, h.2, stageOfSlug_slug stage⟩

/-- The list selects a stage that it names, and every stage if it names `all` or nothing that is known. -/
def Selects (stage : SyncType) : Prop :=
  stage.slug ∈ selected.map strip ∨ "all" ∈ selected.map strip ∨ ∀ other : SyncType, other.slug ∉ selected.map strip

theorem mem_stages_normalizeSyncTypes {stage : SyncType} :
    stage ∈ (normalizeSyncTypes selected).stages ↔ Selects selected stage := by
  rw [normalizeSyncTypes_eq, Selects]
  split_ifs with h
  · have hevery : "all" ∈ selected.map strip ∨ ∀ other : SyncType, other.slug ∉ selected.map strip :=
      h.imp id fun hnone other => hnone other (mem_syncStageOrder other)
    exact iff_of_true (mem_syncStageOrder stage) (.inr hevery)
  · obtain ⟨hall, hnone⟩ := not_or.1 h
    have hsome : ¬ ∀ other : SyncType, other.slug ∉ selected.map strip := fun hother => hnone fun other _ => hother other
    rw [or_iff_left (not_or.2 ⟨hall, hsome⟩)]
    simp [SyncSelection.stages, mem_syncStageOrder]

/-- The lists of types that a job can have: `all`, or stages in their order. -/
inductive NormalTypes : List String → Prop
  | all : NormalTypes ["all"]
  | types {stages : List SyncType} : stages ≠ [] → stages.Pairwise (·.orderIndex < ·.orderIndex) →
      NormalTypes (stages.map SyncType.slug)

theorem normalTypes_normalizeSyncTypes : NormalTypes (normalizeSyncTypes selected).slugs := by
  rw [normalizeSyncTypes_eq]
  split_ifs with h
  · exact .all
  · obtain ⟨stage, hstage, hnamed⟩ : ∃ stage ∈ syncStageOrder, stage.slug ∈ selected.map strip := by simpa using (not_or.1 h).2
    have hsorted : syncStageOrder.Pairwise (·.orderIndex < ·.orderIndex) := by decide
    exact .types (List.ne_nil_of_mem (List.mem_filter.2 ⟨hstage, decide_eq_true hnamed⟩)) (hsorted.filter _)

theorem normalizeSyncTypes_of_normal {slugs selected : List String} (h : NormalTypes slugs) (hmem : ∀ slug, slug ∈ selected ↔
    slug ∈ slugs) :
    (normalizeSyncTypes selected).slugs = slugs := by
  have hstripped (slug : String) : slug ∈ selected.map strip ↔ ∃ raw ∈ slugs, strip raw = slug := by
    simp only [List.mem_map, hmem]
  rw [normalizeSyncTypes_eq]
  cases h with
  | all =>
    rw [if_pos (.inl ((hstripped "all").2 ⟨"all", List.mem_singleton_self _, by decide⟩))]
    rfl
  | @types stages hnonempty hsorted =>
    have hnamed (slug : String) : slug ∈ selected.map strip ↔ ∃ stage ∈ stages, stage.slug = slug := by
      rw [hstripped]
      constructor
      · intro h
        obtain ⟨raw, hraw, hslug⟩ := h
        obtain ⟨stage, hstage, rfl⟩ := List.mem_map.1 hraw
        exact ⟨stage, hstage, (strip_slug stage).symm.trans hslug⟩
      · intro h
        obtain ⟨stage, hstage, hslug⟩ := h
        exact ⟨stage.slug, List.mem_map_of_mem hstage, (strip_slug stage).trans hslug⟩
    have hstage (stage : SyncType) : stage.slug ∈ selected.map strip ↔ stage ∈ stages := by
      rw [hnamed]
      constructor
      · intro h
        obtain ⟨other, hother, hslug⟩ := h
        exact slug_injective hslug ▸ hother
      · exact fun h => ⟨stage, h, rfl⟩
    obtain ⟨stage, hmember⟩ := List.exists_mem_of_ne_nil stages hnonempty
    have hsome : ¬∀ stage ∈ syncStageOrder, stage.slug ∉ selected.map strip :=
      fun hnone => hnone stage (mem_syncStageOrder stage) ((hstage stage).2 hmember)
    have hall : "all" ∉ selected.map strip := by
      rw [hnamed]
      intro h
      obtain ⟨other, -, hslug⟩ := h
      exact slug_ne_all other hslug
    have horder : syncStageOrder.Pairwise (·.orderIndex < ·.orderIndex) := by decide
    rw [if_neg (not_or.2 ⟨hall, hsome⟩)]
    refine congrArg (List.map SyncType.slug) (eq_of_mem_iff (horder.filter _) hsorted fun stage => ?_)
    rw [List.mem_filter, decide_eq_true_eq, hstage]
    exact and_iff_right (mem_syncStageOrder stage)

/-! ### The stages of a normal form -/

theorem pairwise_expandedSyncStages (selection : SyncSelection) :
    (expandedSyncStages selection).Pairwise (·.orderIndex < ·.orderIndex) := by
  cases selection with
  | all => decide
  | types stages => exact pairwise_eraseDups (List.pairwise_insertionSort _ _)

theorem mem_withVmInterfaces {needed stage : SyncType} {stages : List SyncType} :
    stage ∈ withVmInterfaces needed stages ↔ stage ∈ stages ∨ stage = .vmInterfaces ∧ needed ∈ stages := by
  unfold withVmInterfaces
  split_ifs with h
  · rw [Bool.and_eq_true, List.contains_iff_mem] at h
    rw [List.mem_append, List.mem_singleton, and_iff_left h.1]
  · constructor
    · exact Or.inl
    · intro hstage
      cases hstage with
      | inl hstage => exact hstage
      | inr hstage =>
        obtain ⟨rfl, hneeded⟩ := hstage
        simpa [hneeded] using h

theorem mem_expandedSyncStages {stage : SyncType} {selection : SyncSelection} :
    stage ∈ expandedSyncStages selection ↔ stage ∈ selection.stages ∨
      stage = .vmInterfaces ∧ (SyncType.networkInterfaces ∈ selection.stages ∨ SyncType.ipAddresses ∈ selection.stages) := by
  cases selection with
  | all => exact iff_of_true (mem_syncStageOrder stage) (.inl (mem_syncStageOrder stage))
  | types stages =>
    change stage ∈ (sortStages _).eraseDups ↔ _
    rw [List.mem_eraseDups, sortStages, List.mem_insertionSort, mem_withVmInterfaces, mem_withVmInterfaces,
      mem_withVmInterfaces]
    have hne : SyncType.ipAddresses ≠ .vmInterfaces := by decide
    simp only [hne, false_and, or_false, SyncSelection.stages, or_assoc, and_or_left]

theorem exists_split_of_lt {stages : List SyncType} (h : stages.Pairwise (·.orderIndex < ·.orderIndex))
    {first second : SyncType}
    (hfirst : first ∈ stages) (hsecond : second ∈ stages) (hlt : first.orderIndex < second.orderIndex) :
    ∃ front back, stages = front ++ first :: back ∧ second ∈ back := by
  obtain ⟨front, back, rfl⟩ := List.append_of_mem hfirst
  refine ⟨front, back, rfl, ?_⟩
  have hbefore := (List.pairwise_append.1 h).2.2
  rcases List.mem_append.1 hsecond with hfront | hrest
  · have hsooner := hbefore second hfront first List.mem_cons_self
    omega
  · cases hrest with
    | head => exact absurd hlt (Nat.lt_irrefl _)
    | tail _ hback => exact hback

/-- Normalising is idempotent and sees only which slugs there are. The stages are in strict order: those
selected, and the VM interfaces with network interfaces or IP addresses. -/
theorem sync_types_normal_form (selected : List String) :
    (normalizeSyncTypes (normalizeSyncTypes selected).slugs).slugs = (normalizeSyncTypes selected).slugs ∧
      (∀ other : List String, (∀ slug, slug ∈ other ↔ slug ∈ selected) →
        normalizeSyncTypes other = normalizeSyncTypes selected) ∧
      (expandedSyncStages (normalizeSyncTypes selected)).Nodup ∧
      (expandedSyncStages (normalizeSyncTypes selected)).Pairwise SyncType.Before ∧
      (∀ raw ∈ selected, ∀ stage, strip raw = SyncType.slug stage →
        stage ∈ expandedSyncStages (normalizeSyncTypes selected)) ∧
      (∀ stage, stage ∈ expandedSyncStages (normalizeSyncTypes selected) ↔ Selects selected stage ∨
        stage = .vmInterfaces ∧ (Selects selected .networkInterfaces ∨ Selects selected .ipAddresses)) ∧
      (SyncType.ipAddresses ∈ expandedSyncStages (normalizeSyncTypes selected) → ∃ front back,
        expandedSyncStages (normalizeSyncTypes selected) = front ++ .vmInterfaces :: back ∧ SyncType.ipAddresses ∈ back) := by
  have hpairwise := pairwise_expandedSyncStages (normalizeSyncTypes selected)
  refine ⟨normalizeSyncTypes_of_normal (normalTypes_normalizeSyncTypes selected) fun _ => Iff.rfl, ?_, ?_, ?_, ?_, ?_, ?_⟩
  · intro other hother
    have hmap (slug : String) : slug ∈ other.map strip ↔ slug ∈ selected.map strip := by simp only [List.mem_map, hother]
    simp only [normalizeSyncTypes_eq, hmap]
  · refine hpairwise.imp ?_
    intro left right hless hsame
    rw [hsame] at hless
    exact Nat.lt_irrefl _ hless
  · exact hpairwise.imp Nat.le_of_lt
  · intro raw hraw stage hslug
    refine mem_expandedSyncStages.2 (.inl ?_)
    exact (mem_stages_normalizeSyncTypes selected).2 (.inl (List.mem_map.2 ⟨raw, hraw, hslug⟩))
  · intro stage
    simp only [mem_expandedSyncStages, mem_stages_normalizeSyncTypes]
  · intro haddresses
    have hinterfaces : SyncType.vmInterfaces ∈ expandedSyncStages (normalizeSyncTypes selected) := by
      rcases mem_expandedSyncStages.1 haddresses with hselected | hadded
      · exact mem_expandedSyncStages.2 (.inr ⟨rfl, .inr hselected⟩)
      · exact absurd hadded.1 (by decide)
    exact exists_split_of_lt hpairwise hinterfaces haddresses (by decide)

end Proxbox
