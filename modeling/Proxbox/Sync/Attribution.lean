import Proxbox.Library.Grouping
import Proxbox.Library.Json
/-!
# Whose entry is it

The firewall and datacenter replies of the backend name clusters, not endpoints. An entry is attributed to the
endpoint under which a cluster of that name is tracked. If there is none, or it is disabled, the lookup falls
back to an enabled endpoint that is itself called like the cluster, and that one need not be the owner.
-/

namespace Proxbox

open Python

structure NamedEndpoint where
  pk : Nat
  name : String
  enabled : Bool

structure ClusterTracking where
  name : String
  endpoint : Nat

structure Estate where
  endpoints : List NamedEndpoint
  clusters : List ClusterTracking

section Model

variable (estate : Estate) (allowed : List Nat)

def Estate.claimants (name : String) : List Nat := ((estate.clusters.filter (·.name = name)).map (·.endpoint)).dedup

def Estate.isEnabled (pk : Nat) : Bool := estate.endpoints.any fun endpoint => endpoint.pk = pk && endpoint.enabled

/-- `ProxmoxEndpoint.objects.filter(name=cluster_name, enabled=True).first()`. -/
def Estate.enabledNamed (name : String) : Option Nat :=
  (sortedBy (·.pk) (estate.endpoints.filter fun endpoint => endpoint.name = name && endpoint.enabled)).head?.map (·.pk)

/-- `_resolve_endpoint_by_cluster_name`, the same in both services; the query of the tracked clusters may raise. -/
def resolveEndpointByClusterName (raises : Bool) (name : String) : Option Nat :=
  if raises then estate.enabledNamed name
  else match estate.claimants name with
    | [] => estate.enabledNamed name
    | [owner] => if estate.isEnabled owner then some owner else estate.enabledNamed name
    | _ => none

/-- An entry of a reply, and what the database does while it is handled. -/
structure ReplyEntry where
  entry : Json
  raises : Bool
  completes : Bool

def ReplyEntry.clusterName (item : ReplyEntry) : Option String :=
  let value := item.entry.asDict.get "cluster_name"
  if value.truthy then some value.text else none

def targetOf (item : ReplyEntry) : Option Nat := do
  let name ← item.clusterName
  let endpoint ← resolveEndpointByClusterName estate item.raises name
  if endpoint ∈ allowed then some endpoint else none

def attributed (items : List ReplyEntry) : List (ReplyEntry × Nat) :=
  items.filterMap fun item => (targetOf estate allowed item).map (item, ·)

variable (reply : List ReplyEntry)

/-- `sync_firewall` writes the entries one by one and stops with `AttributeError` at one that is not an object. -/
def firewallEntries : List ReplyEntry := (reply.takeWhile (·.entry.isDict)).filter (·.completes)

def ReplyEntry.cputype (item : ReplyEntry) : Json := item.entry.asDict.getD "cputype" (item.entry.asDict.getD "name" (.str ""))

/-- `sync_datacenter` writes all entries with a type in one transaction. -/
def datacenterEntries : List ReplyEntry :=
  if reply.all fun item => item.entry.isDict && item.completes then reply.filter (·.cputype.truthy) else []

end Model

/-! ### Owners -/

def Estate.Tracks (estate : Estate) (name : String) (endpoint : Nat) : Prop :=
  ∃ cluster ∈ estate.clusters, cluster.name = name ∧ cluster.endpoint = endpoint

def Estate.EnabledAs (estate : Estate) (name : String) (pk : Nat) : Prop :=
  ∃ endpoint ∈ estate.endpoints, endpoint.name = name ∧ endpoint.enabled = true ∧ endpoint.pk = pk

/-- The owner of a name: the one endpoint that tracks it or, if none does, the one enabled endpoint that is
called so. -/
structure OwnsName (estate : Estate) (name : String) (pk : Nat) : Prop where
  tracked : ∀ owner, estate.Tracks name owner → owner = pk
  named : (∀ owner, ¬ estate.Tracks name owner) → estate.EnabledAs name pk ∧ ∀ other, estate.EnabledAs name other → other = pk

/-- A name leads astray: the lookup falls back to an endpoint that is called so and is not the owner. -/
inductive LeadsAstray (estate : Estate) (raises : Bool) (name : String) (pk : Nat) : Prop
  | shared {other : Nat} : (∀ owner, ¬ estate.Tracks name owner) → estate.EnabledAs name other → other ≠ pk →
      LeadsAstray estate raises name pk
  | unread {owner : Nat} : raises = true → estate.Tracks name owner → owner ≠ pk → LeadsAstray estate raises name pk
  | disabled {owner : Nat} : raises = false → estate.isEnabled owner = false → (∀ other, estate.Tracks name other ↔
      other = owner) →
      LeadsAstray estate raises name pk

/-- An entry goes astray: its name leads astray, to the first enabled endpoint that is called so, and that one
is in scope. -/
def Astray (estate : Estate) (allowed : List Nat) (item : ReplyEntry) : Prop :=
  ∃ name pk, item.clusterName = some name ∧ estate.enabledNamed name = some pk ∧ pk ∈ allowed ∧
    LeadsAstray estate item.raises name pk

section Owners

variable {estate : Estate} {allowed : List Nat} {name : String} {pk : Nat} {item : ReplyEntry}

theorem mem_claimants : pk ∈ estate.claimants name ↔ estate.Tracks name pk := by
  simp [Estate.claimants, Estate.Tracks, and_assoc]

theorem enabledAs_of_enabledNamed (h : estate.enabledNamed name = some pk) : estate.EnabledAs name pk := by
  obtain ⟨endpoint, hhead, rfl⟩ := Option.map_eq_some_iff.1 h
  have hmem := (stablySorted_sortedBy _ _).perm.mem_iff.1 (List.mem_of_mem_head? hhead)
  simp only [List.mem_filter, Bool.and_eq_true, decide_eq_true_eq] at hmem
  exact ⟨endpoint, hmem.1, hmem.2.1, hmem.2.2, rfl⟩

theorem isEnabled_of_enabledNamed (h : estate.enabledNamed name = some pk) : estate.isEnabled pk = true := by
  obtain ⟨endpoint, hmem, -, henabled, rfl⟩ := enabledAs_of_enabledNamed h
  exact List.any_eq_true.2 ⟨endpoint, hmem, by simp [henabled]⟩

theorem ownsName_of_enabledNamed (h : estate.enabledNamed name = some pk) : OwnsName estate name pk ↔
    (∀ owner, estate.Tracks name owner → owner = pk) ∧
      ((∀ owner, ¬ estate.Tracks name owner) → ∀ other, estate.EnabledAs name other → other = pk) :=
  ⟨fun howner => ⟨howner.tracked, fun hnone => (howner.named hnone).2⟩,
    fun howner => ⟨howner.1, fun hnone => ⟨enabledAs_of_enabledNamed h, howner.2 hnone⟩⟩⟩

theorem ownsName_fallback_iff {raises : Bool} (h : estate.enabledNamed name = some pk)
    (hreached : raises = true ∨ ∀ owner, ¬ estate.Tracks name owner) :
    OwnsName estate name pk ↔ ¬ LeadsAstray estate raises name pk := by
  rw [ownsName_of_enabledNamed h]
  constructor
  · rintro ⟨htracked, hnamed⟩ (⟨hnone, hother, hne⟩ | ⟨-, howner, hne⟩ | ⟨hreads, -, howner⟩)
    · exact hne (hnamed hnone _ hother)
    · exact hne (htracked _ howner)
    · rcases hreached with hraises | hnone
      · cases hreads.symm.trans hraises
      · exact hnone _ ((howner _).2 rfl)
  · intro hgood
    refine ⟨fun owner howner => ?_, fun hnone other hother => ?_⟩
    · rcases hreached with hraises | hnone
      · by_contra hne
        exact hgood (.unread hraises howner hne)
      · exact absurd howner (hnone owner)
    · by_contra hne
      exact hgood (.shared hnone hother hne)

theorem ownsName_resolve_iff {raises : Bool} :
    (∀ pk, resolveEndpointByClusterName estate raises name = some pk → pk ∈ allowed → OwnsName estate name pk) ↔
      ∀ pk, estate.enabledNamed name = some pk → pk ∈ allowed → ¬ LeadsAstray estate raises name pk := by
  cases raises with
  | true => exact forall_congr' fun pk => forall_congr' fun hpk => forall_congr' fun _ => ownsName_fallback_iff hpk (.inl rfl)
  | false =>
    rw [resolveEndpointByClusterName, if_neg Bool.false_ne_true]
    have hmem (pk : Nat) : pk ∈ estate.claimants name ↔ estate.Tracks name pk := mem_claimants
    have hnodup : (estate.claimants name).Nodup := List.nodup_dedup _
    split
    · rename_i hclaimants
      rw [hclaimants] at hmem
      have hnone (owner : Nat) : ¬ estate.Tracks name owner := fun howner => by simpa using (hmem owner).2 howner
      exact forall_congr' fun pk => forall_congr' fun hpk => forall_congr' fun _ => ownsName_fallback_iff hpk (.inr hnone)
    · rename_i owner hclaimants
      have howner (other : Nat) : estate.Tracks name other ↔ other = owner := by
        rw [← hmem, hclaimants, List.mem_singleton]
      split_ifs with henabled
      · refine iff_of_true (fun pk hpk _ => ?_) fun pk _ _ hastray => ?_
        · obtain rfl := Option.some.inj hpk
          exact ⟨fun other hother => (howner other).1 hother, fun hnone => absurd ((howner owner).2 rfl) (hnone owner)⟩
        · rcases hastray with ⟨hnone, -, -⟩ | ⟨hraises, -, -⟩ | ⟨-, hdisabled, hother⟩
          · exact hnone owner ((howner owner).2 rfl)
          · cases hraises
          · rw [← (hother owner).1 ((howner owner).2 rfl), henabled] at hdisabled
            cases hdisabled
      · -- The endpoint that the fallback finds is enabled, so it is not the owner.
        refine forall_congr' fun pk => forall_congr' fun hpk => forall_congr' fun _ =>
          iff_of_false (fun h => henabled ?_) fun h => h ?_
        · rw [h.tracked owner ((howner owner).2 rfl)]
          exact isEnabled_of_enabledNamed hpk
        · exact .disabled rfl (by simpa using henabled) howner
    · rename_i hnone hone
      refine iff_of_true (fun pk hpk => by cases hpk) fun pk _ _ hastray => ?_
      rcases hastray with ⟨huntracked, -, -⟩ | ⟨hraises, -, -⟩ | ⟨-, -, howner⟩
      · exact hnone (List.eq_nil_iff_forall_not_mem.2 fun other hother => huntracked other ((hmem other).1 hother))
      · cases hraises
      · rename_i owner
        refine hone owner (List.perm_singleton.1
          ((List.perm_ext_iff_of_nodup hnodup (List.nodup_singleton _)).2 fun other => ?_))
        rw [hmem, howner, List.mem_singleton]

theorem ownsName_targetOf_iff : (∀ pk, targetOf estate allowed item = some pk → ∃ name, item.clusterName = some name ∧
    OwnsName estate name pk) ↔ ¬ Astray estate allowed item := by
  unfold targetOf Astray
  cases hname : item.clusterName with
  | none => simp
  | some name =>
    have hresolve := @ownsName_resolve_iff estate allowed name item.raises
    simp only [Option.bind_eq_bind, Option.bind_some, Option.bind_eq_some_iff, Option.ite_none_right_eq_some, Option.some.injEq,
      exists_eq_left', not_exists, not_and]
    constructor
    · rintro h _ pk rfl hpk hallowed
      exact hresolve.1 (fun pk hpk hallowed => h pk ⟨pk, hpk, hallowed, rfl⟩) pk hpk hallowed
    · rintro h pk ⟨_, hpk, hallowed, rfl⟩
      exact hresolve.2 (h name · rfl) _ hpk hallowed

end Owners

theorem attributed_iff (estate : Estate) (allowed : List Nat) (items : List ReplyEntry) :
    (∀ write ∈ attributed estate allowed items, ∃ name, write.1.clusterName = some name ∧ OwnsName estate name write.2) ↔
      ∀ item ∈ items, ¬ Astray estate allowed item := by
  refine Iff.trans ?_ (forall₂_congr fun item _ => ownsName_targetOf_iff)
  simp only [attributed, List.mem_filterMap, Option.map_eq_some_iff]
  constructor
  · intro h item hitem pk hpk
    exact h (item, pk) ⟨item, hitem, pk, hpk, rfl⟩
  · rintro h _ ⟨item, hitem, pk, hpk, rfl⟩
    exact h item hitem pk hpk

/-- Both services write every entry to its owner exactly if no entry they write goes astray. -/
theorem attributed_to_owner_iff (estate : Estate) (allowed : List Nat) (reply : List ReplyEntry) :
    ((∀ write ∈ attributed estate allowed (firewallEntries reply), ∃ name, write.1.clusterName = some name ∧
        OwnsName estate name write.2) ↔ ∀ item ∈ firewallEntries reply, ¬ Astray estate allowed item) ∧
      ((∀ write ∈ attributed estate allowed (datacenterEntries reply), ∃ name, write.1.clusterName = some name ∧
        OwnsName estate name write.2) ↔ ∀ item ∈ datacenterEntries reply, ¬ Astray estate allowed item) :=
  ⟨attributed_iff estate allowed _, attributed_iff estate allowed _⟩

/-- Endpoint 1 tracks the cluster and is disabled; endpoint 2 is called like the cluster and gets the entry. -/
theorem disabled_owner_loses_entry :
    let estate : Estate := ⟨[⟨1, "lab", false⟩, ⟨2, "pve", true⟩], [⟨"pve", 1⟩]⟩
    let reply : List ReplyEntry := [⟨.obj [("cluster_name", .str "pve"), ("cputype", .str "custom")], false, true⟩]
    (attributed estate [2] (firewallEntries reply)).map Prod.snd = [2] ∧
      (attributed estate [2] (datacenterEntries reply)).map Prod.snd = [2] ∧ ¬ OwnsName estate "pve" 2 := by
  refine ⟨by decide +kernel, by decide +kernel, fun h => ?_⟩
  cases h.tracked 1 ⟨⟨"pve", 1⟩, List.mem_singleton.2 rfl, rfl, rfl⟩

end Proxbox
