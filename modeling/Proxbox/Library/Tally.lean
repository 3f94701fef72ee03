import Mathlib.Algebra.GroupWithZero.Nat
import Mathlib.Algebra.Order.BigOperators.Group.Finset
/-!
# Counters and rollback

Rows are saved and deleted in batches, each one a transaction. Counters go up with every row that a batch
touches; if the batch does not complete, the rows are rolled back and the counters are not.
-/

namespace Tally

variable {κ : Type} [DecidableEq κ]

/-- The rows there are, by their keys, and those that were written since the start. -/
structure Rows (κ : Type) where
  present : Finset κ
  written : Finset κ

structure Counts where
  created : Nat
  updated : Nat
  deleted : Nat
  deriving DecidableEq

/-- The rows that a transaction saves, in turn, and those that it deletes at its end. -/
structure Batch (κ : Type) where
  saves : List κ
  deletes : Finset κ
  completes : Bool

def saveAll : List κ → Finset κ → Counts → Counts
  | [], _, counts => counts
  | k :: ks, present, counts =>
    if k ∈ present then saveAll ks present { counts with updated := counts.updated + 1 }
    else saveAll ks (insert k present) { counts with created := counts.created + 1 }

/-- A deleted row counts with the rows that depend on it. -/
def Batch.count (batch : Batch κ) (dependents : κ → Nat) (present : Finset κ) (counts : Counts) : Counts :=
  let saved := saveAll batch.saves present counts
  { saved with deleted := saved.deleted + ∑ k ∈ batch.deletes, (1 + dependents k) }

def Batch.commit (batch : Batch κ) (rows : Rows κ) : Rows κ :=
  if batch.completes then
    ⟨(rows.present ∪ batch.saves.toFinset) \ batch.deletes, (rows.written ∪ batch.saves.toFinset) \ batch.deletes⟩
  else rows

def commitAll (batches : List (Batch κ)) (rows : Rows κ) :
    Rows κ := batches.foldl (fun rows batch => batch.commit rows) rows

def countAll (dependents : κ → Nat) : List (Batch κ) → Rows κ → Counts → Counts
  | [], _, counts => counts
  | batch :: batches, rows, counts =>
    countAll dependents batches (batch.commit rows) (batch.count dependents rows.present counts)

def Deletable : List (Batch κ) → Rows κ → Prop
  | [], _ => True
  | batch :: batches, rows => batch.deletes ⊆ rows.present ∧ Deletable batches (batch.commit rows)

/-- How the table differs from what it was. -/
def effects (before : Finset κ) (rows : Rows κ) : Counts where
  created := (rows.present \ before).card
  updated := (before ∩ rows.present ∩ rows.written).card
  deleted := (before \ rows.present).card

def savedKeys (batches : List (Batch κ)) : List κ := batches.flatMap Batch.saves

def deletedKeys : List (Batch κ) → Finset κ
  | [] => ∅
  | batch :: batches => batch.deletes ∪ deletedKeys batches

/-- No work is lost. -/
structure Clean (dependents : κ → Nat) (batches : List (Batch κ)) : Prop where
  completed : ∀ batch ∈ batches, batch.completes = false → batch.saves = [] ∧ batch.deletes = ∅
  saves : (savedKeys batches).Nodup
  deletes : batches.Pairwise fun a b => Disjoint a.deletes b.deletes
  apart : ∀ k ∈ savedKeys batches, k ∉ deletedKeys batches
  alone : ∀ k ∈ deletedKeys batches, dependents k = 0

theorem mem_deletedKeys {batches : List (Batch κ)} {k : κ} : k ∈ deletedKeys batches ↔ ∃ batch ∈ batches,
    k ∈ batch.deletes := by
  induction batches with
  | nil => simp [deletedKeys]
  | cons batch batches ih => simp [deletedKeys, ih]

/-! ### Totals -/

section Totals

variable {dependents : κ → Nat} {counts : Counts} {rows : Rows κ} {batches : List (Batch κ)}

theorem saveAll_deleted (ks : List κ) (present : Finset κ) (counts : Counts) :
    (saveAll ks present counts).deleted = counts.deleted := by
  induction ks generalizing present counts with
  | nil => rfl
  | cons k ks ih =>
    rw [saveAll]
    split_ifs
    · exact ih _ _
    · exact ih _ _

theorem saveAll_total (ks : List κ) (present : Finset κ) (counts : Counts) :
    (saveAll ks present counts).created + (saveAll ks present counts).updated =
      counts.created + counts.updated + ks.length := by
  induction ks generalizing present counts with
  | nil => rfl
  | cons k ks ih =>
    rw [saveAll, List.length_cons]
    split_ifs
    · rw [ih]
      dsimp only
      omega
    · rw [ih]
      dsimp only
      omega

theorem saveAll_created (ks : List κ) (present : Finset κ) (counts : Counts) :
    (saveAll ks present counts).created = counts.created + (ks.toFinset \ present).card := by
  induction ks generalizing present counts with
  | nil => simp [saveAll]
  | cons k ks ih =>
    rw [saveAll, List.toFinset_cons]
    split_ifs with hk
    · rw [ih, Finset.insert_sdiff_of_mem _ hk]
    · have hinsert : insert k ks.toFinset \ present = insert k (ks.toFinset \ insert k present) := by
        ext other
        simp only [Finset.mem_sdiff, Finset.mem_insert]
        by_cases hother : other = k
        · simp [hother, hk]
        · simp [hother]
      rw [ih, hinsert, Finset.card_insert_of_notMem (by simp)]
      dsimp only
      omega

def deletionCount (dependents : κ → Nat) (batches : List (Batch κ)) : Nat :=
  (batches.map fun batch => ∑ k ∈ batch.deletes, (1 + dependents k)).sum

theorem countAll_total :
    (countAll dependents batches rows counts).created + (countAll dependents batches rows counts).updated =
    counts.created + counts.updated + (savedKeys batches).length := by
  induction batches generalizing rows counts with
  | nil => simp [countAll, savedKeys]
  | cons batch batches ih =>
    have hbatch : (batch.count dependents rows.present counts).created +
        (batch.count dependents rows.present counts).updated =
        counts.created + counts.updated + batch.saves.length := saveAll_total _ _ _
    have hkeys : (savedKeys (batch :: batches)).length = batch.saves.length + (savedKeys batches).length := by
      simp [savedKeys]
    rw [countAll, ih, hbatch, hkeys]
    omega

theorem countAll_deleted :
    (countAll dependents batches rows counts).deleted = counts.deleted + deletionCount dependents batches := by
  induction batches generalizing rows counts with
  | nil => rfl
  | cons batch batches ih =>
    have hbatch : (batch.count dependents rows.present counts).deleted = counts.deleted + ∑ k ∈ batch.deletes,
      (1 + dependents k) :=
      congrArg (· + _) (saveAll_deleted _ _ _)
    rw [countAll, ih, hbatch, deletionCount, deletionCount, List.map_cons, List.sum_cons]
    omega

end Totals

/-! ### What is left in the table -/

section Left

variable {rows : Rows κ} {batches : List (Batch κ)}

/-- What a run leaves behind, key by key: nothing is written, gone or new without a batch that completes. -/
structure Left (batches : List (Batch κ)) (rows after : Rows κ) : Prop where
  written_present : rows.written ⊆ rows.present → after.written ⊆ after.present
  written : ∀ k ∈ after.written, k ∈ rows.written ∨ ∃ batch ∈ batches, batch.completes = true ∧ k ∈ batch.saves
  created : ∀ k ∈ after.present, k ∈ rows.present ∨ k ∈ after.written
  deleted : ∀ k ∈ rows.present, k ∉ after.present → ∃ batch ∈ batches, batch.completes = true ∧ k ∈ batch.deletes
  kept : ∀ k ∈ rows.written, k ∈ after.written ∨ k ∉ after.present

theorem left_commit (batch : Batch κ) (rows : Rows κ) : Left [batch] rows (batch.commit rows) := by
  unfold Batch.commit
  split_ifs with hcompletes
  · refine ⟨fun h => ?_, fun k hk => ?_, fun k hk => ?_, fun k hk hgone => ?_, fun k hk => ?_⟩
    · exact Finset.sdiff_subset_sdiff (Finset.union_subset_union_left h) (Finset.Subset.refl _)
    · simp only [Finset.mem_sdiff, Finset.mem_union, List.mem_toFinset] at hk
      exact hk.1.imp_right fun hsaved => ⟨batch, List.mem_singleton.2 rfl, hcompletes, hsaved⟩
    · simp only [Finset.mem_sdiff, Finset.mem_union, List.mem_toFinset] at hk ⊢
      exact hk.1.imp_right fun hsaved => ⟨.inr hsaved, hk.2⟩
    · simp only [Finset.mem_sdiff, Finset.mem_union, hk, true_or, true_and, not_not] at hgone
      exact ⟨batch, List.mem_singleton.2 rfl, hcompletes, hgone⟩
    · simp only [Finset.mem_sdiff, Finset.mem_union, hk, true_or, true_and, not_and, not_not]
      by_cases hdeleted : k ∈ batch.deletes
      · exact .inr fun _ => hdeleted
      · exact .inl hdeleted
  · exact ⟨id, fun k hk => .inl hk, fun k hk => .inl hk, fun k hk hgone => absurd hk hgone, fun k hk => .inl hk⟩

theorem left_commitAll (batches : List (Batch κ)) (rows : Rows κ) :
    Left batches rows (commitAll batches rows) := by
  induction batches generalizing rows with
  | nil => exact ⟨id, fun k hk => .inl hk, fun k hk => .inl hk, fun k hk hgone => absurd hk hgone,
      fun k hk => .inl hk⟩
  | cons batch batches ih =>
    have hfirst := left_commit batch rows
    have hrest : Left batches (batch.commit rows) (commitAll (batch :: batches) rows) := ih (batch.commit rows)
    refine ⟨fun h => hrest.written_present (hfirst.written_present h), fun k hk => ?_, fun k hk => ?_,
      fun k hk hgone => ?_, fun k hk => ?_⟩
    · rcases hrest.written k hk with hbefore | ⟨later, hlater, h⟩
      · refine (hfirst.written k hbefore).imp_right fun hbatch => ?_
        obtain ⟨_, hmem, h⟩ := hbatch
        exact ⟨batch, List.mem_cons_self, List.mem_singleton.1 hmem ▸ h⟩
      · exact .inr ⟨later, List.mem_cons_of_mem _ hlater, h⟩
    · rcases hrest.created k hk with hbefore | hwritten
      · rcases hfirst.created k hbefore with hold | hnew
        · exact .inl hold
        · exact .inr ((hrest.kept k hnew).resolve_right fun hgone => hgone hk)
      · exact .inr hwritten
    · by_cases hbetween : k ∈ (batch.commit rows).present
      · obtain ⟨later, hlater, h⟩ := hrest.deleted k hbetween hgone
        exact ⟨later, List.mem_cons_of_mem _ hlater, h⟩
      · obtain ⟨_, hmem, h⟩ := hfirst.deleted k hk hbetween
        exact ⟨batch, List.mem_cons_self, List.mem_singleton.1 hmem ▸ h⟩
    · rcases hfirst.kept k hk with hbetween | hgone
      · exact hrest.kept k hbetween
      · by_cases hafter : k ∈ (commitAll (batch :: batches) rows).present
        · exact .inl ((hrest.created k hafter).resolve_left hgone)
        · exact .inr hafter

theorem commitAll_of_apart (hcompleted : ∀ batch ∈ batches, batch.completes = false → batch.saves = [] ∧
    batch.deletes = ∅)
    (hapart : ∀ k ∈ savedKeys batches, k ∉ deletedKeys batches) : commitAll batches rows =
      ⟨(rows.present ∪ (savedKeys batches).toFinset) \ deletedKeys batches,
        (rows.written ∪ (savedKeys batches).toFinset) \ deletedKeys batches⟩ := by
  induction batches generalizing rows with
  | nil => simp [commitAll, savedKeys, deletedKeys]
  | cons batch batches ih =>
    obtain ⟨hbatch, hbatches⟩ := List.forall_mem_cons.1 hcompleted
    have hcommit : batch.commit rows = ⟨(rows.present ∪ batch.saves.toFinset) \ batch.deletes,
        (rows.written ∪ batch.saves.toFinset) \ batch.deletes⟩ := by
      unfold Batch.commit
      split_ifs with hcompletes
      · rfl
      · obtain ⟨hsaves, hdeletes⟩ := hbatch (by simpa using hcompletes)
        simp [hsaves, hdeletes]
    have hkeys : savedKeys (batch :: batches) = batch.saves ++ savedKeys batches := List.flatMap_cons
    rw [hkeys] at hapart ⊢
    have hlater : ∀ k ∈ savedKeys batches, k ∉ batch.deletes ∧ k ∉ deletedKeys batches := fun k hk => by
      simpa [deletedKeys] using hapart k (List.mem_append_right _ hk)
    have hjoin (start : Finset κ) : ((start ∪ batch.saves.toFinset) \ batch.deletes ∪ (savedKeys
      batches).toFinset) \ deletedKeys batches =
        (start ∪ (batch.saves ++ savedKeys batches).toFinset) \ deletedKeys (batch :: batches) := by
      ext k
      have hk := hlater k
      simp only [deletedKeys, List.toFinset_append, Finset.mem_sdiff, Finset.mem_union, List.mem_toFinset]
      tauto
    have hrest : commitAll (batch :: batches) rows = commitAll batches (batch.commit rows) := rfl
    rw [hrest, ih hbatches fun k hk => (hlater k hk).2, hcommit]
    dsimp only
    rw [hjoin, hjoin]

theorem mem_present_commit {batch : Batch κ} {k : κ} (h : k ∈ (batch.commit rows).present) : k ∈ rows.present ∨
    k ∈ batch.saves := by
  unfold Batch.commit at h
  split_ifs at h
  · simp only [Finset.mem_sdiff, Finset.mem_union, List.mem_toFinset] at h
    exact h.1
  · exact .inl h

theorem deletedKeys_subset (hdeletable : Deletable batches rows) (hapart : ∀ k ∈ savedKeys batches,
    k ∉ deletedKeys batches) :
    deletedKeys batches ⊆ rows.present := by
  induction batches generalizing rows with
  | nil => exact Finset.empty_subset _
  | cons batch batches ih =>
    obtain ⟨hbatch, hrest⟩ := hdeletable
    have hkeys : savedKeys (batch :: batches) = batch.saves ++ savedKeys batches := List.flatMap_cons
    rw [hkeys] at hapart
    have hlater : deletedKeys batches ⊆ (batch.commit rows).present :=
      ih hrest fun k hk hdeleted => hapart k (List.mem_append_right _ hk) (Finset.mem_union_right _ hdeleted)
    refine Finset.union_subset hbatch fun k hk => (mem_present_commit (hlater hk)).resolve_right fun hsave => ?_
    exact hapart k (List.mem_append_left _ hsave) (Finset.mem_union_right _ hk)

end Left

/-! ### Exact counters -/

section Exact

variable {dependents : κ → Nat} {batches : List (Batch κ)} {before : Finset κ}

theorem card_deletedKeys_le : (deletedKeys batches).card ≤ deletionCount dependents batches ∧
    ((deletedKeys batches).card = deletionCount dependents batches ↔
      (batches.Pairwise fun a b => Disjoint a.deletes b.deletes) ∧ ∀ k ∈ deletedKeys batches,
        dependents k = 0) := by
  induction batches with
  | nil => simp [deletedKeys, deletionCount]
  | cons batch batches ih =>
    have hcount : deletionCount dependents (batch :: batches) =
        batch.deletes.card + (∑ k ∈ batch.deletes, dependents k) + deletionCount dependents batches := by
      simp [deletionCount, Finset.sum_add_distrib]
    have hcard := Finset.card_union_add_card_inter batch.deletes (deletedKeys batches)
    have hdisjoint : (batch.deletes ∩ deletedKeys batches).card = 0 ↔ ∀ other ∈ batches,
        Disjoint batch.deletes other.deletes := by
      rw [Finset.card_eq_zero, ← Finset.disjoint_iff_inter_eq_empty]
      constructor
      · intro h other hother
        exact h.mono_right fun k hk => mem_deletedKeys.2 ⟨other, hother, hk⟩
      · intro h
        refine Finset.disjoint_left.2 fun k hk hlater => ?_
        obtain ⟨other, hother, hmem⟩ := mem_deletedKeys.1 hlater
        exact Finset.disjoint_left.1 (h other hother) hk hmem
    have halone : ∑ k ∈ batch.deletes, dependents k = 0 ↔ ∀ k ∈ batch.deletes, dependents k = 0 :=
      Finset.sum_eq_zero_iff
    have hforall : (∀ k ∈ deletedKeys (batch :: batches), dependents k = 0) ↔
        (∀ k ∈ batch.deletes, dependents k = 0) ∧ ∀ k ∈ deletedKeys batches, dependents k = 0 := by
      simp only [deletedKeys, Finset.mem_union, or_imp, forall_and]
    rw [List.pairwise_cons, hforall, ← hdisjoint, ← halone, hcount, deletedKeys]
    obtain ⟨hle, heq⟩ := ih
    refine ⟨by omega, ?_⟩
    constructor
    · intro h
      obtain ⟨hpairs, hdeps⟩ := heq.1 (by omega)
      exact ⟨⟨by omega, hpairs⟩, by omega, hdeps⟩
    · rintro ⟨⟨hinter, hpairs⟩, hsum, hdeps⟩
      have := heq.2 ⟨hpairs, hdeps⟩
      omega

theorem nodup_of_length_le_card {ks : List κ} (h : ks.length ≤ ks.toFinset.card) : ks.Nodup := by
  rw [List.card_toFinset] at h
  exact List.dedup_eq_self.1 ((List.dedup_sublist ks).eq_of_length_le h)

theorem card_written {after : Rows κ} (hleft : Left batches ⟨before, ∅⟩ after) :
    (effects before after).created + (effects before after).updated = after.written.card := by
  have hsplit : after.written = (after.present \ before) ∪ (before ∩ after.present ∩ after.written) := by
    ext k
    have hpresent := @hleft.written_present (Finset.empty_subset _) k
    have hcreated := hleft.created k
    simp only [Finset.mem_union, Finset.mem_sdiff, Finset.mem_inter]
    tauto
  have hdisjoint : Disjoint (after.present \ before) (before ∩ after.present ∩ after.written) := by
    refine Finset.disjoint_left.2 fun k hnew hold => ?_
    exact (Finset.mem_sdiff.1 hnew).2 (Finset.mem_inter.1 (Finset.mem_inter.1 hold).1).1
  conv_rhs => rw [hsplit, Finset.card_union_of_disjoint hdisjoint]
  rfl

theorem clean_of_exact (h : countAll dependents batches ⟨before, ∅⟩ ⟨0, 0, 0⟩ =
    effects before (commitAll batches ⟨before, ∅⟩)) :
    Clean dependents batches := by
  have hleft := left_commitAll batches ⟨before, ∅⟩
  generalize hafter : commitAll batches ⟨before, ∅⟩ = after at h hleft
  have hsaved := @countAll_total κ _ dependents ⟨0, 0, 0⟩ ⟨before, ∅⟩ batches
  have hdeleted := @countAll_deleted κ _ dependents ⟨0, 0, 0⟩ ⟨before, ∅⟩ batches
  rw [h, card_written hleft] at hsaved
  rw [h] at hdeleted
  dsimp only at hsaved hdeleted
  -- What is left in the table comes from the batches that completed.
  let done := batches.filter Batch.completes
  let failed := batches.filter fun batch => !batch.completes
  have hperm : (done ++ failed).Perm batches := List.filter_append_perm _ _
  have hsaves : (savedKeys done).length + (savedKeys failed).length = (savedKeys batches).length := by
    rw [← List.length_append, savedKeys, savedKeys, ← List.flatMap_append]
    exact (hperm.flatMap_right _).length_eq
  have hcounts : deletionCount dependents done + deletionCount dependents failed =
      deletionCount dependents batches := by
    rw [deletionCount, deletionCount, ← List.sum_append, ← List.map_append]
    exact (hperm.map _).sum_eq
  have hwritten : after.written ⊆ (savedKeys done).toFinset := fun k hk => by
    obtain ⟨batch, hbatch, hcompletes, hsave⟩ := (hleft.written k hk).resolve_left (Finset.notMem_empty k)
    exact List.mem_toFinset.2 (List.mem_flatMap.2 ⟨batch, List.mem_filter.2 ⟨hbatch, hcompletes⟩, hsave⟩)
  have hgone : before \ after.present ⊆ deletedKeys done := fun k hk => by
    obtain ⟨batch, hbatch, hcompletes, hdelete⟩ :=
      hleft.deleted k (Finset.mem_sdiff.1 hk).1 (Finset.mem_sdiff.1 hk).2
    exact mem_deletedKeys.2 ⟨batch, List.mem_filter.2 ⟨hbatch, hcompletes⟩, hdelete⟩
  have hcard := Finset.card_le_card hwritten
  have hlength := List.toFinset_card_le (savedKeys done)
  have hcardGone : (effects before after).deleted ≤ (deletedKeys done).card := Finset.card_le_card hgone
  obtain ⟨hle, hexact⟩ := @card_deletedKeys_le κ _ dependents done
  have hnone : savedKeys failed = [] := List.length_eq_zero_iff.1 (by omega)
  have hkeep : deletionCount dependents failed = 0 := by omega
  have hfailed : ∀ batch ∈ failed, batch.saves = [] ∧ batch.deletes = ∅ := fun batch hbatch => by
    refine ⟨List.flatMap_eq_nil_iff.1 hnone batch hbatch, ?_⟩
    have hzero := List.sum_eq_zero_iff.1 hkeep _ (List.mem_map.2 ⟨batch, hbatch, rfl⟩)
    refine Finset.eq_empty_of_forall_notMem fun k hk => ?_
    have := Finset.sum_eq_zero_iff.1 hzero k hk
    omega
  have hsavedPerm : (savedKeys done).Perm (savedKeys batches) := by
    have hflat := hperm.flatMap_right Batch.saves
    rw [List.flatMap_append, ← savedKeys, ← savedKeys, ← savedKeys, hnone, List.append_nil] at hflat
    exact hflat
  have hdeletedDone : deletedKeys batches = deletedKeys done := by
    ext k
    simp only [mem_deletedKeys, ← hperm.mem_iff, List.mem_append]
    constructor
    · rintro ⟨batch, hdone | hbad, hk⟩
      · exact ⟨batch, hdone, hk⟩
      · rw [(hfailed batch hbad).2] at hk
        exact absurd hk (Finset.notMem_empty k)
    · rintro ⟨batch, hdone, hk⟩
      exact ⟨batch, .inl hdone, hk⟩
  obtain ⟨hpairs, halone⟩ := (@card_deletedKeys_le κ _ dependents batches).2.1 (by rw [hdeletedDone]; omega)
  have hall : after.written = (savedKeys done).toFinset := Finset.eq_of_subset_of_card_le hwritten (by omega)
  have hnot : before \ after.present = deletedKeys done :=
    Finset.eq_of_subset_of_card_le hgone (by change _ ≤ (effects before after).deleted; omega)
  refine ⟨fun batch hbatch hfails => hfailed batch (List.mem_filter.2 ⟨hbatch, by simp [hfails]⟩),
    hsavedPerm.nodup_iff.1 (nodup_of_length_le_card (by omega)), hpairs, fun k hk hdelete => ?_, halone⟩
  rw [hdeletedDone, ← hnot] at hdelete
  rw [← hsavedPerm.mem_iff, ← List.mem_toFinset, ← hall] at hk
  exact (Finset.mem_sdiff.1 hdelete).2 (hleft.written_present (Finset.empty_subset _) hk)

theorem countAll_created_of_clean {rows : Rows κ} {counts : Counts} (hclean : Clean dependents batches) :
    (countAll dependents batches rows counts).created =
      counts.created + ((savedKeys batches).toFinset \ rows.present).card := by
  induction batches generalizing rows counts with
  | nil => simp [countAll, savedKeys]
  | cons batch batches ih =>
    have hkeys : savedKeys (batch :: batches) = batch.saves ++ savedKeys batches := List.flatMap_cons
    obtain ⟨hcompleted, hsaves, hdeletes, hapart, halone⟩ := hclean
    rw [hkeys] at hsaves hapart
    have hbatch : (batch.count dependents rows.present counts).created =
      counts.created + (batch.saves.toFinset \ rows.present).card :=
      saveAll_created _ _ _
    have hrest : Clean dependents batches :=
      ⟨fun other hother => hcompleted other (List.mem_cons_of_mem _ hother), (List.nodup_append.1 hsaves).2.1,
        (List.pairwise_cons.1 hdeletes).2,
        fun k hk hdelete => hapart k (List.mem_append_right _ hk) (Finset.mem_union_right _ hdelete),
        fun k hk => halone k (Finset.mem_union_right _ hk)⟩
    have hlater : (savedKeys batches).toFinset \ (batch.commit rows).present =
        (savedKeys batches).toFinset \ rows.present := by
      ext k
      simp only [Finset.mem_sdiff, List.mem_toFinset]
      refine and_congr_right fun hk => not_congr ⟨fun hpresent => ?_, fun hpresent => ?_⟩
      · refine (mem_present_commit hpresent).resolve_right fun hsave => ?_
        exact (List.nodup_append.1 hsaves).2.2 k hsave k hk rfl
      · by_contra hgone
        obtain ⟨other, hother, -, hdelete⟩ := (left_commit batch rows).deleted k hpresent hgone
        rw [List.mem_singleton.1 hother] at hdelete
        exact hapart k (List.mem_append_right _ hk) (Finset.mem_union_left _ hdelete)
    have hdisjoint : Disjoint (batch.saves.toFinset \ rows.present)
        ((savedKeys batches).toFinset \ rows.present) := by
      refine Finset.disjoint_left.2 fun k hk hk' => ?_
      simp only [Finset.mem_sdiff, List.mem_toFinset] at hk hk'
      exact (List.nodup_append.1 hsaves).2.2 k hk.1 k hk'.1 rfl
    rw [countAll, ih hrest, hbatch, hlater, hkeys, List.toFinset_append, Finset.union_sdiff_distrib,
      Finset.card_union_of_disjoint hdisjoint]
    omega

theorem exact_of_clean (hdeletable : Deletable batches ⟨before, ∅⟩) (hclean : Clean dependents batches) :
    countAll dependents batches ⟨before, ∅⟩ ⟨0, 0, 0⟩ = effects before (commitAll batches ⟨before, ∅⟩) := by
  have hcreated := @countAll_created_of_clean κ _ dependents batches ⟨before, ∅⟩ ⟨0, 0, 0⟩ hclean
  have htotal := @countAll_total κ _ dependents ⟨0, 0, 0⟩ ⟨before, ∅⟩ batches
  have hdeleted := @countAll_deleted κ _ dependents ⟨0, 0, 0⟩ ⟨before, ∅⟩ batches
  have hcard := card_written (left_commitAll batches ⟨before, ∅⟩)
  have hcount := (@card_deletedKeys_le κ _ dependents batches).2.2 ⟨hclean.deletes, hclean.alone⟩
  have hsubset := deletedKeys_subset hdeletable hclean.apart
  rw [commitAll_of_apart hclean.completed hclean.apart] at hcard ⊢
  have hapart := hclean.apart
  have hwritten : ((∅ ∪ (savedKeys batches).toFinset) \ deletedKeys batches).card =
      (savedKeys batches).length := by
    rw [Finset.empty_union, Finset.sdiff_eq_self_of_disjoint, List.toFinset_card_of_nodup hclean.saves]
    exact Finset.disjoint_left.2 fun k hk => hapart k (List.mem_toFinset.1 hk)
  have hnew : ((before ∪ (savedKeys batches).toFinset) \ deletedKeys batches) \ before =
      (savedKeys batches).toFinset \ before := by
    ext k
    have hk := hapart k
    simp only [Finset.mem_sdiff, Finset.mem_union, List.mem_toFinset]
    tauto
  have hgone : before \ ((before ∪ (savedKeys batches).toFinset) \ deletedKeys batches) = deletedKeys batches := by
    ext k
    have hk := @hsubset k
    simp only [Finset.mem_sdiff, Finset.mem_union]
    tauto
  rw [effects] at hcard ⊢
  dsimp only at hcard hcreated htotal hdeleted ⊢
  rw [hnew] at hcard ⊢
  rw [hgone]
  rw [hwritten] at hcard
  generalize countAll dependents batches ⟨before, ∅⟩ ⟨0, 0, 0⟩ = counts at *
  cases counts with
  | mk created updated deleted =>
    dsimp only at hcreated htotal hdeleted
    simp only [Counts.mk.injEq]
    omega

/-- The counters say what happened exactly if the run is clean. -/
theorem exact_iff_clean (hdeletable : Deletable batches ⟨before, ∅⟩) :
    countAll dependents batches ⟨before, ∅⟩ ⟨0, 0, 0⟩ = effects before (commitAll batches ⟨before, ∅⟩) ↔
      Clean dependents batches :=
  ⟨clean_of_exact, exact_of_clean hdeletable⟩

end Exact

/-! ### Counters of one kind of rows -/

section Kinds

variable {ι : Type} [DecidableEq ι] (p : κ → Bool)

def Batch.only (batch : Batch κ) : Batch κ := ⟨batch.saves.filter p, batch.deletes.filter (p · = true),
    batch.completes⟩

def Rows.only (rows : Rows κ) : Rows κ := ⟨rows.present.filter (p · = true), rows.written.filter (p · = true)⟩

theorem commit_only (batch : Batch κ) (rows : Rows κ) : (batch.only p).commit (rows.only p) =
    (batch.commit rows).only p := by
  have hfilter (there : Finset κ) : (there.filter (p · =
    true) ∪ (batch.saves.filter p).toFinset) \ batch.deletes.filter (p · = true) =
      ((there ∪ batch.saves.toFinset) \ batch.deletes).filter (p · = true) := by
    ext k
    simp only [Finset.mem_sdiff, Finset.mem_union, Finset.mem_filter, List.mem_toFinset, List.mem_filter]
    tauto
  unfold Batch.commit Batch.only Rows.only
  dsimp only
  split_ifs
  · rw [hfilter, hfilter]
  · rfl

theorem commitAll_only (batches : List (Batch κ)) (rows : Rows κ) :
    commitAll (batches.map (Batch.only p)) (rows.only p) = (commitAll batches rows).only p := by
  induction batches generalizing rows with
  | nil => rfl
  | cons batch batches ih =>
    rw [List.map_cons, commitAll, List.foldl_cons, commit_only]
    exact ih _

theorem deletable_only {batches : List (Batch κ)} {rows : Rows κ} (h : Deletable batches rows) :
    Deletable (batches.map (Batch.only p)) (rows.only p) := by
  induction batches generalizing rows with
  | nil => trivial
  | cons batch batches ih =>
    refine ⟨Finset.filter_subset_filter _ h.1, ?_⟩
    rw [commit_only]
    exact ih h.2

variable (kind : κ → ι) (dependents : κ → Nat) (batches : List (Batch κ)) (before : Finset κ)

/-- The counters of each kind of rows say what happened to these rows. -/
def ExactByKind : Prop :=
  ∀ i, countAll dependents (batches.map (Batch.only (kind · = i))) (Rows.only (kind · = i) ⟨before, ∅⟩) ⟨0, 0, 0⟩ =
    effects (before.filter (kind · = i)) ((commitAll batches ⟨before, ∅⟩).only (kind · = i))

def CleanByKind : Prop := ∀ i, Clean dependents (batches.map (Batch.only (kind · = i)))

theorem exactByKind_iff {batches : List (Batch κ)} {before : Finset κ} (h : Deletable batches ⟨before, ∅⟩) :
    ExactByKind kind dependents batches before ↔ CleanByKind kind dependents batches := by
  refine forall_congr' fun i => ?_
  have honly : Rows.only (fun k => decide (kind k = i)) ⟨before, ∅⟩ = ⟨before.filter (kind · = i), ∅⟩ := by
    simp [Rows.only]
  have hdeletable := deletable_only (fun k => decide (kind k = i)) h
  rw [← commitAll_only, honly]
  rw [honly] at hdeletable
  exact exact_iff_clean hdeletable

end Kinds

end Tally
