import Mathlib.Logic.Function.Basic
import Proxbox.Library.Dict
import Proxbox.Library.Json
/-!
# Ownership of a sync

A job row may be delivered more than once. Each delivery claims the row before it runs, in the same JSON column
that the run overwrites with its results, and releases it at the end. The claim names the queue and not the
delivery, so it turns no other delivery of the queue away.
-/

namespace Proxbox

open Python

/-! ### The claim -/

def syncOwnerRq : String := "rq_job"

def isRq : Json → Bool
  | .str owner => owner == syncOwnerRq
  | _ => false

variable (loads : String → Option Json)

/-- `_normalized_job_data`, with `json.loads` given. -/
def normalizedJobData : Json → Fields
  | .obj fields => fields
  | .str text => if text = "" then [] else (loads text).elim [] Json.asDict
  | _ => []

def proxboxSync (data : Fields) : Json := Fields.getD data "proxbox_sync" (.obj [])

/-- `_claim_on_job_instance`: the data it saves, or `none` if another owner has the row. -/
def claimOnJobInstance (now : String) (stored : Json) : Option Json :=
  let data := normalizedJobData loads stored
  let sync := (proxboxSync data).asDict
  let owner := Fields.get sync "sync_owner"
  if owner.truthy && !isRq owner then none
  else some (.obj (Dict.setItem "proxbox_sync"
    (.obj (Dict.setItem "sync_owner_claimed_at" (.str now) (Dict.setItem "sync_owner" (.str syncOwnerRq) sync))) data))

/-- `_release_rq_sync_ownership`: the data it saves, if it saves any. -/
def releaseOnJobInstance (copy : Json) : Option Json :=
  let data := normalizedJobData loads copy
  match proxboxSync data with
  | .obj sync =>
    if isRq (Fields.get sync "sync_owner") then
      let sync := sync.filter fun field => field.1 ≠ "sync_owner"
      let sync := if (Fields.get sync "sync_owner_claimed_at").truthy then sync.filter fun field =>
        field.1 ≠ "sync_owner_claimed_at" else sync
      some (.obj (Dict.setItem "proxbox_sync" (.obj sync) data))
    else none
  | _ => none

def storedOwner (stored : Json) : Json := Fields.get (proxboxSync (normalizedJobData loads stored)).asDict "sync_owner"

/-! ### Deliveries -/

/-- A delivery that runs has a copy of the data, as it last read or wrote it. -/
inductive Delivery where
  | waiting
  | running (copy : Json)
  | ended

/-- What a run writes to its job: results in place of everything, or over the fields of its copy. -/
inductive JobWrite where
  | replaced (sync : Fields)
  | revised (sync : Fields)

def JobWrite.data (copy : Json) : JobWrite → Json
  | .replaced sync => .obj [("proxbox_sync", .obj sync)]
  | .revised sync =>
    .obj (Dict.setItem "proxbox_sync" (.obj (sync.foldl (fun fields field => Dict.setItem field.1 field.2 fields)
      (proxboxSync copy.asDict).asDict)) copy.asDict)

inductive DeliveryStep where
  | claim (delivery : Nat) (now : String)
  | save (delivery : Nat) (written : JobWrite)
  | refresh (delivery : Nat)
  | release (delivery : Nat)

structure DeliveredRow where
  stored : Json
  delivery : Nat → Delivery

namespace DeliveredRow

def start (stored : Json) : DeliveredRow := ⟨stored, fun _ => .waiting⟩

def Runs (row : DeliveredRow) (d : Nat) : Prop := ∃ copy, row.delivery d = .running copy

def set (row : DeliveredRow) (d : Nat) (delivery : Delivery) (stored : Json) :
    DeliveredRow := ⟨stored, Function.update row.delivery d delivery⟩

/-- One atomic step. A step that its delivery is not ready for changes nothing. -/
def after (row : DeliveredRow) : DeliveryStep → DeliveredRow
  | .claim d now =>
    match row.delivery d with
    | .waiting =>
      match claimOnJobInstance loads now row.stored with
      | some data => row.set d (.running data) data
      | none => row.set d .ended row.stored
    | _ => row
  | .save d written =>
    match row.delivery d with
    | .running copy => row.set d (.running (written.data copy)) (written.data copy)
    | _ => row
  | .refresh d =>
    match row.delivery d with
    | .running _ => row.set d (.running row.stored) row.stored
    | _ => row
  | .release d =>
    match row.delivery d with
    | .running copy => row.set d .ended ((releaseOnJobInstance loads copy).getD row.stored)
    | _ => row

def Along (holds : DeliveredRow → DeliveryStep → Prop) : DeliveredRow → List DeliveryStep → Prop
  | _, [] => True
  | row, step :: steps => holds row step ∧ Along holds (row.after loads step) steps

def Exclusive (row : DeliveredRow) : Prop := ∀ d d', row.Runs d → row.Runs d' → d = d'

/-- A release of one delivery leaves the owner in place while another runs. -/
def KeepsOthers (row : DeliveredRow) (step : DeliveryStep) : Prop :=
  ∀ d d', step = .release d → row.Runs d → row.Runs d' → d' ≠ d → storedOwner loads (row.after loads step).stored =
    storedOwner loads row.stored

/-- A delivery gets to its claim when no other runs, or when the row names an owner that is not the queue. -/
def ClaimsInTurn (row : DeliveredRow) (step : DeliveryStep) : Prop :=
  ∀ d now, step = .claim d now → row.delivery d = .waiting →
    (∀ d', ¬row.Runs d') ∨ (storedOwner loads row.stored).truthy = true ∧ isRq (storedOwner loads row.stored) = false

variable {loads} {row : DeliveredRow} {d d' : Nat} {step : DeliveryStep}

theorem runs_set {delivery : Delivery} {stored : Json} :
    (row.set d delivery stored).Runs d' ↔ if d' = d then ∃ copy, delivery = .running copy else row.Runs d' := by
  unfold Runs set
  by_cases hd : d' = d
  · simp [hd]
  · simp [hd]

theorem Runs.not_waiting (h : row.Runs d) : row.delivery d ≠ .waiting := by
  obtain ⟨copy, hcopy⟩ := h
  rw [hcopy]
  exact nofun

theorem claimOnJobInstance_eq_none {now : String} {stored : Json} : claimOnJobInstance loads now stored = none ↔
    (storedOwner loads stored).truthy = true ∧ isRq (storedOwner loads stored) = false := by
  unfold claimOnJobInstance
  simp [storedOwner]

theorem runs_claim {now : String} (hwaiting : row.delivery d = .waiting) :
    (row.after loads (.claim d now)).Runs d' ↔ d' = d ∧ claimOnJobInstance loads now row.stored ≠ none ∨ row.Runs d' := by
  dsimp only [after]
  rw [hwaiting]
  dsimp only
  split
  · rename_i data hclaim
    rw [runs_set]
    by_cases hd : d' = d
    · simp [hd, hclaim]
    · simp [hd]
  · rename_i hclaim
    rw [runs_set]
    by_cases hd : d' = d
    · subst hd
      simpa [hclaim] using fun h => Runs.not_waiting h hwaiting
    · simp [hd]

theorem runs_of_after (hstep : ∀ d now, step = .claim d now → row.delivery d ≠ .waiting)
    (h : (row.after loads step).Runs d') : row.Runs d' := by
  have hset {delivery : Delivery} {stored : Json} {d : Nat} (hruns : row.Runs d) (h : (row.set d delivery stored).Runs d') :
      row.Runs d' := by
    rw [runs_set] at h
    split_ifs at h with hd
    · exact hd ▸ hruns
    · exact h
  cases step with
  | claim d now =>
    dsimp only [after] at h
    split at h
    · rename_i hwaiting
      exact absurd hwaiting (hstep d now rfl)
    · exact h
  | save d written =>
    dsimp only [after] at h
    split at h
    · rename_i copy hcopy
      exact hset ⟨copy, hcopy⟩ h
    · exact h
  | refresh d =>
    dsimp only [after] at h
    split at h
    · rename_i copy hcopy
      exact hset ⟨copy, hcopy⟩ h
    · exact h
  | release d =>
    dsimp only [after] at h
    split at h
    · rename_i copy hcopy
      exact hset ⟨copy, hcopy⟩ h
    · exact h

/-- From an exclusive state, a step keeps the claims apart exactly if it claims in turn. -/
theorem exclusive_after_iff (hrow : row.Exclusive) :
    (row.after loads step).Exclusive ∧ row.KeepsOthers loads step ↔ row.ClaimsInTurn loads step := by
  constructor
  · rintro ⟨hafter, -⟩ d now rfl hwaiting
    rw [← @claimOnJobInstance_eq_none loads now]
    by_contra hturn
    obtain ⟨hruns, hclaimed⟩ := not_or.1 hturn
    obtain ⟨d', hd'⟩ := not_forall_not.1 hruns
    obtain rfl : d' = d := hafter d' d ((runs_claim hwaiting).2 (.inr hd')) ((runs_claim hwaiting).2 (.inl ⟨rfl, hclaimed⟩))
    exact hd'.not_waiting hwaiting
  · intro hturn
    refine ⟨fun first second hfirst hsecond => ?_, fun d d' _ hd hd' hne => absurd (hrow d' d hd' hd) hne⟩
    by_cases hclaim : ∃ d now, step = .claim d now ∧ row.delivery d = .waiting
    · obtain ⟨d, now, rfl, hwaiting⟩ := hclaim
      rw [runs_claim hwaiting] at hfirst hsecond
      rcases hturn d now rfl hwaiting with hnone | hforeign
      · have hown {d' : Nat} (h : d' = d ∧ claimOnJobInstance loads now row.stored ≠ none ∨ row.Runs d') : d' = d :=
          h.elim And.left fun hruns => absurd hruns (hnone d')
        rw [hown hfirst, hown hsecond]
      · have hold {d' : Nat} (h : d' = d ∧ claimOnJobInstance loads now row.stored ≠ none ∨ row.Runs d') : row.Runs d' :=
          h.resolve_left fun hclaimed => hclaimed.2 (claimOnJobInstance_eq_none.2 hforeign)
        exact hrow first second (hold hfirst) (hold hsecond)
    · have hstep : ∀ d now, step = .claim d now → row.delivery d ≠ .waiting := fun d now hstep hwaiting =>
        hclaim ⟨d, now, hstep, hwaiting⟩
      exact hrow first second (runs_of_after hstep hfirst) (runs_of_after hstep hsecond)

theorem along_iff (hrow : row.Exclusive) (steps : List DeliveryStep) :
    Along loads (fun row step => (row.after loads step).Exclusive ∧ row.KeepsOthers loads step) row steps ↔
      Along loads (fun row step => row.ClaimsInTurn loads step) row steps := by
  induction steps generalizing row with
  | nil => exact Iff.rfl
  | cons step steps ih =>
    constructor
    · rintro ⟨hstep, hrest⟩
      exact ⟨(exclusive_after_iff hrow).1 hstep, (ih hstep.1).1 hrest⟩
    · rintro ⟨hturn, hrest⟩
      have hstep := (exclusive_after_iff hrow).2 hturn
      exact ⟨hstep, (ih hstep.1).2 hrest⟩

end DeliveredRow

/-- In a run no two deliveries are past the claim, and none frees the claim of another, exactly if each of them
gets to its claim in turn. -/
theorem ownership_exclusive_iff (stored : Json) (steps : List DeliveryStep) :
    DeliveredRow.Along loads (fun row step => (row.after loads step).Exclusive ∧ row.KeepsOthers loads step)
      (.start stored) steps ↔
      DeliveredRow.Along loads (fun row step => row.ClaimsInTurn loads step) (.start stored) steps := by
  refine DeliveredRow.along_iff (fun d d' hd => ?_) steps
  obtain ⟨copy, hcopy⟩ := hd
  cases hcopy

/-- A second delivery claims the row of the first, and the first then frees the claim of the second. -/
theorem redelivery_is_not_refused :
    let stored : Json := .obj [("proxbox_sync", .obj [("params", .obj [])])]
    let claimed := ((DeliveredRow.start stored).after (fun _ => none) (.claim 0 "12:00")).after (fun _ =>
      none) (.claim 1 "12:01")
    let saved := ((DeliveredRow.start stored).after (fun _ => none) (.claim 0 "12:00")).after (fun _ =>
      none) (.save 0 (.replaced [("params", .obj [])]))
    (claimed.Runs 0 ∧ claimed.Runs 1) ∧ ¬claimed.KeepsOthers (fun _ => none) (.release 0) ∧
      (storedOwner (fun _ => none) saved.stored).isNull = true ∧ saved.Runs 0 := by
  refine ⟨⟨⟨_, rfl⟩, ⟨_, rfl⟩⟩, fun h => ?_, rfl, ⟨_, rfl⟩⟩
  have hkept := h 0 1 rfl ⟨_, rfl⟩ ⟨_, rfl⟩ (by decide)
  cases hkept

end Proxbox
