import Proxbox.Stream.RetryDelays
/-!
# The key check in front of a sync

A job starts no stage before the backend has accepted the stored key. A check that fails for want of capacity or
of a connection is made again, after as long as the backend asks for, or after a delay that doubles: ten times
at most, for three minutes at most, and not beyond the deadline of the job.
-/

namespace Proxbox

open Python

/-! ### The check -/

structure KeyFailure where
  code : Option String
  statusCode : Option Int
  retryAfter : Json

/-- How `ensure_backend_key_registered` ends. -/
inductive KeyCheck where
  | verified
  | failed (details : KeyFailure)
  | raised

inductive KeyCheckEnd where
  | returned
  | deadlineReached
  | preflightError
  | raised
  deriving DecidableEq

def backendKeyRetryInitialDelay : ℚ := 2

def backendKeyRetryMaxDelay : ℚ := 60

def backendKeyRetryTotalBudget : ℚ := 180

def backendKeyRetryMaxAttempts : Nat := 10

def backendKeyRetryCodes : List String :=
  ["backend_throttled", "backend_timeout", "backend_unreachable", "backend_request_failed"]

def backendKeyRetryable (details : KeyFailure) : Bool :=
  details.statusCode = some 429 || details.statusCode = some 503 || backendKeyRetryCodes.any fun code =>
    details.code = some code

def SyncJobDeadline.timeout (deadline : SyncJobDeadline) (seconds now : ℚ) : Option ℚ :=
  if deadline.remaining now ≤ 0 then none else some (min (max seconds (1 / 1000)) (deadline.remaining now))

/-- The deadline, what each check ends with, and what the clock says in front of it, behind it, and when the
loop gives up. -/
structure KeyCheckWorld where
  deadline : Option SyncJobDeadline
  verify : Nat → Option ℚ → KeyCheck
  atStart : Nat → ℚ
  atRetry : Nat → ℚ
  atEnd : Nat → ℚ
  untilDate : Nat → String → Option ℚ

structure KeyWait where
  now : ℚ
  seconds : ℚ

structure KeyAttempt where
  outcome : KeyCheck
  wait : Option KeyWait

structure KeyRun where
  attempts : List KeyAttempt
  ended : Option KeyCheckEnd

namespace KeyCheckWorld

variable (world : KeyCheckWorld)

def waitAfter (attempt : Nat) (delay : ℚ) (details : KeyFailure) : ℚ :=
  let wait := (parseRetryAfter (world.untilDate attempt) backendKeyRetryMaxDelay details.retryAfter).getD
    (min delay backendKeyRetryMaxDelay)
  match world.deadline with
  | some deadline => deadline.cap wait (world.atRetry attempt)
  | none => wait

def givesUp (attempt : Nat) (elapsedWait wait : ℚ) (details : KeyFailure) : Prop :=
  backendKeyRetryable details = false ∨ backendKeyRetryMaxAttempts ≤ attempt ∨
    backendKeyRetryTotalBudget < elapsedWait + wait ∨ wait ≤ 0

instance (attempt : Nat) (elapsedWait wait : ℚ) (details : KeyFailure) : Decidable (givesUp attempt elapsedWait wait details) :=
  inferInstanceAs (Decidable (_ ∨ _))

def refusal (attempt : Nat) : KeyCheckEnd :=
  match world.deadline with
  | some deadline => if deadline.remaining (world.atEnd attempt) ≤ 0 then .deadlineReached else .preflightError
  | none => .preflightError

/-- The loop of `_require_backend_key`. It has not ended where the fuel runs out. -/
def requireBackendKey : Nat → Nat → ℚ → ℚ → KeyRun
  | 0, _, _, _ => ⟨[], none⟩
  | fuel + 1, attempt, elapsedWait, delay =>
    let timeout := world.deadline.map fun deadline => deadline.timeout 15 (world.atStart attempt)
    if timeout = some none then ⟨[], some .deadlineReached⟩
    else match world.verify attempt timeout.join with
      | .verified => ⟨[⟨.verified, none⟩], some .returned⟩
      | .raised => ⟨[⟨.raised, none⟩], some .raised⟩
      | .failed details =>
        let wait := world.waitAfter attempt delay details
        if givesUp attempt elapsedWait wait details then ⟨[⟨.failed details, none⟩], some (world.refusal attempt)⟩
        else
          let rest := requireBackendKey fuel (attempt + 1) (elapsedWait + wait) (min (delay * 2) backendKeyRetryMaxDelay)
          ⟨⟨.failed details, some ⟨world.atRetry attempt, wait⟩⟩ :: rest.attempts, rest.ended⟩

/-! ### Bounds -/

def waited (attempts : List KeyAttempt) : ℚ := (attempts.filterMap fun attempt => attempt.wait.map KeyWait.seconds).sum

/-- An attempt is waited for only if its failure may pass, and not beyond the deadline. -/
def WaitsWell (attempt : KeyAttempt) : Prop :=
  ∀ wait, attempt.wait = some wait → (∃ details, attempt.outcome = .failed details ∧ backendKeyRetryable details = true) ∧
    0 < wait.seconds ∧
    ∀ deadline, world.deadline = some deadline → wait.now + wait.seconds ≤ deadline.executableExpiresAt

variable {world}

theorem add_waitAfter_le {attempt : Nat} {delay : ℚ} {details : KeyFailure} {deadline : SyncJobDeadline}
    (hdeadline : world.deadline = some deadline) (hpos : 0 < world.waitAfter attempt delay details) :
    world.atRetry attempt + world.waitAfter attempt delay details ≤ deadline.executableExpiresAt := by
  have hcap (wait : ℚ) (hwait : 0 < deadline.cap wait (world.atRetry attempt)) :
      world.atRetry attempt + deadline.cap wait (world.atRetry attempt) ≤ deadline.executableExpiresAt := by
    have hnow := (SyncJobDeadline.cap_pos_iff.1 hwait).2
    have hremaining : deadline.remaining (world.atRetry attempt) = deadline.executableExpiresAt - world.atRetry attempt :=
      max_eq_left (sub_nonneg.2 hnow.le)
    have hle := deadline.cap_le_remaining wait (world.atRetry attempt)
    rw [hremaining] at hle
    linarith
  unfold waitAfter at hpos ⊢
  rw [hdeadline] at hpos ⊢
  exact hcap _ hpos

/-- Every run of the loop from its attempt `attempt` on. -/
structure Bounded (world : KeyCheckWorld) (attempt : Nat) (elapsedWait : ℚ) (run : KeyRun) : Prop where
  ends : run.ended.isSome = true
  attempts_le : run.attempts.length + attempt ≤ backendKeyRetryMaxAttempts + 1
  waited_le : elapsedWait + waited run.attempts ≤ backendKeyRetryTotalBudget
  waitsWell : ∀ attempt ∈ run.attempts, world.WaitsWell attempt
  retried : ∀ attempt ∈ run.attempts.dropLast, attempt.wait.isSome = true
  verified : run.ended = some .returned → ∃ attempts, run.attempts = attempts ++ [⟨.verified, none⟩]

theorem bounded_of_last {attempt : Nat} {elapsedWait : ℚ} {outcome : KeyCheck} {ended : KeyCheckEnd}
    (hattempt : attempt ≤ backendKeyRetryMaxAttempts) (helapsed : elapsedWait ≤ backendKeyRetryTotalBudget)
    (hended : ended = .returned → outcome = .verified) : Bounded world attempt elapsedWait ⟨[⟨outcome, none⟩], some ended⟩ := by
  refine ⟨rfl, ?_, ?_, ?_, ?_, ?_⟩
  · rw [List.length_singleton]
    omega
  · exact (add_zero elapsedWait).le.trans helapsed
  · intro last hlast wait hwait
    rw [List.mem_singleton.1 hlast] at hwait
    cases hwait
  · intro last hlast
    exact absurd hlast List.not_mem_nil
  · intro hreturned
    exact ⟨[], by rw [hended (Option.some.inj hreturned)]; rfl⟩

theorem bounded_requireBackendKey {fuel attempt : Nat} {elapsedWait : ℚ} (delay : ℚ)
    (hfuel : backendKeyRetryMaxAttempts < fuel + attempt)
    (hattempt : attempt ≤ backendKeyRetryMaxAttempts) (helapsed : elapsedWait ≤ backendKeyRetryTotalBudget) :
    Bounded world attempt elapsedWait (world.requireBackendKey fuel attempt elapsedWait delay) := by
  induction fuel generalizing attempt elapsedWait delay with
  | zero => omega
  | succ fuel ih =>
    rw [requireBackendKey]
    dsimp only
    split_ifs with htimeout
    · refine ⟨rfl, ?_, ?_, ?_, ?_, ?_⟩
      · rw [List.length_nil]
        omega
      · exact (add_zero elapsedWait).le.trans helapsed
      · exact fun _ h => absurd h List.not_mem_nil
      · exact fun _ h => absurd h List.not_mem_nil
      · exact fun h => by cases h
    · cases world.verify attempt _ with
      | verified => exact bounded_of_last hattempt helapsed fun _ => rfl
      | raised => exact bounded_of_last hattempt helapsed fun h => by cases h
      | failed details =>
        dsimp only
        split_ifs with hgives
        · refine bounded_of_last hattempt helapsed ?_
          intro hreturned
          rw [refusal] at hreturned
          cases hdeadline : world.deadline with
          | none =>
            rw [hdeadline] at hreturned
            cases hreturned
          | some deadline =>
            rw [hdeadline] at hreturned
            dsimp only at hreturned
            split_ifs at hreturned
        · rw [givesUp] at hgives
          push Not at hgives
          obtain ⟨hretryable, hmore, hbudget, hpos⟩ := hgives
          have hrest := @ih (attempt + 1) _ (min (delay * 2) backendKeyRetryMaxDelay) (by omega) hmore hbudget
          refine ⟨hrest.ends, ?_, ?_, ?_, ?_, ?_⟩
          · have hlength := hrest.attempts_le
            rw [List.length_cons]
            omega
          · have hsum := hrest.waited_le
            rw [waited, List.filterMap_cons]
            dsimp only [Option.map_some]
            rw [List.sum_cons, ← add_assoc]
            exact hsum
          · intro made hmade
            rcases List.mem_cons.1 hmade with rfl | hmade
            · intro wait hwait
              obtain rfl := Option.some.inj hwait
              refine ⟨⟨details, rfl, Bool.eq_true_of_not_eq_false hretryable⟩, hpos, ?_⟩
              intro deadline hdeadline
              exact add_waitAfter_le hdeadline hpos
            · exact hrest.waitsWell made hmade
          · intro made hmade
            cases hattempts : (world.requireBackendKey fuel (attempt + 1) (elapsedWait + world.waitAfter attempt delay details)
                (min (delay * 2) backendKeyRetryMaxDelay)).attempts with
            | nil =>
              rw [hattempts] at hmade
              exact absurd hmade List.not_mem_nil
            | cons next later =>
              rw [hattempts, List.dropLast_cons_cons] at hmade
              rcases List.mem_cons.1 hmade with rfl | hmade
              · rfl
              · exact hrest.retried made (hattempts ▸ hmade)
          · intro hreturned
            obtain ⟨attempts, hattempts⟩ := hrest.verified hreturned
            exact ⟨_ :: attempts, by rw [hattempts]; rfl⟩

end KeyCheckWorld

/-- The check ends after ten attempts at most, with three minutes of waits at most, and returns only after an
attempt that was verified. -/
theorem backend_key_wait_bounded (world : KeyCheckWorld) (spare : Nat) :
    let run := world.requireBackendKey (backendKeyRetryMaxAttempts + spare) 1 0 backendKeyRetryInitialDelay
    run.ended.isSome = true ∧ run.attempts.length ≤ backendKeyRetryMaxAttempts ∧
      KeyCheckWorld.waited run.attempts ≤ backendKeyRetryTotalBudget ∧ (∀ attempt ∈ run.attempts, world.WaitsWell attempt) ∧
      (∀ attempt ∈ run.attempts.dropLast, attempt.wait.isSome = true) ∧
      (run.ended = some .returned → ∃ attempts, run.attempts = attempts ++ [⟨.verified, none⟩]) := by
  intro run
  have hbudget : (0 : ℚ) ≤ backendKeyRetryTotalBudget := by norm_num [backendKeyRetryTotalBudget]
  have hbounded : KeyCheckWorld.Bounded world 1 0 run :=
    KeyCheckWorld.bounded_requireBackendKey _ (by omega) (by decide) hbudget
  refine ⟨hbounded.ends, ?_, ?_, hbounded.waitsWell, hbounded.retried, hbounded.verified⟩
  · have hattempts := hbounded.attempts_le
    omega
  · have hwaited := hbounded.waited_le
    rwa [zero_add] at hwaited

end Proxbox
