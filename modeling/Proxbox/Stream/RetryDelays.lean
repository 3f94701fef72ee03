import Mathlib.Algebra.Order.Ring.Rat
import Mathlib.Tactic.Linarith
import Proxbox.Stream.StageRetry
/-!
# The delays of a stage's retries

`_execute_stage_sync` with its clock: between two attempts the stage sleeps for as long as the reply asks, or
for a delay that doubles, and never beyond the deadline of the job. Times are seconds of the monotonic clock,
computed exactly.
-/

namespace Proxbox

open Python

/-! ### The deadline -/

structure SyncJobDeadline where
  expiresAt : ℚ
  reserveSeconds : ℚ := 120

namespace SyncJobDeadline

variable (deadline : SyncJobDeadline)

def executableExpiresAt : ℚ := deadline.expiresAt - deadline.reserveSeconds

def remaining (now : ℚ) : ℚ := max (deadline.executableExpiresAt - now) 0

def cap (seconds now : ℚ) : ℚ := min (max seconds 0) (deadline.remaining now)

theorem cap_le_remaining (seconds now : ℚ) : deadline.cap seconds now ≤ deadline.remaining now :=
  min_le_right _ _

theorem cap_pos_iff {deadline : SyncJobDeadline} {seconds now : ℚ} :
    0 < deadline.cap seconds now ↔ 0 < seconds ∧ now < deadline.executableExpiresAt := by
  rw [cap, remaining, lt_min_iff, lt_max_iff, lt_max_iff, sub_pos]
  simp

theorem remaining_pos_iff {deadline : SyncJobDeadline} {now : ℚ} :
    0 < deadline.remaining now ↔ now < deadline.executableExpiresAt := by
  rw [remaining, lt_max_iff, sub_pos]
  simp

end SyncJobDeadline

/-! ### The delay that a reply asks for -/

def stageRetryInitialDelay : ℚ := 8

def stageRetryMaxDelay : ℚ := 60

variable (untilDate : String → Option ℚ)

/-- `parse_retry_after`; an HTTP date is read as the seconds until then. -/
def parseRetryAfter (maximum : ℚ) (value : Json) : Option ℚ :=
  let text := strip value.text
  let bounded (seconds : ℚ) : ℚ := min (max seconds 0) maximum
  match floatLiteral text with
  | some (.finite num den) => some (bounded (num / den))
  | some _ => none
  | none => (untilDate text).map bounded

def stageRetryAfter (payload : Fields) : Option ℚ :=
  let value := match payload.get "retry_after", payload.get "headers" with
    | .null, .obj headers => (Fields.get headers "Retry-After").or (Fields.get headers "retry-after")
    | value, _ => value
  parseRetryAfter untilDate stageRetryMaxDelay value

def stageRetryDelay (payload : Fields) (retryIndex : Nat) : ℚ :=
  (stageRetryAfter untilDate payload).getD (min (stageRetryInitialDelay * 2 ^ retryIndex) stageRetryMaxDelay)

theorem parseRetryAfter_bounds {untilDate : String → Option ℚ} {maximum seconds : ℚ} {value : Json} (hmaximum : 0 ≤ maximum)
    (h : parseRetryAfter untilDate maximum value = some seconds) : 0 ≤ seconds ∧ seconds ≤ maximum := by
  have hbounded (seconds : ℚ) : 0 ≤ min (max seconds 0) maximum ∧ min (max seconds 0) maximum ≤ maximum :=
    ⟨le_min (le_max_right _ _) hmaximum, min_le_right _ _⟩
  unfold parseRetryAfter at h
  dsimp only at h
  split at h
  · rw [← Option.some.inj h]
    exact hbounded _
  · cases h
  · obtain ⟨wait, -, rfl⟩ := Option.map_eq_some_iff.1 h
    exact hbounded wait

theorem stageRetryDelay_bounds (payload : Fields) (retryIndex : Nat) :
    0 ≤ stageRetryDelay untilDate payload retryIndex ∧ stageRetryDelay untilDate payload retryIndex ≤ stageRetryMaxDelay := by
  have hmaximum : 0 ≤ stageRetryMaxDelay := by norm_num [stageRetryMaxDelay]
  have hinitial : 0 ≤ stageRetryInitialDelay := by norm_num [stageRetryInitialDelay]
  rw [stageRetryDelay]
  cases hafter : stageRetryAfter untilDate payload with
  | some seconds =>
    rw [stageRetryAfter] at hafter
    exact parseRetryAfter_bounds hmaximum hafter
  | none => exact ⟨le_min (mul_nonneg hinitial (pow_nonneg zero_le_two _)) hmaximum, min_le_right _ _⟩

/-! ### The loop -/

/-- The deadline, and what the clock and a date say after the attempts so far. -/
structure StageClock where
  deadline : Option SyncJobDeadline
  atStart : List StageAttempt → ℚ
  atRetry : List StageAttempt → ℚ
  untilDate : List StageAttempt → String → Option ℚ

namespace StageClock

variable (clock : StageClock)

variable (attempts : List StageAttempt)

def outOfTime : Bool :=
  clock.deadline.any fun deadline => deadline.remaining (clock.atStart attempts) ≤ 0

def reported : RunResult → Fields
  | .returned payload _ => payload
  | .raised => []

def askedDelay : ℚ :=
  stageRetryDelay (clock.untilDate attempts) ((attempts.getLast?.map fun attempt => reported attempt.result).getD [])
    (attempts.length - 1)

def retryDelay : ℚ := match clock.deadline with
  | none => clock.askedDelay attempts
  | some deadline => deadline.cap (clock.askedDelay attempts) (clock.atRetry attempts)

/-- With a deadline, a delay of nothing is taken for the end of the time. -/
def noTimeToRetry : Bool := clock.deadline.isSome && clock.retryDelay attempts ≤ 0

end StageClock

inductive StageStep where
  | attempted (attempt : StageAttempt)
  | slept (seconds now : ℚ)

section Loop

variable (isAlnum : Char → Bool) (codec : StreamCodec) (client : List StageAttempt → ClientWorld) (clock : StageClock)
  (call : StageCall)

def clockedWorld : StageWorld where
  client := client
  outOfTime := clock.outOfTime
  noTimeToRetry := clock.noTimeToRetry

/-- The steps of `_execute_stage_sync`, with so many retries left. -/
def stageSteps (retries : Nat) (attempts : List StageAttempt) : StageOutcome × List StageStep :=
  if clock.outOfTime attempts then (.failed "Job deadline reached before the stage could finish.", [])
  else
    let attempt := nextAttempt isAlnum codec (clockedWorld client clock) call attempts
    let attempts := attempts ++ [attempt]
    match attemptVerdict attempt.result, retries with
    | .completed payload, _ => (.completed payload, [.attempted attempt])
    | .raised, _ => (.raised, [.attempted attempt])
    | .givenUp, _ => (stageFailure codec call attempts, [.attempted attempt])
    | .again, 0 => (stageFailure codec call attempts, [.attempted attempt])
    | .again, retries + 1 =>
      if clock.noTimeToRetry attempts then
        (.failed "Job deadline reached before the stage could be retried.", [.attempted attempt])
      else
        let rest := stageSteps retries attempts
        (rest.1, .attempted attempt :: .slept (clock.retryDelay attempts) (clock.atRetry attempts) :: rest.2)

def executeStageSteps : StageOutcome × List StageStep := stageSteps isAlnum codec client clock call stageRetryMax []

def StageStep.attempt? : StageStep → Option StageAttempt
  | .attempted attempt => some attempt
  | .slept _ _ => none

def attemptsOf (steps : List StageStep) : List StageAttempt := steps.filterMap StageStep.attempt?

/-- Without its sleeps this is the loop of `Stream.StageRetry`. -/
theorem stageAttempts_eq (retries : Nat) (attempts : List StageAttempt) :
    stageAttempts isAlnum codec (clockedWorld client clock) call retries attempts =
      ((stageSteps isAlnum codec client clock call retries attempts).1,
        attempts ++ attemptsOf (stageSteps isAlnum codec client clock call retries attempts).2) := by
  have hlate : (clockedWorld client clock).outOfTime = clock.outOfTime := rfl
  have hcut : (clockedWorld client clock).noTimeToRetry = clock.noTimeToRetry := rfl
  induction retries generalizing attempts with
  | zero =>
    rw [stageAttempts, stageSteps, hlate]
    split_ifs
    · exact congrArg _ (List.append_nil attempts).symm
    · dsimp only
      cases attemptVerdict (nextAttempt isAlnum codec (clockedWorld client clock) call attempts).result <;> rfl
  | succ retries ih =>
    rw [stageAttempts, stageSteps, hlate]
    split_ifs
    · exact congrArg _ (List.append_nil attempts).symm
    · dsimp only
      cases attemptVerdict (nextAttempt isAlnum codec (clockedWorld client clock) call attempts).result with
      | completed payload => rfl
      | raised => rfl
      | givenUp => rfl
      | again =>
        dsimp only
        rw [hcut]
        split_ifs
        · rfl
        · rw [ih]
          exact congrArg _ (List.append_assoc _ [_] _)

/-! ### What the loop does with an attempt -/

def StageAttempt.Failed (attempt : StageAttempt) : Prop :=
  ∃ payload status, attempt.result = .returned payload status ∧ 400 ≤ status

/-- The attempt failed, and `_is_retryable_stage_failure` says so of its reply. -/
def StageAttempt.Retryable (attempt : StageAttempt) : Prop :=
  ∃ payload status, attempt.result = .returned payload status ∧ 400 ≤ status ∧ isRetryableStageFailure status payload = true

theorem StageAttempt.Retryable.failed {attempt : StageAttempt} (h : attempt.Retryable) : attempt.Failed := by
  obtain ⟨payload, status, hresult, hstatus, -⟩ := h
  exact ⟨payload, status, hresult, hstatus⟩

/-- The verdict says how the attempt ended. -/
def AttemptVerdict.Describes (attempt : StageAttempt) : AttemptVerdict → Prop
  | .completed _ => ¬ attempt.Failed
  | .raised => ¬ attempt.Failed
  | .givenUp => attempt.Failed ∧ ¬ attempt.Retryable
  | .again => attempt.Retryable

theorem attemptVerdict_describes (attempt : StageAttempt) : (attemptVerdict attempt.result).Describes attempt := by
  have hone {payload other : Fields} {status code : Nat} (hresult : attempt.result = .returned payload status)
      (hother : attempt.result = .returned other code) : payload = other ∧ status = code := by
    rw [hresult] at hother
    exact RunResult.returned.inj hother
  cases hresult : attempt.result with
  | raised =>
    rintro ⟨payload, status, hreturned, -⟩
    rw [hresult] at hreturned
    cases hreturned
  | returned payload status =>
    rw [attemptVerdict]
    split_ifs with hstatus hretryable
    · rintro ⟨other, code, hother, hcode⟩
      obtain ⟨-, rfl⟩ := hone hresult hother
      omega
    · exact ⟨payload, status, hresult, by omega, hretryable⟩
    · refine ⟨⟨payload, status, hresult, by omega⟩, ?_⟩
      rintro ⟨other, code, hother, -, hyes⟩
      obtain ⟨rfl, rfl⟩ := hone hresult hother
      exact hretryable hyes

/-- All that a round of the loop can do with its attempt. -/
inductive StageCase (before : List StageAttempt) (attempt : StageAttempt) (tried : List StageAttempt) :
    Nat → StageOutcome × List StageStep → Prop where
  | late {retries : Nat} (hlate : clock.outOfTime before = true) :
      StageCase before attempt tried retries (.failed "Job deadline reached before the stage could finish.", [])
  | ended {retries : Nat} {outcome : StageOutcome} (hintime : clock.outOfTime before = false) (hfailed : ¬ attempt.Failed) :
      StageCase before attempt tried retries (outcome, [.attempted attempt])
  | failed {retries : Nat} (hintime : clock.outOfTime before = false) (hfailed : attempt.Failed)
      (hlast : retries = 0 ∨ ¬ attempt.Retryable) :
      StageCase before attempt tried retries (stageFailure codec call tried, [.attempted attempt])
  | cut {retries : Nat} (hintime : clock.outOfTime before = false) (hretryable : attempt.Retryable)
      (hcut : clock.noTimeToRetry tried = true) :
      StageCase before attempt tried (retries + 1)
        (.failed "Job deadline reached before the stage could be retried.", [.attempted attempt])
  | retried {retries : Nat} (hintime : clock.outOfTime before = false) (hretryable : attempt.Retryable)
      (hgo : clock.noTimeToRetry tried = false) :
      StageCase before attempt tried (retries + 1) ((stageSteps isAlnum codec client clock call retries tried).1,
        .attempted attempt :: .slept (clock.retryDelay tried) (clock.atRetry tried) ::
          (stageSteps isAlnum codec client clock call retries tried).2)

variable (before : List StageAttempt)

def stageAttempt : StageAttempt :=
  nextAttempt isAlnum codec (clockedWorld client clock) call before

variable {isAlnum codec client clock call}

variable (retries : Nat)

theorem stageSteps_cases (before : List StageAttempt) :
    StageCase isAlnum codec client clock call before (stageAttempt isAlnum codec client clock call before)
      (before ++ [stageAttempt isAlnum codec client clock call before]) retries
      (stageSteps isAlnum codec client clock call retries before) := by
  unfold stageSteps
  rw [← stageAttempt]
  cases hlate : clock.outOfTime before with
  | true =>
    rw [if_pos rfl]
    exact .late hlate
  | false =>
    rw [if_neg Bool.false_ne_true]
    dsimp only
    generalize stageAttempt isAlnum codec client clock call before = attempt
    have hverdict := attemptVerdict_describes attempt
    cases hwhich : attemptVerdict attempt.result with
    | completed payload =>
      rw [hwhich] at hverdict
      exact .ended hlate hverdict
    | raised =>
      rw [hwhich] at hverdict
      exact .ended hlate hverdict
    | givenUp =>
      rw [hwhich] at hverdict
      exact .failed hlate hverdict.1 (.inr hverdict.2)
    | again =>
      rw [hwhich] at hverdict
      cases retries with
      | zero => exact .failed hlate (StageAttempt.Retryable.failed hverdict) (.inl rfl)
      | succ retries =>
        cases hcut : clock.noTimeToRetry (before ++ [attempt]) with
        | true => exact .cut hlate hverdict hcut
        | false => exact .retried hlate hverdict hcut

/-! ### The message of a failed stage -/

variable (failures : List StageFailureAttempt)

/-- The first failure that the application is to blame for, or the last one if there is none. -/
def IsPrimary (primary : StageFailureAttempt) (failures : List StageFailureAttempt) : Prop :=
  (∃ before after, failures = before ++ primary :: after ∧ primary.classification = .application ∧
    ∀ earlier ∈ before, earlier.classification ≠ .application) ∨
  (∀ failure ∈ failures, failure.classification ≠ .application) ∧ failures.getLast? = some primary

def attemptSummary (attempt : StageFailureAttempt) : String :=
  s!"Attempt {attempt.attemptIndex}: HTTP {attempt.status} — " ++ truncateStageAttemptDetail attempt.detail

def hinted (hint : Option String) (message : String) : String := match hint with
  | none => message
  | some hint => if hint = "" then message else message ++ " " ++ hint

variable (codec call) in
/-- The stage reports its primary failure, and the others behind it or not at all. -/
def ReportsPrimary (outcome : StageOutcome) : Prop :=
  ∃ primary summaries, IsPrimary primary failures ∧
    (summaries = [] ∨
      summaries = (failures.filter fun failure => failure.attemptIndex ≠ primary.attemptIndex).map attemptSummary) ∧
    outcome = .failed (hinted call.preflightHint
      ("\n".intercalate (formatStageSyncError codec call.syncType primary.status primary.payload :: summaries)))

theorem isPrimary_of_primaryStageFailureAttempt {failures : List StageFailureAttempt} {primary : StageFailureAttempt}
    (h : primaryStageFailureAttempt failures = some primary) : IsPrimary primary failures := by
  rw [primaryStageFailureAttempt, Option.or_eq_some_iff] at h
  rcases h with hfound | ⟨hnone, hlast⟩
  · obtain ⟨hkind, before, after, hsplit, hbefore⟩ := List.find?_eq_some_iff_append.1 hfound
    refine .inl ⟨before, after, hsplit, of_decide_eq_true hkind, fun earlier hmem => ?_⟩
    simpa using hbefore earlier hmem
  · refine .inr ⟨fun failure hmem => ?_, hlast⟩
    simpa using List.find?_eq_none.1 hnone failure hmem

variable (codec call) in
theorem reportsPrimary_stageFailure {attempts : List StageAttempt} (hne : failedAttempts attempts ≠ []) :
    ReportsPrimary codec call (failedAttempts attempts) (stageFailure codec call attempts) := by
  cases hprimary : primaryStageFailureAttempt (failedAttempts attempts) with
  | none =>
    rw [primaryStageFailureAttempt, Option.or_eq_none_iff, List.getLast?_eq_none_iff] at hprimary
    exact absurd hprimary.2 hne
  | some primary =>
    unfold stageFailure composeStageFailureMessage
    rw [hprimary]
    dsimp only
    split_ifs with hsame
    · exact ⟨primary, [], isPrimary_of_primaryStageFailureAttempt hprimary, .inl rfl, rfl⟩
    · exact ⟨primary, _, isPrimary_of_primaryStageFailureAttempt hprimary, .inr rfl, rfl⟩

theorem failedAttempts_ne_nil {attempts : List StageAttempt} {attempt : StageAttempt} (hmem : attempt ∈ attempts)
    (hfailed : attempt.Failed) : failedAttempts attempts ≠ [] := by
  obtain ⟨index, hindex⟩ := List.mem_iff_getElem?.1 hmem
  obtain ⟨payload, status, hresult, hstatus⟩ := hfailed
  have hfailure : stageFailureAttempt index status payload ∈ failedAttempts attempts := by
    refine List.mem_filterMap.2 ⟨(attempt, index), List.mk_mem_zipIdx_iff_getElem?.2 hindex, ?_⟩
    dsimp only
    rw [hresult]
    exact if_pos hstatus
  exact List.ne_nil_of_mem hfailure

def NamesStage (message : String) : Prop := ∃ rest, message = "Stage '" ++ rest

theorem NamesStage.append {message : String} (h : NamesStage message) (behind : String) : NamesStage (message ++ behind) := by
  obtain ⟨rest, rfl⟩ := h
  exact ⟨rest ++ behind, String.append_assoc⟩

theorem namesStage_formatStageSyncError (syncType : String) (status : Nat) (payload : Fields) :
    NamesStage (formatStageSyncError codec syncType status payload) := by
  have hstart : NamesStage ("Stage '" ++ syncType ++ s!"' failed (HTTP {status}): ") :=
    NamesStage.append ⟨syncType, rfl⟩ _
  unfold formatStageSyncError
  dsimp only
  split_ifs
  · exact ((hstart.append _).append _).append _
  · split
    · exact (((hstart.append _).append _).append _).append _
    · exact hstart.append _

theorem ReportsPrimary.namesStage {failures : List StageFailureAttempt} {message : String}
    (h : ReportsPrimary codec call failures (.failed message)) : NamesStage message := by
  obtain ⟨primary, summaries, -, -, hmessage⟩ := h
  have hformat := @namesStage_formatStageSyncError codec call.syncType primary.status primary.payload
  have hlines : NamesStage
      ("\n".intercalate (formatStageSyncError codec call.syncType primary.status primary.payload :: summaries)) := by
    cases summaries with
    | nil => exact hformat
    | cons summary rest =>
      rw [String.intercalate_cons_cons]
      exact (hformat.append _).append _
  rw [StageOutcome.failed.inj hmessage]
  unfold hinted
  split
  · exact hlines
  · split_ifs
    · exact hlines
    · exact (hlines.append _).append _

theorem not_namesStage {message : String} (h : message.toList.head? ≠ some 'S') : ¬ NamesStage message := by
  rintro ⟨rest, rfl⟩
  exact h (by rw [String.toList_append]; rfl)

/-! ### The retries of a stage -/

/-- A sleep follows a failure that is retryable, and an attempt follows a sleep. -/
def StageStep.Follows : StageStep → StageStep → Prop
  | .attempted attempt, .slept _ _ => attempt.Retryable
  | .slept _ _, .attempted _ => True
  | _, _ => False

def StageStep.isAttempt : StageStep → Bool
  | .attempted _ => true
  | .slept _ _ => false

/-- So many attempts at most, and a bounded sleep after each that is tried again; it ends before the deadline. -/
structure BoundedRetries (clock : StageClock) (most : Nat) (steps : List StageStep) : Prop where
  attempts : (attemptsOf steps).length ≤ most
  begins : ∀ step ∈ steps.head?, step.isAttempt = true
  retried : steps.IsChain StageStep.Follows
  waits : ∀ seconds now, .slept seconds now ∈ steps → 0 ≤ seconds ∧ seconds ≤ stageRetryMaxDelay ∧
    ∀ deadline ∈ clock.deadline, now + seconds ≤ deadline.executableExpiresAt

variable (codec call) in
/-- When all attempts fail, the message is about the one to blame. -/
def Attributed (attempts : List StageAttempt) (outcome : StageOutcome) : Prop :=
  attempts ≠ [] → (∀ attempt ∈ attempts, attempt.Failed) → ReportsPrimary codec call (failedAttempts attempts) outcome

variable {tried : List StageAttempt}

theorem retryDelay_bounds (hgo : clock.noTimeToRetry tried = false) :
    0 ≤ clock.retryDelay tried ∧ clock.retryDelay tried ≤ stageRetryMaxDelay ∧
      ∀ deadline ∈ clock.deadline, clock.atRetry tried + clock.retryDelay tried ≤ deadline.executableExpiresAt := by
  obtain ⟨hnonneg, hmost⟩ : 0 ≤ clock.askedDelay tried ∧ clock.askedDelay tried ≤ stageRetryMaxDelay :=
    stageRetryDelay_bounds _ _ _
  rw [StageClock.noTimeToRetry] at hgo
  unfold StageClock.retryDelay at hgo ⊢
  cases hdeadline : clock.deadline with
  | none => exact ⟨hnonneg, hmost, fun deadline hmem => by cases hmem⟩
  | some deadline =>
    rw [hdeadline] at hgo
    have hpos : 0 < deadline.cap (clock.askedDelay tried) (clock.atRetry tried) := by simpa using hgo
    have hintime := (SyncJobDeadline.cap_pos_iff.1 hpos).2
    have hasked : deadline.cap (clock.askedDelay tried) (clock.atRetry tried) ≤ clock.askedDelay tried := by
      refine (min_le_left _ _).trans ?_
      rw [max_eq_left hnonneg]
    have hleft : deadline.cap (clock.askedDelay tried) (clock.atRetry tried) ≤
        deadline.executableExpiresAt - clock.atRetry tried := by
      refine (deadline.cap_le_remaining _ _).trans ?_
      rw [SyncJobDeadline.remaining, max_eq_left (sub_nonneg.2 hintime.le)]
    refine ⟨hpos.le, hasked.trans hmost, fun other hother => ?_⟩
    obtain rfl := Option.some.inj hother
    dsimp only
    linarith

theorem StageCase.bounded {before tried : List StageAttempt} {attempt : StageAttempt} {retries : Nat}
    {run : StageOutcome × List StageStep} (h : StageCase isAlnum codec client clock call before attempt tried retries run)
    (ih : ∀ fewer, retries = fewer + 1 →
      BoundedRetries clock (fewer + 1) (stageSteps isAlnum codec client clock call fewer tried).2) :
    BoundedRetries clock (retries + 1) run.2 := by
  have hone : BoundedRetries clock (retries + 1) [.attempted attempt] := by
    refine ⟨Nat.le_add_left 1 retries, fun step hstep => ?_, List.IsChain.singleton _, fun seconds now hmem => ?_⟩
    · obtain rfl := Option.some.inj hstep
      rfl
    · cases List.mem_singleton.1 hmem
  cases h with
  | late hlate =>
    refine ⟨Nat.zero_le _, fun step hstep => ?_, List.IsChain.nil, fun seconds now hmem => ?_⟩
    · cases hstep
    · cases hmem
  | ended hintime hfailed => exact hone
  | failed hintime hfailed hlast => exact hone
  | cut hintime hretryable hcut => exact hone
  | @retried fewer hintime hretryable hgo =>
    have hrest := ih fewer rfl
    refine ⟨Nat.succ_le_succ hrest.attempts, fun step hstep => ?_, ?_, fun seconds now hmem => ?_⟩
    · obtain rfl := Option.some.inj hstep
      rfl
    · refine List.IsChain.cons_cons hretryable ?_
      have hbegins := hrest.begins
      have hchain := hrest.retried
      cases hsteps : (stageSteps isAlnum codec client clock call fewer tried).2 with
      | nil => exact List.IsChain.singleton _
      | cons step rest =>
        rw [hsteps] at hbegins hchain
        refine List.IsChain.cons_cons ?_ hchain
        cases step with
        | attempted next => trivial
        | slept seconds now => cases hbegins _ rfl
    · rcases List.mem_cons.1 hmem with hattempted | hmem
      · cases hattempted
      rcases List.mem_cons.1 hmem with hslept | hmem
      · obtain ⟨rfl, rfl⟩ := StageStep.slept.inj hslept
        exact retryDelay_bounds hgo
      · exact hrest.waits seconds now hmem

theorem stageSteps_bounded (before : List StageAttempt) :
    BoundedRetries clock (retries + 1) (stageSteps isAlnum codec client clock call retries before).2 := by
  induction retries generalizing before with
  | zero => exact (stageSteps_cases 0 before).bounded fun fewer h => by cases h
  | succ retries ih =>
    refine (stageSteps_cases (retries + 1) before).bounded fun fewer hfewer => ?_
    obtain rfl := Nat.succ.inj hfewer
    exact ih _

variable (isAlnum codec client clock call) in
/-- After a retryable failure the delay is not zero, and there is time for it and for the next attempt. -/
def Uncut (deadline : SyncJobDeadline) : Nat → List StageAttempt → Prop
  | 0, _ => True
  | retries + 1, before =>
    let attempt := stageAttempt isAlnum codec client clock call before
    let tried := before ++ [attempt]
    attempt.Retryable → 0 < clock.askedDelay tried ∧ clock.atRetry tried < deadline.executableExpiresAt ∧
      clock.atStart tried < deadline.executableExpiresAt ∧ Uncut deadline retries tried

variable (isAlnum codec client clock call) in
/-- A stage that gets to its first attempt is not cut short. -/
def NotCutShort : Prop := ∀ deadline ∈ clock.deadline, clock.atStart [] < deadline.executableExpiresAt →
  Uncut isAlnum codec client clock call deadline stageRetryMax []

theorem outOfTime_eq_false_iff {attempts : List StageAttempt} : clock.outOfTime attempts = false ↔
    ∀ deadline ∈ clock.deadline, clock.atStart attempts < deadline.executableExpiresAt := by
  rw [StageClock.outOfTime, Option.any_eq_false]
  refine forall₂_congr fun deadline _ => ?_
  rw [decide_eq_false_iff_not, not_le, SyncJobDeadline.remaining_pos_iff]

theorem noTimeToRetry_eq_false_iff : clock.noTimeToRetry tried = false ↔
    ∀ deadline ∈ clock.deadline, 0 < clock.askedDelay tried ∧ clock.atRetry tried < deadline.executableExpiresAt := by
  unfold StageClock.noTimeToRetry StageClock.retryDelay
  cases clock.deadline with
  | none => simp
  | some deadline => simp [SyncJobDeadline.cap_pos_iff]

theorem not_attributed {attempts : List StageAttempt} {message : String} (hne : attempts ≠ [])
    (hfailed : ∀ attempt ∈ attempts, attempt.Failed) (hmessage : message.toList.head? ≠ some 'S') :
    ¬ Attributed codec call attempts (.failed message) :=
  fun h => not_namesStage hmessage (h hne hfailed).namesStage

theorem uncut_of_not_retryable {before : List StageAttempt} {deadline : SyncJobDeadline}
    (h : ¬ (stageAttempt isAlnum codec client clock call before).Retryable) :
    Uncut isAlnum codec client clock call deadline retries before := by
  cases retries with
  | zero => trivial
  | succ retries => exact fun hretryable => absurd hretryable h

theorem stageSteps_of_outOfTime (hlate : clock.outOfTime tried = true) :
    stageSteps isAlnum codec client clock call retries tried =
      (.failed "Job deadline reached before the stage could finish.", []) := by
  unfold stageSteps
  rw [if_pos hlate]

theorem StageCase.attributed_iff {before : List StageAttempt} {retries : Nat} {run : StageOutcome × List StageStep}
    (h : StageCase isAlnum codec client clock call before (stageAttempt isAlnum codec client clock call before)
      (before ++ [stageAttempt isAlnum codec client clock call before]) retries run)
    (hbefore : ∀ attempt ∈ before, attempt.Failed) (hintime : clock.outOfTime before = false)
    (ih : ∀ fewer, retries = fewer + 1 → ∀ tried, (∀ attempt ∈ tried, attempt.Failed) → clock.outOfTime tried = false →
      (Attributed codec call (tried ++ attemptsOf (stageSteps isAlnum codec client clock call fewer tried).2)
          (stageSteps isAlnum codec client clock call fewer tried).1 ↔
        ∀ deadline ∈ clock.deadline, Uncut isAlnum codec client clock call deadline fewer tried)) :
    Attributed codec call (before ++ attemptsOf run.2) run.1 ↔
      ∀ deadline ∈ clock.deadline, Uncut isAlnum codec client clock call deadline retries before := by
  have hnil : before ++ [stageAttempt isAlnum codec client clock call before] ≠ [] :=
    List.append_ne_nil_of_right_ne_nil _ (List.cons_ne_nil _ _)
  have hall (hfailed : (stageAttempt isAlnum codec client clock call before).Failed) :
      ∀ attempt ∈ before ++ [stageAttempt isAlnum codec client clock call before], attempt.Failed :=
    List.forall_mem_append.2 ⟨hbefore, List.forall_mem_singleton.2 hfailed⟩
  cases h with
  | late hlate =>
    rw [hintime] at hlate
    cases hlate
  | ended hintime hfailed =>
    refine iff_of_true (fun _ hfails => ?_) fun deadline _ => uncut_of_not_retryable _ fun hretryable =>
      hfailed hretryable.failed
    exact absurd (hfails _ (List.mem_append_right _ (List.mem_singleton_self _))) hfailed
  | failed hintime hfailed hlast =>
    refine iff_of_true (fun _ _ => ?_) fun deadline _ => ?_
    · exact reportsPrimary_stageFailure codec call
        (failedAttempts_ne_nil (List.mem_append_right _ (List.mem_singleton_self _)) hfailed)
    · rcases hlast with rfl | hfinal
      · trivial
      · exact uncut_of_not_retryable _ hfinal
  | cut hintime hretryable hcut =>
    refine iff_of_false (not_attributed hnil (hall hretryable.failed) (by decide)) fun huncut => ?_
    have hgo := noTimeToRetry_eq_false_iff.2 fun deadline hmem =>
      ⟨(huncut deadline hmem hretryable).1, (huncut deadline hmem hretryable).2.1⟩
    rw [hgo] at hcut
    cases hcut
  | @retried fewer hintime hretryable hgo =>
    have hgoes := noTimeToRetry_eq_false_iff.1 hgo
    have hsteps : before ++ attemptsOf (.attempted (stageAttempt isAlnum codec client clock call before) ::
        .slept (clock.retryDelay (before ++ [stageAttempt isAlnum codec client clock call before]))
          (clock.atRetry (before ++ [stageAttempt isAlnum codec client clock call before])) ::
        (stageSteps isAlnum codec client clock call fewer (before ++
          [stageAttempt isAlnum codec client clock call before])).2) =
        (before ++ [stageAttempt isAlnum codec client clock call before]) ++ attemptsOf (stageSteps isAlnum codec client clock
          call fewer (before ++ [stageAttempt isAlnum codec client clock call before])).2 := by
      rw [List.append_assoc]
      rfl
    dsimp only
    rw [hsteps]
    cases hlate : clock.outOfTime (before ++ [stageAttempt isAlnum codec client clock call before]) with
    | true =>
      rw [stageSteps_of_outOfTime fewer hlate, attemptsOf, List.filterMap_nil, List.append_nil]
      refine iff_of_false (not_attributed hnil (hall hretryable.failed) (by decide)) fun huncut => ?_
      have hstart := outOfTime_eq_false_iff.2 fun deadline hmem => (huncut deadline hmem hretryable).2.2.1
      rw [hstart] at hlate
      cases hlate
    | false =>
      rw [ih fewer rfl _ (hall hretryable.failed) hlate]
      have hstarts := outOfTime_eq_false_iff.1 hlate
      refine forall₂_congr fun deadline hmem => ⟨fun huncut _ => ?_, fun huncut => (huncut hretryable).2.2.2⟩
      exact ⟨(hgoes deadline hmem).1, (hgoes deadline hmem).2, hstarts deadline hmem, huncut⟩

theorem attributed_iff_uncut (before : List StageAttempt) (hbefore : ∀ attempt ∈ before, attempt.Failed)
    (hintime : clock.outOfTime before = false) :
    Attributed codec call (before ++ attemptsOf (stageSteps isAlnum codec client clock call retries before).2)
        (stageSteps isAlnum codec client clock call retries before).1 ↔
      ∀ deadline ∈ clock.deadline, Uncut isAlnum codec client clock call deadline retries before := by
  induction retries generalizing before with
  | zero => exact (stageSteps_cases 0 before).attributed_iff hbefore hintime fun fewer h => by cases h
  | succ retries ih =>
    refine (stageSteps_cases (retries + 1) before).attributed_iff hbefore hintime fun fewer hfewer => ?_
    obtain rfl := Nat.succ.inj hfewer
    exact ih

/-- The attempts and the delays of a stage are always bounded, and its message is about the failure to blame
exactly when nothing cuts the retries short. -/
theorem stageRetries_iff (isAlnum : Char → Bool) (codec : StreamCodec) (client : List StageAttempt → ClientWorld)
    (clock : StageClock) (call : StageCall) :
    (BoundedRetries clock 3 (executeStageSteps isAlnum codec client clock call).2 ∧
      Attributed codec call (attemptsOf (executeStageSteps isAlnum codec client clock call).2)
        (executeStageSteps isAlnum codec client clock call).1) ↔
      NotCutShort isAlnum codec client clock call := by
  have hbounded : BoundedRetries clock 3 (executeStageSteps isAlnum codec client clock call).2 :=
    stageSteps_bounded stageRetryMax []
  rw [and_iff_right hbounded, executeStageSteps]
  cases hintime : clock.outOfTime [] with
  | true =>
    rw [stageSteps_of_outOfTime _ hintime]
    refine iff_of_true (fun hne => absurd rfl hne) fun deadline hmem hstart => ?_
    have hlate : deadline.remaining (clock.atStart []) ≤ 0 := by
      rw [StageClock.outOfTime, hmem] at hintime
      exact of_decide_eq_true hintime
    exact absurd (SyncJobDeadline.remaining_pos_iff.2 hstart) (not_lt.2 hlate)
  | false =>
    have hstarts := outOfTime_eq_false_iff.1 hintime
    have huncut := @attributed_iff_uncut isAlnum codec client clock call stageRetryMax [] (List.forall_mem_nil _) hintime
    rw [List.nil_append] at huncut
    rw [huncut]
    exact forall₂_congr fun deadline hmem => ⟨fun h _ => h, fun h => h (hstarts deadline hmem)⟩

end Loop

/-! ### A delay of nothing -/

def throttledClient : ClientWorld :=
  { resetWorld.client [] with
    request := fun _ _ _ => .response 503 (some "0") (some (.obj [("detail", .str "temporarily unavailable")]))
      resetAfterComplete }

def roomyClock : StageClock where
  deadline := some { expiresAt := 7200 }
  atStart _ := 0
  atRetry _ := 1
  untilDate _ _ := none

def StageOutcome.message : StageOutcome → String
  | .failed message => message
  | _ => ""

def RunResult.status : RunResult → Nat
  | .returned _ status => status
  | .raised => 0

theorem failed_of_status {attempt : StageAttempt} (h : 400 ≤ attempt.result.status) : attempt.Failed := by
  cases hresult : attempt.result with
  | raised =>
    rw [hresult] at h
    exact absurd h (by decide)
  | returned payload status =>
    rw [hresult] at h
    exact ⟨payload, status, hresult, h⟩

/-- A reply that asks for an immediate retry ends the stage with a message about a deadline that is two hours
away. -/
theorem zero_delay_is_called_deadline :
    let run := executeStageSteps (fun _ => false) okCodec (fun _ => throttledClient) roomyClock devicesCall
    run.1.message = "Job deadline reached before the stage could be retried." ∧ (attemptsOf run.2).length = 1 ∧
      (∀ deadline ∈ roomyClock.deadline, deadline.remaining (roomyClock.atRetry (attemptsOf run.2)) = 7079) ∧
      (∀ attempt ∈ attemptsOf run.2, attempt.Failed) ∧ ¬ Attributed okCodec devicesCall (attemptsOf run.2) run.1 := by
  have hmessage : (executeStageSteps (fun _ => false) okCodec (fun _ => throttledClient) roomyClock devicesCall).1.message =
      "Job deadline reached before the stage could be retried." := by decide +kernel
  have hlength : (attemptsOf (executeStageSteps (fun _ => false) okCodec (fun _ => throttledClient) roomyClock
      devicesCall).2).length = 1 := by decide +kernel
  have hstatus : ∀ attempt ∈ attemptsOf (executeStageSteps (fun _ => false) okCodec (fun _ => throttledClient) roomyClock
      devicesCall).2, 400 ≤ attempt.result.status := by decide +kernel
  generalize executeStageSteps (fun _ => false) okCodec (fun _ => throttledClient) roomyClock devicesCall = run at *
  have hfailed : ∀ attempt ∈ attemptsOf run.2, attempt.Failed := fun attempt hmem => failed_of_status (hstatus attempt hmem)
  refine ⟨hmessage, hlength, fun deadline hmem => ?_, hfailed, fun hattributed => ?_⟩
  · obtain rfl := Option.some.inj hmem
    norm_num [SyncJobDeadline.remaining, SyncJobDeadline.executableExpiresAt, roomyClock]
  have hne : attemptsOf run.2 ≠ [] := List.ne_nil_of_length_pos (by omega)
  cases houtcome : run.1 with
  | failed message =>
    rw [houtcome] at hmessage hattributed
    refine not_attributed hne hfailed ?_ hattributed
    rw [show message = "Job deadline reached before the stage could be retried." from hmessage]
    decide
  | completed payload =>
    rw [houtcome] at hmessage
    exact absurd (show "" = _ from hmessage) (by decide)
  | raised =>
    rw [houtcome] at hmessage
    exact absurd hmessage (by decide)

end Proxbox
