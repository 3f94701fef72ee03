import Proxbox.Schedule.Edit
/-!
# Replacing and cancelling a schedule

A schedule is a job row and an entry in the queue that a worker will execute. The scheduling page cancels a
schedule by closing its row, and replaces one by closing the row and then enqueueing a new job from the posted
form. Nothing undoes the first when the second fails, and neither touches the queue.
-/

namespace Proxbox

open Python

/-! ### Jobs and their entries -/

inductive JobStatus where
  | pending
  | scheduled
  | running
  | completed
  | errored
  | failed
  deriving DecidableEq

/-- `ENQUEUED_STATE_CHOICES`. -/
def JobStatus.isEnqueued : JobStatus → Bool
  | .pending | .scheduled | .running => true
  | .completed | .errored | .failed => false

structure JobRow where
  pk : Int
  status : JobStatus
  error : String
  completed : Option Nat
  stored : StoredJob

inductive RqStatus where
  | queued
  | deferred
  | scheduled
  | started
  | finished
  | failed
  | stopped
  | canceled
  deriving DecidableEq

/-- A worker executes the job of the entry, now or later. -/
def RqStatus.isLive : RqStatus → Bool
  | .queued | .deferred | .scheduled | .started => true
  | .finished | .failed | .stopped | .canceled => false

structure RqEntry where
  job : Int
  status : RqStatus
  deriving DecidableEq

/-- The job rows and the queue. Keys come from a sequence. -/
structure Scheduler where
  rows : List JobRow
  queue : List RqEntry
  nextPk : Int
  row_lt : ∀ row ∈ rows, row.pk < nextPk
  entry_lt : ∀ entry ∈ queue, entry.job < nextPk
  pk_nodup : (rows.map JobRow.pk).Nodup

/-- The queue holds an entry that will execute the job. -/
def Scheduler.Holds (s : Scheduler) (pk : Int) : Prop := ∃ entry ∈ s.queue, entry.job = pk ∧ entry.status.isLive = true

/-- The row of the job is in an enqueued state. -/
def Scheduler.IsOpen (s : Scheduler) (pk : Int) : Prop := ∃ row ∈ s.rows, row.pk = pk ∧ row.status.isEnqueued = true

/-- A schedule that is not cancelled and will run. -/
def Scheduler.Active (s : Scheduler) (pk : Int) : Prop := s.IsOpen pk ∧ s.Holds pk

/-! ### The scheduling page -/

def markJobCanceled (now : Nat) (row : JobRow) : JobRow :=
  { row with status := .failed, error := "Cancelled by user.", completed := some now }

/-- The row is the one that a post may cancel: the user sees it, and it is an enqueued job of this plugin. -/
def cancellable (canView : JobRow → Bool) (pk : Int) (row : JobRow) : Bool :=
  row.pk = pk && canView row && isProxboxSyncJob row.stored && row.status.isEnqueued

def cancelRow (canView : JobRow → Bool) (now : Nat) (pk : Int) (row : JobRow) : JobRow :=
  if cancellable canView pk row then markJobCanceled now row else row

theorem pk_cancelRow (canView : JobRow → Bool) (now : Nat) (pk : Int) (row : JobRow) :
    (cancelRow canView now pk row).pk = row.pk := by
  unfold cancelRow
  split_ifs <;> rfl

theorem map_pk_cancelRow (canView : JobRow → Bool) (now : Nat) (pk : Int) (rows : List JobRow) :
    (rows.map (cancelRow canView now pk)).map JobRow.pk = rows.map JobRow.pk := by
  rw [List.map_map]
  exact List.map_congr_left fun row _ => pk_cancelRow canView now pk row

def Scheduler.cancelJob (s : Scheduler) (canView : JobRow → Bool) (now : Nat) (pk : Int) : Scheduler :=
  { s with
    rows := s.rows.map (cancelRow canView now pk)
    row_lt := by
      intro row hrow
      obtain ⟨old, hold, rfl⟩ := List.mem_map.1 hrow
      rw [pk_cancelRow]
      exact s.row_lt old hold
    pk_nodup := (map_pk_cancelRow canView now pk s.rows).symm ▸ s.pk_nodup }

/-- Where `ProxboxSyncJob.enqueue` raises. -/
inductive EnqueueFault where
  | beforeRow
  | beforeEntry
  | beforeParams
  deriving DecidableEq

inductive Response where
  | scheduleList
  | jobList
  | page (errors : List (String × FormError))
  | serverError

structure PostOutcome where
  after : Scheduler
  /-- The key of the row that the post stored. -/
  created : Option Int
  response : Response

variable (job : EnqueuedSyncJob)

/-- The row of an enqueued job, before and after its parameters are kept with it. -/
def EnqueuedSyncJob.row (hfits : job.name.length ≤ 200) (pk : Int) (persisted : Bool) : JobRow :=
  { pk
    status := if job.scheduleAt.isSome then .scheduled else .pending
    error := ""
    completed := none
    stored := {
      name := job.name
      name_fits := hfits
      queueName := some "default"
      scheduled := job.scheduleAt
      interval := job.interval
      block := if persisted then some job.params else none } }

def EnqueuedSyncJob.entry (pk : Int) : RqEntry :=
  { job := pk, status := if job.scheduleAt.isSome then .scheduled else .queued }

theorem job_entry (pk : Int) : ∀ entry ∈ [job.entry pk], entry.job = pk :=
  List.forall_mem_singleton.2 rfl

def Scheduler.insert (s : Scheduler) (row : JobRow) (entries : List RqEntry) (hrow : row.pk = s.nextPk)
    (hentries : ∀ entry ∈ entries, entry.job = s.nextPk) : Scheduler :=
  { rows := s.rows ++ [row]
    queue := s.queue ++ entries
    nextPk := s.nextPk + 1
    row_lt := by
      intro other hother
      rcases List.mem_append.1 hother with hother | hother
      · have := s.row_lt other hother
        omega
      · rw [List.mem_singleton.1 hother]
        omega
    entry_lt := by
      intro entry hentry
      rcases List.mem_append.1 hentry with hentry | hentry
      · have := s.entry_lt entry hentry
        omega
      · have := hentries entry hentry
        omega
    pk_nodup := by
      rw [List.map_append, List.nodup_append]
      refine ⟨s.pk_nodup, List.nodup_singleton _, ?_⟩
      rintro pk hpk _ hnew rfl
      obtain ⟨other, hother, rfl⟩ := List.mem_map.1 hpk
      have hsame : other.pk = row.pk := by simpa using hnew
      have := s.row_lt other hother
      omega }

def Scheduler.enqueue (s : Scheduler) (fault : Option EnqueueFault) (job : EnqueuedSyncJob) : PostOutcome :=
  if hfits : job.name.length ≤ 200 then
    match fault with
    | some .beforeRow => ⟨s, none, .serverError⟩
    | some .beforeEntry => ⟨s.insert (job.row hfits s.nextPk false) [] rfl (List.forall_mem_nil _), some s.nextPk, .serverError⟩
    | some .beforeParams =>
      ⟨s.insert (job.row hfits s.nextPk false) [job.entry s.nextPk] rfl (job_entry job s.nextPk), some s.nextPk, .serverError⟩
    | none => ⟨s.insert (job.row hfits s.nextPk true) [job.entry s.nextPk] rfl (job_entry job s.nextPk),
        some s.nextPk, .jobList⟩
  else ⟨s, none, .serverError⟩

/-- What a post meets: the tables, the clock, what the user may see, and where enqueueing raises. -/
structure Circumstances where
  tables : ScheduleTables
  now : Nat
  canView : JobRow → Bool
  fault : Option EnqueueFault

structure SchedulePost where
  cancelJob : Option String
  editJobId : Option String
  form : ScheduleSyncPost

def submitSchedule (c : Circumstances) (s : Scheduler) (form : ScheduleSyncPost) : PostOutcome :=
  match form.cleaned c.tables c.now with
  | .error _ => ⟨s, none, .page (form.errors c.tables c.now)⟩
  | .ok cleaned =>
    match enqueueProxboxSyncFromValidForm c.tables cleaned with
    | none => ⟨s, none, .serverError⟩
    | some job => s.enqueue c.fault job

/-- `ScheduleSyncView.post`. A key that is no integer raises in the lookup; one that finds no visible row is
passed over. -/
def postSchedule (c : Circumstances) (s : Scheduler) (request : SchedulePost) : PostOutcome :=
  if request.cancelJob.getD "" ≠ "" then
    match intLiteral (request.cancelJob.getD "") with
    | none => ⟨s, none, .serverError⟩
    | some pk => ⟨s.cancelJob c.canView c.now pk, none, .scheduleList⟩
  else if request.editJobId.getD "" ≠ "" then
    match intLiteral (request.editJobId.getD "") with
    | none => ⟨s, none, .serverError⟩
    | some pk => submitSchedule c (s.cancelJob c.canView c.now pk) request.form
  else submitSchedule c s request.form

/-! ### The cancel view of a job -/

/-- What `stop_rq_job` answers: it raised, or it reports whether it stopped the job. -/
abbrev StopReply := Option Bool

def setStatus (pk : Int) (status : RqStatus) (entry : RqEntry) : RqEntry :=
  if entry.job = pk then { entry with status } else entry

variable (first second : StopReply) (queue : List RqEntry)

/-- `cancel_rq_job_for_netbox_job` on the queue: stop the job, else cancel its entry while it waits, else stop
it once more. -/
def cancelRqJobForNetboxJob (pk : Int) : List RqEntry :=
  if first = some true then queue.map (setStatus pk .stopped)
  else match queue.find? (·.job = pk) with
    | none => queue
    | some entry => match entry.status with
      | .queued | .deferred | .scheduled => queue.map (setStatus pk .canceled)
      | .started => if second = some true then queue.map (setStatus pk .stopped) else queue
      | _ => queue

/-! ### What the steps change -/

section Steps

variable {s : Scheduler} {canView : JobRow → Bool} {now : Nat} {pk other : Int} {c : Circumstances}

theorem isOpen_cancelJob_iff :
    (s.cancelJob canView now pk).IsOpen other ↔
      ∃ row ∈ s.rows, row.pk = other ∧ row.status.isEnqueued = true ∧ cancellable canView pk row = false := by
  constructor
  · rintro ⟨row, hrow, hpk, hopen⟩
    obtain ⟨old, hold, rfl⟩ := List.mem_map.1 hrow
    rw [pk_cancelRow] at hpk
    cases hcancel : cancellable canView pk old with
    | true =>
      rw [cancelRow, if_pos hcancel] at hopen
      cases hopen
    | false =>
      rw [cancelRow, if_neg (by simp [hcancel])] at hopen
      exact ⟨old, hold, hpk, hopen, hcancel⟩
  · rintro ⟨row, hrow, hpk, hopen, hcancel⟩
    have hkept : cancelRow canView now pk row = row := if_neg (by simp [hcancel])
    exact ⟨row, List.mem_map.2 ⟨row, hrow, hkept⟩, hpk, hopen⟩

/-- The jobs that were there are as open and as queued as before. -/
structure SameOld (s t : Scheduler) : Prop where
  isOpen : ∀ pk < s.nextPk, t.IsOpen pk ↔ s.IsOpen pk
  holds : ∀ pk < s.nextPk, t.Holds pk ↔ s.Holds pk
  nextPk : s.nextPk ≤ t.nextPk

theorem SameOld.refl (s : Scheduler) : SameOld s s := ⟨fun _ _ => Iff.rfl, fun _ _ => Iff.rfl, le_rfl⟩

variable {entries : List RqEntry}

theorem sameOld_insert {row : JobRow} (hrow : row.pk = s.nextPk)
    (hentries : ∀ entry ∈ entries, entry.job = s.nextPk) : SameOld s (s.insert row entries hrow hentries) := by
  refine ⟨fun pk hpk => ⟨?_, ?_⟩, fun pk hpk => ⟨?_, ?_⟩, ?_⟩
  · rintro ⟨stored, hstored, rfl, hopen⟩
    rcases List.mem_append.1 hstored with hstored | hstored
    · exact ⟨stored, hstored, rfl, hopen⟩
    · rw [List.mem_singleton.1 hstored, hrow] at hpk
      exact absurd hpk (lt_irrefl _)
  · rintro ⟨stored, hstored, hsame, hopen⟩
    exact ⟨stored, List.mem_append_left _ hstored, hsame, hopen⟩
  · rintro ⟨entry, hentry, rfl, hlive⟩
    rcases List.mem_append.1 hentry with hentry | hentry
    · exact ⟨entry, hentry, rfl, hlive⟩
    · rw [hentries entry hentry] at hpk
      exact absurd hpk (lt_irrefl _)
  · rintro ⟨entry, hentry, hsame, hlive⟩
    exact ⟨entry, List.mem_append_left _ hentry, hsame, hlive⟩
  · exact Int.le_of_lt (Int.lt_succ _)

theorem holds_insert_iff {row : JobRow} (hrow : row.pk = s.nextPk)
    (hentries : ∀ entry ∈ entries, entry.job = s.nextPk) :
    (s.insert row entries hrow hentries).Holds s.nextPk ↔ ∃ entry ∈ entries, entry.status.isLive = true := by
  constructor
  · rintro ⟨entry, hentry, hpk, hlive⟩
    rcases List.mem_append.1 hentry with hentry | hentry
    · exact absurd hpk (s.entry_lt entry hentry).ne
    · exact ⟨entry, hentry, hlive⟩
  · rintro ⟨entry, hentry, hlive⟩
    exact ⟨entry, List.mem_append_right _ hentry, hentries entry hentry, hlive⟩

theorem isLive_entry (pk : Int) : (job.entry pk).status.isLive = true := by
  unfold EnqueuedSyncJob.entry
  dsimp only
  split_ifs <;> rfl

theorem isEnqueued_row (hfits : job.name.length ≤ 200) (pk : Int) (persisted : Bool) :
    (job.row hfits pk persisted).status.isEnqueued = true := by
  unfold EnqueuedSyncJob.row
  dsimp only
  split_ifs <;> rfl

def Enqueued (fault : Option EnqueueFault) : Prop := fault ≠ some .beforeRow ∧ fault ≠ some .beforeEntry

theorem enqueue_spec (s : Scheduler) {job : EnqueuedSyncJob} (hfits : job.name.length ≤ 200) (fault : Option EnqueueFault) :
    SameOld s (s.enqueue fault job).after ∧
      ((∃ new ∈ (s.enqueue fault job).created, (s.enqueue fault job).after.Active new) ↔ Enqueued fault) := by
  -- The row is stored with its entry, with or without the parameters.
  have hstored (persisted : Bool) :
      (s.insert (job.row hfits s.nextPk persisted) [job.entry s.nextPk] rfl (job_entry job s.nextPk)).Active s.nextPk :=
    ⟨⟨job.row hfits s.nextPk persisted, List.mem_append_right _ (List.mem_singleton_self _), rfl, isEnqueued_row job hfits _ _⟩,
      (holds_insert_iff rfl (job_entry job s.nextPk)).2 ⟨_, List.mem_singleton_self _, isLive_entry job s.nextPk⟩⟩
  unfold Scheduler.enqueue Enqueued
  rw [dif_pos hfits]
  rcases fault with _ | fault
  · exact ⟨sameOld_insert rfl (job_entry job s.nextPk), iff_of_true ⟨s.nextPk, rfl, hstored true⟩ (by simp)⟩
  · cases fault with
    | beforeRow =>
      refine ⟨SameOld.refl s, iff_of_false ?_ (by simp)⟩
      rintro ⟨new, hnew, -⟩
      cases hnew
    | beforeEntry =>
      refine ⟨sameOld_insert rfl (List.forall_mem_nil _), iff_of_false ?_ (by simp)⟩
      rintro ⟨new, hnew, -, hholds⟩
      obtain rfl : s.nextPk = new := Option.some.inj hnew
      obtain ⟨entry, hentry, -⟩ := (holds_insert_iff rfl (List.forall_mem_nil _)).1 hholds
      cases hentry
    | beforeParams => exact ⟨sameOld_insert rfl (job_entry job s.nextPk), iff_of_true ⟨s.nextPk, rfl, hstored false⟩ (by simp)⟩

theorem length_of_jobNameField {text name : String} (h : jobNameField text = .ok name) : name.length ≤ 200 := by
  unfold jobNameField at h
  split_ifs at h with hlong
  obtain rfl := Except.ok.inj h
  exact Nat.le_of_not_lt hlong

theorem pks_of_endpointsField {offered pks : List Int} {posted : List (Option Int)}
    (h : endpointsField offered posted = .ok pks) :
    ∃ chosen : Int → Bool, offered.filter chosen = pks := by
  unfold endpointsField at h
  split_ifs at h
  exact ⟨_, Except.ok.inj h⟩

theorem enqueueProxboxSyncFromValidForm_of_cleaned {form : ScheduleSyncPost} {tables : ScheduleTables}
    {cleaned : ScheduleSyncCleaned} (h : form.cleaned tables now = .ok cleaned) :
    ∃ job, enqueueProxboxSyncFromValidForm tables cleaned = some job ∧ job.name.length ≤ 200 := by
  obtain ⟨name, hname, h⟩ := bind_eq_ok.1 h
  obtain ⟨types, -, h⟩ := bind_eq_ok.1 h
  obtain ⟨pks, hpks, h⟩ := bind_eq_ok.1 h
  obtain ⟨netbox, -, h⟩ := bind_eq_ok.1 h
  obtain ⟨time, -, h⟩ := bind_eq_ok.1 h
  obtain ⟨value, -, h⟩ := bind_eq_ok.1 h
  obtain ⟨unit, -, h⟩ := bind_eq_ok.1 h
  obtain ⟨_, -, h⟩ := bind_eq_ok.1 h
  obtain rfl := Except.ok.inj h
  have hkeys : ∀ pk ∈ pks, IsKey pk := by
    intro pk hpk
    obtain ⟨posted, rfl⟩ := pks_of_endpointsField hpks
    exact isKey_enabledPks pk (List.mem_of_mem_filter hpk)
  have hlength := length_of_jobNameField hname
  dsimp only [enqueueProxboxSyncFromValidForm]
  rw [readPks_toString hkeys]
  refine ⟨_, rfl, ?_⟩
  dsimp only [enqueueProxboxSyncJob]
  split_ifs
  · exact by decide
  · exact hlength

theorem submitSchedule_spec (c : Circumstances) (s : Scheduler) (form : ScheduleSyncPost) :
    SameOld s (submitSchedule c s form).after ∧
      ((∃ new ∈ (submitSchedule c s form).created, (submitSchedule c s form).after.Active new) ↔
        (∃ cleaned, form.cleaned c.tables c.now = .ok cleaned) ∧ Enqueued c.fault) := by
  unfold submitSchedule
  cases hform : form.cleaned c.tables c.now with
  | error error =>
    refine ⟨SameOld.refl s, iff_of_false ?_ ?_⟩
    · rintro ⟨new, hnew, -⟩
      cases hnew
    · rintro ⟨⟨cleaned, hcleaned⟩, -⟩
      cases hcleaned
  | ok cleaned =>
    obtain ⟨job, hjob, hfits⟩ := enqueueProxboxSyncFromValidForm_of_cleaned hform
    obtain ⟨hold, hnew⟩ := enqueue_spec s hfits c.fault
    dsimp only
    rw [hjob]
    exact ⟨hold, hnew.trans (and_iff_right ⟨cleaned, rfl⟩).symm⟩

end Steps

/-! ### Replacing a schedule -/

structure EditPost extends SchedulePost where
  noCancel : cancelJob.getD "" = ""
  named : editJobId.getD "" ≠ ""

def EditPost.old (request : EditPost) (s : Scheduler) : Option Int :=
  (intLiteral (request.editJobId.getD "")).filter fun pk => s.rows.any (·.pk = pk)

/-- The old schedule is cancelled only for a new one, and one of the two is active. -/
structure Replaced (s : Scheduler) (old : Option Int) (outcome : PostOutcome) : Prop where
  cancelled : (∃ pk ∈ old, s.IsOpen pk ∧ ¬ outcome.after.IsOpen pk) → ∃ new ∈ outcome.created, outcome.after.Active new
  one : Xor (∃ pk ∈ old, outcome.after.Active pk) (∃ new ∈ outcome.created, outcome.after.Active new)

/-- The post names a job by its key, the form is valid, and neither storing the row nor its entry fails. -/
def Enqueues (c : Circumstances) (request : EditPost) : Prop :=
  (∃ pk, intLiteral (request.editJobId.getD "") = some pk) ∧ (∃ cleaned, request.form.cleaned c.tables c.now = .ok cleaned) ∧
    Enqueued c.fault

/-- The old schedule is active and the post cannot cancel it: the user does not see it, or it is not one of this
plugin. -/
def OutOfReach (c : Circumstances) (s : Scheduler) (request : EditPost) : Prop :=
  ∃ row ∈ s.rows, intLiteral (request.editJobId.getD "") = some row.pk ∧ row.status.isEnqueued = true ∧ s.Holds row.pk ∧
    ¬ (c.canView row = true ∧ isProxboxSyncJob row.stored = true)

section Edits

variable {c : Circumstances} {s : Scheduler} {request : EditPost} {pk : Int}

theorem postSchedule_edit (c : Circumstances) (s : Scheduler) (hpk : intLiteral (request.editJobId.getD "") = some pk) :
    postSchedule c s request.toSchedulePost = submitSchedule c (s.cancelJob c.canView c.now pk) request.form := by
  rw [postSchedule, if_neg (not_not.2 request.noCancel), if_pos request.named, hpk]

theorem old_eq_some_iff : request.old s = some pk ↔ intLiteral (request.editJobId.getD "") = some pk ∧ ∃ row ∈ s.rows,
    row.pk = pk := by
  rw [EditPost.old, Option.filter_eq_some_iff, List.any_eq_true]
  simp

theorem isOpen_cancelJob_self_iff : (s.cancelJob c.canView c.now pk).IsOpen pk ↔
    ∃ row ∈ s.rows, row.pk = pk ∧ row.status.isEnqueued = true ∧
      ¬ (c.canView row = true ∧ isProxboxSyncJob row.stored = true) := by
  rw [isOpen_cancelJob_iff]
  refine exists_congr fun row => and_congr_right fun _ => and_congr_right fun hpk => and_congr_right fun hopen => ?_
  simp [cancellable, hpk, hopen]

theorem old_active_iff : (∃ pk ∈ request.old s, (postSchedule c s request.toSchedulePost).after.Active pk) ↔
    OutOfReach c s request := by
  have hactive {pk : Int} (hpk : intLiteral (request.editJobId.getD "") = some pk) (hlt : pk < s.nextPk) :
      (postSchedule c s request.toSchedulePost).after.Active pk ↔ (s.cancelJob c.canView c.now pk).IsOpen pk ∧ s.Holds pk := by
    rw [postSchedule_edit c s hpk]
    have hold := (submitSchedule_spec c (s.cancelJob c.canView c.now pk) request.form).1
    exact and_congr (hold.isOpen pk hlt) (hold.holds pk hlt)
  constructor
  · rintro ⟨pk, hold, h⟩
    obtain ⟨hpk, row, hrow, rfl⟩ := old_eq_some_iff.1 hold
    obtain ⟨hopen, hholds⟩ := (hactive hpk (s.row_lt row hrow)).1 h
    obtain ⟨kept, hkept, hsame, hstatus, hreach⟩ := isOpen_cancelJob_self_iff.1 hopen
    exact ⟨kept, hkept, hsame.symm ▸ hpk, hstatus, hsame.symm ▸ hholds, hreach⟩
  · rintro ⟨row, hrow, hpk, hstatus, hholds, hreach⟩
    refine ⟨row.pk, old_eq_some_iff.2 ⟨hpk, row, hrow, rfl⟩, (hactive hpk (s.row_lt row hrow)).2 ⟨?_, hholds⟩⟩
    exact isOpen_cancelJob_self_iff.2 ⟨row, hrow, rfl, hstatus, hreach⟩

theorem new_active_iff :
    (∃ new ∈ (postSchedule c s request.toSchedulePost).created, (postSchedule c s request.toSchedulePost).after.Active new) ↔
      Enqueues c request := by
  cases hpk : intLiteral (request.editJobId.getD "") with
  | none =>
    have hpost : postSchedule c s request.toSchedulePost = ⟨s, none, .serverError⟩ := by
      rw [postSchedule, if_neg (not_not.2 request.noCancel), if_pos request.named, hpk]
    rw [hpost, Enqueues, hpk]
    simp
  | some pk =>
    rw [postSchedule_edit c s hpk, (submitSchedule_spec c _ request.form).2, Enqueues, hpk]
    exact (and_iff_right ⟨pk, rfl⟩).symm

theorem not_outOfReach_of_cancelled (hold : pk ∈ request.old s)
    (hclosed : ¬ (postSchedule c s request.toSchedulePost).after.IsOpen pk) : ¬ OutOfReach c s request := by
  intro hreach
  obtain ⟨other, hother, hactive⟩ := old_active_iff.2 hreach
  obtain rfl : pk = other := Option.some.inj (hold.symm.trans hother)
  exact hclosed hactive.1

end Edits

def emptyForm : ScheduleSyncPost :=
  { jobName := "", syncTypes := [], proxmoxEndpoints := [], netboxEndpoints := [], scheduleAt := .blank, intervalValue := .blank
    intervalUnit := .blank }

def hourlyRow : JobRow :=
  { pk := 7, status := .scheduled, error := "", completed := none, stored := everyNinetyMinutes.toStoredJob }

def oneSchedule : Scheduler :=
  { rows := [hourlyRow]
    queue := [⟨7, .scheduled⟩]
    nextPk := 8
    row_lt := by decide
    entry_lt := by decide
    pk_nodup := by decide }

def viewsAll : Circumstances := { tables := secondDisabled, now := 0, canView := fun _ => true, fault := none }

def editOfSeven : EditPost where
  cancelJob := none
  editJobId := some "7"
  form := emptyForm
  noCancel := rfl
  named := by decide

def SchedulePost.target (request : SchedulePost) : Option Int :=
  if request.cancelJob.getD "" ≠ "" then intLiteral (request.cancelJob.getD "")
  else if request.editJobId.getD "" ≠ "" then intLiteral (request.editJobId.getD "")
  else none

def Scheduler.cancelTarget (s : Scheduler) (c : Circumstances) (target : Option Int) : Scheduler :=
  target.elim s (s.cancelJob c.canView c.now)

section Cancelled

variable {c : Circumstances} {s t : Scheduler} {request : SchedulePost} {pk : Int}

theorem sameOld_postSchedule (c : Circumstances) (s : Scheduler) (request : SchedulePost) :
    SameOld (s.cancelTarget c request.target) (postSchedule c s request).after := by
  unfold postSchedule SchedulePost.target
  split_ifs
  · cases intLiteral (request.cancelJob.getD "") with
    | none => exact SameOld.refl s
    | some pk => exact SameOld.refl _
  · cases intLiteral (request.editJobId.getD "") with
    | none => exact SameOld.refl s
    | some pk => exact (submitSchedule_spec c (s.cancelJob c.canView c.now pk) request.form).1
  · exact (submitSchedule_spec c s request.form).1

theorem nextPk_cancelTarget (target : Option Int) : (s.cancelTarget c target).nextPk = s.nextPk := by cases target <;> rfl

theorem holds_cancelTarget_iff (target : Option Int) : (s.cancelTarget c target).Holds pk ↔ s.Holds pk := by
    cases target <;> rfl

theorem holds_postSchedule_iff (h : pk < s.nextPk) : (postSchedule c s request).after.Holds pk ↔ s.Holds pk := by
  rw [(sameOld_postSchedule c s request).holds pk (by rwa [nextPk_cancelTarget]), holds_cancelTarget_iff]

theorem nextPk_postSchedule : s.nextPk ≤ (postSchedule c s request).after.nextPk := by
  have hnext := (sameOld_postSchedule c s request).nextPk
  rwa [nextPk_cancelTarget] at hnext

theorem Scheduler.eq_of_pk_eq {left right : JobRow} (hleft : left ∈ s.rows) (hright : right ∈ s.rows)
    (h : left.pk = right.pk) : left = right :=
  List.inj_on_of_nodup_map s.pk_nodup hleft hright h

/-- The schedules that a post cancels. -/
theorem cancelled_iff : (s.IsOpen pk ∧ ¬ (postSchedule c s request).after.IsOpen pk) ↔
    ∃ row ∈ s.rows, row.pk = pk ∧ request.target = some pk ∧ cancellable c.canView pk row = true := by
  constructor
  · rintro ⟨⟨row, hrow, rfl, hopen⟩, hclosed⟩
    have hlt : row.pk < (s.cancelTarget c request.target).nextPk := by
      rw [nextPk_cancelTarget]
      exact s.row_lt row hrow
    rw [(sameOld_postSchedule c s request).isOpen _ hlt] at hclosed
    refine ⟨row, hrow, rfl, ?_⟩
    cases htarget : request.target with
    | none =>
      rw [htarget] at hclosed
      exact absurd ⟨row, hrow, rfl, hopen⟩ hclosed
    | some target =>
      rw [htarget] at hclosed
      by_cases hcancel : cancellable c.canView target row = true
      · obtain rfl : row.pk = target := by
          unfold cancellable at hcancel
          simp only [Bool.and_eq_true, decide_eq_true_eq] at hcancel
          exact hcancel.1.1.1
        exact ⟨rfl, hcancel⟩
      · exact absurd (isOpen_cancelJob_iff.2 ⟨row, hrow, rfl, hopen, by simpa using hcancel⟩) hclosed
  · rintro ⟨row, hrow, rfl, htarget, hcancel⟩
    have hopen : row.status.isEnqueued = true := by
      unfold cancellable at hcancel
      simp only [Bool.and_eq_true] at hcancel
      exact hcancel.2
    have hlt : row.pk < (s.cancelTarget c request.target).nextPk := by
      rw [nextPk_cancelTarget]
      exact s.row_lt row hrow
    refine ⟨⟨row, hrow, rfl, hopen⟩, ?_⟩
    rw [(sameOld_postSchedule c s request).isOpen _ hlt, htarget]
    intro h
    obtain ⟨kept, hkept, hsame, -, hother⟩ := isOpen_cancelJob_iff.1 h
    rw [s.eq_of_pk_eq hkept hrow hsame, hcancel] at hother
    cases hother

end Cancelled

/-! ### Runs of the system -/

section Runs

variable {s t : Scheduler} {executed : List Int} {pk other : Int}

theorem job_setStatus (pk : Int) (status : RqStatus) (entry : RqEntry) : (setStatus pk status entry).job = entry.job := by
  unfold setStatus
  split_ifs <;> rfl

theorem cancelRqJob_cases (pk : Int) :
    cancelRqJobForNetboxJob first second queue pk = queue ∨
      ∃ status : RqStatus, status.isLive = false ∧ cancelRqJobForNetboxJob first second queue pk =
        queue.map (setStatus pk status) := by
  unfold cancelRqJobForNetboxJob
  by_cases hfirst : first = some true
  · exact .inr ⟨.stopped, rfl, if_pos hfirst⟩
  · rw [if_neg hfirst]
    split
    · exact .inl rfl
    · split
      · exact .inr ⟨.canceled, rfl, rfl⟩
      · exact .inr ⟨.canceled, rfl, rfl⟩
      · exact .inr ⟨.canceled, rfl, rfl⟩
      · by_cases hsecond : second = some true
        · exact .inr ⟨.stopped, rfl, if_pos hsecond⟩
        · exact .inl (if_neg hsecond)
      · exact .inl rfl

def Ends (before after : List RqEntry) : Prop :=
  ∀ entry ∈ after, ∃ old ∈ before, old.job = entry.job ∧ (entry.status.isLive = true → old.status.isLive = true)

theorem ends_map_setStatus {status : RqStatus} (h : status.isLive = false) (queue : List RqEntry) (pk : Int) :
    Ends queue (queue.map (setStatus pk status)) := by
  intro entry hentry
  obtain ⟨old, hold, rfl⟩ := List.mem_map.1 hentry
  refine ⟨old, hold, (job_setStatus pk status old).symm, fun hlive => ?_⟩
  unfold setStatus at hlive
  split_ifs at hlive
  · rw [h] at hlive
    cases hlive
  · exact hlive

theorem ends_cancelRqJob (pk : Int) :
    Ends queue (cancelRqJobForNetboxJob first second queue pk) := by
  rcases cancelRqJob_cases first second queue pk with hsame | ⟨status, hended, hmap⟩
  · rw [hsame]
    exact fun entry hentry => ⟨entry, hentry, rfl, id⟩
  · rw [hmap]
    exact ends_map_setStatus hended queue pk

def Scheduler.withQueue (s : Scheduler) (queue : List RqEntry) (h : Ends s.queue queue) : Scheduler :=
  { s with
    queue
    entry_lt := by
      intro entry hentry
      obtain ⟨old, hold, hjob, -⟩ := h entry hentry
      exact hjob ▸ s.entry_lt old hold }

theorem holds_of_withQueue {queue : List RqEntry} {h : Ends s.queue queue} (hholds : (s.withQueue queue h).Holds pk) :
    s.Holds pk := by
  obtain ⟨entry, hentry, rfl, hlive⟩ := hholds
  obtain ⟨old, hold, hjob, hold'⟩ := h entry hentry
  exact ⟨old, hold, hjob, hold' hlive⟩

/-- A post to the scheduling page, the cancel view of a job on the queue, or a worker that executes an entry.
The list has the executed jobs. -/
inductive SchedulerStep : Scheduler → List Int → Scheduler → Prop
  | post (c : Circumstances) (s : Scheduler) (request : SchedulePost) : SchedulerStep s [] (postSchedule c s request).after
  | jobCancel (s : Scheduler) (first second : StopReply) (pk : Int) :
      SchedulerStep s [] (s.withQueue _ (ends_cancelRqJob first second s.queue pk))
  | work (s : Scheduler) (pk : Int) : s.Holds pk →
      SchedulerStep s [pk] (s.withQueue _ (ends_map_setStatus (rfl : RqStatus.finished.isLive = false) s.queue pk))

inductive SchedulerRun : Scheduler → List Int → Scheduler → Prop
  | nil (s : Scheduler) : SchedulerRun s [] s
  | cons {s t u : Scheduler} {executed later : List Int} :
      SchedulerStep s executed t → SchedulerRun t later u → SchedulerRun s (executed ++ later) u

theorem SchedulerStep.holds (h : SchedulerStep s executed t) : s.nextPk ≤ t.nextPk ∧ ∀ pk < s.nextPk, t.Holds pk →
    s.Holds pk := by
  cases h with
  | post c s request => exact ⟨nextPk_postSchedule, fun pk hpk => (holds_postSchedule_iff hpk).1⟩
  | jobCancel s first second pk => exact ⟨le_rfl, fun pk _ => holds_of_withQueue⟩
  | work s pk _ => exact ⟨le_rfl, fun pk _ => holds_of_withQueue⟩

theorem SchedulerRun.holds (h : SchedulerRun s executed t) : ∀ pk ∈ executed, pk < s.nextPk → s.Holds pk := by
  induction h with
  | nil s => exact fun pk hpk => absurd hpk List.not_mem_nil
  | @cons s t u now later hstep _ ih =>
    intro pk hpk hlt
    obtain ⟨hnext, hholds⟩ := hstep.holds
    rcases List.mem_append.1 hpk with hnow | hlater
    · cases hstep with
      | post => cases hnow
      | jobCancel => cases hnow
      | work s job hjob => exact List.mem_singleton.1 hnow ▸ hjob
    · exact hholds pk hlt (ih pk hlater (hlt.trans_le hnext))

theorem run_of_holds (h : s.Holds pk) : ∃ t, SchedulerRun s [pk] t := ⟨_, .cons (.work s pk h) (.nil _)⟩

end Runs

def cancelOfSeven : SchedulePost := { cancelJob := some "7", editJobId := none, form := emptyForm }

end Proxbox
