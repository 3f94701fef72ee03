import Proxbox.Library.Json
import Proxbox.Library.JsonText
/-!
# Frames between the plugin and the backend

The sync kinds with their commands, what the plugin reads out of a frame it receives, and the texts it writes: the
envelope of a correlated command and the control messages it puts into its own message buffer.
-/

namespace Proxbox.WebSocket

open Python

/-! ### Kinds and commands -/

inductive Kind where
  | fullUpdate
  | devices
  | virtualMachines
  deriving DecidableEq

def Kind.all : List Kind := [.fullUpdate, .devices, .virtualMachines]

variable (kind : Kind)

@[simp] theorem Kind.mem_all : kind ∈ Kind.all := by cases kind <;> decide

def Kind.name : Kind → String
  | .fullUpdate => "full-update"
  | .devices => "devices"
  | .virtualMachines => "virtual-machines"

def Kind.command : Kind → String
  | .fullUpdate => "Full Update"
  | .devices => "Sync Nodes"
  | .virtualMachines => "Sync Virtual Machines"

def Kind.ofName (message : String) : Option Kind := Kind.all.find? fun kind => kind.name = message

def commandToKind (command : String) : Option Kind := Kind.all.find? fun kind => kind.command = command

@[simp] theorem commandToKind_command : commandToKind kind.command = some kind := by
  cases kind <;> decide

def endObjectToButton (object : String) : Option Kind :=
  if object = "device" then some .devices
  else if object = "virtual_machine" then some .virtualMachines
  else if object = "full-update" then some .fullUpdate
  else none

structure QueuedCommand where
  endpointId : Int
  identity : String
  command : String
  runId : Option String
  connectionId : Option String
  /-- The number of the post that queued the command. It is for the statements about the code, which has no such
  field. -/
  run : Nat
  deriving DecidableEq

def QueuedCommand.worker (queued : QueuedCommand) : Int × String := (queued.endpointId, queued.identity)

/-! ### Received frames -/

/-- What `json.loads` makes of a frame. It may also raise what `_message_payload` does not catch. -/
inductive Loaded where
  | json (value : Json)
  | invalid
  | raises

structure Frame where
  text : String
  loaded : Loaded

/-- `_message_payload`, `None` unless the frame is a JSON object. -/
def Frame.payload (frame : Frame) : Option Fields :=
  match frame.loaded with
  | .json (.obj fields) => some fields
  | _ => none

def isRunIdChar (c : Char) : Bool := c.isAlphanum || c = '_' || c = '-'

def validRunId : Json → Option String
  | .str s => if s.toList.all isRunIdChar ∧ 8 ≤ s.length ∧ s.length ≤ 64 then some s else none
  | _ => none

/-- Whether there is a run id, and its value if it is a valid one. -/
def payloadRunId (payload : Option Fields) : Bool × Option String :=
  match payload.bind (List.lookup "run_id") with
  | none => (false, none)
  | some value => (true, validRunId value)

def isTrue : Json → Bool
  | .bool b => b
  | _ => false

def endedStatus : Json → Bool
  | .str status => status = "completed" || status = "failed"
  | _ => false

variable (fields : Fields)

def isFullUpdate : Bool := (Fields.get fields "object").eq (.str "full-update")

def protocolPayloadIsMalformed (payload : Option Fields) : Bool :=
  let (present, runId) := payloadRunId payload
  if present && runId.isNone then true
  else match payload with
    | none => false
    | some fields =>
      if isFullUpdate fields && isTrue (Fields.get fields "end") then
        !endedStatus (Fields.get fields "status")
      else false

def candidateButtons : List Kind :=
  match endObjectToButton ((Fields.get fields "object").or (.str "")).text with
  | none => []
  | some .virtualMachines => [.virtualMachines, .fullUpdate]
  | some button => [button]

/-- `_run_matches_button`, for a button whose run id is `expected`. -/
def runMatchesButton (button : Kind) (expected : Option String) : Bool :=
  let (present, observed) := payloadRunId (some fields)
  if present && observed.isNone then false
  else if expected.isNone && !present then true
  else if expected.isNone || observed ≠ expected then false
  else if button ≠ .fullUpdate then true
  else if !isFullUpdate fields then false
  else endedStatus (Fields.get fields "status")

def invalidCommandMessage : String := "Invalid sync command"

def isInvalidCommandFrame (frame : Frame) (pending : QueuedCommand) : Bool :=
  if frame.text = invalidCommandMessage then true
  else match frame.payload with
    | none => false
    | some fields =>
      let (present, runId) := payloadRunId frame.payload
      (Fields.get fields "message").eq (.str invalidCommandMessage) && present && runId = pending.runId

/-! ### Written texts -/

/-- The legacy frame is the bare command; this is the frame that carries the run id beside it. -/
def envelope (command runId : String) : String := dumpsItems [("command", .str command), ("run_id", .str runId)]

def trustFailureMessage : String := "WebSocket endpoint trust changed before transmission."

def trustFailure (runId : Option String) : String :=
  dumpsItems
    ([("object", .str "sync-run"), ("end", .bool true), ("status", .str "failed"), ("kind", .str kind.name),
      ("error", .str trustFailureMessage)] ++ (runId.map fun runId => ("run_id", Scalar.str runId)).toList)

/-- The control message that tells pollers of a run that it goes on without its run id. -/
def runModeControl (runId : String) : String :=
  dumpsItems [("object", .str "sync-run"), ("run_id", .str runId), ("correlated", .bool false)]

/-! ### What releases a correlated run -/

/-- The terminal carries exactly the run id, and for a full update it is the aggregate one. -/
structure IsTerminalOf (fields : Fields) (kind : Kind) (runId : String) : Prop where
  ended : isTrue (Fields.get fields "end") = true
  run : payloadRunId (some fields) = (true, some runId)
  button : kind ∈ candidateButtons fields
  aggregate : kind = .fullUpdate →
    isFullUpdate fields = true ∧ endedStatus (Fields.get fields "status") = true

theorem runMatchesButton_correlated {fields : Fields} {button : Kind} {runId : String}
    (hmatches : runMatchesButton fields button (some runId) = true) :
    payloadRunId (some fields) = (true, some runId) ∧
      (button = .fullUpdate → isFullUpdate fields = true ∧ endedStatus (Fields.get fields "status") = true) := by
  unfold runMatchesButton at hmatches
  cases hrun : payloadRunId (some fields) with
  | mk present observed =>
    have hpresent : observed.isSome = true → present = true := by
      have hpair := hrun
      unfold payloadRunId at hpair
      split at hpair <;> simp_all
    simp only [hrun] at hmatches
    split_ifs at hmatches with _ _ hother hbutton hfull <;> simp_all

end Proxbox.WebSocket
