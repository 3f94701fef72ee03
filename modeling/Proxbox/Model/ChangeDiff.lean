import Proxbox.Model.Inventory
/-!
# Change diffs and branches

A `ChangeDiff` row of a branch records one changed object: which object it is, the action, and the
recorded JSON states. The generic relation of a row loads an object of the row's own model, so the
model and the object are one value here, `ChangedObject`.
-/

namespace Proxbox

open Python

/-- The changed object of a row, `none` once it is gone. A row of a model outside the intent path is `other`. -/
inductive ChangedObject where
  | virtualMachine (object : Option VirtualMachine)
  | vmIntent (object : Option ProxmoxVMIntent)
  | firewall (model : FirewallModel) (object : Option FirewallObject)
      (hmodel : ∀ obj, object = some obj → obj.model = model)
  | other

/-- A `ChangeDiff` row. The JSON columns are null when nothing was recorded. -/
structure ChangeDiff where
  pk : Option Int
  object : ChangedObject
  objectId : Option Int
  objectRepr : Option String
  action : Option String
  original : Json
  modified : Json
  current : Json
  prechangeData : Json
  postchangeData : Json

/-- A branch. `changediff_set` is absent when the branching plugin does not provide it. -/
structure Branch where
  pk : Option Int
  schemaId : String
  name : String
  changediffSet : Option (List ChangeDiff)

def Branch.rows (branch : Branch) : List ChangeDiff := branch.changediffSet.getD []

/-- The core and plugin tables the diff readers fall back to, by primary key. -/
structure Tables where
  virtualMachine : Int → Option VirtualMachine
  vmIntent : Int → Option ProxmoxVMIntent
  virtualMachine_pk : ∀ pk vm, virtualMachine pk = some vm → vm.pk = pk

inductive Op where
  | create
  | update
  | delete
  deriving DecidableEq

def Op.text : Op → String
  | .create => "create"
  | .update => "update"
  | .delete => "delete"

def Op.ofText? (text : String) : Option Op :=
  if text = "create" then some .create
  else if text = "update" then some .update
  else if text = "delete" then some .delete
  else none

@[simp] theorem Op.ofText?_text (op : Op) : Op.ofText? op.text = some op := by
  cases op <;> decide

theorem Op.lower_text (op : Op) : lower op.text = op.text := by
  cases op <;> decide

def ChangeDiff.actionText (row : ChangeDiff) : String := lower (row.action.getD "")

end Proxbox
