import Proxbox.Intent.VmIdentity
import Proxbox.Library.Dict
/-!
# The union of the two diff streams

A branch changes a guest through the rows of the core virtual machine and through the rows of its
intent. `virtualMachineDiffUnion` merges both streams into one operation per machine, in two passes over
a dictionary with two shapes of key: the machine's primary key, and the position of a deletion whose
machine and row id are both gone.
-/

namespace Proxbox

open Python

def changedVirtualMachine (row : ChangeDiff) : Option VirtualMachine :=
  match row.object with
  | .virtualMachine object => object
  | _ => none

def changedVmIntent (row : ChangeDiff) : Option ProxmoxVMIntent :=
  match row.object with
  | .vmIntent object => object
  | _ => none

def diffAction (row : ChangeDiff) : Option Op := Op.ofText? row.actionText

/-- `_json_vm_id`: the first recorded state that names a machine by an integer. A boolean is not
one. -/
def jsonVmId (row : ChangeDiff) : Option Int :=
  [row.original, row.modified, row.current].findSome? fun data =>
    match Fields.get data.asDict "virtual_machine" with
    | .int n => some n
    | _ => none

variable (tables : Tables)

/-- `intent_diff_virtual_machine_id`: the parent machine of an intent row, from the live object, then
the recorded states, then the stored intent. -/
def intentDiffVirtualMachineId (row : ChangeDiff) : Option Int :=
  ((changedVmIntent row).bind ProxmoxVMIntent.virtualMachineId).or <|
    (jsonVmId row).or <|
      (row.objectId.bind tables.vmIntent).bind ProxmoxVMIntent.virtualMachineId

def vmForVmDiff (row : ChangeDiff) : Option VirtualMachine :=
  (changedVirtualMachine row).or (row.objectId.bind tables.virtualMachine)

variable (vm : Option VirtualMachine)

def virtualMachineDiffId (row : ChangeDiff) : Option Int :=
  (vm.map VirtualMachine.pk).or row.objectId

def virtualMachineDiffName (row : ChangeDiff) : String :=
  let live := (vm.map fun vm => Json.str vm.name).getD .null
  let recorded := [row.original, row.current].map fun data => Fields.get data.asDict "name"
  match (live :: recorded).find? fun value => !value.blank with
  | some value => value.text
  | none => row.objectRepr.getD ""

def vmForIntentDiff (row : ChangeDiff) (virtualMachineId : Int) :
    Option VirtualMachine :=
  ((changedVmIntent row).bind ProxmoxVMIntent.virtualMachine).or
    (tables.virtualMachine virtualMachineId)

variable (branch : Branch)

def coreRows : List ChangeDiff :=
  branch.rows.filter fun row => match row.object with
    | .virtualMachine _ => true
    | _ => false

def intentRows : List ChangeDiff :=
  branch.rows.filter fun row => match row.object with
    | .vmIntent _ => true
    | _ => false

inductive UnionKey where
  | vm (id : Int)
  | deletedDiff (index : Nat)
  deriving DecidableEq

structure UnionEntry where
  vm : Option VirtualMachine
  op : Op
  row : ChangeDiff

def UnionEntry.vmId (entry : UnionEntry) : Option Int := virtualMachineDiffId entry.vm entry.row

variable (resolved : Dict UnionKey UnionEntry) (indexed : ChangeDiff × Nat)

def unionCoreStep :
    Dict UnionKey UnionEntry :=
  let (row, index) := indexed
  match diffAction row with
  | none => resolved
  | some op =>
    let vm := vmForVmDiff tables row
    match virtualMachineDiffId vm row with
    | some id => resolved.setDefault (.vm id) ⟨vm, op, row⟩
    | none =>
      if op = .delete then resolved.setDefault (.deletedDiff index) ⟨vm, op, row⟩ else resolved

def unionIntentStep (row : ChangeDiff) :
    Dict UnionKey UnionEntry :=
  match diffAction row with
  | none => resolved
  | some _ =>
    match intentDiffVirtualMachineId tables row with
    | none => resolved
    | some id =>
      if .vm id ∈ resolved.keys then resolved
      else match vmForIntentDiff tables row id with
        | none => resolved
        | some vm => resolved.set (.vm id) ⟨some vm, .update, row⟩

def unionDict : Dict UnionKey UnionEntry :=
  (intentRows branch).foldl (unionIntentStep tables)
    ((coreRows branch).zipIdx.foldl (unionCoreStep tables) Dict.empty)

def virtualMachineDiffUnion : List UnionEntry :=
  (unionDict tables branch).values

/-! ### What each row offers

Both loops write under a key only while it is free, so a row is described by the item it offers, and the
dictionary holds the first offer for each key. -/

def coreVmId (row : ChangeDiff) : Option Int :=
  virtualMachineDiffId (vmForVmDiff tables row) row

def coreEntry (row : ChangeDiff) : Option UnionEntry :=
  (diffAction row).map fun op => ⟨vmForVmDiff tables row, op, row⟩

def intentEntry (row : ChangeDiff) : Option UnionEntry := do
  let _ ← diffAction row
  let id ← intentDiffVirtualMachineId tables row
  let vm ← vmForIntentDiff tables row id
  return ⟨some vm, .update, row⟩

def coreOffer : Option (UnionKey × UnionEntry) := do
  let entry ← coreEntry tables indexed.1
  match coreVmId tables indexed.1 with
  | some id => return (.vm id, entry)
  | none => if entry.op = .delete then return (.deletedDiff indexed.2, entry) else none

def intentOffer (row : ChangeDiff) : Option (UnionKey × UnionEntry) := do
  let entry ← intentEntry tables row
  let id ← intentDiffVirtualMachineId tables row
  return (.vm id, entry)

theorem unionCoreStep_eq :
    unionCoreStep tables resolved indexed = match coreOffer tables indexed with
      | some item => resolved.setDefault item.1 item.2
      | none => resolved := by
  obtain ⟨row, index⟩ := indexed
  cases haction : diffAction row with
  | none => simp [unionCoreStep, coreOffer, coreEntry, haction]
  | some op =>
    cases hid : virtualMachineDiffId (vmForVmDiff tables row) row with
    | none =>
      by_cases hdelete : op = .delete <;>
        simp [unionCoreStep, coreOffer, coreEntry, coreVmId, haction, hid, hdelete]
    | some id => simp [unionCoreStep, coreOffer, coreEntry, coreVmId, haction, hid]

theorem unionIntentStep_eq (row : ChangeDiff) :
    unionIntentStep tables resolved row = match intentOffer tables row with
      | some item => resolved.setDefault item.1 item.2
      | none => resolved := by
  cases haction : diffAction row with
  | none => simp [unionIntentStep, intentOffer, intentEntry, haction]
  | some op =>
    cases hid : intentDiffVirtualMachineId tables row with
    | none => simp [unionIntentStep, intentOffer, intentEntry, haction, hid]
    | some id =>
      cases hvm : vmForIntentDiff tables row id <;>
        simp [unionIntentStep, intentOffer, intentEntry, haction, hid, hvm, Dict.setDefault]

def unionOffers : List (UnionKey × UnionEntry) :=
  (coreRows branch).zipIdx.filterMap (coreOffer tables)
    ++ (intentRows branch).filterMap (intentOffer tables)

theorem unionDict_eq :
    unionDict tables branch = Dict.ofDefaults (unionOffers tables branch) := by
  rw [Dict.ofDefaults, unionOffers, List.foldl_append, List.foldl_filterMap, List.foldl_filterMap,
    unionDict]
  congr 1
  · funext resolved row
    rw [unionIntentStep_eq]
    cases intentOffer tables row <;> rfl
  · congr 1
    funext resolved indexed
    rw [unionCoreStep_eq]
    cases coreOffer tables indexed <;> rfl

def UnionKey.vmId : UnionKey → Option Int
  | .vm id => some id
  | .deletedDiff _ => none

@[simp] theorem UnionKey.vmId_deletedDiff (index : Nat) : (UnionKey.deletedDiff index).vmId = none := rfl

variable {item : UnionKey × UnionEntry}

theorem coreOffer_eq_some {tables : Tables} {indexed : ChangeDiff × Nat} (h : coreOffer tables indexed = some item) :
    coreEntry tables indexed.1 = some item.2 ∧ item.1.vmId = coreVmId tables indexed.1 := by
  obtain ⟨entry, hentry, h⟩ := Option.bind_eq_some_iff.1 h
  cases hid : coreVmId tables indexed.1 with
  | some id =>
    obtain rfl : (UnionKey.vm id, entry) = item := by simpa [hid] using h
    exact ⟨hentry, rfl⟩
  | none =>
    obtain ⟨-, rfl⟩ : entry.op = .delete ∧ (UnionKey.deletedDiff indexed.2, entry) = item := by
      simpa [hid] using h
    exact ⟨hentry, rfl⟩

theorem coreEntry_eq_some {tables : Tables} {row : ChangeDiff} {entry : UnionEntry}
    (h : coreEntry tables row = some entry) :
    diffAction row = some entry.op ∧ entry.vm = vmForVmDiff tables row ∧ entry.row = row := by
  obtain ⟨op, hop, rfl⟩ := Option.map_eq_some_iff.1 h
  exact ⟨hop, rfl, rfl⟩

theorem intentEntry_eq_some {tables : Tables} {row : ChangeDiff} {entry : UnionEntry}
    (h : intentEntry tables row = some entry) :
    (diffAction row).isSome ∧ entry.op = .update ∧ entry.row = row ∧ entry.vm.isSome ∧
      ∃ id, intentDiffVirtualMachineId tables row = some id ∧
        entry.vm = vmForIntentDiff tables row id := by
  obtain ⟨op, hop, h⟩ := Option.bind_eq_some_iff.1 h
  obtain ⟨id, hid, h⟩ := Option.bind_eq_some_iff.1 h
  obtain ⟨vm, hvm, h⟩ := Option.bind_eq_some_iff.1 h
  obtain rfl : (⟨some vm, .update, row⟩ : UnionEntry) = entry := by simpa using h
  exact ⟨by simp [hop], rfl, rfl, rfl, id, hid, hvm.symm⟩

variable {id : Int}

theorem pk_of_vmForIntentDiff {tables : Tables} {row : ChangeDiff} {vm : VirtualMachine}
    (hid : intentDiffVirtualMachineId tables row = some id)
    (hvm : vmForIntentDiff tables row id = some vm) : vm.pk = id := by
  cases hlive : (changedVmIntent row).bind ProxmoxVMIntent.virtualMachine with
  | none =>
    rw [vmForIntentDiff, hlive, Option.none_or] at hvm
    exact tables.virtualMachine_pk id vm hvm
  | some live =>
    rw [vmForIntentDiff, hlive, Option.some_or, Option.some.injEq] at hvm
    obtain ⟨intent, hintent, hlinked⟩ := Option.bind_eq_some_iff.1 hlive
    have hcolumn := intent.linked live hlinked
    simp only [intentDiffVirtualMachineId, hintent, Option.bind_some, hcolumn, Option.some_or,
      Option.some.injEq] at hid
    rw [← hvm, hid]

theorem intentOffer_eq_some {tables : Tables} {row : ChangeDiff} (h : intentOffer tables row = some item) :
    intentEntry tables row = some item.2 ∧ item.1.vmId = item.2.vmId := by
  obtain ⟨entry, hentry, h⟩ := Option.bind_eq_some_iff.1 h
  obtain ⟨id, hid, h⟩ := Option.bind_eq_some_iff.1 h
  obtain rfl : (UnionKey.vm id, entry) = item := by simpa using h
  obtain ⟨-, -, -, hsome, id', hid', hvm⟩ := intentEntry_eq_some hentry
  obtain ⟨vm, hlive⟩ := Option.isSome_iff_exists.1 hsome
  obtain rfl : id = id' := by simpa [hid] using hid'
  have hpk := pk_of_vmForIntentDiff hid (hvm.symm.trans hlive)
  exact ⟨hentry, by simp [UnionKey.vmId, UnionEntry.vmId, virtualMachineDiffId, hlive, hpk]⟩

theorem vmId_of_mem_unionOffers {tables : Tables} {branch : Branch}
    (h : item ∈ unionOffers tables branch) : item.1.vmId = item.2.vmId := by
  rcases List.mem_append.1 h with h | h
  · obtain ⟨indexed, -, hoffer⟩ := List.mem_filterMap.1 h
    obtain ⟨hentry, hkey⟩ := coreOffer_eq_some hoffer
    obtain ⟨-, hvm, hrow⟩ := coreEntry_eq_some hentry
    rw [hkey, coreVmId, UnionEntry.vmId, hvm, hrow]
  · obtain ⟨row, -, hoffer⟩ := List.mem_filterMap.1 h
    exact (intentOffer_eq_some hoffer).2

/-! ### The union -/

theorem mem_union_iff {tables : Tables} {branch : Branch} {entry : UnionEntry} :
    entry ∈ virtualMachineDiffUnion tables branch
      ↔ ∃ key, (unionOffers tables branch).lookup key = some entry := by
  simp only [virtualMachineDiffUnion, Dict.values, List.mem_map, unionDict_eq, Prod.exists,
    exists_eq_right, Dict.mem_items_ofDefaults]

theorem union_filterMap_vmId :
    (virtualMachineDiffUnion tables branch).filterMap UnionEntry.vmId
      = (unionDict tables branch).keys.filterMap UnionKey.vmId := by
  rw [virtualMachineDiffUnion, Dict.values, Dict.keys, List.filterMap_map, List.filterMap_map]
  refine List.filterMap_congr fun item hitem => ?_
  rw [unionDict_eq] at hitem
  exact (vmId_of_mem_unionOffers ((Dict.items_ofDefaults_sublist _).subset hitem)).symm

theorem union_vmId_nodup :
    ((virtualMachineDiffUnion tables branch).filterMap UnionEntry.vmId).Nodup := by
  rw [union_filterMap_vmId]
  refine List.Nodup.filterMap ?_ (unionDict tables branch).nodup
  intro left right id hleft hright
  cases left <;> cases right <;> simp_all [UnionKey.vmId]

private theorem filter_eq_singleton {α : Type} {f : α → Option Int} {xs : List α} {x : α}
    (hnodup : (xs.filterMap f).Nodup) (hmem : x ∈ xs) (hx : f x = some id) :
    xs.filter (fun y => f y == some id) = [x] := by
  induction xs with
  | nil => simp at hmem
  | cons y ys ih =>
    by_cases hy : f y = some id
    · rw [List.filterMap_cons_some hy, List.nodup_cons] at hnodup
      have hnone : ys.filter (fun z => f z == some id) = [] := by
        rw [List.filter_eq_nil_iff]
        intro z hz hfz
        exact hnodup.1 (List.mem_filterMap.2 ⟨z, hz, by simpa using hfz⟩)
      have hxy : x = y := by
        rcases List.mem_cons.1 hmem with h | h
        · exact h
        · exact absurd (List.mem_filterMap.2 ⟨x, h, hx⟩) hnodup.1
      rw [List.filter_cons_of_pos (by simpa using hy), hnone, hxy]
    · have hmem' : x ∈ ys := by
        rcases List.mem_cons.1 hmem with h | h
        · exact absurd (h ▸ hx) hy
        · exact h
      have hsub := (List.sublist_cons_self y ys).filterMap f
      rw [List.filter_cons_of_neg (by simpa using hy)]
      exact ih (hsub.nodup hnodup) hmem'

def entriesOf (id : Int) : List UnionEntry :=
  (virtualMachineDiffUnion tables branch).filter fun entry => entry.vmId == some id

theorem entriesOf_eq_singleton {tables : Tables} {branch : Branch} {entry : UnionEntry}
    (h : (unionOffers tables branch).lookup (.vm id) = some entry) :
    entriesOf tables branch id = [entry] := by
  have hoffer : (UnionKey.vm id, entry) ∈ unionOffers tables branch :=
    (Dict.items_ofDefaults_sublist _).subset ((Dict.mem_items_ofDefaults _ _ _).2 h)
  have hid : entry.vmId = some id := (vmId_of_mem_unionOffers hoffer).symm
  exact filter_eq_singleton (union_vmId_nodup tables branch) (mem_union_iff.2 ⟨_, h⟩) hid

def coreNames (id : Int) (row : ChangeDiff) : Bool :=
  (diffAction row).isSome && coreVmId tables row == some id

def intentNames (id : Int) (row : ChangeDiff) : Bool :=
  (diffAction row).isSome && intentDiffVirtualMachineId tables row == some id
    && (vmForIntentDiff tables row id).isSome

theorem lookup_coreOffers (rows : List ChangeDiff) (id : Int) :
    (rows.zipIdx.filterMap (coreOffer tables)).lookup (.vm id)
      = (rows.find? (coreNames tables id)).bind (coreEntry tables) := by
  have hfst : rows.find? (coreNames tables id)
      = (rows.zipIdx.find? (coreNames tables id ∘ Prod.fst)).map Prod.fst := by
    rw [← List.find?_map, List.zipIdx_map_fst]
  rw [hfst, Option.bind_map]
  refine Dict.lookup_filterMap _ ?_ ?_
  · intro indexed hnames
    simp only [Function.comp_apply, coreNames, Bool.and_eq_true, beq_iff_eq] at hnames
    obtain ⟨op, hop⟩ := Option.isSome_iff_exists.1 hnames.1
    have hentry : coreEntry tables indexed.1 = some ⟨vmForVmDiff tables indexed.1, op, indexed.1⟩ := by
      simp [coreEntry, hop]
    exact ⟨_, by simp [coreOffer, hentry, hnames.2], hentry⟩
  · rintro indexed hnames ⟨key, entry⟩ hoffer rfl
    obtain ⟨hentry, hkey⟩ := coreOffer_eq_some hoffer
    simp [coreNames, (coreEntry_eq_some hentry).1, ← hkey, UnionKey.vmId] at hnames

theorem lookup_intentOffers (rows : List ChangeDiff) (id : Int) :
    (rows.filterMap (intentOffer tables)).lookup (.vm id)
      = (rows.find? (intentNames tables id)).bind (intentEntry tables) := by
  refine Dict.lookup_filterMap _ ?_ ?_
  · intro row hnames
    simp only [intentNames, Bool.and_eq_true, beq_iff_eq] at hnames
    obtain ⟨⟨haction, hid⟩, hvm⟩ := hnames
    obtain ⟨op, hop⟩ := Option.isSome_iff_exists.1 haction
    obtain ⟨vm, hvm⟩ := Option.isSome_iff_exists.1 hvm
    have hentry : intentEntry tables row = some ⟨some vm, .update, row⟩ := by
      simp [intentEntry, hop, hid, hvm]
    exact ⟨_, by simp [intentOffer, hentry, hid], hentry⟩
  · rintro row hnames ⟨key, entry⟩ hoffer rfl
    obtain ⟨hentry, hkey⟩ := intentOffer_eq_some hoffer
    obtain ⟨haction, -, -, hsome, id', hid, hvm⟩ := intentEntry_eq_some hentry
    obtain ⟨vm, hlive⟩ := Option.isSome_iff_exists.1 hsome
    have hpk := pk_of_vmForIntentDiff hid (hvm.symm.trans hlive)
    dsimp only at hkey hlive hvm
    obtain rfl : id = id' := by
      simpa [UnionKey.vmId, UnionEntry.vmId, virtualMachineDiffId, hlive, hpk] using hkey
    simp [intentNames, haction, hid, ← hvm, hlive] at hnames

theorem lookup_unionOffers (id : Int) :
    (unionOffers tables branch).lookup (.vm id)
      = (((coreRows branch).find? (coreNames tables id)).bind (coreEntry tables)).or
          (((intentRows branch).find? (intentNames tables id)).bind (intentEntry tables)) := by
  rw [unionOffers, List.lookup_append, lookup_coreOffers, lookup_intentOffers]

theorem entriesOf_of_core {tables : Tables} {branch : Branch} {row : ChangeDiff} {op : Op}
    (hfirst : (coreRows branch).find? (coreNames tables id) = some row) (hop : diffAction row = some op) :
    entriesOf tables branch id = [⟨vmForVmDiff tables row, op, row⟩] := by
  apply entriesOf_eq_singleton
  rw [lookup_unionOffers, hfirst]
  simp [coreEntry, hop]

theorem entriesOf_of_intent {tables : Tables} {branch : Branch} {row : ChangeDiff}
    (hcore : (coreRows branch).find? (coreNames tables id) = none)
    (hfirst : (intentRows branch).find? (intentNames tables id) = some row) :
    entriesOf tables branch id = [⟨vmForIntentDiff tables row id, .update, row⟩] := by
  have hnames := List.find?_some hfirst
  simp only [intentNames, Bool.and_eq_true, beq_iff_eq] at hnames
  obtain ⟨⟨haction, hid⟩, hvm⟩ := hnames
  obtain ⟨op, hop⟩ := Option.isSome_iff_exists.1 haction
  obtain ⟨vm, hvm⟩ := Option.isSome_iff_exists.1 hvm
  apply entriesOf_eq_singleton
  rw [lookup_unionOffers, hcore, hfirst]
  simp [intentEntry, hop, hid, hvm]

def lostDelete (row : ChangeDiff) : Bool :=
  diffAction row == some .delete && coreVmId tables row == none

private theorem lostDelete_of_coreOffer {tables : Tables} {pair : ChangeDiff × Nat} (hoffer : coreOffer tables pair = some item)
    (hnone : item.1.vmId.isNone) : lostDelete tables pair.1 = true := by
  have hid : coreVmId tables pair.1 = none := by
    rw [← (coreOffer_eq_some hoffer).2]
    simpa using hnone
  obtain ⟨entry, hentry, hoffer⟩ := Option.bind_eq_some_iff.1 hoffer
  have hdelete : entry.op = .delete := by
    by_contra hop
    simp [hid, hop] at hoffer
  simp [lostDelete, (coreEntry_eq_some hentry).1, hid, hdelete]

theorem filter_coreOffers (indexed : List (ChangeDiff × Nat)) :
    (indexed.filterMap (coreOffer tables)).filter (fun item => item.1.vmId.isNone)
      = (indexed.filter fun pair => lostDelete tables pair.1).map fun pair =>
          (.deletedDiff pair.2, ⟨vmForVmDiff tables pair.1, .delete, pair.1⟩) := by
  induction indexed with
  | nil => rfl
  | cons pair rest ih =>
    cases hlost : lostDelete tables pair.1 with
    | true =>
      have hoffer : coreOffer tables pair
          = some (.deletedDiff pair.2, ⟨vmForVmDiff tables pair.1, .delete, pair.1⟩) := by
        simp only [lostDelete, Bool.and_eq_true, beq_iff_eq] at hlost
        simp [coreOffer, coreEntry, hlost]
      rw [List.filterMap_cons_some hoffer, List.filter_cons_of_pos (by simp),
        List.filter_cons_of_pos (by simpa using hlost), List.map_cons, ih]
    | false =>
      rw [List.filter_cons_of_neg (by simp [hlost]), ← ih]
      cases hoffer : coreOffer tables pair with
      | none => rw [List.filterMap_cons_none hoffer]
      | some item =>
        have hkept : ¬ item.1.vmId.isNone = true := fun hnone => by
          simp [lostDelete_of_coreOffer hoffer hnone] at hlost
        rw [List.filterMap_cons_some hoffer, List.filter_cons_of_neg (by simpa using hkept)]

theorem filter_unionOffers :
    (unionOffers tables branch).filter (fun item => item.1.vmId.isNone)
      = ((coreRows branch).zipIdx.filter fun pair => lostDelete tables pair.1).map fun pair =>
          (.deletedDiff pair.2, ⟨vmForVmDiff tables pair.1, .delete, pair.1⟩) := by
  have hintent : ((intentRows branch).filterMap (intentOffer tables)).filter
      (fun item => item.1.vmId.isNone) = [] := by
    rw [List.filter_eq_nil_iff]
    intro item hitem hnone
    obtain ⟨row, -, hoffer⟩ := List.mem_filterMap.1 hitem
    obtain ⟨entry, -, hoffer⟩ := Option.bind_eq_some_iff.1 hoffer
    obtain ⟨id, -, hoffer⟩ := Option.bind_eq_some_iff.1 hoffer
    obtain rfl : (UnionKey.vm id, entry) = item := by simpa using hoffer
    simp [UnionKey.vmId] at hnone
  rw [unionOffers, List.filter_append, hintent, List.append_nil, filter_coreOffers]

theorem union_lostDeletes :
    ((virtualMachineDiffUnion tables branch).filter fun entry => entry.vmId.isNone)
      = ((coreRows branch).filter (lostDelete tables)).map fun row =>
          ⟨vmForVmDiff tables row, .delete, row⟩ := by
  have hpositions : (((unionOffers tables branch).map Prod.fst).filter
      fun key => key.vmId.isNone).Nodup := by
    have hsnd : (((coreRows branch).zipIdx.filter fun pair => lostDelete tables pair.1).map
        Prod.snd).Nodup := by
      refine (List.filter_sublist.map Prod.snd).nodup ?_
      rw [List.zipIdx_map_snd]
      exact List.nodup_range'
    have hkeys := hsnd.map (f := UnionKey.deletedDiff) fun _ _ h => by simpa using h
    rw [List.filter_map]
    change (((unionOffers tables branch).filter fun item => item.1.vmId.isNone).map Prod.fst).Nodup
    rw [filter_unionOffers]
    simpa [Function.comp_def] using hkeys
  have hentries : (virtualMachineDiffUnion tables branch).filter (fun entry => entry.vmId.isNone)
      = ((unionDict tables branch).items.filter fun item => item.1.vmId.isNone).map Prod.snd := by
    rw [virtualMachineDiffUnion, Dict.values, List.filter_map]
    congr 1
    refine List.filter_congr fun item hitem => ?_
    rw [unionDict_eq] at hitem
    rw [vmId_of_mem_unionOffers ((Dict.items_ofDefaults_sublist _).subset hitem)]
    rfl
  have hrows : (coreRows branch).filter (lostDelete tables)
      = ((coreRows branch).zipIdx.filter fun pair => lostDelete tables pair.1).map Prod.fst := by
    conv_lhs => rw [← List.zipIdx_map_fst 0 (coreRows branch), List.filter_map]
    rfl
  rw [hentries, unionDict_eq, Dict.filter_items_ofDefaults _ hpositions, filter_unionOffers, hrows]
  simp

theorem union_rows_sublist :
    ((virtualMachineDiffUnion tables branch).map UnionEntry.row).Sublist
      (coreRows branch ++ intentRows branch) := by
  have hcore := map_filterMap_sublist (f := coreOffer tables) (g := fun item => item.2.row)
    (h := Prod.fst) (fun _ _ hoffer => (coreEntry_eq_some (coreOffer_eq_some hoffer).1).2.2)
    (coreRows branch).zipIdx
  have hintent := map_filterMap_sublist (f := intentOffer tables) (g := fun item => item.2.row)
    (h := id) (fun _ _ hoffer => (intentEntry_eq_some (intentOffer_eq_some hoffer).1).2.2.1)
    (intentRows branch)
  rw [List.zipIdx_map_fst] at hcore
  rw [List.map_id] at hintent
  rw [virtualMachineDiffUnion, unionDict_eq, Dict.values, List.map_map]
  refine ((Dict.items_ofDefaults_sublist _).map _).trans ?_
  rw [unionOffers, List.map_append]
  exact hcore.append hintent

theorem mem_union_cases {tables : Tables} {branch : Branch} {entry : UnionEntry}
    (h : entry ∈ virtualMachineDiffUnion tables branch) :
    (entry.row ∈ coreRows branch ∧ coreEntry tables entry.row = some entry) ∨
      (entry.row ∈ intentRows branch ∧ intentEntry tables entry.row = some entry) := by
  obtain ⟨key, hkey⟩ := mem_union_iff.1 h
  have hoffer := (Dict.items_ofDefaults_sublist _).subset ((Dict.mem_items_ofDefaults _ _ _).2 hkey)
  rcases List.mem_append.1 hoffer with hoffer | hoffer
  · obtain ⟨indexed, hmem, hoffer⟩ := List.mem_filterMap.1 hoffer
    have hentry := (coreOffer_eq_some hoffer).1
    have hrow : entry.row = indexed.1 := (coreEntry_eq_some hentry).2.2
    rw [hrow]
    exact .inl ⟨List.fst_mem_of_mem_zipIdx hmem, hentry⟩
  · obtain ⟨row, hmem, hoffer⟩ := List.mem_filterMap.1 hoffer
    have hentry := (intentOffer_eq_some hoffer).1
    have hrow : entry.row = row := (intentEntry_eq_some hentry).2.2.1
    rw [hrow]
    exact .inr ⟨hmem, hentry⟩

theorem coreDelete_mem_union {tables : Tables} {branch : Branch} {earlier later : List ChangeDiff}
    {row : ChangeDiff} (hrows : coreRows branch = earlier ++ row :: later)
    (hdelete : diffAction row = some .delete)
    (hfirst : ∀ id, coreVmId tables row = some id → ∀ other ∈ earlier, coreNames tables id other = false) :
    ⟨vmForVmDiff tables row, .delete, row⟩ ∈ virtualMachineDiffUnion tables branch := by
  cases hid : coreVmId tables row with
  | none =>
    have hmem : row ∈ (coreRows branch).filter (lostDelete tables) := by
      rw [List.mem_filter, hrows]
      simp [lostDelete, hdelete, hid]
    have hentry := List.mem_map_of_mem (f := fun row => UnionEntry.mk (vmForVmDiff tables row) .delete row) hmem
    rw [← union_lostDeletes] at hentry
    exact (List.mem_filter.1 hentry).1
  | some id =>
    have hfind : (coreRows branch).find? (coreNames tables id) = some row := by
      have hearlier : earlier.find? (coreNames tables id) = none := by
        rw [List.find?_eq_none]
        intro other hother
        simp [hfirst id hid other hother]
      have hrow : coreNames tables id row = true := by simp [coreNames, hdelete, hid]
      rw [hrows, List.find?_append, hearlier, Option.none_or, List.find?_cons_of_pos hrow]
    have hentries := entriesOf_of_core hfind hdelete
    have hmem : ⟨vmForVmDiff tables row, .delete, row⟩ ∈ entriesOf tables branch id := by
      rw [hentries]
      exact List.mem_singleton_self _
    exact (List.mem_filter.1 hmem).1

theorem entriesOf_length_le (id : Int) :
    (entriesOf tables branch id).length ≤ 1 := by
  cases hentries : entriesOf tables branch id with
  | nil => simp
  | cons entry rest =>
    have hmem : entry ∈ entriesOf tables branch id := by rw [hentries]; exact List.mem_cons_self
    obtain ⟨hunion, hid⟩ := List.mem_filter.1 hmem
    have hone := filter_eq_singleton (union_vmId_nodup tables branch) hunion (by simpa using hid)
    rw [← hentries, entriesOf, hone]
    simp

/-- At most one entry per machine: that of its first core row, whatever its intent rows, or else one update;
each deletion that no core row of its machine precedes; and nothing that is not the entry of a row. -/
theorem virtualMachineDiffUnion_spec (tables : Tables) (branch : Branch) :
    (∀ id, (entriesOf tables branch id).length ≤ 1) ∧
    (∀ id row op, (coreRows branch).find? (coreNames tables id) = some row → diffAction row = some op →
      entriesOf tables branch id = [⟨vmForVmDiff tables row, op, row⟩]) ∧
    (∀ id, (∀ row ∈ coreRows branch, coreNames tables id row = false) →
      (∃ row ∈ intentRows branch, intentNames tables id row = true) →
      ∃ entry, entriesOf tables branch id = [entry] ∧ entry.op = .update ∧
        entry.row ∈ intentRows branch) ∧
    (∀ earlier row later, coreRows branch = earlier ++ row :: later → diffAction row = some .delete →
      (∀ id, coreVmId tables row = some id → ∀ other ∈ earlier, coreNames tables id other = false) →
      ⟨vmForVmDiff tables row, .delete, row⟩ ∈ virtualMachineDiffUnion tables branch) ∧
    ((virtualMachineDiffUnion tables branch).filter fun entry => entry.vmId.isNone)
      = ((coreRows branch).filter (lostDelete tables)).map
          (fun row => ⟨vmForVmDiff tables row, .delete, row⟩) ∧
    (∀ entry ∈ virtualMachineDiffUnion tables branch,
      (entry.row ∈ coreRows branch ∧ coreEntry tables entry.row = some entry) ∨
        (entry.row ∈ intentRows branch ∧ intentEntry tables entry.row = some entry)) ∧
    ((virtualMachineDiffUnion tables branch).map UnionEntry.row).Sublist
      (coreRows branch ++ intentRows branch) := by
  refine ⟨entriesOf_length_le tables branch, fun id row op => entriesOf_of_core, ?_,
    fun earlier row later => coreDelete_mem_union, union_lostDeletes tables branch,
    fun entry => mem_union_cases, union_rows_sublist tables branch⟩
  rintro id hcore ⟨row, hrow, hnames⟩
  have hnone : (coreRows branch).find? (coreNames tables id) = none := by
    rw [List.find?_eq_none]
    intro other hother
    simp [hcore other hother]
  obtain ⟨first, hfirst⟩ := Option.isSome_iff_exists.1
    (List.find?_isSome.2 ⟨row, hrow, hnames⟩)
  exact ⟨_, entriesOf_of_intent hnone hfirst, rfl, List.mem_of_find?_eq_some hfirst⟩

def goneMachineRow (action : String) : ChangeDiff where
  pk := none
  object := .virtualMachine none
  objectId := some 5
  objectRepr := none
  action := some action
  original := .null
  modified := .null
  current := .null
  prechangeData := .null
  postchangeData := .null

def Tables.none : Tables where
  virtualMachine _ := Option.none
  vmIntent _ := Option.none
  virtualMachine_pk := by simp

/-- An update of a machine followed by its deletion leaves no deletion in the union. -/
theorem union_drops_later_delete :
    let branch : Branch := ⟨some 1, "br1", "b", some [goneMachineRow "update", goneMachineRow "delete"]⟩
    (∃ row ∈ coreRows branch, diffAction row = some .delete) ∧
      ∀ entry ∈ virtualMachineDiffUnion Tables.none branch, entry.op ≠ .delete := by
  decide

end Proxbox
