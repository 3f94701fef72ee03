import Mathlib.Data.List.Basic
/-!
# Transactions

Code that reads and writes a shared state, may raise, and groups its writes in transactions. A write stands as
soon as it is made, also when an exception follows; only `atomic` takes the writes of its body back.

What such code does is described by its precondition `wp`, for a value and for an exception, with one lemma a
combinator and an invariant rule for each kind of loop.
-/

namespace Transaction

abbrev Action (ε σ α : Type) := ExceptT ε (StateM σ) α

variable {ε σ α β : Type}

/-- The body of a transaction: its writes are taken back when it raises. -/
def atomic (body : Action ε σ α) : Action ε σ α :=
  fun s =>
    match body s with
    | (.ok a, s') => (.ok a, s')
    | (.error e, _) => (.error e, s)

def write (f : σ → σ) : Action ε σ Unit := modify f

def read : Action ε σ σ := get

def raising : Except ε α → Action ε σ α
  | .ok a => pure a
  | .error e => throw e

theorem bind_apply (action : Action ε σ β) (f : β → Action ε σ α) (s : σ) :
    (action >>= f) s = match action s with
      | (.ok b, s') => f b s'
      | (.error e, s') => (.error e, s') := by
  change (ExceptT.bindCont f (action s).1) (action s).2 = _
  obtain ⟨result, s'⟩ := action s
  cases result <;> rfl

theorem tryCatch_apply (action : Action ε σ α) (handler : ε → Action ε σ α) (s : σ) :
    (tryCatch action handler) s = match action s with
      | (.ok a, s') => (.ok a, s')
      | (.error e, s') => handler e s' := by
  change (match (action s).1 with
    | .ok a => (pure (.ok a) : StateM σ (Except ε α))
    | .error e => handler e) (action s).2 = _
  obtain ⟨result, s'⟩ := action s
  cases result <;> rfl

/-- From the state `s` the action ends in `value` with its value, or in `raised` with its exception. -/
def wp (action : Action ε σ α) (s : σ) (value : σ → α → Prop) (raised : σ → ε → Prop) : Prop :=
  match action s with
  | (.ok a, s') => value s' a
  | (.error e, s') => raised s' e

section Rules

variable {s : σ} {value : σ → α → Prop} {raised : σ → ε → Prop}

@[simp] theorem wp_pure {a : α} : wp (pure a : Action ε σ α) s value raised ↔ value s a := Iff.rfl

@[simp] theorem wp_throw {e : ε} : wp (throw e : Action ε σ α) s value raised ↔ raised s e := Iff.rfl

@[simp] theorem wp_read {value : σ → σ → Prop} : wp (read : Action ε σ σ) s value raised ↔ value s s := Iff.rfl

@[simp] theorem wp_write {f : σ → σ} {value : σ → Unit → Prop} :
    wp (write f : Action ε σ Unit) s value raised ↔ value (f s) () := Iff.rfl

@[simp] theorem wp_bind {action : Action ε σ β} {f : β → Action ε σ α} :
    wp (action >>= f) s value raised ↔ wp action s (fun s' b => wp (f b) s' value raised) raised := by
  unfold wp
  rw [bind_apply]
  obtain ⟨result, s'⟩ := action s
  cases result <;> rfl

variable {action : Action ε σ α}

@[simp] theorem wp_tryCatch {handler : ε → Action ε σ α} :
    wp (tryCatch action handler) s value raised
      ↔ wp action s value fun s' e => wp (handler e) s' value raised := by
  unfold wp
  rw [tryCatch_apply]
  obtain ⟨result, s'⟩ := action s
  cases result <;> rfl

@[simp] theorem wp_atomic {body : Action ε σ α} :
    wp (atomic body) s value raised ↔ wp body s value fun _ e => raised s e := by
  unfold wp atomic
  obtain ⟨result, s'⟩ := body s
  cases result <;> rfl

@[simp] theorem wp_ite {c : Prop} [Decidable c] {yes no : Action ε σ α} :
    wp (if c then yes else no) s value raised ↔ (c → wp yes s value raised) ∧ (¬ c → wp no s value raised) := by
  by_cases hc : c <;> simp [hc]

@[simp] theorem wp_raising {result : Except ε α} :
    wp (raising result) s value raised
      ↔ (∀ a, result = .ok a → value s a) ∧ ∀ e, result = .error e → raised s e := by
  cases result <;> simp [raising]

theorem wp_mono {value' : σ → α → Prop} {raised' : σ → ε → Prop}
    (h : wp action s value raised) (hvalue : ∀ s a, value s a → value' s a)
    (hraised : ∀ s e, raised s e → raised' s e) : wp action s value' raised' := by
  unfold wp at h ⊢
  generalize action s = outcome at h ⊢
  obtain ⟨result, s'⟩ := outcome
  cases result with
  | ok a => exact hvalue s' a h
  | error e => exact hraised s' e h

theorem isOk_iff_wp : (action s).1.isOk = true ↔ wp action s (fun _ _ => True) fun _ _ => False := by
  unfold wp
  obtain ⟨result, s'⟩ := action s
  cases result <;> simp [Except.isOk, Except.toBool]

theorem wp_value {t : σ} (h : wp action s value raised) (ht : wp action s (fun s' _ => s' = t) fun _ _ => False) :
    ∃ a, value t a := by
  unfold wp at h ht
  generalize action s = outcome at h ht
  obtain ⟨result, s'⟩ := outcome
  cases result with
  | ok a => exact ⟨a, ht ▸ h⟩
  | error e => exact ht.elim

/-- A loop keeps an invariant over the items done so far. -/
theorem wp_foldlM {xs : List β} {body : α → β → Action ε σ α} {init : α} (inv : List β → σ → α → Prop)
    (hstart : inv [] s init) (hstep : ∀ done x rest, xs = done ++ x :: rest → ∀ s acc, inv done s acc →
      wp (body acc x) s (fun s' acc => inv (done ++ [x]) s' acc) raised)
    (hend : ∀ s acc, inv xs s acc → value s acc) : wp (xs.foldlM body init) s value raised := by
  suffices h : ∀ done rest, xs = done ++ rest → ∀ s acc, inv done s acc →
      wp (rest.foldlM body acc) s value raised from h [] xs rfl s init hstart
  intro done rest
  induction rest generalizing done with
  | nil =>
    intro hxs s acc hinv
    exact hend s acc (by simpa [hxs] using hinv)
  | cons x rest ih =>
    intro hxs s acc hinv
    rw [List.foldlM_cons, wp_bind]
    exact wp_mono (hstep done x rest hxs s acc hinv)
      (fun s' acc => ih (done ++ [x]) (by simp [hxs]) s' acc) fun _ _ h => h

theorem forM_eq_foldlM (xs : List β) (body : β → Action ε σ PUnit) :
    xs.forM body = xs.foldlM (fun _ x => body x) ⟨⟩ := by
  induction xs with
  | nil => rfl
  | cons x rest ih =>
    change (body x >>= fun _ => rest.forM body) = _
    rw [List.foldlM_cons, ih]

theorem wp_forM {xs : List β} {body : β → Action ε σ PUnit} {value : σ → PUnit → Prop}
    (inv : List β → σ → Prop) (hstart : inv [] s)
    (hstep : ∀ done x rest, xs = done ++ x :: rest → ∀ s, inv done s →
      wp (body x) s (fun s' _ => inv (done ++ [x]) s') raised)
    (hend : ∀ s, inv xs s → value s ⟨⟩) : wp (xs.forM body) s value raised := by
  rw [forM_eq_foldlM]
  exact wp_foldlM (fun done s _ => inv done s) hstart (fun done x rest hxs s _ => hstep done x rest hxs s)
    fun s _ => hend s

end Rules

/-! ### Invariants -/

section Invariants

variable {inv : σ → Prop}

/-- The action keeps an invariant of the state, whether it returns or raises. -/
def Keeps (inv : σ → Prop) (action : Action ε σ α) : Prop :=
  ∀ s, inv s → wp action s (fun s' _ => inv s') fun s' _ => inv s'

theorem Keeps.run {action : Action ε σ α} (hkeeps : Keeps inv action) {s : σ} (hinv : inv s) : inv (action s).2 := by
  have hwp := hkeeps s hinv
  unfold wp at hwp
  generalize action s = outcome at hwp ⊢
  obtain ⟨result, s'⟩ := outcome
  cases result <;> exact hwp

theorem keeps_pure (a : α) : Keeps inv (pure a : Action ε σ α) := fun _ hinv => wp_pure.2 hinv

theorem keeps_throw (e : ε) : Keeps inv (throw e : Action ε σ α) := fun _ hinv => wp_throw.2 hinv

theorem keeps_raising (result : Except ε α) : Keeps inv (raising result : Action ε σ α) :=
  fun _ hinv => wp_raising.2 ⟨fun _ _ => hinv, fun _ _ => hinv⟩

theorem keeps_write {f : σ → σ} (hf : ∀ s, inv s → inv (f s)) : Keeps inv (write f : Action ε σ Unit) :=
  fun s hinv => wp_write.2 (hf s hinv)

theorem keeps_bind {action : Action ε σ β} {f : β → Action ε σ α} (haction : Keeps inv action)
    (hf : ∀ b, Keeps inv (f b)) : Keeps inv (action >>= f) :=
  fun s hinv => wp_bind.2 (wp_mono (haction s hinv) (fun s' b hinv => hf b s' hinv) fun _ _ hinv => hinv)

theorem keeps_read_bind {f : σ → Action ε σ α} (hf : ∀ s, Keeps inv (f s)) : Keeps inv (read >>= f) :=
  keeps_bind (fun _ hinv => wp_read.2 hinv) hf

theorem keeps_foldlM {xs : List β} {body : α → β → Action ε σ α} {init : α}
    (hbody : ∀ acc x, x ∈ xs → Keeps inv (body acc x)) : Keeps inv (xs.foldlM body init) := by
  intro s hinv
  refine wp_foldlM (fun _ s _ => inv s) hinv (fun done x rest hxs s acc hinv => ?_) fun _ _ hinv => hinv
  exact hbody acc x (by simp [hxs]) s hinv

end Invariants

/-! ### Two runs -/

section Coupled

variable {γ δ : Type} {related : σ → σ → Prop}

/-- From related states both actions raise the same exception, or return related values, and leave related
states. -/
def Coupled (related : σ → σ → Prop) (values : α → β → Prop) (first : Action ε σ α) (second : Action ε σ β) : Prop :=
  ∀ s s', related s s' →
    match first s, second s' with
    | (.ok a, t), (.ok b, t') => values a b ∧ related t t'
    | (.error e, t), (.error e', t') => e = e' ∧ related t t'
    | _, _ => False

theorem coupled_pure {values : α → β → Prop} {a : α} {b : β} (h : values a b) :
    Coupled related values (pure a : Action ε σ α) (pure b) := fun _ _ hrelated => ⟨h, hrelated⟩

theorem coupled_throw {values : α → β → Prop} (e : ε) :
    Coupled related values (throw e : Action ε σ α) (throw e) := fun _ _ hrelated => ⟨rfl, hrelated⟩

theorem coupled_raising (result : Except ε α) : Coupled related Eq (raising result : Action ε σ α) (raising result) := by
  cases result with
  | ok a => exact coupled_pure rfl
  | error e => exact coupled_throw e

variable {first : Action ε σ α} {second : Action ε σ β}

theorem coupled_bind {values' : γ → δ → Prop}
    {next : α → Action ε σ γ} {next' : β → Action ε σ δ} (values : α → β → Prop) (h : Coupled related values first second)
    (hnext : ∀ a b, values a b → Coupled related values' (next a) (next' b)) :
    Coupled related values' (first >>= next) (second >>= next') := by
  intro s s' hrelated
  have hfirst := h s s' hrelated
  rw [bind_apply, bind_apply]
  generalize first s = outcome at hfirst
  generalize second s' = outcome' at hfirst
  obtain ⟨result, t⟩ := outcome
  obtain ⟨result', t'⟩ := outcome'
  cases result with
  | ok a =>
    cases result' with
    | ok b => exact hnext a b hfirst.1 t t' hfirst.2
    | error e => exact hfirst.elim
  | error e =>
    cases result' with
    | ok b => exact hfirst.elim
    | error e' => exact hfirst

def raisedBy (action : Action ε σ α) (s : σ) : Option ε :=
  match (action s).1 with
  | .ok _ => none
  | .error e => some e

/-- What holds of either end of an action holds of its run. -/
theorem wp_run {s : σ} {ended : σ → Option ε → Prop} (h : wp first s (fun s' _ => ended s' none) fun s' e =>
    ended s' (some e)) :
    ended (first s).2 (raisedBy first s) := by
  unfold wp at h
  unfold raisedBy
  generalize first s = outcome at h ⊢
  obtain ⟨result, s'⟩ := outcome
  cases result with
  | ok a => exact h
  | error e => exact h

theorem raisedBy_eq_of_coupled {values : α → β → Prop} {s s' : σ}
    (h : Coupled related values first second) (hrelated : related s s') : raisedBy first s = raisedBy second s' := by
  have hrun := h s s' hrelated
  unfold raisedBy
  generalize first s = outcome at hrun
  generalize second s' = outcome' at hrun
  obtain ⟨result, t⟩ := outcome
  obtain ⟨result', t'⟩ := outcome'
  cases result with
  | ok a =>
    cases result' with
    | ok b => rfl
    | error e => exact hrun.elim
  | error e =>
    cases result' with
    | ok b => exact hrun.elim
    | error e' => exact congrArg some hrun.1

end Coupled

-- From here on the rules speak for an action; unfolding these would run it.
attribute [irreducible] wp Coupled

end Transaction
