import Mathlib.Algebra.Order.BigOperators.Group.List
import Mathlib.Algebra.Order.Ring.Nat
/-!
# Interleaved programs

Programs that share a store. A program issues commands one after another and goes on with the reply of each; a
command runs atomically, and any number of programs take turns in any order.

Each thread carries a view, which is what its program has learnt of the store so far. What a program issues is
described by a precondition over its view alone, `Program.wp`; `Sound` adds what must survive the commands of
the others.
-/

namespace Interleaving

/-- A program: it ends with a value, or issues a command and resumes with the reply. -/
inductive Program (κ : Type) (ρ : κ → Type) (α : Type) : Type where
  | done (value : α)
  | issue (command : κ) (resume : ρ command → Program κ ρ α)

variable {κ : Type} {ρ : κ → Type} {α β ε : Type}

def Program.bind : Program κ ρ α → (α → Program κ ρ β) → Program κ ρ β
  | .done value, f => f value
  | .issue command resume, f => .issue command fun reply => (resume reply).bind f

instance : Monad (Program κ ρ) where
  pure := .done
  bind := Program.bind

/-! ### Preconditions of programs -/

section Precondition

variable {ν : Type} {next : ν → (command : κ) → ρ command → ν} {allows : ν → κ → Prop}

/-- From the view `view` the program issues only commands its view allows, whatever the replies, and ends
in `post`. -/
def Program.wp (next : ν → (command : κ) → ρ command → ν) (allows : ν → κ → Prop) :
    Program κ ρ α → ν → (ν → α → Prop) → Prop
  | .done value, view, post => post view value
  | .issue command resume, view, post =>
    allows view command ∧ ∀ reply, (resume reply).wp next allows (next view command reply) post

theorem Program.wp_bind (program : Program κ ρ α) (f : α → Program κ ρ β) (view : ν) (post : ν → β → Prop) :
    (program.bind f).wp next allows view post
      ↔ program.wp next allows view fun view value => (f value).wp next allows view post := by
  induction program generalizing view with
  | done value => rfl
  | issue command resume ih => simp only [bind, wp, ih]

theorem Program.wp_mono {program : Program κ ρ α} {view : ν} {post post' : ν → α → Prop}
    (himp : ∀ view value, post view value → post' view value) (hwp : program.wp next allows view post) :
    program.wp next allows view post' := by
  induction program generalizing view with
  | done value => exact himp view value hwp
  | issue command resume ih => exact ⟨hwp.1, fun reply => ih reply (hwp.2 reply)⟩

/-- What a program issues by one view, it issues by every coarser view. -/
theorem Program.wp.coarser {ν' : Type} {next' : ν' → (command : κ) → ρ command → ν'} {allows' : ν' → κ → Prop}
    (coarsen : ν → ν') (hnext : ∀ view command reply,
      coarsen (next view command reply) = next' (coarsen view) command reply)
    (hallows : ∀ view command, allows view command → allows' (coarsen view) command)
    {program : Program κ ρ α} (view : ν) {post : ν' → α → Prop}
    (hwp : program.wp next allows view fun view => post (coarsen view)) :
    program.wp next' allows' (coarsen view) post := by
  induction program generalizing view with
  | done value => exact hwp
  | issue command resume ih =>
    refine ⟨hallows view command hwp.1, fun reply => ?_⟩
    rw [← hnext]
    exact ih reply _ (hwp.2 reply)

def onValue (value : ν → α → Prop) (raised : ν → ε → Prop) (view : ν) : Except ε α → Prop
  | .ok a => value view a
  | .error e => raised view e

/-- The precondition of a program that may raise, for a value and for an exception. -/
def wpRaising (next : ν → (command : κ) → ρ command → ν) (allows : ν → κ → Prop)
    (action : ExceptT ε (Program κ ρ) α) (view : ν) (value : ν → α → Prop) (raised : ν → ε → Prop) : Prop :=
  action.run.wp next allows view (onValue value raised)

@[simp] theorem wpRaising_pure (a : α) (view : ν) (value : ν → α → Prop) (raised : ν → ε → Prop) :
    wpRaising next allows (pure a : ExceptT ε (Program κ ρ) α) view value raised ↔ value view a := Iff.rfl

@[simp] theorem wpRaising_throw (e : ε) (view : ν) (value : ν → α → Prop) (raised : ν → ε → Prop) :
    wpRaising next allows (throw e : ExceptT ε (Program κ ρ) α) view value raised ↔ raised view e := Iff.rfl

variable (action : ExceptT ε (Program κ ρ) α)

@[simp] theorem wpRaising_bind (f : α → ExceptT ε (Program κ ρ) β)
    (view : ν) (value : ν → β → Prop) (raised : ν → ε → Prop) :
    wpRaising next allows (action >>= f) view value raised
      ↔ wpRaising next allows action view (fun view a => wpRaising next allows (f a) view value raised)
          raised := by
  refine (Program.wp_bind _ _ _ _).trans ?_
  unfold wpRaising
  congr! 3 with view result
  cases result <;> rfl

@[simp] theorem wpRaising_tryCatch
    (handler : ε → ExceptT ε (Program κ ρ) α) (view : ν) (value : ν → α → Prop) (raised : ν → ε → Prop) :
    wpRaising next allows (tryCatch action handler) view value raised
      ↔ wpRaising next allows action view value
          fun view e => wpRaising next allows (handler e) view value raised := by
  refine (Program.wp_bind _ _ _ _).trans ?_
  unfold wpRaising
  congr! 3 with view result
  cases result <;> rfl

@[simp] theorem wpRaising_ite {c : Prop} [Decidable c] (yes no : ExceptT ε (Program κ ρ) α) (view : ν)
    (value : ν → α → Prop) (raised : ν → ε → Prop) :
    wpRaising next allows (if c then yes else no) view value raised
      ↔ (c → wpRaising next allows yes view value raised) ∧ (¬ c → wpRaising next allows no view value raised) := by
  by_cases hc : c <;> simp [hc]

def command {τ : κ → Type} (command : κ) :
    ExceptT ε (Program κ fun command => Except ε (τ command)) (τ command) :=
  ExceptT.mk (.issue command .done)

theorem wpRaising_command {τ : κ → Type} {next : ν → (command : κ) → Except ε (τ command) → ν} (c : κ)
    (view : ν) (value : ν → τ c → Prop) (raised : ν → ε → Prop) :
    wpRaising next allows (command c) view value raised
      ↔ allows view c ∧ (∀ a, value (next view c (.ok a)) a) ∧ ∀ e, raised (next view c (.error e)) e := by
  refine and_congr_right fun _ => ⟨fun h => ⟨fun a => h (.ok a), fun e => h (.error e)⟩, fun h => ?_⟩
  rintro (e | a)
  exacts [h.2 e, h.1 a]

/-- A program run for what it does: its value or exception is dropped. -/
def detached : Program κ ρ Unit := action.run.bind fun _ => .done ()

theorem wp_detached_iff (view : ν) (post : ν → Prop) :
    (detached action).wp next allows view (fun view _ => post view)
      ↔ wpRaising next allows action view (fun view _ => post view) fun view _ => post view := by
  refine (Program.wp_bind _ _ _ _).trans ?_
  unfold wpRaising
  congr! 3 with view result
  cases result <;> rfl

theorem wp_detached (view : ν) :
    (detached action).wp next allows view (fun _ _ => True)
      ↔ wpRaising next allows action view (fun _ _ => True) fun _ _ => True :=
  wp_detached_iff action view fun _ => True

end Precondition

/-! ### Runs -/

/-- Actors with their programs, what a command does to the store under a choice of the environment, and what
a thread learns from a reply. -/
structure System (actor choice σ ν κ : Type) (ρ : κ → Type) where
  program : actor → Program κ ρ Unit
  exec : σ → choice → (command : κ) → ρ command × σ
  unseen : ν
  next : ν → (command : κ) → ρ command → ν

structure Thread (ν κ : Type) (ρ : κ → Type) where
  view : ν
  program : Program κ ρ Unit

structure Config (σ ν κ : Type) (ρ : κ → Type) where
  store : σ
  threads : List (Thread ν κ ρ)

inductive Move (actor choice : Type) where
  | start (actor : actor)
  | step (index : Nat) (choice : choice)

/-- What happens in a history: a move, or a change of the store that no thread makes. -/
inductive Event (actor choice outside : Type) where
  | move (move : Move actor choice)
  | outside (change : outside)

variable {actor choice outside σ ν : Type}

variable (store : σ)

def Config.initial : Config σ ν κ ρ := ⟨store, []⟩

namespace System

variable (system : System actor choice σ ν κ ρ) (guard : σ → ν → κ → Prop)

/-- A move, `none` for a step of a thread that is not there or has ended. -/
def move (config : Config σ ν κ ρ) : Move actor choice → Option (Config σ ν κ ρ)
  | .start actor => some ⟨config.store, config.threads ++ [⟨system.unseen, system.program actor⟩]⟩
  | .step index choice =>
    match config.threads[index]? with
    | some ⟨view, .issue command resume⟩ =>
      let (reply, store) := system.exec config.store choice command
      some ⟨store, config.threads.set index ⟨system.next view command reply, resume reply⟩⟩
    | _ => none

abbrev stepped (config : Config σ ν κ ρ) (index : Nat) (choice : choice) (view : ν) (command : κ)
    (resume : ρ command → Program κ ρ Unit) : Config σ ν κ ρ :=
  ⟨(system.exec config.store choice command).2,
    config.threads.set index ⟨system.next view command (system.exec config.store choice command).1,
      resume (system.exec config.store choice command).1⟩⟩

def run : Config σ ν κ ρ → List (Move actor choice) → Option (Config σ ν κ ρ)
  | config, [] => some config
  | config, move :: moves => (system.move config move).bind fun config => run config moves

def issued (config : Config σ ν κ ρ) : Move actor choice → Option (ν × κ)
  | .start _ => none
  | .step index _ =>
    match config.threads[index]? with
    | some ⟨view, .issue command _⟩ => some (view, command)
    | _ => none

def Meets (config : Config σ ν κ ρ) (move : Move actor choice) : Prop :=
  ∀ command ∈ issued config move, guard config.store command.1 command.2

def RunMeets : Config σ ν κ ρ → List (Move actor choice) → Prop
  | _, [] => True
  | config, move :: moves =>
    Meets guard config move ∧ ∀ config' ∈ system.move config move, RunMeets config' moves

instance [∀ store view command, Decidable (guard store view command)] (config : Config σ ν κ ρ)
    (move : Move actor choice) : Decidable (Meets guard config move) :=
  inferInstanceAs (Decidable (∀ command ∈ issued config move, guard config.store command.1 command.2))

instance decidableRunMeets [∀ store view command, Decidable (guard store view command)] :
    (config : Config σ ν κ ρ) → (moves : List (Move actor choice)) → Decidable (system.RunMeets guard config moves)
  | _, [] => .isTrue trivial
  | config, move :: moves =>
    have : DecidablePred fun config' => system.RunMeets guard config' moves :=
      fun config' => decidableRunMeets config' moves
    inferInstanceAs (Decidable (_ ∧ ∀ config' ∈ system.move config move, system.RunMeets guard config' moves))

section Histories

variable (disturb : σ → outside → σ) (may : σ → outside → Prop)

def happens (config : Config σ ν κ ρ) : Event actor choice outside → Option (Config σ ν κ ρ)
  | .move move => system.move config move
  | .outside change => some ⟨disturb config.store change, config.threads⟩

def EventMeets (config : Config σ ν κ ρ) : Event actor choice outside → Prop
  | .move move => Meets guard config move
  | .outside change => may config.store change

def HistoryMeets : Config σ ν κ ρ → List (Event actor choice outside) → Prop
  | _, [] => True
  | config, event :: events =>
    EventMeets guard may config event ∧
      ∀ config' ∈ system.happens disturb config event, HistoryMeets config' events

instance [∀ store view command, Decidable (guard store view command)] [∀ store change, Decidable (may store change)]
    (config : Config σ ν κ ρ) : (event : Event actor choice outside) → Decidable (EventMeets guard may config event)
  | .move move => inferInstanceAs (Decidable (Meets guard config move))
  | .outside change => inferInstanceAs (Decidable (may config.store change))

instance decidableHistoryMeets [∀ store view command, Decidable (guard store view command)]
    [∀ store change, Decidable (may store change)] :
    (config : Config σ ν κ ρ) → (events : List (Event actor choice outside)) →
      Decidable (system.HistoryMeets guard disturb may config events)
  | _, [] => .isTrue trivial
  | config, event :: events =>
    have : DecidablePred fun config' => system.HistoryMeets guard disturb may config' events :=
      fun config' => decidableHistoryMeets config' events
    inferInstanceAs (Decidable (_ ∧ ∀ config' ∈ system.happens disturb config event,
      system.HistoryMeets guard disturb may config' events))

end Histories

variable {system guard} {config config' : Config σ ν κ ρ}

theorem runMeets_append {before after : List (Move actor choice)} :
    system.RunMeets guard config (before ++ after)
      ↔ system.RunMeets guard config before ∧
          ∀ config' ∈ system.run config before, system.RunMeets guard config' after := by
  induction before generalizing config with
  | nil => simp [RunMeets, run]
  | cons move before ih =>
    simp only [List.cons_append, RunMeets, run, ih, Option.mem_def, Option.bind_eq_some_iff]
    grind

theorem move_cases_unguarded {move : Move actor choice} (hmove : system.move config move = some config') :
    (∃ actor, config' = ⟨config.store, config.threads ++ [⟨system.unseen, system.program actor⟩]⟩) ∨
    ∃ index choice view command resume,
      move = .step index choice ∧ config.threads[index]? = some ⟨view, .issue command resume⟩ ∧
      config' = system.stepped config index choice view command resume := by
  cases move with
  | start actor => exact .inl ⟨actor, (Option.some.inj hmove).symm⟩
  | step index choice =>
    rw [System.move] at hmove
    split at hmove
    · next view command resume hthread =>
        exact .inr ⟨index, choice, view, command, resume, rfl, hthread, (Option.some.inj hmove).symm⟩
    · cases hmove

variable {index : Nat}

theorem issued_of_thread {view : ν} {command : κ} {resume : ρ command → Program κ ρ Unit}
    (hthread : config.threads[index]? = some ⟨view, .issue command resume⟩) (picked : choice) :
    (view, command) ∈ issued config (.step index picked : Move actor choice) := by
  rw [issued, hthread]
  rfl

theorem move_cases {move : Move actor choice} (hmove : system.move config move = some config')
    (hmeets : Meets guard config move) :
    (∃ actor, config' = ⟨config.store, config.threads ++ [⟨system.unseen, system.program actor⟩]⟩) ∨
    ∃ index choice view command resume,
      config.threads[index]? = some ⟨view, .issue command resume⟩ ∧ guard config.store view command ∧
      config' = system.stepped config index choice view command resume := by
  obtain hstart | ⟨index, choice, view, command, resume, rfl, hthread, hconfig⟩ := move_cases_unguarded hmove
  · exact .inl hstart
  · have hguard := hmeets (view, command) (issued_of_thread hthread choice)
    exact .inr ⟨index, choice, view, command, resume, hthread, hguard, hconfig⟩

theorem step_of_issued {move : Move actor choice} {view : ν} {command : κ}
    (hissued : (view, command) ∈ issued config move) :
    ∃ index choice resume,
      move = .step index choice ∧ config.threads[index]? = some ⟨view, .issue command resume⟩ := by
  cases move with
  | start actor => cases hissued
  | step index choice =>
    rw [issued] at hissued
    split at hissued
    · next view' command' resume hthread =>
        obtain ⟨rfl, rfl⟩ := Prod.mk.inj (Option.some.inj hissued)
        exact ⟨index, choice, resume, rfl, hthread⟩
    · cases hissued

theorem thread_of_issued {move : Move actor choice} {view : ν} {command : κ}
    (hissued : (view, command) ∈ issued config move) :
    ∃ resume, (⟨view, .issue command resume⟩ : Thread ν κ ρ) ∈ config.threads := by
  obtain ⟨index, choice, resume, -, hthread⟩ := step_of_issued hissued
  exact ⟨resume, List.mem_of_getElem? hthread⟩

/-! ### Rules for runs -/

variable {allows : ν → κ → Prop} {stable : σ → ν → Prop}

/-- One command keeps `stable` for its own thread and for any other, given that it is allowed and meets the
guard. -/
structure Keeps (system : System actor choice σ ν κ ρ) (guard : σ → ν → κ → Prop) (allows : ν → κ → Prop)
    (stable : σ → ν → Prop) : Prop where
  program : ∀ actor, (system.program actor).wp system.next allows system.unseen fun _ _ => True
  unseen : ∀ store, stable store system.unseen
  own : ∀ store choice view command, allows view command → guard store view command → stable store view →
    stable (system.exec store choice command).2
      (system.next view command (system.exec store choice command).1)
  other : ∀ store choice view command view', allows view command → guard store view command →
    stable store view → stable store view' → stable (system.exec store choice command).2 view'

/-- Every thread goes on issuing only allowed commands, and its view is stable. -/
def Sound (system : System actor choice σ ν κ ρ) (allows : ν → κ → Prop) (stable : σ → ν → Prop)
    (config : Config σ ν κ ρ) : Prop :=
  ∀ thread ∈ config.threads,
    thread.program.wp system.next allows thread.view (fun _ _ => True) ∧ stable config.store thread.view

/-- `Keeps` with an invariant of the store beside it, and with changes of the store from outside, each of
which meets `may`. -/
structure Maintains (system : System actor choice σ ν κ ρ) (disturb : σ → outside → σ) (guard : σ → ν → κ → Prop)
    (may : σ → outside → Prop) (allows : ν → κ → Prop) (inv : σ → Prop) (stable : σ → ν → Prop) : Prop where
  program : ∀ actor, (system.program actor).wp system.next allows system.unseen fun _ _ => True
  unseen : ∀ store, inv store → stable store system.unseen
  execInv : ∀ store choice view command, allows view command → guard store view command → inv store →
    stable store view → inv (system.exec store choice command).2
  own : ∀ store choice view command, allows view command → guard store view command → inv store →
    stable store view → stable (system.exec store choice command).2
      (system.next view command (system.exec store choice command).1)
  other : ∀ store choice view command view', allows view command → guard store view command → inv store →
    stable store view → stable store view' → stable (system.exec store choice command).2 view'
  outsideInv : ∀ store change, may store change → inv store → inv (disturb store change)
  outside : ∀ store change view, may store change → inv store → stable store view →
    stable (disturb store change) view

section Maintained

variable {disturb : σ → outside → σ} {may : σ → outside → Prop} {inv : σ → Prop}

theorem Maintains.sound_move (hmaintains : Maintains system disturb guard may allows inv stable)
    (hinv : inv config.store) (hsound : Sound system allows stable config) {move : Move actor choice}
    (hmeets : Meets guard config move) (hmove : system.move config move = some config') :
    inv config'.store ∧ Sound system allows stable config' := by
  obtain ⟨actor, rfl⟩ | ⟨index, choice, view, command, resume, hthread, hguard, rfl⟩ := move_cases hmove hmeets
  · refine ⟨hinv, fun thread hmem => ?_⟩
    rcases List.mem_append.mp hmem with hmem | hmem
    · exact hsound thread hmem
    · obtain rfl := List.mem_singleton.mp hmem
      exact ⟨hmaintains.program actor, hmaintains.unseen _ hinv⟩
  · obtain ⟨⟨hallows, hresume⟩, hstable⟩ := hsound _ (List.mem_of_getElem? hthread)
    refine ⟨hmaintains.execInv _ _ _ _ hallows hguard hinv hstable, fun thread hmem => ?_⟩
    rcases List.mem_or_eq_of_mem_set hmem with hmem | rfl
    · obtain ⟨hwp, hother⟩ := hsound thread hmem
      exact ⟨hwp, hmaintains.other _ _ _ _ _ hallows hguard hinv hstable hother⟩
    · exact ⟨hresume _, hmaintains.own _ _ _ _ hallows hguard hinv hstable⟩

theorem Maintains.sound_happens (hmaintains : Maintains system disturb guard may allows inv stable)
    (hinv : inv config.store) (hsound : Sound system allows stable config) {event : Event actor choice outside}
    (hmeets : EventMeets guard may config event) (hevent : system.happens disturb config event = some config') :
    inv config'.store ∧ Sound system allows stable config' := by
  cases event with
  | move move => exact hmaintains.sound_move hinv hsound hmeets hevent
  | outside change =>
    obtain rfl := Option.some.inj hevent
    refine ⟨hmaintains.outsideInv _ _ hmeets hinv, fun thread hmem => ?_⟩
    obtain ⟨hwp, hstable⟩ := hsound thread hmem
    exact ⟨hwp, hmaintains.outside _ _ _ hmeets hinv hstable⟩

variable {events : List (Event actor choice outside)}

/-- What holds at every command of a sound configuration holds at every command of a history. -/
theorem Maintains.historyMeets (hmaintains : Maintains system disturb guard may allows inv stable)
    {guard' : σ → ν → κ → Prop} (hguard' : ∀ store view command, allows view command → guard store view command →
      inv store → stable store view → guard' store view command)
    (hinv : inv config.store) (hsound : Sound system allows stable config)
      (hmeets : system.HistoryMeets guard disturb may config events) :
    system.HistoryMeets guard' disturb (fun _ _ => True) config events := by
  induction events generalizing config with
  | nil => trivial
  | cons event events ih =>
    obtain ⟨hevent, hrest⟩ := hmeets
    refine ⟨?_, fun config' hconfig' => ?_⟩
    · cases event with
      | outside change => trivial
      | move move =>
        rintro ⟨view, command⟩ hissued
        obtain ⟨resume, hthread⟩ := thread_of_issued hissued
        obtain ⟨⟨hallows, -⟩, hstable⟩ := hsound _ hthread
        exact hguard' _ _ _ hallows (hevent _ hissued) hinv hstable
    · obtain ⟨hinv', hsound'⟩ := hmaintains.sound_happens hinv hsound hevent hconfig'
      exact ih hinv' hsound' (hrest config' hconfig')

theorem Keeps.maintains (hkeeps : Keeps system guard allows stable) :
    Maintains system (fun store (_ : Empty) => store) guard (fun _ _ => True) allows (fun _ => True) stable where
  program := hkeeps.program
  unseen store _ := hkeeps.unseen store
  execInv _ _ _ _ _ _ _ _ := trivial
  own store choice view command hallows hguard _ := hkeeps.own store choice view command hallows hguard
  other store choice view command view' hallows hguard _ :=
    hkeeps.other store choice view command view' hallows hguard
  outsideInv _ _ _ _ := trivial
  outside _ change := change.elim

end Maintained

theorem Keeps.sound_move (hkeeps : Keeps system guard allows stable) (hsound : Sound system allows stable config)
    {move : Move actor choice} (hmeets : Meets guard config move) (hmove : system.move config move = some config') :
    Sound system allows stable config' :=
  (hkeeps.maintains.sound_move trivial hsound hmeets hmove).2

variable {moves : List (Move actor choice)}

theorem Keeps.sound_run (hkeeps : Keeps system guard allows stable) (hsound : Sound system allows stable config)
    (hmeets : system.RunMeets guard config moves)
    (hrun : system.run config moves = some config') : Sound system allows stable config' := by
  induction moves generalizing config with
  | nil => exact Option.some.inj hrun ▸ hsound
  | cons move moves ih =>
    obtain ⟨mid, hmove, hrest⟩ := Option.bind_eq_some_iff.mp hrun
    exact ih (hkeeps.sound_move hsound hmeets.1 hmove) (hmeets.2 mid hmove) hrest

theorem sound_initial : Sound system allows stable (Config.initial store) :=
  fun _ hmem => absurd hmem List.not_mem_nil

variable (rel : σ → σ → Prop)

theorem rel_of_move (hrefl : ∀ store, rel store store)
    (hexec : ∀ store choice view command, allows view command → guard store view command → stable store view →
      rel store (system.exec store choice command).2)
    (hsound : Sound system allows stable config) {move : Move actor choice} (hmeets : Meets guard config move)
    (hmove : system.move config move = some config') : rel config.store config'.store := by
  obtain ⟨actor, rfl⟩ | ⟨index, choice, view, command, resume, hthread, hguard, rfl⟩ := move_cases hmove hmeets
  · exact hrefl _
  · obtain ⟨⟨hallows, -⟩, hstable⟩ := hsound _ (List.mem_of_getElem? hthread)
    exact hexec _ _ _ _ hallows hguard hstable

theorem rel_of_run (hkeeps : Keeps system guard allows stable) (hrefl : ∀ store, rel store store)
    (htrans : ∀ s t u, rel s t → rel t u → rel s u)
    (hexec : ∀ store choice view command, allows view command → guard store view command → stable store view →
      rel store (system.exec store choice command).2)
    (hsound : Sound system allows stable config)
    (hmeets : system.RunMeets guard config moves) (hrun : system.run config moves = some config') :
    rel config.store config'.store := by
  induction moves generalizing config with
  | nil => exact Option.some.inj hrun ▸ hrefl _
  | cons move moves ih =>
    obtain ⟨mid, hmove, hrest⟩ := Option.bind_eq_some_iff.mp hrun
    exact htrans _ _ _ (rel_of_move rel hrefl hexec hsound hmeets.1 hmove)
      (ih (hkeeps.sound_move hsound hmeets.1 hmove) (hmeets.2 mid hmove) hrest)

/-! ### Rules without a guard

What every command does, whoever issues it, and what every thread is bound to do. -/

section Unguarded

theorem move_of_issued {move : Move actor choice} {view : ν} {command : κ}
    (hissued : (view, command) ∈ issued config move) (hmove : system.move config move = some config') :
    ∃ index choice resume,
      move = .step index choice ∧ config.threads[index]? = some ⟨view, .issue command resume⟩ ∧
      config' = system.stepped config index choice view command resume := by
  obtain ⟨index, choice, resume, rfl, hthread⟩ := step_of_issued hissued
  rw [System.move, hthread] at hmove
  exact ⟨index, choice, resume, rfl, hthread, (Option.some.inj hmove).symm⟩

theorem eq_or_mem_set {old thread : Thread ν κ ρ} (hold : config.threads[index]? = some old)
    (hmem : thread ∈ config.threads) (new : Thread ν κ ρ) : thread = old ∨ thread ∈ config.threads.set index new := by
  obtain ⟨other, hother⟩ := List.mem_iff_getElem?.1 hmem
  by_cases hindex : index = other
  · subst hindex
    exact .inl (Option.some.inj (hother.symm.trans hold))
  · exact .inr (List.mem_iff_getElem?.2 ⟨other, by rw [List.getElem?_set_ne hindex, hother]⟩)

theorem run_append (earlier later : List (Move actor choice)) :
    system.run config (earlier ++ later) = (system.run config earlier).bind fun config' => system.run config' later := by
  induction earlier generalizing config with
  | nil => rfl
  | cons move earlier ih =>
    show (system.move config move).bind (fun config' => system.run config' (earlier ++ later)) = _
    rw [funext fun config' => ih, ← Option.bind_assoc]
    rfl

variable (keeps : Config σ ν κ ρ → Prop)

theorem keeps_run
    (hmove : ∀ config move config', system.move config move = some config' → keeps config → keeps config')
    (hkeeps : keeps config) (hrun : system.run config moves = some config') :
    keeps config' := by
  induction moves generalizing config with
  | nil => exact Option.some.inj hrun ▸ hkeeps
  | cons move moves ih =>
    obtain ⟨mid, hstep, hrest⟩ := Option.bind_eq_some_iff.mp hrun
    exact ih (hmove config move mid hstep hkeeps) hrest

/-- Every move of a run meets a condition on the configuration before it. -/
def Along (system : System actor choice σ ν κ ρ) (meets : Config σ ν κ ρ → Move actor choice → Prop) :
    Config σ ν κ ρ → List (Move actor choice) → Prop
  | _, [] => True
  | config, move :: moves => meets config move ∧ ∀ config' ∈ system.move config move, Along system meets config' moves

instance decidableAlong {meets : Config σ ν κ ρ → Move actor choice → Prop}
    [∀ config move, Decidable (meets config move)] :
    (config : Config σ ν κ ρ) → (moves : List (Move actor choice)) → Decidable (system.Along meets config moves)
  | _, [] => .isTrue trivial
  | config, move :: moves =>
    have : DecidablePred fun config' => system.Along meets config' moves :=
      fun config' => decidableAlong config' moves
    inferInstanceAs (Decidable (_ ∧ ∀ config' ∈ system.move config move, system.Along meets config' moves))

theorem keeps_along {meets : Config σ ν κ ρ → Move actor choice → Prop}
    (hmove : ∀ config move config', system.move config move = some config' → meets config move → keeps config →
      keeps config')
    (hkeeps : keeps config) (halong : system.Along meets config moves)
    (hrun : system.run config moves = some config') : keeps config' := by
  induction moves generalizing config with
  | nil => exact Option.some.inj hrun ▸ hkeeps
  | cons move moves ih =>
    obtain ⟨mid, hstep, hrest⟩ := Option.bind_eq_some_iff.mp hrun
    exact ih (hmove config move mid hstep halong.1 hkeeps) (halong.2 mid hstep) hrest

theorem rel_run (hrefl : ∀ store, rel store store) (htrans : ∀ s t u, rel s t → rel t u → rel s u)
    (hexec : ∀ store choice command, rel store (system.exec store choice command).2)
      (hrun : system.run config moves = some config') :
    rel config.store config'.store := by
  apply keeps_run (fun reached => rel config.store reached.store) _ (hrefl _) hrun
  intro before move after hmove hrel
  obtain ⟨actor, rfl⟩ | ⟨index, choice, view, command, resume, -, -, rfl⟩ := move_cases_unguarded hmove
  · exact hrel
  · exact htrans _ _ _ hrel (hexec _ _ _)

theorem inv_run (inv : σ → Prop) (hexec : ∀ store choice command, inv store → inv (system.exec store choice command).2)
    (hinv : inv config.store) (hrun : system.run config moves = some config') :
    inv config'.store :=
  rel_run (fun s t => inv s → inv t) (fun _ h => h) (fun _ _ _ hst htu h => htu (hst h)) hexec hrun hinv

/-- Every thread goes on issuing only allowed commands, and ends in `post`. -/
def Settled (system : System actor choice σ ν κ ρ) (allows : ν → κ → Prop) (post : ν → Prop)
    (config : Config σ ν κ ρ) : Prop :=
  ∀ thread ∈ config.threads, thread.program.wp system.next allows thread.view fun view _ => post view

variable {post : ν → Prop}

theorem settled_initial : Settled system allows post (Config.initial store) :=
  fun _ hmem => absurd hmem List.not_mem_nil

theorem Settled.allows_issued (hsettled : Settled system allows post config) {view : ν} {command : κ}
    {resume : ρ command → Program κ ρ Unit} (hthread : config.threads[index]? = some ⟨view, .issue command resume⟩) :
    allows view command :=
  (hsettled _ (List.mem_of_getElem? hthread)).1

theorem Settled.issues (hsettled : Settled system allows post config) {thread : Thread ν κ ρ}
    (hmem : thread ∈ config.threads) (hpost : ¬ post thread.view) :
    ∃ command resume, thread.program = .issue command resume := by
  have hwp := hsettled thread hmem
  cases hprogram : thread.program with
  | done value =>
    rw [hprogram] at hwp
    exact absurd hwp hpost
  | issue command resume => exact ⟨command, resume, rfl⟩

theorem Settled.move
    (hprogram : ∀ actor, (system.program actor).wp system.next allows system.unseen fun view _ => post view)
    (hsettled : Settled system allows post config) {move : Move actor choice}
    (hmove : system.move config move = some config') : Settled system allows post config' := by
  obtain ⟨actor, rfl⟩ | ⟨index, choice, view, command, resume, -, hthread, rfl⟩ := move_cases_unguarded hmove
  · intro thread hmem
    rcases List.mem_append.mp hmem with hmem | hmem
    · exact hsettled thread hmem
    · obtain rfl := List.mem_singleton.mp hmem
      exact hprogram actor
  · intro thread hmem
    rcases List.mem_or_eq_of_mem_set hmem with hmem | rfl
    · exact hsettled thread hmem
    · exact (hsettled _ (List.mem_of_getElem? hthread)).2 _

end Unguarded

/-! ### Tokens

A command may pass tokens between its thread and the store but makes none, so that their number never grows,
whoever holds them. -/

section Tokens

variable (held : ν → Nat) (free : σ → Nat)

def tokens (config : Config σ ν κ ρ) : Nat :=
  (config.threads.map fun thread => held thread.view).sum + free config.store

theorem sum_map_set {τ : Type} (f : τ → Nat) {l : List τ} {old : τ} (new : τ)
    (hold : l[index]? = some old) : ((l.set index new).map f).sum + f old = (l.map f).sum + f new := by
  induction l generalizing index with
  | nil => cases hold
  | cons head tail ih =>
    cases index with
    | zero =>
      obtain rfl := Option.some.inj hold
      simp only [List.set_cons_zero, List.map_cons, List.sum_cons]
      omega
    | succ index =>
      have htail := ih hold
      simp only [List.set_cons_succ, List.map_cons, List.sum_cons]
      omega

theorem tokens_step (system : System actor choice σ ν κ ρ) {view : ν} {command : κ}
    {resume : ρ command → Program κ ρ Unit}
    (hthread : config.threads[index]? = some ⟨view, .issue command resume⟩) (choice : choice) :
    tokens held free (system.stepped config index choice view command resume) + (held view + free config.store)
      = tokens held free config + (held (system.next view command (system.exec config.store choice command).1)
          + free (system.exec config.store choice command).2) := by
  have hsum := sum_map_set (fun thread : Thread ν κ ρ => held thread.view)
    ⟨system.next view command (system.exec config.store choice command).1,
      resume (system.exec config.store choice command).1⟩ hthread
  simp only [tokens] at hsum ⊢
  omega

theorem le_tokens {thread : Thread ν κ ρ} (hmem : thread ∈ config.threads) :
    held thread.view + free config.store ≤ tokens held free config := by
  have hle : held thread.view ≤ (config.threads.map fun thread => held thread.view).sum :=
    List.le_sum_of_mem (List.mem_map_of_mem hmem)
  simp only [tokens]
  omega

theorem held_add_le_tokens {old new thread : Thread ν κ ρ} (hold : config.threads[index]? = some old)
    (hmem : thread ∈ config.threads.set index new) :
    thread = new ∨ held old.view + held thread.view + free config.store ≤ tokens held free config := by
  obtain ⟨other, hother⟩ := List.mem_iff_getElem?.1 hmem
  have hlt := (List.getElem?_eq_some_iff.1 hold).1
  by_cases hindex : index = other
  · subst hindex
    rw [List.getElem?_set_self hlt] at hother
    exact .inl (Option.some.inj hother).symm
  · rw [List.getElem?_set_ne hindex] at hother
    -- Without the thread at the index the other one is still there.
    have hperm := (List.getElem_cons_eraseIdx_perm hlt).map fun thread => held thread.view
    have hrest : held thread.view ≤ ((config.threads.eraseIdx index).map fun thread => held thread.view).sum :=
      List.le_sum_of_mem (List.mem_map_of_mem (List.mem_eraseIdx_iff_getElem?.2 ⟨other, fun h => hindex h.symm, hother⟩))
    have hsum := hperm.sum_eq
    rw [List.map_cons, List.sum_cons, (List.getElem?_eq_some_iff.1 hold).2] at hsum
    simp only [tokens]
    omega

theorem tokens_move_le (hunseen : held system.unseen = 0)
    (hexec : ∀ store choice view command, allows view command → guard store view command → stable store view →
      held (system.next view command (system.exec store choice command).1)
        + free (system.exec store choice command).2 ≤ held view + free store)
    (hsound : Sound system allows stable config) {move : Move actor choice} (hmeets : Meets guard config move)
    (hmove : system.move config move = some config') : tokens held free config' ≤ tokens held free config := by
  obtain ⟨actor, rfl⟩ | ⟨index, choice, view, command, resume, hthread, hguard, rfl⟩ := move_cases hmove hmeets
  · simp [tokens, hunseen]
  · obtain ⟨⟨hallows, -⟩, hstable⟩ := hsound _ (List.mem_of_getElem? hthread)
    have hcommand := hexec _ choice view _ hallows hguard hstable
    have hstep := tokens_step held free system hthread choice
    omega

theorem tokens_run_le (hkeeps : Keeps system guard allows stable) (hunseen : held system.unseen = 0)
    (hexec : ∀ store choice view command, allows view command → guard store view command → stable store view →
      held (system.next view command (system.exec store choice command).1)
        + free (system.exec store choice command).2 ≤ held view + free store)
    (hsound : Sound system allows stable config)
    (hmeets : system.RunMeets guard config moves) (hrun : system.run config moves = some config') :
    tokens held free config' ≤ tokens held free config := by
  induction moves generalizing config with
  | nil => exact Option.some.inj hrun ▸ Nat.le_refl _
  | cons move moves ih =>
    obtain ⟨mid, hmove, hrest⟩ := Option.bind_eq_some_iff.mp hrun
    exact Nat.le_trans (ih (hkeeps.sound_move hsound hmeets.1 hmove) (hmeets.2 mid hmove) hrest)
      (tokens_move_le held free hunseen hexec hsound hmeets.1 hmove)

end Tokens

end System

end Interleaving
