import Proxbox.Library.Dict
/-!
# Loops that record and act

A loop whose rounds each write one entry of a dictionary and append events to a log. A round sees the
log so far, so what it does may depend on everything before it. The rules below are for the parts of a
round that do not: a key that is a function of the item alone, and events that are one after a
projection.
-/

namespace Rounds

open Python

structure Round (ε κ α : Type) where
  key : κ
  entry : α
  events : List ε

structure State (ε κ α : Type) where
  results : Dict κ α
  log : List ε

variable {ι ε κ α δ : Type} [DecidableEq κ]

def State.record (state : State ε κ α) (round : Round ε κ α) : State ε κ α :=
  ⟨state.results.set round.key round.entry, state.log ++ round.events⟩

def loop (step : List ε → ι → Round ε κ α) (state : State ε κ α) (items : List ι) : State ε κ α :=
  items.foldl (fun state item => state.record (step state.log item)) state

def rounds (step : List ε → ι → Round ε κ α) (log : List ε) : List ι → List (Round ε κ α)
  | [] => []
  | item :: rest => step log item :: rounds step (log ++ (step log item).events) rest

def eventsOf (rounds : List (Round ε κ α)) : List ε := rounds.flatMap Round.events

theorem loop_log (step : List ε → ι → Round ε κ α) (state : State ε κ α) (items : List ι) :
    (loop step state items).log = state.log ++ eventsOf (rounds step state.log items) := by
  induction items generalizing state with
  | nil => simp [loop, rounds, eventsOf]
  | cons item rest ih =>
    change (loop step (state.record (step state.log item)) rest).log = _
    rw [ih]
    simp [State.record, rounds, eventsOf]

def writes (rounds : List (Round ε κ α)) : List (κ × α) := rounds.map fun round => (round.key, round.entry)

theorem loop_results (step : List ε → ι → Round ε κ α) (state : State ε κ α) (items : List ι) :
    (loop step state items).results
      = (writes (rounds step state.log items)).foldl (fun d w => d.set w.1 w.2) state.results := by
  induction items generalizing state with
  | nil => rfl
  | cons item rest ih =>
    change (loop step (state.record (step state.log item)) rest).results = _
    rw [ih]
    rfl

omit [DecidableEq κ] in
theorem map_key_rounds (step : List ε → ι → Round ε κ α) (key : ι → κ)
    (hkey : ∀ log item, (step log item).key = key item) (log : List ε) (items : List ι) :
    (rounds step log items).map Round.key = items.map key := by
  induction items generalizing log with
  | nil => rfl
  | cons item rest ih => rw [rounds, List.map_cons, hkey, ih, List.map_cons]

omit [DecidableEq κ] in
theorem filterMap_eventsOf_rounds (step : List ε → ι → Round ε κ α) (project : ε → Option δ)
    (stands : ι → Option δ)
    (hround : ∀ log item, (step log item).events.filterMap project = (stands item).toList)
    (log : List ε) (items : List ι) :
    (eventsOf (rounds step log items)).filterMap project = items.filterMap stands := by
  induction items generalizing log with
  | nil => rfl
  | cons item rest ih =>
    have hrest := ih (log ++ (step log item).events)
    rw [eventsOf] at hrest ⊢
    rw [rounds, List.flatMap_cons, List.filterMap_append, hround, hrest]
    cases hitem : stands item <;> simp [hitem]

end Rounds
