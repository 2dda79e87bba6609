import RowServe.Store.Action

/-!
# Scripted stores

A store that answers from a list of replies, whatever it is asked, and writes down what
it was asked. Only statements use up replies; when the list has run out, no row comes.

Results:

* `run_entries`: over a run the record only grows.
-/

namespace RowServe

/-- A store that answers from a list. -/
structure Script where
  replies : List Reply
  /-- Is a connection to be had? -/
  reachable : Bool
  deriving DecidableEq

/-- The replies still to come, and what the store was asked so far. -/
structure Recording where
  script : Script
  entries : List StoreAction
  deriving DecidableEq

namespace Recording

/-- Nothing was asked yet. -/
def start (script : Script) : Recording := ⟨script, []⟩

/-- The recording with one more entry. -/
def note (r : Recording) (x : StoreAction) : Recording := { r with entries := r.entries ++ [x] }

/-- Takes the next reply. -/
def next (r : Recording) : Reply × Recording :=
  match r.script.replies with
  | [] => (.noRow, r)
  | reply :: rest => (reply, { r with script := { r.script with replies := rest } })

/-- Answers what needs a connection, and writes it down. -/
def connected (r : Recording) (x : StoreAction) : Except StoreError Unit × Recording :=
  if r.script.reachable then (.ok (), r.note x) else (.error .unavailable, r)

/-- Answers an action. Without a connection nothing reaches the store. -/
def answer (x : StoreAction) (r : Recording) : x.Answer × Recording :=
  match x with
  | .run command => if r.script.reachable then (r.note (.run command)).next else (.unavailable, r)
  | .connect database => r.connected (.connect database)
  | .beginTransaction => r.connected .beginTransaction
  | .commit => r.connected .commit
  | .rollback => ((), r.note .rollback)

/-- The result of a plan on a scripted store, and what was asked. -/
def play {α : Type} (plan : StorePlan α) (script : Script) :
    Except RequestError α × List StoreAction :=
  let (result, recording) := plan.run answer (start script)
  (result, recording.entries)

theorem connected_entries (r : Recording) (x : StoreAction) :
    r.entries <+: (r.connected x).2.entries := by
  simp only [connected]
  split
  · exact List.prefix_append _ _
  · exact List.prefix_refl _

theorem answer_entries (r : Recording) (x : StoreAction) : r.entries <+: (r.answer x).2.entries := by
  cases x with
  | run command =>
    simp only [answer]
    split
    · simp only [next]
      split <;> exact List.prefix_append _ _
    · exact List.prefix_refl _
  | connect database => exact r.connected_entries _
  | beginTransaction => exact r.connected_entries _
  | commit => exact r.connected_entries _
  | rollback => exact List.prefix_append _ _

theorem run_entries {α : Type} (plan : StorePlan α) (r : Recording) :
    r.entries <+: (plan.run answer r).2.entries := by
  induction plan generalizing r with
  | done a => exact List.prefix_refl _
  | fail e => exact List.prefix_refl _
  | act x next ih => exact (r.answer_entries x).trans (ih _ _)

end Recording

end RowServe
