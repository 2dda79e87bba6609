import RowServe.Request.Error

/-!
# Plans

A plan acts on the world outside step by step. Each action is answered before the next
one is chosen, so a plan is a tree: an action, and a plan for every answer to it. What a
plan would do can be read off the tree, whoever answers.

Results:

* `run_bind`: running a plan that goes on is running its parts one after the other.
* `bind_assoc`: how steps are grouped makes no difference.
-/

namespace RowServe

/-- Actions, and what each of them is answered with. -/
structure Interface where
  Action : Type
  Answer : Action → Type

/-- What to do, step by step, up to a value or a failure. -/
inductive Plan (I : Interface) (α : Type) : Type where
  | done (a : α)
  | fail (e : RequestError)
  | act (x : I.Action) (next : I.Answer x → Plan I α)

namespace Plan

variable {I J : Interface} {α β γ σ : Type}

/-! ## Steps -/

/-- Goes on with the value of a plan. -/
def bind : Plan I α → (α → Plan I β) → Plan I β
  | done a, f => f a
  | fail e, _ => fail e
  | act x next, f => act x fun y => bind (next y) f

/-- A result that is known already. -/
def ofExcept : Except RequestError α → Plan I α
  | .ok a => done a
  | .error e => fail e

/-- Ends with the failure of a plan instead of failing. -/
def attempt : Plan I α → Plan I (Except RequestError α)
  | done a => done (.ok a)
  | fail e => done (.error e)
  | act x next => act x fun y => attempt (next y)

/-- Changes the failure of a plan. -/
def mapError (f : RequestError → RequestError) : Plan I α → Plan I α
  | done a => done a
  | fail e => fail (f e)
  | act x next => act x fun y => mapError f (next y)

/-- Every action as an action of a wider interface. -/
def embed (wider : I.Action → J.Action) (back : (x : I.Action) → J.Answer (wider x) → I.Answer x) :
    Plan I α → Plan J α
  | done a => done a
  | fail e => fail e
  | act x next => act (wider x) fun y => embed wider back (next (back x y))

/-! ## Runs -/

/-- Runs a plan; the state is what answers the actions. -/
def run (answer : (x : I.Action) → σ → I.Answer x × σ) : Plan I α → σ → Except RequestError α × σ
  | done a, s => (.ok a, s)
  | fail e, s => (.error e, s)
  | act x next, s => run answer (next (answer x s).1) (answer x s).2

/-- The actions on one way through a plan, with its end; the way may stop before that. -/
inductive Path : Plan I α → List I.Action → Option (Except RequestError α) → Prop where
  | stop (p : Plan I α) : Path p [] none
  | done (a : α) : Path (.done a) [] (some (.ok a))
  | fail (e : RequestError) : Path (.fail e) [] (some (.error e))
  | act {x : I.Action} {next : I.Answer x → Plan I α} (y : I.Answer x) {xs : List I.Action}
      {result : Option (Except RequestError α)} (rest : Path (next y) xs result) :
      Path (.act x next) (x :: xs) result

theorem bind_assoc (p : Plan I α) (f : α → Plan I β) (g : β → Plan I γ) :
    (p.bind f).bind g = p.bind fun a => (f a).bind g := by
  induction p with
  | done a => rfl
  | fail e => rfl
  | act x next ih => simp only [bind, ih]

theorem run_bind (answer : (x : I.Action) → σ → I.Answer x × σ) (p : Plan I α)
    (f : α → Plan I β) (s : σ) :
    run answer (p.bind f) s =
      match run answer p s with
      | (.ok a, s) => run answer (f a) s
      | (.error e, s) => (.error e, s) := by
  induction p generalizing s with
  | done a => rfl
  | fail e => rfl
  | act x next ih => simp only [bind, run, ih]

end Plan

end RowServe
