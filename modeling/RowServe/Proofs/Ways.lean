import Mathlib.Logic.Function.Basic
import RowServe.Plan

/-!
# Ways through plans

What happens on one way through a plan: its actions, each with the answer that was given
to it. The ways of a plan that is made of parts are put together of the ways of its parts,
and every run of a plan takes one of its ways.

Results:

* `way_bind`: the ways of a plan that goes on.
* `way_embed`: an embedded plan takes the ways of the plan.
* `run_way`: a run takes a way to its end, and each answer on it was given.
-/

namespace RowServe.Plan

variable {I J : Interface} {α β σ : Type}

/-- An action with its answer. -/
structure Event (I : Interface) where
  action : I.Action
  answer : I.Answer action

/-- What happens on one way through a plan, with its end; the way may stop before that. -/
inductive Way : Plan I α → List (Event I) → Option (Except RequestError α) → Prop where
  | stop (p : Plan I α) : Way p [] none
  | done (a : α) : Way (.done a) [] (some (.ok a))
  | fail (e : RequestError) : Way (.fail e) [] (some (.error e))
  | act {x : I.Action} {next : I.Answer x → Plan I α} (y : I.Answer x) {events : List (Event I)}
      {result : Option (Except RequestError α)} (rest : Way (next y) events result) :
      Way (.act x next) (⟨x, y⟩ :: events) result

variable {p : Plan I α} {events : List (Event I)} {result : Option (Except RequestError α)}

/-- The end of a way that comes to a known result, or stops right before it. -/
def UpTo {α : Type} (known : α) (result : Option α) : Prop := result = none ∨ result = some known

theorem upTo_some {α : Type} {known a : α} : UpTo known (some a) ↔ a = known := by
  simp [UpTo]

/-- Without the answers a way is a path. -/
theorem Way.path (h : Way p events result) : Path p (events.map (·.action)) result := by
  induction h with
  | stop p => exact .stop p
  | done a => exact .done a
  | fail e => exact .fail e
  | act y _ ih => exact .act y ih

/-! ## Single steps -/

theorem way_done {a : α} :
    Way (done a : Plan I α) events result ↔
      events = [] ∧ UpTo (.ok a) result := by
  constructor
  · rintro (_ | _)
    · exact ⟨rfl, .inl rfl⟩
    · exact ⟨rfl, .inr rfl⟩
  · rintro ⟨rfl, rfl | rfl⟩
    · exact .stop _
    · exact .done a

theorem way_fail {e : RequestError} :
    Way (fail e : Plan I α) events result ↔
      events = [] ∧ UpTo (.error e) result := by
  constructor
  · rintro (_ | _)
    · exact ⟨rfl, .inl rfl⟩
    · exact ⟨rfl, .inr rfl⟩
  · rintro ⟨rfl, rfl | rfl⟩
    · exact .stop _
    · exact .fail e

theorem way_act {x : I.Action} {next : I.Answer x → Plan I α} :
    Way (act x next) events result ↔
      (events = [] ∧ result = none) ∨
        ∃ y rest, events = ⟨x, y⟩ :: rest ∧ Way (next y) rest result := by
  constructor
  · rintro (_ | _ | _ | ⟨y, h⟩)
    · exact .inl ⟨rfl, rfl⟩
    · exact .inr ⟨y, _, rfl, h⟩
  · rintro (⟨rfl, rfl⟩ | ⟨y, rest, rfl, h⟩)
    · exact .stop _
    · exact .act y h

theorem way_ofExcept {known : Except RequestError α} :
    Way (ofExcept known : Plan I α) events result ↔
      events = [] ∧ UpTo known result := by
  cases known with
  | ok a => exact way_done
  | error e => exact way_fail

/-! ## Parts -/

/-- What follows the first part of a plan, by the end of the first part. -/
inductive Onward (f : α → Plan I β) :
    Option (Except RequestError α) → List (Event I) → Option (Except RequestError β) → Prop where
  | stop : Onward f none [] none
  | fail (e : RequestError) : Onward f (some (.error e)) [] (some (.error e))
  | go {a : α} {rest : List (Event I)} {result : Option (Except RequestError β)}
      (h : Way (f a) rest result) : Onward f (some (.ok a)) rest result

theorem Way.bind {f : α → Plan I β} {rest : List (Event I)}
    {total : Option (Except RequestError β)} (h : Way p events result)
    (hrest : Onward f result rest total) : Way (p.bind f) (events ++ rest) total := by
  induction h with
  | stop p =>
    cases hrest
    exact .stop _
  | done a =>
    cases hrest with
    | go h => exact h
  | fail e =>
    cases hrest
    exact .fail e
  | act y _ ih => exact .act y (ih hrest)

/-- A plan that goes on stops or fails in its first part, or takes a way of the first part
    to its end and then a way of what follows. -/
theorem way_bind {f : α → Plan I β} {result : Option (Except RequestError β)} :
    Way (p.bind f) events result ↔
      (result = none ∧ Way p events none) ∨
      (∃ e, result = some (.error e) ∧ Way p events (some (.error e))) ∨
      ∃ a first rest, events = first ++ rest ∧ Way p first (some (.ok a)) ∧
        Way (f a) rest result := by
  constructor
  · intro h
    induction p generalizing events with
    | done a => exact .inr (.inr ⟨a, [], events, rfl, .done a, h⟩)
    | fail e =>
      obtain ⟨rfl, rfl | rfl⟩ := way_fail.mp h
      · exact .inl ⟨rfl, .stop _⟩
      · exact .inr (.inl ⟨e, rfl, .fail e⟩)
    | act x next ih =>
      obtain ⟨rfl, rfl⟩ | ⟨y, rest, rfl, hrest⟩ := way_act.mp h
      · exact .inl ⟨rfl, .stop _⟩
      · obtain ⟨hend, hp⟩ | ⟨e, hend, hp⟩ | ⟨a, first, rest, rfl, hp, hf⟩ := ih y hrest
        · exact .inl ⟨hend, .act y hp⟩
        · exact .inr (.inl ⟨e, hend, .act y hp⟩)
        · exact .inr (.inr ⟨a, _ :: first, rest, rfl, .act y hp, hf⟩)
  · rintro (⟨rfl, h⟩ | ⟨e, rfl, h⟩ | ⟨a, first, rest, rfl, hp, hf⟩)
    · exact List.append_nil events ▸ h.bind .stop
    · exact List.append_nil events ▸ h.bind (.fail e)
    · exact hp.bind (.go hf)

/-- A step whose result is known leaves only what follows. -/
theorem way_ofExcept_bind {known : Except RequestError α} {f : α → Plan I β}
    {result : Option (Except RequestError β)} :
    Way ((ofExcept known).bind f) events result ↔
      (∃ a, known = .ok a ∧ Way (f a) events result) ∨
      ∃ e, known = .error e ∧ events = [] ∧ UpTo (.error e) result := by
  cases known with
  | ok a => simp [ofExcept, bind]
  | error e => simp [ofExcept, bind, way_fail]

theorem Way.attempt (h : Way p events result) : Way p.attempt events (result.map .ok) := by
  induction h with
  | stop p => exact .stop _
  | done a => exact .done _
  | fail e => exact .done _
  | act y _ ih => exact .act y ih

/-- Watching for failure changes no way but its end. -/
theorem way_attempt {result : Option (Except RequestError (Except RequestError α))} :
    Way p.attempt events result ↔
      (result = none ∧ Way p events none) ∨
        ∃ known, result = some (.ok known) ∧ Way p events (some known) := by
  constructor
  · intro h
    induction p generalizing events with
    | done a =>
      obtain ⟨rfl, rfl | rfl⟩ := way_done.mp h
      · exact .inl ⟨rfl, .stop _⟩
      · exact .inr ⟨_, rfl, .done a⟩
    | fail e =>
      obtain ⟨rfl, rfl | rfl⟩ := way_done.mp h
      · exact .inl ⟨rfl, .stop _⟩
      · exact .inr ⟨_, rfl, .fail e⟩
    | act x next ih =>
      obtain ⟨rfl, rfl⟩ | ⟨y, rest, rfl, hrest⟩ := way_act.mp h
      · exact .inl ⟨rfl, .stop _⟩
      · obtain ⟨hend, hp⟩ | ⟨known, hend, hp⟩ := ih y hrest
        · exact .inl ⟨hend, .act y hp⟩
        · exact .inr ⟨known, hend, .act y hp⟩
  · rintro (⟨rfl, h⟩ | ⟨known, rfl, h⟩)
    · exact h.attempt
    · exact h.attempt

/-- An embedded plan takes the ways of the plan, with each event as `place` puts it. -/
theorem way_embed {wider : I.Action → J.Action}
    {back : (x : I.Action) → J.Answer (wider x) → I.Answer x} {place : Event I → Event J}
    (hplace : ∀ x y, place ⟨x, back x y⟩ = ⟨wider x, y⟩)
    (hback : ∀ x, Function.Surjective (back x)) {events : List (Event J)} :
    Way (p.embed wider back) events result ↔
      ∃ own, events = own.map place ∧ Way p own result := by
  induction p generalizing events with
  | done a =>
    simp only [embed, way_done]
    constructor
    · rintro ⟨rfl, h⟩
      exact ⟨[], rfl, rfl, h⟩
    · rintro ⟨_, rfl, rfl, h⟩
      exact ⟨rfl, h⟩
  | fail e =>
    simp only [embed, way_fail]
    constructor
    · rintro ⟨rfl, h⟩
      exact ⟨[], rfl, rfl, h⟩
    · rintro ⟨_, rfl, rfl, h⟩
      exact ⟨rfl, h⟩
  | act x next ih =>
    simp only [embed, way_act, ih]
    constructor
    · rintro (⟨rfl, rfl⟩ | ⟨y, _, rfl, own, rfl, h⟩)
      · exact ⟨[], rfl, .inl ⟨rfl, rfl⟩⟩
      · exact ⟨⟨x, back x y⟩ :: own, by simp [hplace], .inr ⟨_, own, rfl, h⟩⟩
    · rintro ⟨_, rfl, ⟨rfl, rfl⟩ | ⟨y, own, rfl, h⟩⟩
      · exact .inl ⟨rfl, rfl⟩
      · obtain ⟨wide, rfl⟩ := hback x y
        exact .inr ⟨wide, own.map place, by simp [hplace], own, rfl, h⟩

/-! ## Runs -/

/-- A run takes a way to its end, and what holds of all given answers holds on it. -/
theorem run_way (answer : (x : I.Action) → σ → I.Answer x × σ) (Given : Event I → Prop)
    (given : ∀ x s, Given ⟨x, (answer x s).1⟩) (p : Plan I α) (s : σ) :
    ∃ events, Way p events (some (run answer p s).1) ∧ ∀ event ∈ events, Given event := by
  induction p generalizing s with
  | done a => exact ⟨[], .done a, by simp⟩
  | fail e => exact ⟨[], .fail e, by simp⟩
  | act x next ih =>
    obtain ⟨events, h, hgiven⟩ := ih (answer x s).1 (answer x s).2
    exact ⟨_, .act _ h, List.forall_mem_cons.mpr ⟨given x s, hgiven⟩⟩

end RowServe.Plan
