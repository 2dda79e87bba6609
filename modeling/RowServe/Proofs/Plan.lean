import Mathlib.Logic.Function.Basic
import RowServe.Plan

/-!
# What plans do

Which actions a plan may perform and which values it may end with, whatever the answers
are. Both are read off the form of the plan, so a plan made of parts does what its parts
do.

Results:

* `Path.performs`: the actions on every way through a plan are among those it may perform.
* `performs_bind`: a plan that goes on performs what its parts perform.
* `performs_embed`: an embedded plan performs the images of its actions.
-/

namespace RowServe.Plan

variable {I J : Interface} {α β : Type}

/-- May the plan perform the action? -/
def Performs (x : I.Action) : Plan I α → Prop
  | done _ => False
  | fail _ => False
  | act y next => y = x ∨ ∃ answer, Performs x (next answer)

/-- May the plan end with the value? -/
def Returns (a : α) : Plan I α → Prop
  | done b => b = a
  | fail _ => False
  | act _ next => ∃ answer, Returns a (next answer)

theorem Path.performs {p : Plan I α} {xs : List I.Action}
    {result : Option (Except RequestError α)} (h : Path p xs result) :
    ∀ x ∈ xs, p.Performs x := by
  induction h with
  | stop p => exact fun x hx => absurd hx List.not_mem_nil
  | done a => exact fun x hx => absurd hx List.not_mem_nil
  | fail e => exact fun x hx => absurd hx List.not_mem_nil
  | act answer _ ih =>
    intro x hx
    rcases List.mem_cons.mp hx with rfl | hx
    · exact .inl rfl
    · exact .inr ⟨answer, ih x hx⟩

/-! ## Parts -/

theorem performs_bind (x : I.Action) (p : Plan I α) (f : α → Plan I β) :
    (p.bind f).Performs x ↔ p.Performs x ∨ ∃ a, p.Returns a ∧ (f a).Performs x := by
  induction p with
  | done b => simp [bind, Performs, Returns]
  | fail e => simp [bind, Performs, Returns]
  | act y next ih =>
    simp only [bind, Performs, Returns, ih]
    constructor
    · rintro (rfl | ⟨answer, hx | ⟨a, ha, hx⟩⟩)
      · exact .inl (.inl rfl)
      · exact .inl (.inr ⟨answer, hx⟩)
      · exact .inr ⟨a, ⟨answer, ha⟩, hx⟩
    · rintro ((rfl | ⟨answer, hx⟩) | ⟨a, ⟨answer, ha⟩, hx⟩)
      · exact .inl rfl
      · exact .inr ⟨answer, .inl hx⟩
      · exact .inr ⟨answer, .inr ⟨a, ha, hx⟩⟩

theorem performs_ofExcept (x : I.Action) (result : Except RequestError α) :
    ¬ (ofExcept result : Plan I α).Performs x := by
  cases result <;> exact id

theorem returns_ofExcept {a : α} {result : Except RequestError α} :
    (ofExcept result : Plan I α).Returns a ↔ result = .ok a := by
  cases result <;> simp [ofExcept, Returns]

theorem performs_mapError (x : I.Action) (f : RequestError → RequestError) (p : Plan I α) :
    (p.mapError f).Performs x ↔ p.Performs x := by
  induction p with
  | done a => rfl
  | fail e => rfl
  | act y next ih => simp only [mapError, Performs, ih]

theorem performs_attempt (x : I.Action) (p : Plan I α) :
    p.attempt.Performs x ↔ p.Performs x := by
  induction p with
  | done a => rfl
  | fail e => rfl
  | act y next ih => simp only [attempt, Performs, ih]

theorem performs_embed (wider : I.Action → J.Action)
    (back : (x : I.Action) → J.Answer (wider x) → I.Answer x)
    (hback : ∀ x, Function.Surjective (back x)) (y : J.Action) (p : Plan I α) :
    (p.embed wider back).Performs y ↔ ∃ x, p.Performs x ∧ wider x = y := by
  induction p with
  | done a => simp [embed, Performs]
  | fail e => simp [embed, Performs]
  | act x next ih =>
    simp only [embed, Performs, ih]
    constructor
    · rintro (rfl | ⟨answer, x', hx', rfl⟩)
      · exact ⟨x, .inl rfl, rfl⟩
      · exact ⟨x', .inr ⟨_, hx'⟩, rfl⟩
    · rintro ⟨x', rfl | ⟨answer, hx'⟩, rfl⟩
      · exact .inl rfl
      · obtain ⟨wide, rfl⟩ := hback x answer
        exact .inr ⟨wide, x', hx', rfl⟩

end RowServe.Plan
