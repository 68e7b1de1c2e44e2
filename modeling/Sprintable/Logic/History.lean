import Mathlib.Data.List.Induction
import Sprintable.Logic.Runs

/-! What a run leaves on record: moments of it, and invariants that speak about them. -/

namespace Runs

universe u v
variable {σ : Type u} {ε : Type v} {step : σ → ε → σ} {start : σ}

/-- The run passes through such a state, its start and its end included. -/
def Sometime (step : σ → ε → σ) (start : σ) (events : List ε) (moment : σ → Prop) : Prop :=
  ∃ first last, events = first ++ last ∧ moment (final step start first)

theorem Sometime.now {events : List ε} {moment : σ → Prop} (reached : moment (final step start events)) :
    Sometime step start events moment :=
  ⟨events, [], (List.append_nil events).symm, reached⟩

theorem Sometime.later {events : List ε} {moment : σ → Prop} (reached : Sometime step start events moment) (event : ε) :
    Sometime step start (events ++ [event]) moment := by
  obtain ⟨first, last, rfl, holds⟩ := reached
  exact ⟨first, last ++ [event], List.append_assoc first last [event], holds⟩

/-- One of the events of the run happens so, in the state that it finds. -/
def Happened (step : σ → ε → σ) (start : σ) (events : List ε) (so : σ → ε → Prop) : Prop :=
  ∃ first event last, events = first ++ event :: last ∧ so (final step start first) event

theorem Happened.last {events : List ε} {event : ε} {so : σ → ε → Prop} (happens : so (final step start events) event) :
    Happened step start (events ++ [event]) so :=
  ⟨events, event, [], rfl, happens⟩

theorem Happened.later {events : List ε} {so : σ → ε → Prop} (happened : Happened step start events so) (event : ε) :
    Happened step start (events ++ [event]) so := by
  obtain ⟨first, earlier, last, rfl, holds⟩ := happened
  exact ⟨first, earlier, last ++ [event], by simp, holds⟩

/-- The rule for invariants of a state and of the events that led to it. -/
theorem recorded (known : List ε → σ → Prop) (initial : known [] start)
    (kept : ∀ events event, known events (final step start events) →
      known (events ++ [event]) (step (final step start events) event)) (events : List ε) :
    known events (final step start events) := by
  induction events using List.reverseRecOn with
  | nil => exact initial
  | append_singleton events event ih =>
    rw [final_append]
    exact kept events event ih

end Runs
