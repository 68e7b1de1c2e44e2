import Mathlib.Logic.Basic

/-! Runs of a deterministic machine that consumes a list of events. An invariant
is proved for one event and carried along every run whose events meet a guard. -/

namespace Runs

universe u v
variable {σ : Type u} {ε : Type v} {step : σ → ε → σ}

def final (step : σ → ε → σ) (start : σ) (events : List ε) : σ :=
  events.foldl step start

@[simp] theorem final_nil (start : σ) : final step start [] = start := rfl

@[simp] theorem final_cons (start : σ) (event : ε) (events : List ε) :
    final step start (event :: events) = final step (step start event) events := rfl

theorem final_append (start : σ) (first last : List ε) :
    final step start (first ++ last) = final step (final step start first) last :=
  List.foldl_append

/-- Every event of the run meets `guard` in the state it finds. -/
def Throughout (step : σ → ε → σ) (guard : σ → ε → Prop) : σ → List ε → Prop
  | _, [] => True
  | start, event :: events => guard start event ∧ Throughout step guard (step start event) events

variable {guard : σ → ε → Prop}

instance Throughout.decidable [∀ state event, Decidable (guard state event)] (start : σ) (events : List ε) :
    Decidable (Throughout step guard start events) :=
  match events with
  | [] => .isTrue True.intro
  | event :: rest =>
    have : Decidable (Throughout step guard (step start event) rest) := Throughout.decidable (step start event) rest
    inferInstanceAs (Decidable (guard start event ∧ Throughout step guard (step start event) rest))

theorem Throughout.append {start : σ} {first last : List ε} :
    Throughout step guard start (first ++ last) ↔
      Throughout step guard start first ∧ Throughout step guard (final step start first) last := by
  induction first generalizing start with
  | nil => simp [Throughout]
  | cons event rest ih => simp only [List.cons_append, Throughout, ih, final_cons, and_assoc]

theorem Throughout.trivial (always : ∀ state event, guard state event) (start : σ) (events : List ε) :
    Throughout step guard start events := by
  induction events generalizing start with
  | nil => exact True.intro
  | cons event rest ih => exact ⟨always _ _, ih _⟩

theorem Throughout.weaken {other : σ → ε → Prop} (implies : ∀ state event, guard state event → other state event)
    {start : σ} {events : List ε} (met : Throughout step guard start events) : Throughout step other start events := by
  induction events generalizing start with
  | nil => exact True.intro
  | cons event rest ih => exact ⟨implies _ _ met.1, ih met.2⟩

/-- The run rule: an invariant kept by every guarded event holds after the run. -/
theorem Throughout.invariant {valid : σ → Prop}
    (kept : ∀ state event, guard state event → valid state → valid (step state event))
    {start : σ} (initial : valid start) {events : List ε} (met : Throughout step guard start events) :
    valid (final step start events) := by
  induction events generalizing start with
  | nil => exact initial
  | cons event rest ih => exact ih (kept start event met.1 initial) met.2

/-- The run rule where nothing guards the events. -/
theorem final_invariant {valid : σ → Prop} (kept : ∀ state event, valid state → valid (step state event)) {start : σ}
    (initial : valid start) (events : List ε) : valid (final step start events) :=
  (Throughout.trivial (fun _ _ => True.intro) start events).invariant (fun state event _ => kept state event) initial

/-- What an invariant gives of one guarded event holds of every event of the run. -/
theorem Throughout.carry {valid : σ → Prop} {conclusion : σ → ε → Prop}
    (kept : ∀ state event, guard state event → valid state → valid (step state event))
    {start : σ} (initial : valid start) {events : List ε} (met : Throughout step guard start events)
    (concludes : ∀ state event, guard state event → valid state → conclusion state event) :
    Throughout step conclusion start events := by
  induction events generalizing start with
  | nil => exact True.intro
  | cons event rest ih =>
    exact ⟨concludes start event met.1 initial, ih (kept start event met.1 initial) met.2⟩

/-- What every event of the run keeps of the state before it, the run keeps of its start. -/
theorem Throughout.related {related : σ → σ → Prop} (refl : ∀ state, related state state)
    (trans : ∀ {first second third}, related first second → related second third → related first third)
    {start : σ} {events : List ε} (met : Throughout step (fun state event => related state (step state event)) start events) :
    related start (final step start events) := by
  induction events generalizing start with
  | nil => exact refl start
  | cons event rest ih => exact trans met.1 (ih met.2)

/-- Two guards that agree wherever an invariant of all runs holds guard the same runs. -/
theorem Throughout.congr {valid : σ → Prop} {other : σ → ε → Prop}
    (kept : ∀ state event, valid state → valid (step state event))
    (same : ∀ state event, valid state → (guard state event ↔ other state event))
    {start : σ} (initial : valid start) (events : List ε) :
    Throughout step guard start events ↔ Throughout step other start events := by
  induction events generalizing start with
  | nil => exact Iff.rfl
  | cons event rest ih => exact and_congr (same start event initial) (ih (kept start event initial))

/-- Where a guard says which of the allowed events conclude as they should, and
these keep the invariant, it guards exactly the runs that conclude throughout. -/
theorem Throughout.exactly {allowed : ε → Prop} {valid : σ → Prop} {conclusion : σ → ε → Prop}
    (same : ∀ state event, allowed event → valid state → (guard state event ↔ conclusion state event))
    (kept : ∀ state event, allowed event → valid state → conclusion state event → valid (step state event))
    {start : σ} (initial : valid start) {events : List ε} (all : ∀ event ∈ events, allowed event) :
    Throughout step guard start events ↔ Throughout step conclusion start events := by
  induction events generalizing start with
  | nil => exact Iff.rfl
  | cons event rest ih =>
    have first := same start event (all event List.mem_cons_self) initial
    have later := fun reached => ih (kept start event (all event List.mem_cons_self) initial reached)
      fun other member => all other (List.mem_cons_of_mem event member)
    constructor
    · exact fun met => ⟨first.mp met.1, (later (first.mp met.1)).mp met.2⟩
    · exact fun met => ⟨first.mpr met.1, (later met.1).mpr met.2⟩

section Emissions
variable {κ : Type u} {emit : σ → ε → Option κ}

def emitted (step : σ → ε → σ) (emit : σ → ε → Option κ) : σ → List ε → List κ
  | _, [] => []
  | start, event :: events => (emit start event).toList ++ emitted step emit (step start event) events

theorem emitted_not_spent {valid : σ → Prop} {spent : σ → κ → Prop}
    (kept : ∀ state event, valid state → valid (step state event))
    (stable : ∀ state event key, valid state → spent state key → spent (step state event) key)
    (once : ∀ state event key, valid state → spent state key → emit state event ≠ some key) {start : σ} (initial : valid start)
    {key : κ} (gone : spent start key) (events : List ε) : key ∉ emitted step emit start events := by
  induction events generalizing start with
  | nil => exact List.not_mem_nil
  | cons event rest ih =>
    simp only [emitted, List.mem_append, Option.mem_toList, not_or]
    exact ⟨once start event key initial gone, ih (kept start event initial) (stable start event key initial gone)⟩

/-- Each key is emitted at most once, when its emission spends it for good. -/
theorem emitted_nodup {valid : σ → Prop} {spent : σ → κ → Prop}
    (kept : ∀ state event, valid state → valid (step state event))
    (stable : ∀ state event key, valid state → spent state key → spent (step state event) key)
    (once : ∀ state event key, valid state → spent state key → emit state event ≠ some key)
    (spends : ∀ state event key, valid state → emit state event = some key → spent (step state event) key)
    {start : σ} (initial : valid start) (events : List ε) : (emitted step emit start events).Nodup := by
  induction events generalizing start with
  | nil => exact List.nodup_nil
  | cons event rest ih =>
    have later := ih (kept start event initial)
    unfold emitted
    cases key : emit start event with
    | none => exact later
    | some first =>
      have spent := spends start event first initial key
      exact List.nodup_cons.mpr ⟨emitted_not_spent kept stable once (kept start event initial) spent rest, later⟩

end Emissions

section Fallible
variable {α β err : Type u}

/-- A fallible computation succeeds exactly when both of its halves do. -/
theorem bind_ok {first : Except err α} {next : α → Except err β} {result : β}
    (executed : first >>= next = .ok result) : ∃ value, first = .ok value ∧ next value = .ok result := by
  cases first with
  | error failure => cases executed
  | ok value => exact ⟨value, rfl, executed⟩

/-- A check that answers nothing passes, and then the rest succeeds. -/
theorem check_ok {check : Except err PUnit} {next : Except err β} {result : β} :
    (check >>= fun _ => next) = .ok result ↔ check = .ok ⟨⟩ ∧ next = .ok result := by
  constructor
  · intro executed
    obtain ⟨_, passed, rest⟩ := bind_ok executed
    exact ⟨passed, rest⟩
  · rintro ⟨passed, rest⟩
    rw [passed]
    exact rest

theorem map_ok {first : Except err α} {f : α → β} {result : β} (executed : f <$> first = .ok result) :
    ∃ value, first = .ok value ∧ f value = result := by
  cases first with
  | error failure => cases executed
  | ok value => exact ⟨value, rfl, Except.ok.inj executed⟩

/-- A refused event is rolled back: the state stays as it was. -/
def settle (attempt : σ → ε → Except err σ) (state : σ) (event : ε) : σ :=
  match attempt state event with
  | .ok after => after
  | .error _ => state

theorem settle_preserves {attempt : σ → ε → Except err σ} {valid : σ → Prop} {state : σ} {event : ε}
    (initial : valid state) (kept : ∀ after, attempt state event = .ok after → valid after) :
    valid (settle attempt state event) := by
  unfold settle
  split
  · next after executed => exact kept after executed
  · exact initial

end Fallible

end Runs
