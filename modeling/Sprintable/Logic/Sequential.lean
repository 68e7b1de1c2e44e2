import Sprintable.Logic.Interleave

/-! Requests that run alone: what one leaves behind when no other runs in between,
and runs in which requests take turns. -/

namespace Interleave

namespace Prog
variable {ρ σ α β γ : Type}

/-- Run with one answer for each action. A run whose answers end early is cut off. -/
def execute : Prog ρ σ α → List ρ → σ → Option α × σ
  | .pure value, _, state => (some value, state)
  | .act _ _, [], state => (none, state)
  | .act action next, answer :: answers, state =>
    (next (action answer state).1).execute answers (action answer state).2

/-- Whatever allowed answers it gets, the program ends in a state of `post`. -/
def Ends (allowed : ρ → Prop) (post : α → σ → Prop) : Prog ρ σ α → σ → Prop
  | .pure value, state => post value state
  | .act action next, state =>
    ∀ answer, allowed answer → (next (action answer state).1).Ends allowed post (action answer state).2

variable {allowed : ρ → Prop} {post first : α → σ → Prop} {last : β → σ → Prop}

theorem Ends.weaken {program : Prog ρ σ α} {other : α → σ → Prop} {state : σ}
    (implies : ∀ value after, post value after → other value after) (ends : program.Ends allowed post state) :
    program.Ends allowed other state := by
  induction program generalizing state with
  | pure value => exact implies value state ends
  | act action next ih => exact fun answer permitted => ih _ (ends answer permitted)

theorem Ends.trivial (program : Prog ρ σ α) (state : σ) : program.Ends allowed (fun _ _ => True) state := by
  induction program generalizing state with
  | pure value => exact True.intro
  | act action next ih => exact fun answer _ => ih _ _

theorem Ends.both {program : Prog ρ σ α} {other : α → σ → Prop} {state : σ} (left : program.Ends allowed post state)
    (right : program.Ends allowed other state) :
    program.Ends allowed (fun value after => post value after ∧ other value after) state := by
  induction program generalizing state with
  | pure value => exact ⟨left, right⟩
  | act action next ih => exact fun answer permitted => ih _ (left answer permitted) (right answer permitted)

theorem Ends.bind {program : Prog ρ σ α} {next : α → Prog ρ σ β} {state : σ}
    (ends : program.Ends allowed first state)
    (rest : ∀ value after, first value after → (next value).Ends allowed last after) :
    (program >>= next).Ends allowed last state := by
  induction program generalizing state with
  | pure value => exact rest value state ends
  | act action continuation ih => exact fun answer permitted => ih _ (ends answer permitted)

theorem Ends.act {action : ρ → σ → β × σ} {next : β → Prog ρ σ α} {state : σ}
    (step : ∀ answer, allowed answer → (next (action answer state).1).Ends allowed post (action answer state).2) :
    (atomically action >>= next).Ends allowed post state :=
  step

theorem Ends.observe {query : ρ → σ → β} {next : β → Prog ρ σ α} {state : σ}
    (step : ∀ answer, allowed answer → (next (query answer state)).Ends allowed post state) :
    (atomically (fun answer state => (query answer state, state)) >>= next).Ends allowed post state :=
  step

theorem Ends.forEach {items : List γ} {body : γ → Prog ρ σ Unit} {held : List γ → σ → Prop} {state : σ}
    (initial : held items state)
    (step : ∀ item rest state, held (item :: rest) state → (body item).Ends allowed (fun _ => held rest) state) :
    (Prog.forEach items body).Ends allowed (fun _ => held []) state := by
  induction items generalizing state with
  | nil => exact initial
  | cons item rest ih => exact Ends.bind (step item rest state initial) fun _ _ kept => ih kept

theorem Ends.execute {program : Prog ρ σ α} {answers : List ρ} {state : σ} {value : α}
    (ends : program.Ends allowed post state) (permitted : ∀ answer ∈ answers, allowed answer)
    (complete : (program.execute answers state).1 = some value) : post value (program.execute answers state).2 := by
  induction program generalizing answers state with
  | pure result =>
    cases complete
    exact ends
  | act action next ih =>
    cases answers with
    | nil => cases complete
    | cons answer rest =>
      exact ih _ (ends answer (permitted answer List.mem_cons_self))
        (fun other member => permitted other (List.mem_cons_of_mem answer member)) complete

/-- An answer for every action is enough for a program to come to its end. -/
theorem execute_completes (program : Prog ρ σ α) (answer : ρ) (state : σ) :
    ∃ count value, (program.execute (List.replicate count answer) state).1 = some value := by
  induction program generalizing state with
  | pure value => exact ⟨0, value, rfl⟩
  | act action next ih =>
    obtain ⟨count, value, ended⟩ := ih (action answer state).1 (action answer state).2
    exact ⟨count + 1, value, ended⟩

/-- What a program ends in when it always gets the same answer is reached in a run. -/
theorem Ends.reached {program : Prog ρ σ α} {answer : ρ} {state : σ} (ends : program.Ends (· = answer) post state) :
    ∃ answers value, (program.execute answers state).1 = some value ∧ post value (program.execute answers state).2 := by
  obtain ⟨count, value, ended⟩ := execute_completes program answer state
  refine ⟨List.replicate count answer, value, ended, ends.execute ?_ ended⟩
  intro given listed
  exact List.eq_of_mem_replicate listed

theorem bind_assoc (program : Prog ρ σ α) (next : α → Prog ρ σ β) (rest : β → Prog ρ σ γ) :
    (program >>= next) >>= rest = program >>= fun value => next value >>= rest := by
  induction program with
  | pure value => rfl
  | act action continuation ih => exact congrArg (Prog.act action) (funext fun value => ih value)

theorem bind_unit (program : Prog ρ σ Unit) : (program >>= fun _ => (Pure.pure () : Prog ρ σ Unit)) = program := by
  induction program with
  | pure value => rfl
  | act action continuation ih => exact congrArg (Prog.act action) (funext fun value => ih value)

theorem bind_congr {program : Prog ρ σ α} {left right : α → Prog ρ σ β} (same : ∀ value, left value = right value) :
    (program >>= left) = (program >>= right) :=
  congrArg (program >>= ·) (funext same)

/-- A value that is dropped at the end makes no difference to the state. -/
theorem execute_dropped (program : Prog ρ σ α) (value : β) (answers : List ρ) (state : σ) :
    ((program >>= fun _ => (Pure.pure value : Prog ρ σ β)).execute answers state).2 = (program.execute answers state).2 := by
  induction program generalizing answers state with
  | pure result => cases answers <;> rfl
  | act action next ih =>
    cases answers with
    | nil => rfl
    | cons answer rest => exact ih _ rest _

/-- No action of the program, taken at any state of the invariant, leaves it. -/
def Preserves (valid : σ → Prop) : Prog ρ σ α → Prop
  | .pure _ => True
  | .act action next => ∀ answer state, valid state →
      valid (action answer state).2 ∧ (next (action answer state).1).Preserves valid

variable {valid : σ → Prop}

theorem Preserves.bind {program : Prog ρ σ α} {next : α → Prog ρ σ β} (first : program.Preserves valid)
    (rest : ∀ value, (next value).Preserves valid) : (program >>= next).Preserves valid := by
  induction program with
  | pure value => exact rest value
  | act action continuation ih =>
    intro answer state kept
    exact ⟨(first answer state kept).1, ih _ (first answer state kept).2⟩

theorem Preserves.act {action : ρ → σ → β × σ} {next : β → Prog ρ σ α}
    (step : ∀ answer state, valid state →
      valid (action answer state).2 ∧ (next (action answer state).1).Preserves valid) :
    (atomically action >>= next).Preserves valid :=
  step

theorem Preserves.observe {query : ρ → σ → β} {next : β → Prog ρ σ α}
    (step : ∀ answer state, valid state → (next (query answer state)).Preserves valid) :
    (atomically (fun answer state => (query answer state, state)) >>= next).Preserves valid :=
  fun answer state kept => ⟨kept, step answer state kept⟩

/-- Wherever it is cut off, the program leaves a state of the invariant. -/
theorem Preserves.execute {program : Prog ρ σ α} (preserves : program.Preserves valid) (answers : List ρ) {state : σ}
    (kept : valid state) : valid (program.execute answers state).2 := by
  induction program generalizing answers state with
  | pure value => exact kept
  | act action next ih =>
    cases answers with
    | nil => exact kept
    | cons answer rest => exact ih _ (preserves answer state kept).2 rest (preserves answer state kept).1

/-- Wherever the program is cut off, under allowed answers, `stop` holds, and where
it ends, `post` does. -/
def Along (allowed : ρ → Prop) (stop : σ → Prop) (post : α → σ → Prop) : Prog ρ σ α → σ → Prop
  | .pure value, state => stop state ∧ post value state
  | .act action next, state =>
    stop state ∧ ∀ answer, allowed answer → (next (action answer state).1).Along allowed stop post (action answer state).2

variable {stop other : σ → Prop}

theorem Along.weaken {program : Prog ρ σ α} {result : α → σ → Prop} {state : σ} (cuts : ∀ after, stop after → other after)
    (implies : ∀ value after, stop after → post value after → result value after)
    (along : program.Along allowed stop post state) : program.Along allowed other result state := by
  induction program generalizing state with
  | pure value => exact ⟨cuts state along.1, implies value state along.1 along.2⟩
  | act action next ih => exact ⟨cuts state along.1, fun answer permitted => ih _ (along.2 answer permitted)⟩

theorem Along.both {program : Prog ρ σ α} {result : α → σ → Prop} {state : σ} (left : program.Along allowed stop post state)
    (right : program.Along allowed other result state) :
    program.Along allowed (fun after => stop after ∧ other after) (fun value after => post value after ∧ result value after) state := by
  induction program generalizing state with
  | pure value => exact ⟨⟨left.1, right.1⟩, left.2, right.2⟩
  | act action next ih =>
    exact ⟨⟨left.1, right.1⟩, fun answer permitted => ih _ (left.2 answer permitted) (right.2 answer permitted)⟩

theorem Along.bind {program : Prog ρ σ α} {next : α → Prog ρ σ β} {state : σ}
    (along : program.Along allowed stop first state)
    (rest : ∀ value after, first value after → (next value).Along allowed stop last after) :
    (program >>= next).Along allowed stop last state := by
  induction program generalizing state with
  | pure value => exact rest value state along.2
  | act action continuation ih => exact ⟨along.1, fun answer permitted => ih _ (along.2 answer permitted)⟩

theorem Along.ended {program : Prog ρ σ α} {state : σ} (along : program.Along allowed stop post state) (value : β) :
    (program >>= fun _ => (Pure.pure value : Prog ρ σ β)).Along allowed stop (fun _ _ => True) state := by
  have standing : program.Along allowed stop (fun _ after => stop after) state :=
    along.weaken (fun _ stands => stands) fun _ _ stands _ => stands
  exact standing.bind fun _ _ stands => ⟨stands, True.intro⟩

theorem Along.act {action : ρ → σ → β × σ} {next : β → Prog ρ σ α} {state : σ} (start : stop state)
    (step : ∀ answer, allowed answer → (next (action answer state).1).Along allowed stop post (action answer state).2) :
    (atomically action >>= next).Along allowed stop post state :=
  ⟨start, step⟩

theorem Along.observe {query : ρ → σ → β} {next : β → Prog ρ σ α} {state : σ} (start : stop state)
    (step : ∀ answer, allowed answer → (next (query answer state)).Along allowed stop post state) :
    (atomically (fun answer state => (query answer state, state)) >>= next).Along allowed stop post state :=
  ⟨start, step⟩

/-- A loop whose bodies all stand wherever they are cut off. -/
theorem Along.forEach {items : List γ} {body : γ → Prog ρ σ Unit} {state : σ} (start : stop state)
    (step : ∀ item ∈ items, ∀ state, stop state → (body item).Along allowed stop (fun _ => stop) state) :
    (Prog.forEach items body).Along allowed stop (fun _ => stop) state := by
  induction items generalizing state with
  | nil => exact ⟨start, start⟩
  | cons item rest ih =>
    refine Along.bind (step item List.mem_cons_self state start) fun _ _ stands => ?_
    exact ih stands fun other member => step other (List.mem_cons_of_mem item member)

theorem Along.ends {program : Prog ρ σ α} {state : σ} (along : program.Along allowed stop post state) :
    program.Ends allowed post state := by
  induction program generalizing state with
  | pure value => exact along.2
  | act action next ih => exact fun answer permitted => ih _ (along.2 answer permitted)

/-- What the program ends in, and what each of its actions preserves. -/
theorem Ends.along {program : Prog ρ σ α} {state : σ} (ends : program.Ends allowed post state)
    (preserves : program.Preserves valid) (start : valid state) : program.Along allowed valid post state := by
  induction program generalizing state with
  | pure value => exact ⟨start, ends⟩
  | act action next ih =>
    refine ⟨start, fun answer permitted => ?_⟩
    exact ih _ (ends answer permitted) (preserves answer state start).2 (preserves answer state start).1

theorem Along.execute {program : Prog ρ σ α} {answers : List ρ} {state : σ} (along : program.Along allowed stop post state)
    (permitted : ∀ answer ∈ answers, allowed answer) :
    stop (program.execute answers state).2 ∧
      ∀ value, (program.execute answers state).1 = some value → post value (program.execute answers state).2 := by
  induction program generalizing answers state with
  | pure result =>
    refine ⟨along.1, fun value complete => ?_⟩
    cases complete
    exact along.2
  | act action next ih =>
    cases answers with
    | nil =>
      refine ⟨along.1, fun value complete => ?_⟩
      cases complete
    | cons answer rest =>
      exact ih _ (along.2 answer (permitted answer List.mem_cons_self))
        fun other member => permitted other (List.mem_cons_of_mem answer member)

end Prog

variable {ρ σ α : Type}

/-- Wherever a safe request is cut off, the shared invariant holds. -/
theorem Safe.execute {rules : Discipline σ} {self : Nat} {post : α → σ → Prop} {program : Prog ρ σ α} {start : σ}
    (considered : ∀ before after, rules.allowed before after) (valid : rules.valid start)
    (safe : Safe rules self (fun _ => true = true) post program start) (answers : List ρ) :
    rules.valid (program.execute answers start).2 := by
  induction program generalizing start answers with
  | pure value => exact valid
  | act action next ih =>
    cases answers with
    | nil => exact valid
    | cons answer rest =>
      obtain ⟨kept, _, remaining⟩ := safe start valid (rules.refl self start) rfl answer (considered _ _)
      exact ih _ kept remaining rest

end Interleave
