import Sprintable.Logic.Runs

/-! Requests that interleave at their atomic actions. A host starts requests,
runs one action of one request at a time, may crash a request between any two
actions, and lets the outside change the shared state. Safety of every request
under interference by the others gives safety of every run. -/

namespace Interleave

universe u

/-- A request is a sequence of atomic actions. An action reads the environment's
answer and the shared state, and the rest of the request depends on its value. -/
inductive Prog (ρ σ : Type) (α : Type) : Type 1 where
  | pure (value : α) : Prog ρ σ α
  | act {β : Type} (action : ρ → σ → β × σ) (next : β → Prog ρ σ α) : Prog ρ σ α

namespace Prog
variable {ρ σ α β γ : Type}

def bind : Prog ρ σ α → (α → Prog ρ σ β) → Prog ρ σ β
  | .pure value, next => next value
  | .act action rest, next => .act action fun value => (rest value).bind next

instance : Monad (Prog ρ σ) where
  pure := .pure
  bind := bind

def atomically (action : ρ → σ → β × σ) : Prog ρ σ β := .act action .pure

def read (query : σ → β) : Prog ρ σ β := atomically fun _ state => (query state, state)

def ask (query : ρ → β) : Prog ρ σ β := atomically fun answer state => (query answer, state)

def write (change : σ → σ) : Prog ρ σ Unit := atomically fun _ state => ((), change state)

def forEach (items : List γ) (body : γ → Prog ρ σ Unit) : Prog ρ σ Unit :=
  match items with
  | [] => .pure ()
  | item :: rest => (body item).bind fun _ => forEach rest body

/-- Bodies in turn, until one of them gives up. -/
def forEachWhile (items : List γ) (body : γ → Prog ρ σ Bool) : Prog ρ σ Unit :=
  match items with
  | [] => .pure ()
  | item :: rest => (body item).bind fun goesOn => if goesOn then forEachWhile rest body else .pure ()

end Prog

/-- What requests owe each other: a shared invariant, what request `self` may
rely on while others act, and which actions the considered runs contain. -/
structure Discipline (σ : Type) where
  valid : σ → Prop
  rely : Nat → σ → σ → Prop
  allowed : σ → σ → Prop
  refl : ∀ self state, rely self state state
  trans : ∀ self {first second third}, rely self first second → rely self second third → rely self first third

/-- Rules that ask for more: a further invariant, and a relation that every step keeps. -/
def Discipline.strengthen {σ : Type} (rules : Discipline σ) (kept : σ → Prop) (grows : σ → σ → Prop)
    (refl : ∀ state, grows state state) (trans : ∀ {first second third}, grows first second → grows second third → grows first third) :
    Discipline σ where
  valid state := rules.valid state ∧ kept state
  rely self before after := rules.rely self before after ∧ grows before after
  allowed := rules.allowed
  refl self state := ⟨rules.refl self state, refl state⟩
  trans self _ _ _ early late := ⟨rules.trans self early.1 late.1, trans early.2 late.2⟩

section Safety
variable {ρ σ α β γ : Type} (rules : Discipline σ) (self : Nat) (live : σ → Prop)

/-- A request is safe when each of its actions, taken at any later state that the
others may leave while the request is alive, keeps the invariant and what every
other request relies on, and what remains of it is safe again. -/
def Safe (post : α → σ → Prop) : Prog ρ σ α → σ → Prop
  | .pure value, start => ∀ state, rules.valid state → rules.rely self start state → post value state
  | .act action next, start => ∀ state, rules.valid state → rules.rely self start state → live state →
      ∀ answer, rules.allowed state (action answer state).2 →
        rules.valid (action answer state).2 ∧
        (∀ other, other ≠ self → rules.rely other state (action answer state).2) ∧
        Safe post (next (action answer state).1) (action answer state).2

variable {rules self live} {post first : α → σ → Prop} {last : β → σ → Prop}

theorem Safe.stable {program : Prog ρ σ α} {start state : σ} (safe : Safe rules self live post program start)
    (later : rules.rely self start state) : Safe rules self live post program state := by
  cases program with
  | pure value => exact fun current valid relied => safe current valid (rules.trans self later relied)
  | act action next => exact fun current valid relied => safe current valid (rules.trans self later relied)

theorem Safe.weaken {program : Prog ρ σ α} {other : α → σ → Prop} {start : σ}
    (implies : ∀ value state, post value state → other value state) (safe : Safe rules self live post program start) :
    Safe rules self live other program start := by
  induction program generalizing start with
  | pure value => exact fun state valid relied => implies value state (safe state valid relied)
  | act action next ih =>
    intro state valid relied alive answer permitted
    obtain ⟨kept, others, remaining⟩ := safe state valid relied alive answer permitted
    exact ⟨kept, others, ih _ remaining⟩

theorem Safe.bind {program : Prog ρ σ α} {next : α → Prog ρ σ β} {start : σ} (valid : rules.valid start)
    (safe : Safe rules self live first program start)
    (rest : ∀ value state, rules.valid state → first value state → Safe rules self live last (next value) state) :
    Safe rules self live last (program >>= next) start := by
  induction program generalizing start with
  | pure value => exact rest value start valid (safe start valid (rules.refl self start))
  | act action continuation ih =>
    intro state current relied alive answer permitted
    obtain ⟨kept, others, remaining⟩ := safe state current relied alive answer permitted
    exact ⟨kept, others, ih _ kept remaining⟩

theorem Safe.act {action : ρ → σ → β × σ} {next : β → Prog ρ σ α} {start : σ}
    (step : ∀ state, rules.valid state → rules.rely self start state → live state →
      ∀ answer, rules.allowed state (action answer state).2 →
        rules.valid (action answer state).2 ∧
        (∀ other, other ≠ self → rules.rely other state (action answer state).2) ∧
        Safe rules self live post (next (action answer state).1) (action answer state).2) :
    Safe rules self live post (Prog.atomically action >>= next) start :=
  step

theorem Safe.observe {query : ρ → σ → β} {next : β → Prog ρ σ α} {start : σ}
    (step : ∀ state, rules.valid state → rules.rely self start state → live state →
      ∀ answer, Safe rules self live post (next (query answer state)) state) :
    Safe rules self live post (Prog.atomically (fun answer state => (query answer state, state)) >>= next) start :=
  fun state valid relied alive answer _ =>
    ⟨valid, fun other _ => rules.refl other state, step state valid relied alive answer⟩

/-- What the others leave true, and owes nothing to the request's own actions but
what every other request is owed too, is still true at its end. -/
theorem Safe.remember {program : Prog ρ σ α} {held : σ → Prop} {start : σ} (initial : held start)
    (stays : ∀ {before after}, held before → rules.rely self before after → held after)
    (own : ∀ {before after}, held before → (∀ other, other ≠ self → rules.rely other before after) → held after)
    (safe : Safe rules self live post program start) :
    Safe rules self live (fun value state => post value state ∧ held state) program start := by
  induction program generalizing start with
  | pure value => exact fun state valid relied => ⟨safe state valid relied, stays initial relied⟩
  | act action next ih =>
    intro state valid relied alive answer permitted
    obtain ⟨kept, others, remaining⟩ := safe state valid relied alive answer permitted
    exact ⟨kept, others, ih _ (own (stays initial relied) others) remaining⟩

theorem Safe.forEach {items : List γ} {body : γ → Prog ρ σ Unit} {held : σ → Prop} {start : σ}
    (valid : rules.valid start) (initial : held start)
    (stays : ∀ {before after}, held before → rules.rely self before after → held after)
    (step : ∀ item ∈ items, ∀ state, rules.valid state → held state →
      Safe rules self live (fun _ => held) (body item) state) :
    Safe rules self live (fun _ => held) (Prog.forEach items body) start := by
  induction items generalizing start with
  | nil => exact fun state _ relied => stays initial relied
  | cons item rest ih =>
    refine Safe.bind valid (step item List.mem_cons_self start valid initial) ?_
    intro _ state current kept
    exact ih current kept fun other member => step other (List.mem_cons_of_mem item member)

theorem Safe.forEachWhile {items : List γ} {body : γ → Prog ρ σ Bool} {held : σ → Prop} {start : σ}
    (valid : rules.valid start) (initial : held start)
    (stays : ∀ {before after}, held before → rules.rely self before after → held after)
    (step : ∀ item ∈ items, ∀ state, rules.valid state → held state →
      Safe rules self live (fun _ => held) (body item) state) :
    Safe rules self live (fun _ => held) (Prog.forEachWhile items body) start := by
  induction items generalizing start with
  | nil => exact fun state _ relied => stays initial relied
  | cons item rest ih =>
    refine Safe.bind valid (step item List.mem_cons_self start valid initial) ?_
    intro goesOn state current kept
    cases goesOn with
    | true => exact ih current kept fun other member => step other (List.mem_cons_of_mem item member)
    | false => exact fun later _ relied => stays kept relied

end Safety

/-- A started request and the states in which its host still runs it. -/
structure Thread (ρ σ : Type) where
  live : σ → Bool
  program : Prog ρ σ Unit

structure System (ρ σ : Type) where
  shared : σ
  threads : List (Thread ρ σ)

/-- How requests of type `ι` start, and how outside events of type `κ` act. -/
structure Host (ρ σ ι κ : Type) where
  launch : Nat → ι → σ → Thread ρ σ
  outside : κ → σ → σ

inductive Event (ρ ι κ : Type) where
  | start (request : ι)
  | run (thread : Nat) (answer : ρ)
  | crash (thread : Nat)
  | outside (event : κ)

section Execution
variable {ρ σ ι κ : Type} (host : Host ρ σ ι κ)

def advance (thread : Thread ρ σ) (answer : ρ) (shared : σ) : Thread ρ σ × σ :=
  match thread.program with
  | .pure _ => (thread, shared)
  | .act action next => ({ thread with program := next (action answer shared).1 }, (action answer shared).2)

/-- One event. Running a thread that is not alive or not there does nothing. -/
def step (system : System ρ σ) : Event ρ ι κ → System ρ σ
  | .start request =>
    { system with threads := system.threads ++ [host.launch system.threads.length request system.shared] }
  | .run thread answer =>
    match system.threads[thread]? with
    | none => system
    | some current =>
      if current.live system.shared then
        { shared := (advance current answer system.shared).2
          threads := system.threads.set thread (advance current answer system.shared).1 }
      else system
  | .crash thread =>
    match system.threads[thread]? with
    | none => system
    | some current => { system with threads := system.threads.set thread { current with program := .pure () } }
  | .outside event => { system with shared := host.outside event system.shared }

/-- Requests start safe, and outside events keep what everyone relies on. -/
structure Disciplined (rules : Discipline σ) : Prop where
  launch : ∀ index request state, rules.valid state →
    Safe rules index (fun later => (host.launch index request state).live later = true) (fun _ _ => True)
      (host.launch index request state).program state
  outside : ∀ event state, rules.valid state → rules.allowed state (host.outside event state) →
    rules.valid (host.outside event state) ∧ ∀ index, rules.rely index state (host.outside event state)

/-- The same for runs whose outside events meet a guard. -/
structure DisciplinedUnder (rules : Discipline σ) (guard : σ → κ → Prop) : Prop where
  launch : ∀ index request state, rules.valid state →
    Safe rules index (fun later => (host.launch index request state).live later = true) (fun _ _ => True)
      (host.launch index request state).program state
  outside : ∀ event state, guard state event → rules.valid state → rules.allowed state (host.outside event state) →
    rules.valid (host.outside event state) ∧ ∀ index, rules.rely index state (host.outside event state)

/-- The shared invariant, and every thread safe to run on. -/
structure Sound (rules : Discipline σ) (system : System ρ σ) : Prop where
  valid : rules.valid system.shared
  safe : ∀ index thread, system.threads[index]? = some thread →
    Safe rules index (fun later => thread.live later = true) (fun _ _ => True) thread.program system.shared

variable {host} {rules : Discipline σ} {guard : σ → κ → Prop} {system : System ρ σ}

theorem Disciplined.under (disciplined : Disciplined host rules) : DisciplinedUnder host rules fun _ _ => True :=
  ⟨disciplined.launch, fun event state _ => disciplined.outside event state⟩

theorem Sound.start (sound : Sound rules system) (disciplined : DisciplinedUnder host rules guard) (request : ι) :
    Sound rules (step host system (.start request)) := by
  refine ⟨sound.valid, fun index thread found => ?_⟩
  simp only [step] at found ⊢
  by_cases inside : index < system.threads.length
  · rw [List.getElem?_append_left inside] at found
    exact sound.safe index thread found
  · rw [List.getElem?_append_right (by omega), List.getElem?_singleton] at found
    split at found
    · cases found
      have last : index = system.threads.length := by omega
      rw [last]
      exact disciplined.launch _ request _ sound.valid
    · cases found

theorem Sound.run (sound : Sound rules system) (thread : Nat) (answer : ρ)
    (permitted : rules.allowed system.shared (step host system (.run thread answer : Event ρ ι κ)).shared) :
    Sound rules (step host system (.run thread answer)) := by
  simp only [step] at permitted ⊢
  cases found : system.threads[thread]? with
  | none => exact sound
  | some current =>
    simp only [found] at permitted ⊢
    split
    next alive =>
      rw [if_pos alive] at permitted
      have safe := sound.safe thread current found
      have inside : thread < system.threads.length := by
        rw [List.getElem?_eq_some_iff] at found
        exact found.1
      unfold advance at permitted ⊢
      split
      next done =>
        refine ⟨sound.valid, fun index other selected => ?_⟩
        rw [List.getElem?_set] at selected
        split at selected
        next same =>
          subst same
          cases selected
          exact safe
        · exact sound.safe index other selected
      next action next shape =>
        rw [shape] at permitted safe
        obtain ⟨valid, others, remaining⟩ := safe system.shared sound.valid (rules.refl thread _) alive answer permitted
        refine ⟨valid, fun index other selected => ?_⟩
        rw [List.getElem?_set] at selected
        split at selected
        next same =>
          subst same
          cases selected
          exact remaining
        next different =>
          exact (sound.safe index other selected).stable (others index (fun same => different same.symm))
    · exact sound

theorem Sound.crash (sound : Sound rules system) (thread : Nat) :
    Sound rules (step host system (.crash thread : Event ρ ι κ)) := by
  simp only [step]
  cases found : system.threads[thread]? with
  | none => exact sound
  | some current =>
    refine ⟨sound.valid, fun index other selected => ?_⟩
    rw [List.getElem?_set] at selected
    split at selected
    · split at selected
      · cases selected
        exact fun _ _ _ => True.intro
      · cases selected
    · exact sound.safe index other selected

theorem Sound.outside (sound : Sound rules system) (disciplined : DisciplinedUnder host rules guard) (event : κ)
    (met : guard system.shared event) (permitted : rules.allowed system.shared (host.outside event system.shared)) :
    Sound rules (step host system (.outside event)) := by
  obtain ⟨valid, relied⟩ := disciplined.outside event system.shared met sound.valid permitted
  exact ⟨valid, fun index thread found => (sound.safe index thread found).stable (relied index)⟩

/-- An event is considered when the shared state it leaves is an allowed one. -/
def Considered (host : Host ρ σ ι κ) (rules : Discipline σ) (system : System ρ σ) (event : Event ρ ι κ) : Prop :=
  rules.allowed system.shared (step host system event).shared

/-- The guard of an event that comes from outside. -/
def Event.meets (guard : σ → κ → Prop) (system : System ρ σ) : Event ρ ι κ → Prop
  | .outside event => guard system.shared event
  | _ => True

theorem Sound.step_under (disciplined : DisciplinedUnder host rules guard) (system : System ρ σ) (event : Event ρ ι κ)
    (met : event.meets guard system) (considered : Considered host rules system event) (sound : Sound rules system) :
    Sound rules (step host system event) := by
  cases event with
  | start request => exact sound.start disciplined request
  | run thread answer => exact sound.run thread answer considered
  | crash thread => exact sound.crash thread
  | outside event => exact sound.outside disciplined event met considered

theorem Sound.step (disciplined : Disciplined host rules) (system : System ρ σ) (event : Event ρ ι κ)
    (considered : Considered host rules system event) (sound : Sound rules system) :
    Sound rules (step host system event) := by
  refine Sound.step_under disciplined.under system event ?_ considered sound
  cases event <;> exact True.intro

theorem Sound.undisturbed (disciplined : DisciplinedUnder host rules guard) (event : Event ρ ι κ)
    (met : event.meets guard system) (considered : Considered host rules system event) (sound : Sound rules system)
    {index : Nat} (other : ∀ answer, event ≠ .run index answer) :
    rules.rely index system.shared (Interleave.step host system event).shared := by
  have same : rules.rely index system.shared system.shared := rules.refl index _
  cases event with
  | start request => exact same
  | crash thread =>
    simp only [Interleave.step]
    split <;> exact same
  | outside event => exact (disciplined.outside event _ met sound.valid considered).2 index
  | run thread answer =>
    have different : index ≠ thread := by
      rintro rfl
      exact other answer rfl
    simp only [Considered, Interleave.step] at considered ⊢
    cases found : system.threads[thread]? with
    | none => exact same
    | some current =>
      simp only [found] at considered ⊢
      split
      next alive =>
        rw [if_pos alive] at considered
        have safe := sound.safe thread current found
        unfold advance at considered ⊢
        split
        next => exact same
        next action next shape =>
          rw [shape] at considered safe
          obtain ⟨_, others, _⟩ := safe system.shared sound.valid (rules.refl thread _) alive answer considered
          exact others index different
      · exact same

theorem Sound.observed (disciplined : DisciplinedUnder host rules guard) (event : Event ρ ι κ)
    (met : event.meets guard system) (considered : Considered host rules system event) (sound : Sound rules system)
    {index : Nat} (absent : system.threads.length ≤ index) :
    rules.rely index system.shared (Interleave.step host system event).shared := by
  by_cases own : ∃ answer, event = .run index answer
  · obtain ⟨answer, rfl⟩ := own
    have idle : Interleave.step host system (.run index answer) = system := by
      simp only [Interleave.step, List.getElem?_eq_none_iff.mpr absent]
    rw [idle]
    exact rules.refl index _
  · exact Sound.undisturbed disciplined event met considered sound fun answer same => own ⟨answer, same⟩

/-- Where every request relies on the same relation, all events keep it. -/
theorem Sound.grows (disciplined : Disciplined host rules) {grows : σ → σ → Prop}
    (uniform : ∀ self before after, rules.rely self before after ↔ grows before after) (event : Event ρ ι κ)
    (considered : Considered host rules system event) (sound : Sound rules system) :
    grows system.shared (Interleave.step host system event).shared := by
  have met : event.meets (fun _ _ => True) system := by cases event <;> exact True.intro
  exact (uniform _ _ _).mp (Sound.observed disciplined.under event met considered sound (Nat.le_refl _))

/-- The interleaving rule: from a valid state with no request, every considered
run of a disciplined host keeps the invariant. -/
theorem Disciplined.run (disciplined : Disciplined host rules) {start : σ} (initial : rules.valid start)
    {events : List (Event ρ ι κ)}
    (considered : Runs.Throughout (step host) (Considered host rules) ⟨start, []⟩ events) :
    rules.valid (Runs.final (step host) ⟨start, []⟩ events).shared :=
  (considered.invariant (Sound.step disciplined) ⟨initial, by simp⟩).valid

/-- What a sound system gives of one event that meets the guard holds of every event of the run. -/
theorem DisciplinedUnder.concludes (disciplined : DisciplinedUnder host rules guard) {start : σ} (initial : rules.valid start)
    {conclusion : System ρ σ → Event ρ ι κ → Prop} {events : List (Event ρ ι κ)}
    (considered : Runs.Throughout (Interleave.step host)
      (fun system event => event.meets guard system ∧ Considered host rules system event) ⟨start, []⟩ events)
    (concludes : ∀ system event, event.meets guard system → Considered host rules system event → Sound rules system →
      conclusion system event) : Runs.Throughout (Interleave.step host) conclusion ⟨start, []⟩ events :=
  considered.carry (fun system event met sound => Sound.step_under disciplined system event met.1 met.2 sound)
    ⟨initial, by simp⟩ fun system event met sound => concludes system event met.1 met.2 sound

/-- In a run whose outside events meet the guard, every event keeps the invariant,
and what a later request relies on. -/
theorem DisciplinedUnder.throughout (disciplined : DisciplinedUnder host rules guard) {start : σ} (initial : rules.valid start)
    {events : List (Event ρ ι κ)}
    (considered : Runs.Throughout (Interleave.step host)
      (fun system event => event.meets guard system ∧ Considered host rules system event) ⟨start, []⟩ events) :
    Runs.Throughout (Interleave.step host) (fun system event => rules.valid (Interleave.step host system event).shared ∧
      ∀ index, system.threads.length ≤ index → rules.rely index system.shared (Interleave.step host system event).shared)
      ⟨start, []⟩ events := by
  refine disciplined.concludes initial considered fun system event met permitted sound => ?_
  exact ⟨(Sound.step_under disciplined system event met permitted sound).valid,
    fun _ absent => Sound.observed disciplined event met permitted sound absent⟩

theorem Sound.run_grows (disciplined : Disciplined host rules) {grows : σ → σ → Prop}
    (uniform : ∀ self before after, rules.rely self before after ↔ grows before after) (sound : Sound rules system)
    {events : List (Event ρ ι κ)} (considered : Runs.Throughout (Interleave.step host) (Considered host rules) system events) :
    grows system.shared (Runs.final (Interleave.step host) system events).shared := by
  induction events generalizing system with
  | nil => exact (uniform 0 _ _).mp (rules.refl 0 _)
  | cons event rest ih =>
    have now := Sound.grows disciplined uniform event considered.1 sound
    have later := ih (Sound.step disciplined system event considered.1 sound) considered.2
    exact (uniform 0 _ _).mp (rules.trans 0 ((uniform 0 _ _).mpr now) ((uniform 0 _ _).mpr later))

theorem Disciplined.run_grows (disciplined : Disciplined host rules) {grows : σ → σ → Prop}
    (uniform : ∀ self before after, rules.rely self before after ↔ grows before after) {start : σ}
    (initial : rules.valid start) {first last : List (Event ρ ι κ)}
    (considered : Runs.Throughout (step host) (Considered host rules) ⟨start, []⟩ (first ++ last)) :
    grows (Runs.final (step host) ⟨start, []⟩ first).shared
      (Runs.final (step host) ⟨start, []⟩ (first ++ last)).shared := by
  obtain ⟨early, late⟩ := Runs.Throughout.append.mp considered
  rw [Runs.final_append]
  exact Sound.run_grows disciplined uniform (early.invariant (Sound.step disciplined) ⟨initial, by simp⟩) late

end Execution

end Interleave
