import Sprintable.Leases.Receivers

/-! One receiver for the agent. A heartbeat puts the stream's member back whoever has the place
by then, also where an acquire has counted it as free, and a take-over ends the others before it
has the place itself; where neither meets another receiver, one member is live at a time. -/

namespace Sprintable.Leases

universe u
variable {μ : Type u} [DecidableEq μ]

namespace World
variable {store : LeaseStore μ} (world : World store)

/-- A take-over has displaced the member, and its heartbeat has not come since. -/
def Excepted (member : μ) : Prop := ∃ stream ∈ world.streams, stream.member = member ∧ stream.displaced = .waiting

/-- The members that have the place, and the one whose acquire has found it free. -/
def holders : List μ :=
  world.live ++ (world.acquiring.filter fun acquire => store.assured acquire.stage).toList.map Acquire.member

/-- No other member has the place, or is about to. -/
def Alone (member : μ) : Prop := ∀ other ∈ world.holders, other ≠ member → world.Excepted other

/-- At most one member is live, but for those that a take-over has displaced. -/
def OneReceiver : Prop :=
  ∀ first ∈ world.live, ∀ second ∈ world.live, first ≠ second → world.Excepted first ∨ world.Excepted second

/-- No stream is about to put its member back after the heartbeat since it was displaced. -/
def StaysAway : Prop := ∀ stream ∈ world.streams, stream.phase = .refreshing → stream.displaced ≠ .beaten

/-- A request that was refused has taken nothing over. -/
def LeavesInPlace : Prop := ∀ stream ∈ world.streams, stream.phase = .refused → stream.tookOver = false

/-- The step meets no other receiver: a member is renewed, reclaimed or excepted no longer only
when no other has the place or has been assured of it; a displaced stream finds the mark of
another at its heartbeat; and a take-over finds the one place, and one of all places, free. -/
def Undisputed : StreamEvent μ → Prop
  | .markTaken index => ∀ stream ∈ world.streams[index]?, stream.phase = .displacing [] →
    stream.member ∈ world.holders → world.Alone stream.member
  | .acquire index _ => ∀ stream ∈ world.streams[index]?, stream.phase = .acquiring →
    ∀ acquire ∈ world.turn index stream,
      (store.renews world.state world.now acquire.member acquire.stage = true → world.Alone acquire.member) ∧
        (stream.tookOver = true → store.renews world.state world.now acquire.member acquire.stage = true ∨
          store.counted world.state world.now acquire.member acquire.stage = [])
  | .register index globalPlace => ∀ stream ∈ world.streams[index]?, stream.phase = .acquired →
    stream.tookOver = true → globalPlace = true
  | .heartbeat index => ∀ stream ∈ world.streams[index]?, stream.phase = .streaming →
    (stream.displaced = .waiting → stream.member ∈ world.holders → world.Alone stream.member) ∧
      (stream.displaced ≠ .no → stream.ownsReceiverSlot = true → world.takenByOther stream.member = true)
  | .refresh index => ∀ stream ∈ world.streams[index]?, stream.phase = .refreshing → world.waits stream.member = false →
    world.Excepted stream.member ∨ world.Alone stream.member
  | _ => True

instance (member : μ) : Decidable (world.Excepted member) := inferInstanceAs (Decidable (∃ _ ∈ _, _))

instance (member : μ) : Decidable (world.Alone member) := inferInstanceAs (Decidable (∀ _ ∈ _, _))

instance : Decidable world.OneReceiver := inferInstanceAs (Decidable (∀ _ ∈ _, _))

instance : Decidable world.StaysAway := inferInstanceAs (Decidable (∀ _ ∈ _, _))

instance : Decidable world.LeavesInPlace := inferInstanceAs (Decidable (∀ _ ∈ _, _))

instance : DecidablePred world.Undisputed := fun event => by
  cases event <;> unfold Undisputed <;> infer_instance

end World

/-- The phases before the mark, and those of a request that is refused. -/
def Phase.untouched : Phase μ → Bool
  | .arrived | .counted _ | .displacing _ | .rollingBack | .refused => true
  | _ => false

structure Stream.Sound (stream : Stream μ) : Prop where
  away : stream.phase = .refreshing → stream.displaced ≠ .beaten
  inPlace : stream.phase.untouched = true → stream.tookOver = false

namespace World
variable {store : LeaseStore μ} {world : World store}

/-- One receiver, also of those that are about to have the place. -/
structure Sound (world : World store) : Prop where
  single : ∀ first ∈ world.holders, ∀ second ∈ world.holders, first ≠ second → world.Excepted first ∨ world.Excepted second
  streams : ∀ stream ∈ world.streams, stream.Sound

omit [DecidableEq μ] in
theorem mem_holders_ask {asked : Call μ} {member : μ} (held : member ∈ (world.ask asked).holders) :
    member ∈ world.holders ∨ Call.placed (world.answer asked) asked = some member := by
  rcases List.mem_append.mp held with here | assured
  · exact (store.frame here).imp_left (List.mem_append_left _)
  · exact .inl (List.mem_append_right _ assured)

omit [DecidableEq μ] in
theorem rewrite_get {change : Nat → Stream μ → Stream μ} {index : Nat} {stream : Stream μ}
    (found : world.streams[index]? = some stream) : (world.rewrite change).streams[index]? = some (change index stream) := by
  simp [rewrite, found]

omit [DecidableEq μ] in
theorem mem_rewrite {change : Nat → Stream μ → Stream μ} {stream : Stream μ} (inside : stream ∈ (world.rewrite change).streams) :
    ∃ position old, world.streams[position]? = some old ∧ change position old = stream := by
  obtain ⟨position, bound, rfl⟩ := List.mem_mapIdx.mp inside
  exact ⟨position, _, List.getElem?_eq_getElem bound, rfl⟩

omit [DecidableEq μ] in
theorem Excepted.rewrite {change : Nat → Stream μ → Stream μ} {member : μ} (excepted : world.Excepted member)
    (same : ∀ position stream, (change position stream).member = stream.member)
    (waits : ∀ position stream, world.streams[position]? = some stream → stream.member = member →
      stream.displaced = .waiting → (change position stream).displaced = .waiting) :
    (world.rewrite change).Excepted member := by
  obtain ⟨stream, inside, named, waiting⟩ := excepted
  obtain ⟨position, found⟩ := List.mem_iff_getElem?.mp inside
  exact ⟨_, List.mem_of_getElem? (rewrite_get found), (same position stream).trans named, waits position stream found named waiting⟩

/-- The store changes, so that at most one member more has the place. -/
theorem Sound.placing (sound : world.Sound) {next : World store} (same : next.streams = world.streams)
    (placed : ∀ member ∈ next.holders, member ∈ world.holders ∨ world.Excepted member ∨ world.Alone member)
    (one : ∀ first ∈ next.holders, ∀ second ∈ next.holders, first ∉ world.holders → second ∉ world.holders → first = second) :
    next.Sound := by
  have excepted : ∀ member, world.Excepted member → next.Excepted member := by
    intro member waiting
    unfold Excepted
    rw [same]
    exact waiting
  refine ⟨?_, by rw [same]; exact sound.streams⟩
  intro first here second there different
  by_cases old : first ∈ world.holders
  · by_cases older : second ∈ world.holders
    · exact (sound.single first old second older different).imp (excepted first) (excepted second)
    · rcases (placed second there).resolve_left older with waiting | alone
      · exact .inr (excepted second waiting)
      · exact .inl (excepted first (alone first old different))
  · by_cases older : second ∈ world.holders
    · rcases (placed first here).resolve_left old with waiting | alone
      · exact .inl (excepted first waiting)
      · exact .inr (excepted second (alone second older different.symm))
    · exact absurd (one first here second there old older) different

theorem Sound.ask (sound : world.Sound) {asked : Call μ}
    (placed : ∀ member, Call.placed (world.answer asked) asked = some member → world.Excepted member ∨ world.Alone member) :
    (world.ask asked).Sound := by
  have same : (world.ask asked).streams = world.streams := rfl
  apply sound.placing same
  · intro member held
    exact (mem_holders_ask held).imp_right (placed member)
  · intro first here second there fresh newer
    have one := (mem_holders_ask here).resolve_left fresh
    have two := (mem_holders_ask there).resolve_left newer
    exact Option.some.inj (one.symm.trans two)

omit [DecidableEq μ] in
theorem Alone.ask {member : μ} (alone : world.Alone member) {asked : Call μ}
    (placed : ∀ other, Call.placed (world.answer asked) asked = some other → other = member) : (world.ask asked).Alone member := by
  intro other held different
  rcases mem_holders_ask held with old | new
  · exact alone other old different
  · exact absurd (placed other new) different

theorem Sound.rewrite (sound : world.Sound) {change : Nat → Stream μ → Stream μ} (member : μ)
    (same : ∀ position stream, (change position stream).member = stream.member)
    (kept : ∀ position stream, world.streams[position]? = some stream → stream.Sound → (change position stream).Sound)
    (waits : ∀ position stream, world.streams[position]? = some stream → stream.displaced = .waiting →
      (change position stream).displaced = .waiting ∨
        (stream.member = member ∧ (member ∈ world.holders → world.Alone member))) :
    (world.rewrite change).Sound := by
  have others : ∀ other, other ≠ member → world.Excepted other → (world.rewrite change).Excepted other := by
    intro other different excepted
    apply excepted.rewrite same
    intro position stream found named waiting
    rcases waits position stream found waiting with still | ⟨own, _⟩
    · exact still
    · exact absurd (named.symm.trans own) different
  -- A member that is excepted no longer was alone, so that the other one is excepted.
  have either : ∀ first ∈ world.holders, ∀ second ∈ world.holders, first ≠ second → world.Excepted first →
      (world.rewrite change).Excepted first ∨ (world.rewrite change).Excepted second := by
    intro first one second two different excepted
    by_cases own : first = member
    · obtain ⟨stream, inside, named, waiting⟩ := excepted
      obtain ⟨position, found⟩ := List.mem_iff_getElem?.mp inside
      rcases waits position stream found waiting with still | ⟨_, sole⟩
      · exact .inl ⟨_, List.mem_of_getElem? (rewrite_get found), (same position stream).trans named, still⟩
      · subst own
        exact .inr (others second different.symm (sole one second two different.symm))
    · exact .inl (others first own excepted)
  refine ⟨?_, ?_⟩
  · intro first one second two different
    rcases sound.single first one second two different with excepted | excepted
    · exact either first one second two different excepted
    · exact (either second two first one different.symm excepted).symm
  · intro stream inside
    obtain ⟨position, old, found, rfl⟩ := mem_rewrite inside
    exact kept position old found (sound.streams old (List.mem_of_getElem? found))

theorem Sound.change (sound : world.Sound) {index : Nat} {stream : Stream μ} (found : world.streams[index]? = some stream)
    {next : Stream μ → Stream μ} (same : ∀ other, (next other).member = other.member) (kept : stream.Sound → (next stream).Sound)
    (waits : stream.displaced = .waiting → (next stream).displaced = .waiting ∨
      (stream.member ∈ world.holders → world.Alone stream.member)) : (world.change index next).Sound := by
  apply sound.rewrite stream.member
  · intro position other
    split
    · exact same other
    · rfl
  · intro position other selected good
    split
    next at_index =>
      subst at_index
      cases Option.some.inj (found.symm.trans selected)
      exact kept good
    next => exact good
  · intro position other selected waiting
    split
    next at_index =>
      subst at_index
      cases Option.some.inj (found.symm.trans selected)
      exact (waits waiting).imp_right fun alone => ⟨rfl, alone⟩
    next => exact .inl waiting

theorem Sound.enter (sound : world.Sound) {index : Nat} {stream : Stream μ} {phase : Phase μ}
    (found : world.streams[index]? = some stream) (calm : phase ≠ .refreshing)
    (untouched : phase.untouched = true → stream.tookOver = false) : (world.enter index phase).Sound := by
  apply sound.change found
  · intro other
    rfl
  · exact fun _ => ⟨fun refreshing => absurd refreshing calm, untouched⟩
  · exact .inl

theorem Sound.ask_only (sound : world.Sound) {asked : Call μ} (nothing : Call.placed (world.answer asked) asked = none) :
    (world.ask asked).Sound := by
  apply sound.ask
  intro member placed
  rw [nothing] at placed
  cases placed

theorem Sound.judge (sound : world.Sound) {index : Nat} {stream : Stream μ} {others : List μ}
    (found : world.streams[index]? = some stream) (counted : stream.phase = .counted others) :
    (world.judge index stream others).Sound := by
  have fresh : stream.tookOver = false :=
    (sound.streams stream (List.mem_of_getElem? found)).inPlace (by rw [counted]; rfl)
  unfold World.judge
  cases others with
  | nil => exact sound.enter found (by simp) fun _ => fresh
  | cons member rest =>
    dsimp only
    split
    next =>
      have displaced : (world.rewrite fun position other =>
          if other.listed ∧ other.process = stream.process ∧ some position ≠ stream.replaces then other.displaceHere
          else other).Sound := by
        apply sound.rewrite stream.member
        · intro position other
          split <;> rfl
        · intro position other _ good
          split
          · exact ⟨fun _ => by simp [Stream.displaceHere], good.inPlace⟩
          · exact good
        · intro position other _ waiting
          left
          split
          · rfl
          · exact waiting
      apply displaced.enter (rewrite_get found)
      · simp
      · intro _
        split <;> exact fresh
    next => exact sound.enter found (by simp) fun _ => fresh

theorem Sound.displace (sound : world.Sound) {index : Nat} {stream : Stream μ} {member : μ} {rest : List μ}
    (found : world.streams[index]? = some stream) (displacing : stream.phase = .displacing (member :: rest)) :
    (world.displace index member rest).Sound := by
  have fresh : stream.tookOver = false :=
    (sound.streams stream (List.mem_of_getElem? found)).inPlace (by rw [displacing]; rfl)
  have released : (world.ask (.release member)).Sound := sound.ask_only rfl
  have displaced : ((world.ask (.release member)).rewrite fun _ other =>
      if other.member = member then { other with displaced := .waiting } else other).Sound := by
    apply released.rewrite member
    · intro position other
      split <;> rfl
    · intro position other _ good
      split
      · exact ⟨fun _ => by simp, good.inPlace⟩
      · exact good
    · intro position other _ waiting
      left
      split
      · rfl
      · exact waiting
  apply displaced.enter (rewrite_get found)
  · simp
  · intro _
    split <;> exact fresh

theorem Sound.reclaim (sound : world.Sound) {member : μ} (alone : member ∈ world.holders → world.Alone member) :
    (world.rewrite fun _ other => other.reclaim member).Sound := by
  apply sound.rewrite member
  · intro position other
    unfold Stream.reclaim
    split <;> rfl
  · intro position other _ good
    unfold Stream.reclaim
    split
    · exact ⟨fun _ => by simp, good.inPlace⟩
    · exact good
  · intro position other _ waiting
    unfold Stream.reclaim
    split
    next own => exact .inr ⟨own, alone⟩
    next => exact .inl waiting

theorem Sound.markTaken (sound : world.Sound) {index : Nat} {stream : Stream μ} (found : world.streams[index]? = some stream)
    (alone : stream.member ∈ world.holders → world.Alone stream.member) : (world.markTaken index stream).Sound := by
  have marked : (world.ask (.markTaken stream.member)).Sound := sound.ask_only rfl
  have still : stream.member ∈ (world.ask (.markTaken stream.member)).holders →
      (world.ask (.markTaken stream.member)).Alone stream.member := by
    intro held
    rcases mem_holders_ask held with old | new
    · exact (alone old).ask fun other placed => absurd placed (by simp [Call.placed])
    · cases new
  apply (marked.reclaim still).change (rewrite_get found)
  · intro other
    rfl
  · exact fun _ => ⟨fun refreshing => absurd refreshing (by simp), fun early => absurd early (by simp [Phase.untouched])⟩
  · exact .inl

omit [DecidableEq μ] in
theorem turn_index {index : Nat} {stream : Stream μ} {acquire : Acquire store} (turn : world.turn index stream = some acquire) :
    acquire.index = index := by
  unfold World.turn at turn
  split at turn
  · cases turn
    rfl
  · split at turn
    next same =>
      cases turn
      exact same
    next => cases turn

omit [DecidableEq μ] in
/-- The assured one is the acquire whose turn it is. -/
theorem holders_turn {index : Nat} {stream : Stream μ} {acquire : Acquire store} (turn : world.turn index stream = some acquire) :
    world.holders = world.live ++ if store.assured acquire.stage then [acquire.member] else [] := by
  unfold World.turn at turn
  unfold holders
  split at turn
  next none =>
    cases turn
    rw [none, store.unassured]
    rfl
  next running some =>
    split at turn
    next =>
      cases turn
      rw [some]
      cases assured : store.assured acquire.stage <;> simp [assured]
    next => cases turn

omit [DecidableEq μ] in
theorem mem_holders_proceed {acquire : Acquire store} {sweeps : Bool} {other : μ}
    (held : other ∈ (world.proceed acquire sweeps).holders) :
    other ∈ world.live ∨ ((world.progress acquire sweeps).assures store.assured = true ∧ other = acquire.member) := by
  rcases List.mem_append.mp held with here | assured
  · apply (store.places here).imp_right
    rintro ⟨granted, same⟩
    exact ⟨by rw [progress, granted]; rfl, same⟩
  · right
    unfold proceed at assured
    cases goes : world.progress acquire sweeps with
    | goesOn stage =>
      have new : store.assured stage = true ∧ acquire.member = other := by
        simpa [goes, Acquire.left, Option.filter_some] using assured
      exact ⟨new.1, new.2.symm⟩
    | answered granted => simp [goes, Acquire.left] at assured

section Acquire
variable {index : Nat} {stream : Stream μ} {asking : Acquire store} {sweeps : Bool}

omit [DecidableEq μ] in
/-- The acquire finds a place where it has its own, or has counted that no other is there. -/
theorem alone_of_assures (turn : world.turn index stream = some asking)
    (alone : store.renews world.state world.now asking.member asking.stage = true → world.Alone asking.member)
    (assures : (world.progress asking sweeps).assures store.assured = true) (unassured : store.assured asking.stage = false) :
    world.Alone asking.member := by
  rcases store.room assures unassured with own | ⟨free, all⟩
  · exact alone own
  · have nobody : store.counted world.state world.now asking.member asking.stage = [] :=
      List.eq_nil_of_length_eq_zero (by omega)
    intro other held different
    rw [holders_turn turn, unassured] at held
    have counted := all other (by simpa [live] using held) different
    rw [nobody] at counted
    cases counted

theorem Sound.claim (sound : world.Sound) (turn : world.turn index stream = some asking)
    (alone : store.renews world.state world.now asking.member asking.stage = true → world.Alone asking.member) :
    (world.claim asking sweeps).Sound := by
  have same : (world.proceed asking sweeps).streams = world.streams := rfl
  unfold World.claim
  split
  next found =>
    have sole : world.Alone asking.member := alone_of_assures turn alone found.1 found.2
    have proceeded : (world.proceed asking sweeps).Sound := by
      apply sound.placing same
      · intro member held
        rcases mem_holders_proceed held with old | ⟨_, rfl⟩
        · exact .inl (List.mem_append_left _ old)
        · exact .inr (.inr sole)
      · intro first here second there fresh newer
        have one := (mem_holders_proceed here).resolve_left fun old => fresh (List.mem_append_left _ old)
        have two := (mem_holders_proceed there).resolve_left fun old => newer (List.mem_append_left _ old)
        exact one.2.trans two.2.symm
    apply proceeded.reclaim
    intro _ other held different
    rcases mem_holders_proceed held with old | ⟨_, own⟩
    · exact sole other (List.mem_append_left _ old) different
    · exact absurd own different
  next assured =>
    have kept : ∀ member ∈ (world.proceed asking sweeps).holders, member ∈ world.holders := by
      intro member held
      rcases mem_holders_proceed held with old | ⟨assures, rfl⟩
      · exact List.mem_append_left _ old
      · have before : store.assured asking.stage = true := by
          simpa using fun unassured => assured ⟨assures, unassured⟩
        rw [holders_turn turn, before]
        simp
    apply sound.placing same
    · exact fun member held => .inl (kept member held)
    · exact fun first here _ _ fresh _ => absurd (kept first here) fresh

theorem Sound.acquire (sound : world.Sound) (found : world.streams[index]? = some stream)
    (turn : world.turn index stream = some asking)
    (alone : store.renews world.state world.now asking.member asking.stage = true → world.Alone asking.member)
    (free : stream.tookOver = true → store.renews world.state world.now asking.member asking.stage = true ∨
      store.counted world.state world.now asking.member asking.stage = []) : (world.acquire asking sweeps).Sound := by
  have claimed : (world.claim asking sweeps).Sound := sound.claim turn alone
  unfold World.acquire
  cases answer : world.progress asking sweeps with
  | goesOn stage => exact claimed
  | answered granted =>
    have still : ∃ own, (world.claim asking sweeps).streams[asking.index]? = some own ∧ own.tookOver = stream.tookOver := by
      rw [turn_index turn]
      unfold World.claim
      split
      · refine ⟨_, rewrite_get found, ?_⟩
        unfold Stream.reclaim
        split <;> rfl
      · exact ⟨stream, found, rfl⟩
    obtain ⟨own, at_index, took⟩ := still
    apply claimed.enter at_index
    · split <;> simp
    · intro refused
      rw [took]
      cases granted with
      | true => simp [Phase.untouched] at refused
      | false =>
        obtain ⟨other, most⟩ := store.full answer
        by_contra taken
        rcases free (by simpa using taken) with renewed | nobody
        · simp [renewed] at other
        · simp [nobody] at most

end Acquire

theorem Sound.register (sound : world.Sound) {index : Nat} {stream : Stream μ}
    (found : world.streams[index]? = some stream) : (world.register index stream).Sound := by
  have handed : (world.rewrite fun position other => other.handOver position stream).Sound := by
    apply sound.rewrite stream.member
    · intro position other
      rfl
    · exact fun _ _ _ good => ⟨good.away, good.inPlace⟩
    · exact fun _ _ _ waiting => .inl waiting
  apply handed.change (rewrite_get found)
  · intro other
    rfl
  · exact fun _ => ⟨fun refreshing => absurd refreshing (by simp), fun early => absurd early (by simp [Phase.untouched])⟩
  · exact .inl

theorem Sound.heartbeat (sound : world.Sound) {index : Nat} {stream : Stream μ} (found : world.streams[index]? = some stream)
    (streaming : stream.phase = .streaming)
    (alone : stream.displaced = .waiting → stream.member ∈ world.holders → world.Alone stream.member)
    (marked : stream.displaced ≠ .no → stream.ownsReceiverSlot = true → world.takenByOther stream.member = true) :
    (world.heartbeat index stream).Sound := by
  have asked : (world.ask .takenBy).Sound := sound.ask_only rfl
  have still : stream.displaced = .waiting → stream.member ∈ (world.ask .takenBy).holders →
      (world.ask .takenBy).Alone stream.member := by
    intro waiting held
    rcases mem_holders_ask held with old | new
    · exact (alone waiting old).ask fun other placed => absurd placed (by simp [Call.placed])
    · cases new
  unfold World.heartbeat
  by_cases owns : stream.ownsReceiverSlot = false
  · rw [if_pos owns]
    apply sound.change found
    · intro other
      rfl
    · intro _
      constructor
      · exact fun refreshing => absurd (streaming.symm.trans refreshing) (by simp)
      · exact fun early => absurd early (by simp [Stream.beat, streaming, Phase.untouched])
    · exact fun waiting => .inr (alone waiting)
  · rw [if_neg owns]
    by_cases other_mark : world.takenByOther stream.member = true
    · rw [if_pos other_mark]
      apply asked.change found
      · intro other
        rfl
      · intro _
        constructor
        · exact fun refreshing => absurd (streaming.symm.trans refreshing) (by simp)
        · exact fun early => absurd early (by simp [Stream.beat, streaming, Phase.untouched])
      · exact fun waiting => .inr (still waiting)
    · rw [if_neg other_mark]
      -- The stream goes on to its refresh, so that it was not displaced.
      have undisplaced : stream.displaced = .no := by
        by_contra displaced
        exact other_mark (marked displaced (by simpa using owns))
      apply asked.change found
      · intro other
        rfl
      · exact fun _ => ⟨fun _ => by simp [Stream.beat, undisplaced], fun early => absurd early (by simp [Phase.untouched])⟩
      · intro waiting
        rw [undisplaced] at waiting
        cases waiting

omit [DecidableEq μ] in
theorem Sound.connect (sound : world.Sound) (arrived : Stream μ) (fresh : arrived.phase = .arrived)
    (taken : arrived.tookOver = false) : ({ world with streams := world.streams ++ [arrived] } : World store).Sound := by
  have grown : ∀ member, world.Excepted member →
      ({ world with streams := world.streams ++ [arrived] } : World store).Excepted member := by
    rintro member ⟨stream, inside, waiting⟩
    exact ⟨stream, List.mem_append_left _ inside, waiting⟩
  refine ⟨?_, ?_⟩
  · intro first one second two different
    exact (sound.single first one second two different).imp (grown first) (grown second)
  · intro stream inside
    rcases List.mem_append.mp inside with old | new
    · exact sound.streams stream old
    · rw [List.mem_singleton.mp new]
      exact ⟨fun refreshing => absurd (fresh.symm.trans refreshing) (by simp), fun _ => taken⟩

omit [DecidableEq μ] in
theorem Sound.wait (sound : world.Sound) (elapsed : Nat) : ({ world with now := world.now + elapsed } : World store).Sound := by
  refine ⟨?_, sound.streams⟩
  have earlier : ∀ member ∈ ({ world with now := world.now + elapsed } : World store).holders, member ∈ world.holders := by
    intro member held
    rcases List.mem_append.mp held with here | assured
    · exact List.mem_append_left _ (store.lapses (Nat.le_add_right _ _) here)
    · exact List.mem_append_right _ assured
  intro first one second two different
  exact sound.single first (earlier first one) second (earlier second two) different

omit [DecidableEq μ] in
theorem onStream_sound (sound : world.Sound) {index : Nat} {body : Stream μ → World store}
    (kept : ∀ stream, world.streams[index]? = some stream → (body stream).Sound) : (world.onStream index body).Sound := by
  unfold onStream
  split
  next stream found => exact kept stream found
  next => exact sound

theorem Sound.step (sound : world.Sound) {event : StreamEvent μ} (undisputed : world.Undisputed event) :
    (world.step event).Sound := by
  cases event with
  | connect process receiver connection takeover => exact sound.connect _ rfl rfl
  | members index =>
    apply onStream_sound sound
    intro stream found
    split
    next names arrived answered =>
      apply (sound.ask_only rfl).enter found
      · simp
      · intro _
        exact (sound.streams stream (List.mem_of_getElem? found)).inPlace (by rw [arrived]; rfl)
    next => exact sound
  | judge index =>
    apply onStream_sound sound
    intro stream found
    split
    next others counted => exact sound.judge found counted
    next => exact sound
  | release index =>
    apply onStream_sound sound
    intro stream found
    split
    next member rest displacing => exact sound.displace found displacing
    next => exact sound
  | markTaken index =>
    apply onStream_sound sound
    intro stream found
    split
    next ready => exact sound.markTaken found (undisputed stream found ready)
    next => exact sound
  | acquire index sweeps =>
    apply onStream_sound sound
    intro stream found
    split
    next acquire acquiring turn =>
      have ⟨alone, free⟩ := undisputed stream found acquiring acquire turn
      exact sound.acquire found turn alone free
    next => exact sound
  | register index globalPlace =>
    apply onStream_sound sound
    intro stream found
    split
    next ready =>
      have taken := undisputed stream found ready
      cases globalPlace with
      | true => exact sound.register found
      | false =>
        apply sound.enter found
        · split <;> simp
        · exact fun _ => by simpa using taken
    next => exact sound
  | rollBack index =>
    apply onStream_sound sound
    intro stream found
    split
    next ready =>
      apply (sound.ask_only rfl).enter found
      · simp
      · intro _
        exact (sound.streams stream (List.mem_of_getElem? found)).inPlace (by rw [ready]; rfl)
    next => exact sound
  | heartbeat index =>
    apply onStream_sound sound
    intro stream found
    split
    next streaming =>
      exact sound.heartbeat found streaming (undisputed stream found streaming).1 (undisputed stream found streaming).2
    next => exact sound
  | refresh index =>
    apply onStream_sound sound
    intro stream found
    split
    next refreshing =>
      have placed : (world.ask (.refresh stream.member)).Sound := by
        apply sound.ask
        rintro member ⟨⟩
        exact undisputed stream found refreshing.1 refreshing.2
      exact placed.enter found (by simp) fun early => absurd early (by simp [Phase.untouched])
    next => exact sound
  | finish index =>
    apply onStream_sound sound
    intro stream found
    split
    next => exact sound.enter found (by simp) fun early => absurd early (by simp [Phase.untouched])
    next => exact sound
  | releaseOwn index =>
    apply onStream_sound sound
    intro stream found
    split
    next =>
      split
      · exact (sound.ask_only rfl).enter found (by simp) fun early => absurd early (by simp [Phase.untouched])
      · exact sound.enter found (by simp) fun early => absurd early (by simp [Phase.untouched])
    next => exact sound
  | clearTaken index =>
    apply onStream_sound sound
    intro stream found
    have left : stream.Sound → ({ stream with slot := false, phase := .leaving } : Stream μ).Sound :=
      fun _ => ⟨fun refreshing => absurd refreshing (by simp), fun early => absurd early (by simp [Phase.untouched])⟩
    split
    next =>
      split
      · exact (sound.ask_only rfl).change found (fun _ => rfl) left .inl
      · exact sound.change found (fun _ => rfl) left .inl
    next => exact sound
  | leave index =>
    apply onStream_sound sound
    intro stream found
    split
    next =>
      apply sound.change found
      · intro other
        rfl
      · exact fun _ => ⟨fun refreshing => absurd refreshing (by simp), fun early => absurd early (by simp [Phase.untouched])⟩
      · exact .inl
    next => exact sound
  | wait elapsed => exact sound.wait elapsed

/-- In a run that meets no other receiver at its heartbeats and take-overs, there is one receiver
at a time, a displaced stream stays away, and a refused request leaves all in place. -/
theorem one_receiver_undisputed (store : LeaseStore μ) (events : List (StreamEvent μ))
    (undisputed : Runs.Throughout step Undisputed (initial store) events) :
    (Runs.final step (initial store) events).OneReceiver ∧ (Runs.final step (initial store) events).StaysAway ∧
      (Runs.final step (initial store) events).LeavesInPlace := by
  have start : (initial store).Sound := by
    refine ⟨?_, fun _ inside => absurd inside List.not_mem_nil⟩
    intro first one
    rw [show (initial store).holders = [] ++ [] from congrArg (· ++ []) (store.vacant 0)] at one
    cases one
  have sound : (Runs.final step (initial store) events).Sound := by
    apply undisputed.invariant
    · exact fun _ _ calm kept => Sound.step kept calm
    · exact start
  refine ⟨fun first one second two => sound.single first (List.mem_append_left _ one) second (List.mem_append_left _ two), ?_, ?_⟩
  · exact fun stream inside => (sound.streams stream inside).away
  · exact fun stream inside refused => (sound.streams stream inside).inPlace (by rw [refused]; rfl)

/-- Leases of three heartbeats, in milliseconds. -/
def usualTiming : Timing := ⟨30000, by omega⟩

/-- The statements of an acquire, with nothing between them. -/
def acquired (index : Nat) : List (StreamEvent Nat) := List.replicate 4 (.acquire index false)

def admitted (index : Nat) : List (StreamEvent Nat) := [.members index, .judge index] ++ acquired index ++ [.register index true]

/-- A receiver takes over from one on another process, whose next heartbeat finds the mark. -/
def takenOver : List (StreamEvent Nat) :=
  [.connect 0 (some 1) 10 false] ++ admitted 0 ++ [.wait 30000, .heartbeat 0, .refresh 0, .connect 1 (some 2) 20 true, .members 1,
    .judge 1, .release 1, .markTaken 1] ++ acquired 1 ++ [.register 1 true, .heartbeat 0, .finish 0, .releaseOwn 0]

theorem one_receiver_taken_over :
    (Runs.final step (initial (rowStore usualTiming)) takenOver).OneReceiver ∧
      (Runs.final step (initial (rowStore usualTiming)) takenOver).StaysAway ∧
      (Runs.final step (initial (rowStore usualTiming)) takenOver).LeavesInPlace :=
  one_receiver_undisputed (rowStore usualTiming) takenOver (by decide)

/-- The lease of a receiver lapses, another one connects, and the first has its heartbeat. -/
def lapsedThenRefreshed : List (StreamEvent Nat) :=
  [.connect 0 (some 1) 10 false] ++ admitted 0 ++ [.wait 90000, .connect 1 (some 2) 20 false] ++ admitted 1 ++
    [.heartbeat 0, .refresh 0]

/-- The lapsed row is gone with the acquire of a receiver that has left again, and the first has its
heartbeat when the acquire of a third has counted nobody. -/
def refreshedAfterTheCount : List (StreamEvent Nat) :=
  [.connect 0 (some 1) 10 false] ++ admitted 0 ++ [.wait 90000, .connect 1 (some 2) 20 false] ++ admitted 1 ++
    [.finish 1, .releaseOwn 1, .connect 1 (some 3) 30 false, .members 2, .judge 2, .acquire 2 false, .acquire 2 false,
      .acquire 2 false, .heartbeat 0, .refresh 0, .acquire 2 false]

/-- The taker leaves, and its mark with it, before the heartbeat of the receiver that it displaced. -/
def takerGone : List (StreamEvent Nat) :=
  [.connect 0 (some 1) 10 false] ++ admitted 0 ++ [.connect 1 (some 2) 20 true, .members 1, .judge 1, .release 1, .markTaken 1] ++
    acquired 1 ++ [.register 1 true, .wait 1000, .finish 1, .releaseOwn 1, .clearTaken 1, .heartbeat 0]

/-- All places of the server are taken when the take-over has displaced the receiver. -/
def takeOverRefused : List (StreamEvent Nat) :=
  [.connect 0 (some 1) 10 false] ++ admitted 0 ++ [.connect 0 (some 2) 20 true, .members 1, .judge 1, .release 1, .markTaken 1] ++
    acquired 1 ++ [.register 1 false]

theorem two_receivers :
    ¬(Runs.final step (initial (rowStore usualTiming)) lapsedThenRefreshed).OneReceiver ∧
      ¬(Runs.final step (initial (rowStore usualTiming)) refreshedAfterTheCount).OneReceiver ∧
      ¬(Runs.final step (initial (rowStore usualTiming)) takerGone).StaysAway ∧
      ¬(Runs.final step (initial (rowStore usualTiming)) takeOverRefused).LeavesInPlace := by
  decide

end World

end Sprintable.Leases
