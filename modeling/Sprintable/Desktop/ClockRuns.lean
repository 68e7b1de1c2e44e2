import Sprintable.Desktop.ClockView

/-! The clock view in runs of reports, finished clock-outs and new tokens. The number only rises
under one token, so that a late report is ignored; a finished clock-out needs a number to raise. -/

namespace Sprintable.Desktop
open Runs

/-- The view is what the report said, with some rows left out and some lines taken off. -/
structure ClockView.Shows (view : ClockView) (report : ClockViewReport) : Prop where
  mode : view.mode = report.mode
  scope : view.scope = report.scope
  outs : view.outs.Sublist report.outs
  rows : ∃ kept, kept.Sublist report.rows ∧
    List.Forall₂ (fun row said => row = said ∨ row = ClockRow.withoutLine said) view.rows kept

namespace ClockDesk
variable {desk after : ClockDesk} {event : ClockEvent} {report : ClockViewReport} {reading : ClockReading}

/-- The view, if there is one, is that of the report with the highest number. -/
def Newest (desk : ClockDesk) : Prop :=
  ∀ view, desk.view = some view →
    ∃ newest ∈ desk.applied, (∀ other ∈ desk.applied, other.seq ≤ newest.seq) ∧ view.Shows newest

structure Sound (desk : ClockDesk) : Prop where
  newest : desk.Newest
  bounded : ∀ report ∈ desk.applied, desk.takes report.seq = false
  inRange : ∀ held, desk.clockViewSeq = some held → held ≤ SEQ_MAX

private theorem takes_iff {seq : Nat} : desk.takes seq = true ↔ ∀ held, desk.clockViewSeq = some held → held < seq := by
  unfold takes
  cases desk.clockViewSeq <;> simp

private theorem late_of_takes {seq : Nat} (late : desk.takes seq = false) : ∃ held, desk.clockViewSeq = some held ∧ seq ≤ held := by
  unfold takes at late
  cases held : desk.clockViewSeq with
  | none =>
    rw [held] at late
    cases late
  | some number =>
    rw [held] at late
    exact ⟨number, rfl, by simpa using late⟩

private theorem takes_of_le {seq held : Nat} (number : desk.clockViewSeq = some held) (late : seq ≤ held) : desk.takes seq = false := by
  unfold takes
  rw [number]
  simpa using late

/-- All that an operation can do. -/
inductive Moves (desk : ClockDesk) : ClockEvent → ClockDesk → Prop where
  | refused (event : ClockEvent) : Moves desk event desk
  | applied (token : Nat) (report : ClockViewReport) (reading : ClockReading) (takes : desk.takes report.seq) :
      Moves desk (.report token report reading)
        { desk with
          clockViewSeq := some report.seq, clockSeenAt := some reading.now, view := report.view reading
          applied := desk.applied ++ [report] }
  | ignored (token : Nat) (report : ClockViewReport) (reading : ClockReading) (late : desk.takes report.seq = false) :
      Moves desk (.report token report reading)
        { desk with clockSeenAt := some reading.now, view := desk.standing reading.now }
  | dropped (action : ClockAction) (agent : Option Nat) (ending : ends action) :
      Moves desk (.result action agent) (desk.dropFirstLines agent)
  | forgot : Moves desk .forget desk.forget
  | issued : Moves desk .issueToken desk.issueToken

theorem step_moves (desk : ClockDesk) (event : ClockEvent) : Moves desk event (desk.step event) := by
  cases event with
  | report token report reading =>
    simp only [step, applyClockView]
    by_cases known : desk.tokens < token
    · rw [if_pos known]
      exact .refused _
    · rw [if_neg known]
      by_cases revoked : reading.revoked
      · rw [if_pos revoked]
        exact .refused _
      · rw [if_neg revoked]
        by_cases off : !reading.remoteControl
        · rw [if_pos off]
          exact .refused _
        · rw [if_neg off]
          by_cases takes : desk.takes report.seq
          · rw [if_pos takes]
            exact .applied token report reading takes
          · rw [if_neg takes]
            exact .ignored token report reading (Bool.not_eq_true _ ▸ takes)
  | result action agent =>
    simp only [step, onClockResult]
    by_cases ending : ends action
    · rw [if_pos ending]
      exact .dropped action agent ending
    · rw [if_neg ending]
      exact .refused _
  | forget => exact .forgot
  | issueToken => exact .issued

private theorem view_shows {view : ClockView} (shown : report.view reading = some view) : view.Shows report := by
  unfold ClockViewReport.view at shown
  split at shown
  · cases shown
  · cases shown
    refine ⟨rfl, rfl, List.filter_sublist, report.keptRows reading, List.filter_sublist, ?_⟩
    exact List.forall₂_same.mpr fun _ _ => .inl rfl

private theorem withoutLine_withoutLine (row : ClockRow) : row.withoutLine.withoutLine = row.withoutLine := rfl

private theorem shows_dropped {view : ClockView} (shows : view.Shows report) (agent : Option Nat) :
    ClockView.Shows
      { view with rows := view.rows.map fun row => if agent.all (· = row.agentMemberId) then row.withoutLine else row } report := by
  obtain ⟨kept, sublist, related⟩ := shows.rows
  refine ⟨shows.mode, shows.scope, shows.outs, kept, sublist, ?_⟩
  apply List.forall₂_map_left_iff.mpr
  apply related.imp
  rintro row said (rfl | rfl)
  · split
    · exact .inr rfl
    · exact .inl rfl
  · split
    · exact .inr (withoutLine_withoutLine said)
    · exact .inr rfl

private theorem standing_cases {now : Nat} {view : ClockView} (standing : desk.standing now = some view) : desk.view = some view :=
  (Option.filter_eq_some_iff.mp standing).1

private theorem dropFirstLines_seq {held : Nat} (number : desk.clockViewSeq = some held) (agent : Option Nat) :
    (desk.dropFirstLines agent).clockViewSeq = some (min (held + IN_FLIGHT_FLOOR) SEQ_MAX) := by
  rw [dropFirstLines, number, Option.map_some]

theorem Sound.step (sound : desk.Sound) (event : ClockEvent) : (desk.step event).Sound := by
  have moves := step_moves desk event
  generalize desk.step event = after at moves
  cases moves with
  | refused => exact sound
  | applied token report reading takes =>
    have highest : ∀ other ∈ desk.applied ++ [report], other.seq ≤ report.seq := by
      intro other member
      rcases List.mem_append.mp member with before | new
      · obtain ⟨held, number, late⟩ := late_of_takes (sound.bounded other before)
        have newer := takes_iff.mp takes held number
        omega
      · rw [List.mem_singleton.mp new]
    refine ⟨?_, fun other member => takes_of_le rfl (highest other member), ?_⟩
    · intro view shown
      exact ⟨report, List.mem_append_right _ (List.mem_singleton_self _), highest, view_shows shown⟩
    · intro held number
      rw [← Option.some.inj number]
      exact report.inRange
  | ignored token report reading late =>
    exact ⟨fun view standing => sound.newest view (standing_cases standing), sound.bounded, sound.inRange⟩
  | dropped action agent ending =>
    constructor
    · intro view shown
      obtain ⟨before, held, rfl⟩ := Option.map_eq_some_iff.mp shown
      obtain ⟨newest, member, highest, shows⟩ := sound.newest before held
      exact ⟨newest, member, highest, shows_dropped shows agent⟩
    · intro report member
      obtain ⟨held, number, late⟩ := late_of_takes (sound.bounded report member)
      have inRange := report.inRange
      exact takes_of_le (dropFirstLines_seq number agent) (by omega)
    · intro raised number
      obtain ⟨held, _, rfl⟩ := Option.map_eq_some_iff.mp number
      exact Nat.min_le_right _ _
  | forgot =>
    refine ⟨?_, sound.bounded, sound.inRange⟩
    intro view shown
    cases shown
  | issued =>
    constructor
    · intro view shown
      cases shown
    · intro report member
      cases member
    · intro held number
      cases number

/-- Under one token the number does not fall. -/
structure Later (desk after : ClockDesk) : Prop where
  tokens : desk.tokens ≤ after.tokens
  floor : desk.tokens = after.tokens → ∀ seq, desk.takes seq = false → after.takes seq = false

theorem Later.refl (desk : ClockDesk) : desk.Later desk := ⟨Nat.le_refl _, fun _ _ late => late⟩

theorem Later.trans {middle : ClockDesk} (first : desk.Later middle) (second : middle.Later after) : desk.Later after := by
  refine ⟨first.tokens.trans second.tokens, ?_⟩
  intro same seq late
  have early := first.tokens
  have last := second.tokens
  exact second.floor (by omega) seq (first.floor (by omega) seq late)

theorem Sound.later (sound : desk.Sound) (event : ClockEvent) : desk.Later (desk.step event) := by
  have moves := step_moves desk event
  generalize desk.step event = after at moves
  cases moves with
  | refused => exact Later.refl desk
  | applied token report reading takes =>
    refine ⟨Nat.le_refl _, fun _ seq late => ?_⟩
    obtain ⟨held, number, before⟩ := late_of_takes late
    have newer := takes_iff.mp takes held number
    exact takes_of_le rfl (by omega)
  | ignored token report reading late => exact ⟨Nat.le_refl _, fun _ _ before => before⟩
  | dropped action agent ending =>
    refine ⟨Nat.le_refl _, fun _ seq late => ?_⟩
    obtain ⟨held, number, before⟩ := late_of_takes late
    have top := sound.inRange held number
    exact takes_of_le (dropFirstLines_seq number agent) (by omega)
  | forgot => exact ⟨Nat.le_refl _, fun _ _ late => late⟩
  | issued => exact ⟨Nat.le_succ _, fun same => by simp [issueToken] at same⟩

theorem sound_initial : Sound {} := by
  constructor
  · intro view shown
    cases shown
  · intro report member
    cases member
  · intro held number
    cases number

theorem sound_run (events : List ClockEvent) : (final step {} events).Sound :=
  final_invariant (fun _ event sound => sound.step event) sound_initial events

private theorem later_run (first events : List ClockEvent) : (final step {} first).Later (final step {} (first ++ events)) := by
  rw [final_append]
  have always : Throughout step (fun _ _ => True) (final step {} first) events := Throughout.trivial (fun _ _ => True.intro) _ _
  have steps := always.carry (fun _ event _ sound => sound.step event) (sound_run first)
    fun _ event _ sound => Sound.later sound event
  exact steps.related Later.refl fun first second => first.trans second

/-- Nothing of the report is applied: the number stays, and the view too unless its time is over. -/
structure Ignores (desk : ClockDesk) (token : Nat) (report : ClockViewReport) (reading : ClockReading) : Prop where
  number : (desk.step (.report token report reading)).clockViewSeq = desk.clockViewSeq
  applied : (desk.step (.report token report reading)).applied = desk.applied
  view : (desk.step (.report token report reading)).view = desk.view ∨
    (desk.step (.report token report reading)).view = desk.standing reading.now

private theorem ignores_late (token : Nat) (late : desk.takes report.seq = false) (reading : ClockReading) :
    desk.Ignores token report reading := by
  have moves := step_moves desk (.report token report reading)
  generalize outcome : desk.step (.report token report reading) = after at moves
  cases moves with
  | refused => constructor <;> simp [outcome]
  | applied _ _ _ takes =>
    rw [late] at takes
    cases takes
  | ignored => constructor <;> simp [outcome]

/-- The report was on its way when the command was recorded: let in under a token issued by then,
and numbered up to the floor above the highest applied report, or above zero where there is none. -/
def InFlight (desk : ClockDesk) (token : Nat) (report : ClockViewReport) : Prop :=
  token ≤ desk.tokens ∧ report.seq ≤ desk.clockViewSeq.getD 0 + IN_FLIGHT_FLOOR

/-- The last part is asked of the clock-outs and the reports that count. -/
structure StaysNewest (counts : ClockDesk → ClockEvent → Prop) (events : List ClockEvent) : Prop where
  newest : (final step {} events).Newest
  late : ∀ first token report reading last, events = first ++ .report token report reading :: last →
    (∃ other ∈ (final step {} first).applied, report.seq ≤ other.seq) → (final step {} first).Ignores token report reading
  gone : ∀ first action agent middle token report reading last,
    events = first ++ .result action agent :: (middle ++ .report token report reading :: last) →
    ends action → (final step {} first).InFlight token report → counts (final step {} first) (.result action agent) →
    counts (final step {} (first ++ .result action agent :: middle)) (.report token report reading) →
    (final step {} (first ++ .result action agent :: middle)).Ignores token report reading

/-- A clock-out that is finished after a report was applied under the token, and a report that is
processed under the token it was let in with. -/
def Numbered (desk : ClockDesk) : ClockEvent → Prop
  | .result action _ => ends action → desk.clockViewSeq.isSome
  | .report token _ _ => token = desk.tokens
  | _ => True

private theorem result_bars {action : ClockAction} {token : Nat} (numbered : desk.Numbered (.result action agent))
    (ending : ends action) (flying : desk.InFlight token report) :
    (desk.step (.result action agent)).takes report.seq = false := by
  obtain ⟨held, number⟩ := Option.isSome_iff_exists.mp (numbered ending)
  have inRange := report.inRange
  have below := flying.2
  rw [number, Option.getD_some] at below
  rw [ClockDesk.step, onClockResult, if_pos ending]
  exact takes_of_le (dropFirstLines_seq number agent) (by omega)

private theorem result_tokens (action : ClockAction) (agent : Option Nat) : (desk.step (.result action agent)).tokens = desk.tokens := by
  rw [step, onClockResult]
  split <;> rfl

/-- The view is that of the newest report, a late report changes nothing, and a finished clock-out
bars every report that was on its way, if there was a number to raise. -/
theorem clock_view_stays_newest (events : List ClockEvent) : StaysNewest Numbered events := by
  refine ⟨(sound_run events).newest, ?_, ?_⟩
  · rintro first token report reading last rfl ⟨other, applied, below⟩
    obtain ⟨held, number, late⟩ := late_of_takes ((sound_run first).bounded other applied)
    exact ignores_late token (takes_of_le number (below.trans late)) reading
  · rintro first action agent middle token report reading last rfl ending flying result current
    have barred := result_bars result ending flying
    have known : (final step {} (first ++ [.result action agent])).tokens = (final step {} first).tokens := by
      rw [final_append]
      exact result_tokens action agent
    have later := later_run (first ++ [.result action agent]) middle
    have whole : first ++ .result action agent :: middle = first ++ [.result action agent] ++ middle := by
      rw [List.append_assoc, List.singleton_append]
    rw [whole] at current ⊢
    apply ignores_late token
    apply later.floor
    · have before := later.tokens
      have early := flying.1
      have same : token = (final step {} (first ++ [.result action agent] ++ middle)).tokens := current
      omega
    · rw [final_append]
      exact barred

def draftRow : ClockRow := { agentMemberId := 7, state := .ready, firstLine := some "Fixed the build" }

def panelReport : ClockViewReport := { seq := 1, mode := .panel, rows := [draftRow], positive := by decide, inRange := by decide }

def clockReading : ClockReading := { now := 100, setupAgents := [7] }

/-- A clock-out that is finished before any report was applied raises nothing: the report that was
on its way puts its draft line on the server. -/
theorem draft_line_put_back :
    ((final step {} [.result .outSubmit none, .report 0 panelReport clockReading]).view.any fun view =>
        view.rows.any fun row => row.firstLine.isSome) ∧
      ¬StaysNewest (fun _ _ => True) [.result .outSubmit none, .report 0 panelReport clockReading] := by
  refine ⟨by decide, ?_⟩
  intro stays
  have gone := stays.gone [] .outSubmit none [] 0 panelReport clockReading [] rfl (by decide) ⟨by decide, by decide⟩
    True.intro True.intro
  exact absurd gone.number (by decide)

end ClockDesk

end Sprintable.Desktop
