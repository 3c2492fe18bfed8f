import Mutagenesis.Proofs.Pacing.Runs

/-!
# Distances between requests

At most one query is in the limiter, and it leaves when the interval after the last request is over;
so in every run requests start at least an interval apart, whatever queries they belong to. An
attempt that is repeated has failed, and the delay after the failure is over when the next one
starts.
-/
namespace Mutagenesis.Pacing

variable {attempts number : Nat} {t : Throttle} {live live' : Live Unit} {log more : List Note}
  {last : Option Nat} {s s' : State} {i k : Nat} {move : Move} {stage next : Stage} {note : Note}

/-! ## Logs that keep the distances -/

/-- Whether requests keep the distances of a throttle, when the one before them started at a given
time. -/
structure IsSpaced (t : Throttle) (last : Option Nat) (log : List Note) : Prop where
  /-- Any two requests start at least an interval apart. -/
  apart : (last.toList ++ starts log).Pairwise fun earlier later => earlier + t.interval ≤ later
  /-- Before an attempt that is not the first one of its query, the one before has failed. -/
  repeated : ∀ before i time k, before ++ [⟨i, time, .started (k + 1)⟩] <+: log → 0 < k →
    ∃ ended draw, ⟨i, ended, .failed k draw⟩ ∈ before
  /-- The delays after the failures of its query are over when an attempt starts. -/
  delayed : ∀ before i time k, before ++ [⟨i, time, .started k⟩] <+: log →
    ∀ ended j draw, ⟨i, ended, .failed j draw⟩ ∈ before → ended + t.retryDelay j draw ≤ time

/-- A note that is not of the start of a request shows no time. -/
theorem starts_of_quiet (quiet : ∀ k, note.act ≠ .started k) : starts [note] = [] := by
  cases hact : note.act with
  | started k => exact absurd hact (quiet k)
  | made | failed | finished => simp [starts, Note.start?, hact]

namespace IsSpaced

theorem start (t : Throttle) (last : Option Nat) : IsSpaced t last [] := by
  refine ⟨?_, ?_, ?_⟩
  · cases last <;> simp [starts]
  · intro before i time k h
    simp at h
  · intro before i time k h
    simp at h

/-- A note that is not of the start of a request changes no distance. -/
theorem concat (h : IsSpaced t last log) (quiet : ∀ k, note.act ≠ .started k) :
    IsSpaced t last (log ++ [note]) := by
  have before_of {before : List Note} {i time k : Nat}
      (shown : before ++ [⟨i, time, .started k⟩] <+: log ++ [note]) :
      before ++ [⟨i, time, .started k⟩] <+: log := by
    obtain same | shown := List.prefix_concat_iff.1 shown
    · have same := (List.append_inj' same rfl).2
      simp only [List.cons.injEq, and_true] at same
      exact absurd (congrArg Note.act same).symm (quiet k)
    · exact shown
  refine ⟨?_, fun before i time k shown => h.repeated before i time k (before_of shown),
    fun before i time k shown => h.delayed before i time k (before_of shown)⟩
  simpa [starts_of_quiet quiet] using h.apart

/-- The last of the requests is the latest one. -/
theorem le_getLast (h : IsSpaced t last log) {time : Nat}
    (latest : (last.toList ++ starts log).getLast? = some time) :
    ∀ earlier ∈ last.toList ++ starts log, earlier ≤ time := by
  intro earlier hearlier
  obtain ⟨before, same⟩ := List.getLast?_eq_some_iff.1 latest
  have apart := h.apart
  rw [same] at apart hearlier
  obtain hbefore | rfl := by simpa using hearlier
  · have := (List.pairwise_append.1 apart).2.2 earlier hbefore time (by simp)
    omega
  · exact Nat.le_refl _

/-- A request that starts when the interval after the one before is over. -/
theorem concat_started (h : IsSpaced t last log) {time : Nat}
    (ready : ∀ latest ∈ (last.toList ++ starts log).getLast?, latest + t.interval ≤ time)
    (repeated : ∀ j, k = j + 1 → 0 < j → ∃ ended draw, ⟨i, ended, .failed j draw⟩ ∈ log)
    (delayed : ∀ ended j draw, ⟨i, ended, .failed j draw⟩ ∈ log →
      ended + t.retryDelay j draw ≤ time) :
    IsSpaced t last (log ++ [⟨i, time, .started k⟩]) := by
  refine ⟨?_, ?_, ?_⟩
  · have shown : starts [⟨i, time, .started k⟩] = [time] := rfl
    rw [starts_append, shown, ← List.append_assoc]
    refine List.pairwise_append.2 ⟨h.apart, List.pairwise_singleton _ _, ?_⟩
    intro earlier hearlier later hlater
    obtain rfl := List.mem_singleton.1 hlater
    cases latest : (last.toList ++ starts log).getLast? with
    | none => simp [List.getLast?_eq_none_iff.1 latest] at hearlier
    | some time' =>
        have := h.le_getLast latest earlier hearlier
        have := ready time' latest
        omega
  · intro before i' time' k' shown
    obtain ends | shown := List.prefix_concat_iff.1 shown
    · obtain ⟨rfl, same⟩ := List.append_inj' ends rfl
      simp only [List.cons.injEq, Note.mk.injEq, Act.started.injEq, and_true] at same
      obtain ⟨rfl, -, same⟩ := same
      exact repeated k' same.symm
    · exact h.repeated before i' time' k' shown
  · intro before i' time' k' shown
    obtain ends | shown := List.prefix_concat_iff.1 shown
    · obtain ⟨rfl, same⟩ := List.append_inj' ends rfl
      simp only [List.cons.injEq, Note.mk.injEq, and_true] at same
      obtain ⟨rfl, rfl, -⟩ := same
      exact delayed
    · exact h.delayed before i' time' k' shown

end IsSpaced

/-! ## Stages that keep them -/

namespace Stage

/-- How many attempts of a query have failed. -/
def failures : Stage → Nat
  | queued k | holding k _ | sending k => k - 1
  | pausing k _ => k
  | arriving | done _ => 0

/-- Until when a query sleeps outside the limiter. -/
def wakeAt : Stage → Nat
  | pausing _ time => time
  | _ => 0

/-- Whether a stage agrees with the failures that are noted of the query, the time and the last
request: its failures are noted, their delays are over or slept off, and in the limiter it waits for
the interval after the last request. -/
structure Agrees (t : Throttle) (live : Live Unit) (log : List Note) (i : Nat) (stage : Stage) :
    Prop where
  failed : ∀ j, 0 < j → j ≤ stage.failures → ∃ ended draw, ⟨i, ended, .failed j draw⟩ ∈ log
  delayed : ∀ ended j draw, ⟨i, ended, .failed j draw⟩ ∈ log →
    ended + t.retryDelay j draw ≤ max live.now stage.wakeAt
  ready : ∀ k ready, stage = .holding k ready →
    ∀ time ∈ live.lastRequest, time + t.interval ≤ ready

/-- Time that passes and notes of other queries change nothing. -/
theorem Agrees.later (h : stage.Agrees t live log i) (others : ∀ n ∈ more, n.query ≠ i)
    (now : live.now ≤ live'.now)
    (last : stage.isHolding = true → live'.lastRequest = live.lastRequest) :
    stage.Agrees t live' (log ++ more) i := by
  refine ⟨?_, ?_, ?_⟩
  · intro j first hj
    obtain ⟨ended, draw, noted⟩ := h.failed j first hj
    exact ⟨ended, draw, List.mem_append_left _ noted⟩
  · intro ended j draw noted
    obtain noted | noted := List.mem_append.1 noted
    · have := h.delayed ended j draw noted
      omega
    · exact absurd rfl (others _ noted)
  · rintro k ready rfl
    rw [last rfl]
    exact h.ready k ready rfl

/-- A query comes to a stage with no more failures than it had, and has slept off their delays where
it does not sleep there. -/
theorem Agrees.advance (h : stage.Agrees t live log i)
    (quiet : ∀ n ∈ more, ∀ j draw, n.act ≠ .failed j draw) (fewer : next.failures ≤ stage.failures)
    (slept : max live.now stage.wakeAt ≤ max live'.now next.wakeAt)
    (ready : ∀ k ready, next = .holding k ready →
      ∀ time ∈ live'.lastRequest, time + t.interval ≤ ready) :
    next.Agrees t live' (log ++ more) i := by
  refine ⟨?_, ?_, ready⟩
  · intro j first hj
    obtain ⟨ended, draw, noted⟩ := h.failed j first (Nat.le_trans hj fewer)
    exact ⟨ended, draw, List.mem_append_left _ noted⟩
  · intro ended j draw noted
    have before := (List.mem_append.1 noted).resolve_right fun shown => quiet _ shown j draw rfl
    exact Nat.le_trans (h.delayed ended j draw before) slept

/-- An attempt fails, which is noted, and the query sleeps for the delay. -/
theorem Agrees.fail {draw : Nat} (h : (sending k).Agrees t live log i) :
    (pausing k (live.now + t.retryDelay k draw)).Agrees t live'
      (log ++ [⟨i, live.now, .failed k draw⟩]) i := by
  refine ⟨?_, ?_, by simp⟩
  · intro j first hj
    obtain rfl | before := Nat.eq_or_lt_of_le (show j ≤ k from hj)
    · exact ⟨live.now, draw, by simp⟩
    · obtain ⟨ended, draw, noted⟩ := h.failed j first (Nat.le_sub_one_of_lt before)
      exact ⟨ended, draw, List.mem_append_left _ noted⟩
  · intro ended j draw' noted
    obtain noted | noted := List.mem_append.1 noted
    · have := h.delayed ended j draw' noted
      simp only [wakeAt] at this ⊢
      omega
    · obtain ⟨rfl, rfl, rfl⟩ := by simpa using noted
      exact Nat.le_max_right _ _

end Stage

/-! ## States that keep them -/

/-- What holds in every state of a run. -/
structure Paced (t : Throttle) (last : Option Nat) (log : List Note) (s : State) : Prop where
  spaced : IsSpaced t last log
  latest : s.live.lastRequest = (last.toList ++ starts log).getLast?
  agrees : ∀ (i : Nat) (stage : Stage), s.queries[i]? = some stage → stage.Agrees t s.live log i
  single : ∀ (i j : Nat) (first second : Stage), s.queries[i]? = some first →
    s.queries[j]? = some second → first.isHolding = true → second.isHolding = true → i = j

namespace Paced

theorem start (t : Throttle) (live : Live Unit) (number : Nat) :
    Paced t live.lastRequest [] (.start live number) := by
  refine ⟨.start t live.lastRequest, ?_, fun i stage hstage => ?_,
    fun i j first second hfirst _ held _ => ?_⟩
  · cases hlast : live.lastRequest <;> simp [State.start, starts, hlast]
  · rw [State.stage_of_start hstage]
    refine ⟨fun j first none_failed => ?_, by simp, by simp⟩
    simp only [Stage.failures] at none_failed
    omega
  · simp [State.stage_of_start hfirst, Stage.isHolding] at held

/-- Time may pass. -/
theorem later (h : Paced t last log s) (elapsed : Nat) : Paced t last log (s.later elapsed) := by
  refine ⟨h.spaced, h.latest, fun i stage hstage => ?_, h.single⟩
  have grown : s.live.now ≤ (s.later elapsed).live.now := Nat.le_add_right _ _
  have silent : ∀ n ∈ ([] : List Note), n.query ≠ i := by simp
  simpa using (h.agrees i stage hstage).later silent grown fun _ => rfl

/-- A query comes to another stage. It may only enter the limiter when none is in it, and only the
one in it may send a request. -/
theorem setStage (h : Paced t last log s) (hstage : s.queries[i]? = some stage)
    (mine : ∀ n ∈ more, n.query = i) (spaced : IsSpaced t last (log ++ more))
    (latest : live'.lastRequest = (last.toList ++ starts (log ++ more)).getLast?)
    (agrees : next.Agrees t live' (log ++ more) i) (now : live'.now = s.live.now)
    (enters : next.isHolding = true → s.isHeld = false)
    (sends : live'.lastRequest = s.live.lastRequest ∨ stage.isHolding = true) :
    Paced t last (log ++ more) ({ s with live := live' }.setStage i next) := by
  refine ⟨spaced, latest, ?_, ?_⟩
  · intro j stage' hj
    obtain ⟨rfl, rfl⟩ | ⟨other, hj⟩ := State.stage_of_setStage hj
    · exact agrees
    · refine (h.agrees j stage' hj).later (fun n hn => ?_) (Nat.le_of_eq now.symm) fun held => ?_
      · rw [mine n hn]
        exact Ne.symm other
      · exact sends.resolve_right fun held' => other (h.single j i _ _ hj hstage held held')
  · intro j j' first second hj hj' held held'
    have free {j : Nat} {other : Stage} (entered : next.isHolding = true)
        (hj : s.queries[j]? = some other) (held : other.isHolding = true) : False := by
      simp [State.isHolding_of_isHeld (enters entered) hj] at held
    obtain ⟨rfl, rfl⟩ | ⟨-, hfirst⟩ := State.stage_of_setStage hj
    · obtain ⟨rfl, -⟩ | ⟨-, hsecond⟩ := State.stage_of_setStage hj'
      · rfl
      · exact (free held hsecond held').elim
    · obtain ⟨rfl, rfl⟩ | ⟨-, hsecond⟩ := State.stage_of_setStage hj'
      · exact (free held' hfirst held).elim
      · exact h.single j j' first second hfirst hsecond held held'

/-- A query that neither enters the limiter nor sends a request. -/
theorem quiet (h : Paced t last log s) (hstage : s.queries[i]? = some stage)
    (mine : ∀ n ∈ more, n.query = i ∧ ∀ k, n.act ≠ .started k) (short : more.length ≤ 1)
    (agrees : next.Agrees t live' (log ++ more) i) (now : live'.now = s.live.now)
    (same : live'.lastRequest = s.live.lastRequest)
    (enters : next.isHolding = true → s.isHeld = false) :
    Paced t last (log ++ more) ({ s with live := live' }.setStage i next) := by
  have spaced : IsSpaced t last (log ++ more) ∧ starts more = [] := by
    match more, short with
    | [], _ => exact ⟨by simpa using h.spaced, rfl⟩
    | [n], _ =>
        have silent := (mine n List.mem_cons_self).2
        exact ⟨h.spaced.concat silent, starts_of_quiet silent⟩
  refine h.setStage hstage (fun n hn => (mine n hn).1) spaced.1 ?_ agrees now enters (.inl same)
  simp [same, h.latest, spaced.2]

/-- Every step keeps to the distances. -/
theorem step (h : Paced t last log s) (hstage : s.queries[i]? = some stage)
    (steps : Steps attempts t s i stage move s') : Paced t last (log ++ notes s s' i move) s' := by
  have agrees := h.agrees i stage hstage
  cases steps with
  | make =>
      have noted : notes s (s.setStage i (.queued 1)) i .make = [⟨i, s.live.now, .made⟩] :=
        notes_eq hstage s.live _ _
      rw [noted]
      exact h.quiet hstage (by simp) (Nat.le_refl 1)
        (agrees.advance (by simp) (Nat.le_refl 0) (Nat.le_refl _) (by simp)) rfl rfl
        (by simp [Stage.isHolding])
  | @enter k free =>
      have noted : notes s (s.setStage i
          (.holding k (readyAt t s.live.lastRequest s.live.now))) i .enter = [] :=
        notes_eq hstage s.live _ _
      rw [noted]
      refine h.quiet hstage (by simp) (by simp)
        (agrees.advance (by simp) (Nat.le_refl (k - 1)) (Nat.le_refl _) ?_) rfl rfl fun _ => free
      intro k' ready same time htime
      obtain ⟨-, rfl⟩ := Stage.holding.inj same
      rw [Option.mem_def.1 htime]
      exact Nat.le_max_right _ _
  | @send k ready time =>
      have noted : notes s ({ s with live := { s.live with
          lastRequest := some s.live.now } }.setStage i (.sending k)) i .send =
            [⟨i, s.live.now, .started k⟩] := notes_eq hstage _ _ _
      rw [noted]
      refine h.setStage hstage (by simp) (h.spaced.concat_started ?_ ?_ ?_) ?_
        (agrees.advance (by simp) (Nat.le_refl (k - 1)) (Nat.le_refl _) (by simp)) rfl
        (by simp [Stage.isHolding]) (.inr rfl)
      · intro latest hlatest
        rw [← h.latest] at hlatest
        have := agrees.ready k ready rfl latest hlatest
        omega
      · rintro j rfl first
        exact agrees.failed j first (Nat.le_refl j)
      · simpa [Stage.wakeAt] using agrees.delayed
      · simp [starts, Note.start?]
  | @finish k outcome ending ends =>
      have noted : notes s ({ s with live := (Live.settle ending s.live).2 }.setStage i
          (.done (Live.settle ending s.live).1)) i (.reply outcome) =
            [⟨i, s.live.now, .finished (Live.settle ending s.live).1⟩] := notes_eq hstage _ _ _
      rw [noted]
      have now : (Live.settle ending s.live).2.now = s.live.now := by cases ending <;> rfl
      have same : (Live.settle ending s.live).2.lastRequest = s.live.lastRequest := by
        cases ending <;> rfl
      refine h.quiet hstage (by simp) (Nat.le_refl 1)
        (agrees.advance (by simp) (Nat.zero_le _) ?_ (by simp)) now same
        (by simp [Stage.isHolding])
      rw [now]
      exact Nat.le_refl _
  | @fail k outcome repeats =>
      have noted : notes s ({ s with live := { s.live with
          draws := s.live.draws.tail } }.setStage i
            (.pausing k (s.live.now + t.retryDelay k s.nextDraw))) i (.reply outcome) =
              [⟨i, s.live.now, .failed k s.nextDraw⟩] := notes_eq hstage _ _ _
      rw [noted]
      exact h.quiet hstage (by simp) (Nat.le_refl 1) agrees.fail rfl rfl
        (by simp [Stage.isHolding])
  | @wake k wakeAt time =>
      have noted : notes s (s.setStage i (.queued (k + 1))) i .wake = [] :=
        notes_eq hstage s.live _ _
      rw [noted]
      have slept : max s.live.now wakeAt ≤ max s.live.now 0 := by omega
      exact h.quiet hstage (by simp) (by simp)
        (agrees.advance (by simp) (Nat.le_refl k) slept (by simp)) rfl rfl
        (by simp [Stage.isHolding])

end Paced

/-- Every run keeps to the distances. -/
theorem Reaches.paced (run : Reaches attempts t live number log s) :
    Paced t live.lastRequest log s := by
  induction run with
  | start => exact .start t live number
  | moved _ step ih =>
      obtain ⟨stage, hstage, steps⟩ := steps_of_move? step
      exact ih.step hstage steps
  | passed _ elapsed ih => exact ih.later elapsed

end Mutagenesis.Pacing
