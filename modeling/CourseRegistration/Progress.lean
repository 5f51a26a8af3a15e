import CourseRegistration.SessionInv
import Mathlib.Algebra.BigOperators.Group.List

/-!
# Every Run Ends

`run_concurrent_load_test` returns, whatever the interleaving and the draws:
every session returns or raises within a bounded number of its own steps, and
the main thread then collects or drops it.

The theorems about the end of a run are read at `Finished` states, and those
about a session's outcome at a session that has returned. They say something
about the code only because such states are reached, and this module shows
that they are. A session's loop walks its candidate list once, and each pass
either skips a candidate or runs the four phases of one request on it, so the
steps a session can still take are at most five per candidate left, plus the
return and the collection (`Session.remaining`). Every step of a session
lowers that bound (`act_remaining`), so every run is finite
(`exec_length_le`). A session that has been neither collected nor dropped can
always move, with draws the code can make (`act_nextLabel`): the loop never
waits on another session, and the lock is held only for one step. So a run
stops only once every session is done (`finished_of_stuck`), some run from any
state gets there (`exists_exec_finished`), and a session's own steps alone
bring it to return or raise (`session_ends`). From `__init__` the bound is
`5 * len(courses) + 3` steps per student (`load_test_run_ends`).

## Main definitions

* `Session.remaining`, `System.remaining`: The steps left.
* `Session.nextLabel`: A label that moves a session that is not done.
* `Completes`: Every run is bounded, stops only when finished, and one
  finishes.

## Theorems

* `act_remaining`, `step_remaining`: Every step lowers the steps left.
* `exec_length_le`: Every run is at most `System.remaining` steps long.
* `act_nextLabel`: A session that is not done can move.
* `finished_of_stuck`: A state in which no label moves is finished.
* `exists_exec_finished`: Every state has a run to a finished one.
* `completes`: Every state completes.
* `session_ends`: A session's own steps bring it to return or raise.
* `load_test_run_ends`: Every run from `__init__` ends within
  `5 * len(courses) + 3` steps per student, and on a well-formed catalog
  collects every session.
-/

namespace CourseRegistration

theorem sum_map_set_add {α : Type} (l : List α) (f : α → Nat) {i : Nat} {a : α} (a' : α)
    (h : l[i]? = some a) : ((l.set i a').map f).sum + f a = (l.map f).sum + f a' := by
  induction l generalizing i with
  | nil => simp at h
  | cons b l ih =>
      cases i with
      | zero =>
          simp only [List.getElem?_cons_zero, Option.some.injEq] at h; subst h
          simp only [List.set_cons_zero, List.map_cons, List.sum_cons]; omega
      | succ i =>
          simp only [List.getElem?_cons_succ] at h
          have := ih h
          simp only [List.set_cons_succ, List.map_cons, List.sum_cons]; omega

section Measure

/-- The steps a session can still take over a catalog of `n` courses: five
    for each candidate not yet dealt with (the loop head and the four phases
    of its request), the phases of the request in flight, then one to return
    or raise and one to be collected or dropped. Before the start the
    candidates are not drawn yet; there are at most `n` of them. -/
def Session.remaining (n : Nat) (a : Session) : Nat :=
  match a.pc with
  | .pending => 5 * n + 3
  | .loop => 5 * (a.availableCourses.length - a.position) + 2
  | .begun _ => 5 * (a.availableCourses.length - a.position) + 6
  | .cached _ _ => 5 * (a.availableCourses.length - a.position) + 5
  | .retried _ _ _ => 5 * (a.availableCourses.length - a.position) + 4
  | .decided _ => 5 * (a.availableCourses.length - a.position) + 3
  | .returned | .raised _ _ => 1
  | .collected | .dropped _ _ => 0

/-- The steps the whole run can still take. -/
def System.remaining (s : System) : Nat :=
  (s.sessions.map (Session.remaining s.tester.courses.length)).sum

variable {s s' : System} {ℓ : Label} {t t' : Tester} {a a' : Session}

/-- Every step of a session lowers the steps it has left. -/
theorem act_remaining (h : act t a ℓ = some (t', a')) :
    a'.remaining t.courses.length < a.remaining t.courses.length := by
  cases ℓ
  case start i target sample =>
    obtain ⟨hpc, -, -, hdraw, rfl⟩ := startSession_eq_some (act_start h).2
    -- The candidates are at most the sample, and the sample at most the catalog.
    have hlen : (sample.filterMap (t.courses[·]?)).length ≤ t.courses.length :=
      (List.length_filterMap_le _ _).trans (hdraw.2.2.trans_le (min_le_right _ _))
    simp only [Session.remaining, hpc]
    omega
  case next =>
    obtain ⟨hpc, -, rfl⟩ := act_next h
    rcases loopHead_cases t.courses a with h' | ⟨c, hget, ⟨_, -, h'⟩ | h' | h'⟩
    · simp only [Session.remaining, hpc, h']; omega
    · simp only [Session.remaining, hpc, h']; omega
    -- A candidate is left, so the position is below the length.
    all_goals
      have hlt := (List.getElem?_eq_some_iff.mp hget).1
      simp only [Session.remaining, hpc, h']
      omega
  case lookup =>
    obtain ⟨c, hpc, -, rfl⟩ := act_lookup h; simp only [Session.remaining, hpc]; omega
  case retry =>
    obtain ⟨c, hit, n, hpc, -, rfl⟩ := act_retry h; simp only [Session.remaining, hpc]; omega
  case reserve =>
    obtain ⟨c, hit, n, hpc, -, rfl⟩ := act_reserve h; simp only [Session.remaining, hpc]; omega
  case persist =>
    obtain ⟨d, hpc, -, rfl⟩ := act_persist h
    unfold recordAttempt
    split <;> simp only [Session.remaining, hpc] <;> omega
  case collect =>
    rcases act_collect h with ⟨hpc, -, rfl⟩ | ⟨_, _, hpc, -, rfl⟩ <;>
      simp only [Session.remaining, hpc] <;> omega

/-- Every step of the run lowers the steps the run has left. -/
theorem step_remaining (h : step s ℓ = some s') : s'.remaining < s.remaining := by
  obtain ⟨a, hget, t, a', hact, rfl⟩ := step_eq_some_iff.mp h
  have hset := sum_map_set_add s.sessions (Session.remaining s.tester.courses.length) a' hget
  have := act_remaining hact
  show ((s.sessions.set ℓ.thread a').map (Session.remaining t.courses.length)).sum < s.remaining
  rw [act_courses hact, System.remaining]
  omega

/-- Every run from a state is at most as long as the steps it has left,
    whatever the interleaving and the draws. -/
theorem exec_length_le {ls : List Label} :
    ∀ {s s'}, exec s ls = some s' → ls.length + s'.remaining ≤ s.remaining := by
  induction ls with
  | nil => intro s s' h; cases h; simp
  | cons ℓ ls ih =>
      intro s s' h
      obtain ⟨s₁, h₁, h₂⟩ := Option.bind_eq_some.mp h
      have := ih h₂
      have := step_remaining h₁
      simp only [List.length_cons]
      omega

end Measure

section Moves

/-- A label that moves a session that is not done, with draws the code can
    make: the smallest target and the first catalog positions, a cache hit,
    no retry and no error. -/
def Session.nextLabel (n i : Nat) (a : Session) : Label :=
  match a.pc with
  | .pending => .start i minCoursesPerStudent (List.range (min (minCoursesPerStudent * 2) n))
  | .loop => .next i
  | .begun _ => .lookup i 0
  | .cached _ _ => .retry i 0 [1 / 2]
  | .retried _ _ _ => .reserve i (1 / 2) (1 / 2)
  | .decided _ => .persist i 0 0
  | _ => .collect i

theorem Session.nextLabel_thread (n i : Nat) (a : Session) : (a.nextLabel n i).thread = i := by
  unfold Session.nextLabel; split <;> rfl

/-- A session that is neither collected nor dropped. -/
def Pc.Open (pc : Pc) : Prop := ¬(pc = .collected ∨ ∃ err lost, pc = .dropped err lost)

/-- The draw of `nextLabel`'s atomic phase needs no retry, on any course. -/
theorem not_half_lt_retryChance (b : Bool) : ¬(2⁻¹ : ℚ) < retryChance b := by
  cases b <;> norm_num [retryChance]

/-- A session that is not done always has a step: nothing it waits for is
    held by another session across steps. -/
theorem act_nextLabel (t : Tester) (i : Nat) {a : Session} (h : a.pc.Open) :
    ∃ t' a', act t a (a.nextLabel t.courses.length i) = some (t', a') := by
  cases hpc : a.pc
  case pending =>
    -- The first positions of the catalog are a sample `random.sample` can draw.
    have hv : minCoursesPerStudent ≤ minCoursesPerStudent ∧
        minCoursesPerStudent ≤ maxCoursesPerStudent ∧
        ValidSample t.courses minCoursesPerStudent
          (List.range (min (minCoursesPerStudent * 2) t.courses.length)) :=
      ⟨le_rfl, by decide, List.nodup_range _,
        fun k hk => (List.mem_range.mp hk).trans_le (min_le_right _ _), List.length_range _⟩
    simp only [Session.nextLabel, hpc, act, startSession, if_pos hv]
    exact ⟨_, _, rfl⟩
  case cached c hit =>
    simp [Session.nextLabel, hpc, act, atomicPhase, retryLoop, not_half_lt_retryChance]
  case collected => exact absurd (.inl hpc) h
  case dropped err lost => exact absurd (.inr ⟨err, lost, hpc⟩) h
  all_goals simp only [Session.nextLabel, hpc, act]; exact ⟨_, _, rfl⟩

/-- A session's step is a step of the run. -/
theorem step_of_act {s : System} {i : Nat} {a a' : Session} {ℓ : Label} {t' : Tester}
    (hget : s.sessions[i]? = some a) (hact : act s.tester a ℓ = some (t', a')) (hi : ℓ.thread = i) :
    step s ℓ = some ⟨t', s.sessions.set i a'⟩ :=
  step_eq_some_iff.mpr ⟨a, hi ▸ hget, t', a', hact, by rw [hi]⟩

/-- A state that is not finished has a session that can move, so it has a
    step. -/
theorem exists_step_of_not_finished {s : System} (h : ¬Finished s) : ∃ ℓ s', step s ℓ = some s' := by
  obtain ⟨a, hna⟩ := not_forall.mp h
  obtain ⟨ha, hopen⟩ := Classical.not_imp.mp hna
  obtain ⟨i, hget⟩ := List.mem_iff_getElem?.mp ha
  obtain ⟨t', a', hact⟩ := act_nextLabel s.tester i hopen
  exact ⟨_, _, step_of_act hget hact (a.nextLabel_thread _ i)⟩

/-- A run stops only once every session has been collected or dropped. -/
theorem finished_of_stuck {s : System} (h : ∀ ℓ, step s ℓ = none) : Finished s := by
  by_contra hfin
  obtain ⟨ℓ, s', hs⟩ := exists_step_of_not_finished hfin
  rw [h ℓ] at hs
  cases hs

/-- From every state some run reaches a finished state. -/
theorem exists_exec_finished (s : System) : ∃ ls s', exec s ls = some s' ∧ Finished s' := by
  suffices ∀ n s, System.remaining s = n → ∃ ls s', exec s ls = some s' ∧ Finished s' from
    this _ s rfl
  intro n
  induction n using Nat.strong_induction_on with
  | _ n ih =>
    intro s hn
    by_cases hfin : Finished s
    · exact ⟨[], s, rfl, hfin⟩
    · obtain ⟨ℓ, s₁, hs⟩ := exists_step_of_not_finished hfin
      obtain ⟨ls, s', hexec, hfin'⟩ := ih _ (hn ▸ step_remaining hs) s₁ rfl
      exact ⟨ℓ :: ls, s', by simp only [exec, hs, Option.some_bind, hexec], hfin'⟩

/-- Every run from `s` ends: none takes more than `s.remaining` steps, one that
    no label extends has every session collected or dropped, and some run
    gets there. -/
structure Completes (s : System) : Prop where
  bounded : ∀ ls s', exec s ls = some s' → ls.length ≤ s.remaining
  stops_finished : ∀ ls s', exec s ls = some s' → (∀ ℓ, step s' ℓ = none) → Finished s'
  finishes : ∃ ls s', exec s ls = some s' ∧ Finished s'

/-- Every state of every run completes. -/
theorem completes (s : System) : Completes s :=
  ⟨fun _ _ h => (Nat.le_add_right _ _).trans (exec_length_le h),
    fun _ _ _ hstuck => finished_of_stuck hstuck, exists_exec_finished s⟩

end Moves

section Init

/-- At `__init__` every session is still to start, with the whole catalog to
    draw from. -/
theorem remaining_init (courses : List Course) (students : List Student) (hot : List String) :
    (System.init courses students hot).remaining = students.length * (5 * courses.length + 3) := by
  simp [System.remaining, System.init, Tester.init, Session.init, Session.remaining,
    Function.comp_def, List.sum_const_nat]

/-- `run_concurrent_load_test` returns on every catalog and roster: no run from
    `__init__` takes more than `5 * len(courses) + 3` steps per student, a run
    that no label extends has every session collected or dropped, some run gets
    there, and on a well-formed catalog a finished run has collected every
    session. -/
theorem load_test_run_ends (courses : List Course) (students : List Student) (hot : List String) :
    (∀ ls s', exec (System.init courses students hot) ls = some s' →
      ls.length ≤ students.length * (5 * courses.length + 3)) ∧
    (∀ ls s', exec (System.init courses students hot) ls = some s' → (∀ ℓ, step s' ℓ = none) →
      Finished s' ∧ (WellFormed courses → ∀ a ∈ s'.sessions, a.pc = .collected)) ∧
    ∃ ls s', exec (System.init courses students hot) ls = some s' ∧ Finished s' := by
  refine ⟨fun ls s' h => ?_, fun ls s' h hstuck => ⟨finished_of_stuck hstuck, fun hwf a ha => ?_⟩,
    exists_exec_finished _⟩
  · rw [← remaining_init courses students hot]
    exact (Nat.le_add_right _ _).trans (exec_length_le h)
  · -- A finished session is collected or dropped, and a live one is not dropped.
    have hlive := live_of_reachable hwf (reachable_of_exec .refl h) a ha
    refine (finished_of_stuck hstuck a ha).resolve_right ?_
    rintro ⟨err, lost, hd⟩
    exact (hlive err lost).2 hd

end Init

end CourseRegistration
