import CourseRegistration.DemoResults

/-!
# Every Demo Run Ends

`run_demo_load_test` leaves its `with` block, whatever the interleaving and
the draws.

The demo's theorems about the end of a run are read at `DemoFinished` states,
and they say something about the code only because such states are reached.
A demo session starts once, requests each course of its sample once and
returns, so the steps it can still take are at most one per course left, plus
the return and the collection (`DemoSession.remaining`); collecting a session
that raised makes the main thread raise, once. Every step lowers that count
(`demoStep_remaining`), so every run is finite (`demoExec_length_le`). A
session that is waiting or running can always move, with draws the code can
make, and so can the main thread while it has not raised and some session is
not collected (`demoStep_nextLabel`): the executor's `with` block waits for
every thread, and no thread waits for another. So a run stops only once no
session is waiting or running and the main thread has raised or collected
every session (`demoDone_of_stuck`), and some run from any state gets there
(`exists_demoExec_stuck`). On a well-formed catalog no session raises
(`demoNoRaise_of_reachable`), so a run that stops is `DemoFinished`
(`demo_run_ends`).

## Main definitions

* `DemoSession.remaining`, `DemoSystem.remaining`: The steps left.
* `DemoSession.nextLabel`: A label that moves a session that is not done.
* `DemoDone`: The `with` block has been left.

## Theorems

* `demoAct_remaining`, `demoStep_remaining`: Every step lowers the steps left.
* `demoExec_length_le`: Every run is at most `DemoSystem.remaining` steps long.
* `demoStep_nextLabel`: A session that is not done can move.
* `demoDone_of_stuck`: A state in which no label moves is done.
* `exists_demoExec_stuck`: Every state has a run to one no label moves.
* `demoNoRaise_of_reachable`: On a well-formed catalog nothing raises.
* `demo_run_ends`: Every demo run from `__init__` ends within
  `len(courses) + 3` steps per student and one more, and on a well-formed
  catalog it ends finished.
-/

namespace CourseRegistration

section Measure

/-- The steps a demo session can still take over a catalog of `n` courses:
    one request per course of its sample not yet requested, then the return
    and the collection. Before the start the sample is not drawn yet; it has
    at most `n` courses. A session that raised takes no step of its own. -/
def DemoSession.remaining (n : Nat) (a : DemoSession) : Nat :=
  match a.pc with
  | .pending => n + 3
  | .running => a.coursesToTry.length - a.position + 2
  | .returned => 1
  | .raised _ _ | .collected => 0

/-- The steps the whole demo run can still take: the sessions', and the main
    thread's raise while it has not raised. -/
def DemoSystem.remaining (s : DemoSystem) : Nat :=
  (s.sessions.map (DemoSession.remaining s.tester.courses.length)).sum + s.mainRaised.isNone.toNat

variable {s s' : DemoSystem} {ℓ : DemoLabel} {t t' : DemoTester} {a a' : DemoSession}

/-- Every step of a demo session lowers the steps it has left. -/
theorem demoAct_remaining (h : demoAct t a ℓ = some (t', a')) :
    a'.remaining t.courses.length < a.remaining t.courses.length := by
  cases ℓ
  case start target sample =>
    obtain ⟨hpc, -, -, -, hs, rfl⟩ := demoAct_start h
    -- The sample has at most the catalog's courses.
    have hlen : (sample.filterMap (t.courses[·]?)).length ≤ t.courses.length :=
      (List.length_filterMap_le _ _).trans (hs.2.2.trans_le (min_le_right _ _))
    simp only [DemoSession.remaining, hpc]
    omega
  case request =>
    obtain ⟨c, hpc, hc, hreq⟩ := demoAct_request h
    -- A course is left, so the position is below the length.
    have hlt := (List.getElem?_eq_some_iff.mp hc).1
    rcases (demoRequest_spec hreq).2 with ⟨_, -, rfl⟩ | ⟨-, rfl⟩ <;>
      simp only [DemoSession.remaining, hpc] <;> omega
  case finish =>
    obtain ⟨hpc, -, -, rfl⟩ := demoAct_finish h; simp only [DemoSession.remaining, hpc]; omega
  case collect =>
    obtain ⟨hpc, -, rfl⟩ := demoAct_collect h; simp only [DemoSession.remaining, hpc]; omega

/-- Every step of the demo run lowers the steps the run has left. -/
theorem demoStep_remaining (h : demoStep s ℓ = some s') : s'.remaining < s.remaining := by
  rcases demoStep_cases h with ⟨ht, hss, hnone, _, _, _, _, _, hsome⟩ |
    ⟨a, hget, t, a', hact, ht, hss, hm⟩
  · -- The main thread raises: only its own step is spent.
    simp only [DemoSystem.remaining, ht, hss, hnone, hsome, Option.isNone_none,
      Option.isNone_some, Bool.toNat_true, Bool.toNat_false]
    omega
  · have hset := sum_map_set_add s.sessions (DemoSession.remaining s.tester.courses.length) a' hget
    have := demoAct_remaining hact
    rw [DemoSystem.remaining, DemoSystem.remaining, ht, hss, hm, demoAct_courses hact]
    omega

/-- Every demo run from a state is at most as long as the steps it has left,
    whatever the interleaving and the draws. -/
theorem demoExec_length_le {ls : List DemoLabel} :
    ∀ {s s'}, demoExec s ls = some s' → ls.length + s'.remaining ≤ s.remaining := by
  induction ls with
  | nil => intro s s' h; cases h; simp
  | cons ℓ ls ih =>
      intro s s' h
      obtain ⟨s₁, h₁, h₂⟩ := Option.bind_eq_some.mp h
      have := ih h₂
      have := demoStep_remaining h₁
      simp only [List.length_cons]
      omega

/-- At `__init__` every session is still to start. -/
theorem demoRemaining_init (courses : List Course) (students : List Student) :
    (DemoSystem.init courses students).remaining = students.length * (courses.length + 3) + 1 := by
  simp [DemoSystem.remaining, DemoSystem.init, DemoTester.init, DemoSession.init,
    DemoSession.remaining, Function.comp_def, List.sum_const_nat]

end Measure

section Moves

/-- A label that moves a demo session that is not done, with draws the code
    can make: the smallest target and the first catalog positions, and any
    draw for a request. -/
def DemoSession.nextLabel (n i : Nat) (a : DemoSession) : DemoLabel :=
  match a.pc, a.coursesToTry[a.position]? with
  | .pending, _ => .start i minCoursesPerStudent (List.range (min minCoursesPerStudent n))
  | .running, some _ => .request i 0
  | .running, none => .finish i
  | _, _ => .collect i

theorem DemoSession.nextLabel_thread (n i : Nat) (a : DemoSession) :
    (a.nextLabel n i).thread = i := by
  unfold DemoSession.nextLabel; split <;> rfl

variable {s : DemoSystem} {a : DemoSession}

/-- A demo session that is waiting or running always has a step, and so does
    one that has returned or raised while the main thread has not raised. -/
theorem demoStep_nextLabel {i : Nat} (hget : s.sessions[i]? = some a)
    (h : a.pc = .pending ∨ a.pc = .running ∨ (s.mainRaised = none ∧ a.pc ≠ .collected)) :
    ∃ s', demoStep s (a.nextLabel s.tester.courses.length i) = some s' := by
  unfold demoStep
  rw [DemoSession.nextLabel_thread, hget]
  cases hpc : a.pc
  case pending =>
    have hv : minCoursesPerStudent ≤ minCoursesPerStudent ∧
        minCoursesPerStudent ≤ maxCoursesPerStudent ∧
        IsSample s.tester.courses (min minCoursesPerStudent s.tester.courses.length)
          (List.range (min minCoursesPerStudent s.tester.courses.length)) :=
      ⟨le_rfl, by decide, List.nodup_range _,
        fun k hk => (List.mem_range.mp hk).trans_le (min_le_right _ _), List.length_range _⟩
    simp only [DemoSession.nextLabel, hpc, demoAct, if_pos hv]
    exact ⟨_, rfl⟩
  case running =>
    cases hc : a.coursesToTry[a.position]? <;> simp only [DemoSession.nextLabel, hpc, hc, demoAct] <;>
      exact ⟨_, rfl⟩
  case collected => simp [hpc] at h
  all_goals
    have hm := (h.resolve_left (by simp [hpc])).resolve_left (by simp [hpc])
    simp only [DemoSession.nextLabel, hpc, hm.1, demoAct]
    exact ⟨_, rfl⟩

/-- The `with` block of `run_demo_load_test` has been left: no session is
    waiting or running, and unless the main thread has raised, it has
    collected every session. -/
def DemoDone (s : DemoSystem) : Prop :=
  ∀ a ∈ s.sessions, a.pc ≠ .pending ∧ a.pc ≠ .running ∧ (s.mainRaised = none → a.pc = .collected)

/-- A demo state that is not done has a step. -/
theorem exists_demoStep_of_not_done (h : ¬DemoDone s) : ∃ ℓ s', demoStep s ℓ = some s' := by
  obtain ⟨a, hna⟩ := not_forall.mp h
  obtain ⟨ha, hna⟩ := Classical.not_imp.mp hna
  obtain ⟨i, hget⟩ := List.mem_iff_getElem?.mp ha
  obtain ⟨s', hs⟩ := demoStep_nextLabel hget (by
    by_contra hc
    push_neg at hc
    exact hna hc)
  exact ⟨_, s', hs⟩

/-- A demo run stops only once it is done. -/
theorem demoDone_of_stuck (h : ∀ ℓ, demoStep s ℓ = none) : DemoDone s := by
  by_contra hdone
  obtain ⟨ℓ, s', hs⟩ := exists_demoStep_of_not_done hdone
  rw [h ℓ] at hs
  cases hs

/-- From every demo state some run reaches a state that no label moves. -/
theorem exists_demoExec_stuck (s : DemoSystem) :
    ∃ ls s', demoExec s ls = some s' ∧ ∀ ℓ, demoStep s' ℓ = none := by
  suffices ∀ n s, DemoSystem.remaining s = n →
      ∃ ls s', demoExec s ls = some s' ∧ ∀ ℓ, demoStep s' ℓ = none from this _ s rfl
  intro n
  induction n using Nat.strong_induction_on with
  | _ n ih =>
    intro s hn
    by_cases hstuck : ∀ ℓ, demoStep s ℓ = none
    · exact ⟨[], s, rfl, hstuck⟩
    obtain ⟨ℓ, hℓ⟩ := not_forall.mp hstuck
    obtain ⟨s₁, hs⟩ := Option.ne_none_iff_exists'.mp hℓ
    obtain ⟨ls, s', hexec, hend⟩ := ih _ (hn ▸ demoStep_remaining hs) s₁ rfl
    exact ⟨ℓ :: ls, s', by simp only [demoExec, hs, Option.some_bind, hexec], hend⟩

end Moves

section NoRaise

variable {t t' : DemoTester} {a a' : DemoSession} {ℓ : DemoLabel}

/-- On courses that all carry a `course_code`, a step of a session that has
    not raised does not raise. -/
theorem demoAct_not_raised (hcode : ∀ c ∈ a.coursesToTry, c.courseCode.isSome)
    (hpc : ∀ err lost, a.pc ≠ .raised err lost) (h : demoAct t a ℓ = some (t', a')) :
    ∀ err lost, a'.pc ≠ .raised err lost := by
  cases ℓ
  case start => obtain ⟨-, -, -, -, -, rfl⟩ := demoAct_start h; nofun
  case request =>
    obtain ⟨c, -, hc, hreq⟩ := demoAct_request h
    rcases (demoRequest_spec hreq).2 with ⟨_, -, rfl⟩ | ⟨hnone, -⟩
    · exact hpc
    · have := hcode c (List.getElem?_mem hc)
      rw [hnone] at this
      cases this
  case finish => obtain ⟨-, -, -, rfl⟩ := demoAct_finish h; nofun
  case collect => obtain ⟨-, -, rfl⟩ := demoAct_collect h; nofun

variable {courses : List Course} {students : List Student} {s : DemoSystem}

/-- On a well-formed catalog no demo session ever raises, so neither does the
    main thread. -/
theorem demoNoRaise_of_reachable (hwf : WellFormed courses)
    (hr : DemoReachable (DemoSystem.init courses students) s) :
    s.mainRaised = none ∧ ∀ a ∈ s.sessions, ∀ err lost, a.pc ≠ .raised err lost := by
  refine DemoReachable.induct
    (fun s => s.mainRaised = none ∧ ∀ a ∈ s.sessions, ∀ err lost, a.pc ≠ .raised err lost)
    ⟨rfl, fun a ha => ?_⟩ (fun s ℓ s' hr ⟨hm, hinv⟩ hs => ?_) hr
  · obtain ⟨st, -, rfl⟩ := List.mem_map.mp ha
    nofun
  rcases demoStep_cases hs with ⟨-, -, -, a, err, lost, hget, hpc, -⟩ |
    ⟨a, hget, t, a', hact, -, hss, hm'⟩
  · -- The main thread raises only what a session raised.
    exact absurd hpc (hinv a (List.getElem?_mem hget) err lost)
  refine ⟨hm' ▸ hm, ?_⟩
  rw [hss]
  intro b hb
  rcases List.mem_or_eq_of_mem_set hb with hb | rfl
  · exact hinv b hb
  · -- The session's sample is drawn from the catalog, whose courses all carry a code.
    have ha := List.getElem?_mem hget
    exact demoAct_not_raised (fun c hc => hwf.code_isSome c
      ((demoSessionInv_of_reachable hwf.nodup_ids hr a ha).sampled c hc)) (hinv a ha) hact

/-- `run_demo_load_test` leaves its `with` block on every catalog and roster:
    no run from `__init__` takes more than `len(courses) + 3` steps per
    student and one more, a run that no label extends is done, and on a
    well-formed catalog finished, and some run gets there. -/
theorem demo_run_ends (courses : List Course) (students : List Student) :
    (∀ ls s', demoExec (DemoSystem.init courses students) ls = some s' →
      ls.length ≤ students.length * (courses.length + 3) + 1) ∧
    (∀ ls s', demoExec (DemoSystem.init courses students) ls = some s' →
      (∀ ℓ, demoStep s' ℓ = none) → DemoDone s' ∧ (WellFormed courses → DemoFinished s')) ∧
    ∃ ls s', demoExec (DemoSystem.init courses students) ls = some s' ∧
      ∀ ℓ, demoStep s' ℓ = none := by
  refine ⟨fun ls s' h => ?_, fun ls s' h hstuck => ⟨demoDone_of_stuck hstuck, fun hwf => ?_⟩,
    exists_demoExec_stuck _⟩
  · rw [← demoRemaining_init courses students]
    exact (Nat.le_add_right _ _).trans (demoExec_length_le h)
  · -- Nothing raised, so the done state has collected every session.
    have hm := (demoNoRaise_of_reachable hwf (demoReachable_of_exec .refl h)).1
    exact ⟨hm, fun a ha => (demoDone_of_stuck hstuck a ha).2.2 hm⟩

end NoRaise

end CourseRegistration
