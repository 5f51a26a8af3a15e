import CourseRegistration.Session

/-!
# The Concurrent Load Test

`run_concurrent_load_test` as a transition system over the tester and all its
sessions.

The executor is handed one session per student and runs them on its worker
threads; the main thread meanwhile takes finished sessions from
`as_completed` and appends their records to `registrations`, or, when a
session raised, prints the error and drops it. A state of the run is the
tester with the list of sessions, and a step is one session moving from one
program counter to the next, or the main thread collecting one finished
session. A `Label` names the session that moves and carries the draws and
measured latencies that step makes, so a sequence of labels is an
interleaving together with an outcome of every random draw. Labels that no
run could produce, a draw `random.sample` cannot return or a session asked to
move from the wrong program counter, make `step` return `none`.

The pool's bound on how many sessions run at once is not modelled. Every
interleaving of the sessions is a run here, a superset of those a pool of
`max_workers` threads admits, so a theorem over every run covers the code.

`Reachable.induct` is the one induction every invariant of the run goes
through: an invariant that holds at the start and survives every step holds
at every reachable state.

## Main definitions

* `Label`: One step of one session, or of the main thread.
* `act`: What a label does to the tester and the session it names.
* `System`, `step`: The run's state and its step function.
* `System.init`: The state right after every session is submitted.
* `Reachable`: The states some run reaches.
* `exec`: Running a sequence of labels.
* `Finished`: Every session has been collected or dropped.

## Theorems

* `step_eq_some_iff`: A step is one `act` on the session it names.
* `reachable_of_exec`: A label sequence that runs reaches a reachable state.
* `Reachable.induct`: Invariants are proved by one step lemma.
* `act_readOnly`, `act_student`: The catalog, the roster and a session's
  student never change.
* `act_registrations`: Only a collection appends to the records.
* `exec_demoRun`, `exec_demoDropRun`: Where the two runs of one student end.
-/

namespace CourseRegistration

/-- One step of a run: the session (by its position in the roster) and the
    draws and latencies of that step. -/
inductive Label where
  | start (i target : Nat) (sample : List Nat)
  | next (i : Nat)
  | lookup (i : Nat) (draw : ℚ)
  | retry (i : Nat) (atomicMs : ℚ) (draws : List ℚ)
  | reserve (i : Nat) (errorChance waitlistDraw : ℚ)
  | persist (i : Nat) (dbMs responseMs : ℚ)
  | collect (i : Nat)

/-- The session a label moves. -/
def Label.thread : Label → Nat
  | .start i _ _ | .next i | .lookup i _ | .retry i _ _ | .reserve i _ _ | .persist i _ _
  | .collect i => i

/-- What a label does to the tester and to the session it names, if the
    session stands where the label needs it to. -/
def act (t : Tester) (a : Session) : Label → Option (Tester × Session)
  | .start _ target sample => (startSession t.courses a target sample).map (t, ·)
  | .next _ =>
      match a.pc with
      | .loop => some (t, loopHead t.courses a)
      | _ => none
  | .lookup _ draw =>
      match a.pc with
      | .begun c => some (countCacheLookup t (cacheHitOf draw), { a with pc := .cached c (cacheHitOf draw) })
      | _ => none
  | .retry _ atomicMs draws =>
      match a.pc with
      | .cached c hit =>
          (atomicPhase t c atomicMs draws).map fun p => (p.1, { a with pc := .retried c hit p.2 })
      | _ => none
  | .reserve _ errorChance waitlistDraw =>
      match a.pc with
      | .retried c hit n =>
          let p := reserveSlot t c errorChance waitlistDraw
          some (p.1, { a with pc := .decided ⟨c, hit, n, p.2⟩ })
      | _ => none
  | .persist _ dbMs responseMs =>
      match a.pc with
      | .decided d =>
          let p := persistPhase t a.student d.course d.cacheHit d.retryCount d.status dbMs responseMs
          some (p.1, recordAttempt a d p.2)
      | _ => none
  | .collect _ =>
      match a.pc with
      | .returned =>
          some ({ t with registrations := t.registrations ++ a.studentRegistrations },
            { a with pc := .collected })
      | .raised err lost => some (t, { a with pc := .dropped err lost })
      | _ => none

/-- The state of a run: the tester, and one session per roster entry. -/
structure System where
  tester : Tester
  sessions : List Session

/-- One step of the run. -/
def step (s : System) (ℓ : Label) : Option System :=
  match s.sessions[ℓ.thread]? with
  | none => none
  | some a => (act s.tester a ℓ).map fun p => ⟨p.1, s.sessions.set ℓ.thread p.2⟩

/-- The tester once `__init__` has run and before any session has. -/
def Tester.init (courses : List Course) (students : List Student) (hotSections : List String) :
    Tester where
  courses := courses
  students := students
  hotSections := hotSections
  peakConcurrentUsers := students.length
  courseSlots := initSlots courses
  successfulRegistrations := 0
  failedRegistrations := 0
  waitlistedRegistrations := 0
  requestTimes := []
  atomicOpTimes := []
  dbTxnTimes := []
  cacheHitCount := 0
  cacheMissCount := 0
  error5xxCount := 0
  error4xxCount := 0
  retryCount := 0
  successfulRetries := 0
  hotSectionOps := []
  registrations := []
  lockOrder := []
  retryLog := []

/-- The run right after every session is submitted. `hotSections` is the draw
    `__init__` makes when it ranks the courses by a random key. -/
def System.init (courses : List Course) (students : List Student) (hotSections : List String) :
    System :=
  ⟨Tester.init courses students hotSections, students.map Session.init⟩

/-- The states some run from `s₀` reaches. -/
inductive Reachable (s₀ : System) : System → Prop
  | refl : Reachable s₀ s₀
  | tail {s s' : System} (ℓ : Label) : Reachable s₀ s → step s ℓ = some s' → Reachable s₀ s'

/-- Run a sequence of labels, one step each. -/
def exec (s : System) : List Label → Option System
  | [] => some s
  | ℓ :: ls => (step s ℓ).bind fun s' => exec s' ls

/-- The end of `run_concurrent_load_test`'s executor block: `as_completed` has
    yielded every session. -/
def Finished (s : System) : Prop :=
  ∀ a ∈ s.sessions, a.pc = .collected ∨ ∃ err lost, a.pc = .dropped err lost

section Steps

variable {s s' : System} {ℓ : Label} {t t' : Tester} {a a' : Session} {i : Nat}

theorem step_eq_some_iff :
    step s ℓ = some s' ↔ ∃ a, s.sessions[ℓ.thread]? = some a ∧ ∃ t a',
      act s.tester a ℓ = some (t, a') ∧ s' = ⟨t, s.sessions.set ℓ.thread a'⟩ := by
  unfold step
  rcases s.sessions[ℓ.thread]? with _ | a
  · simp
  · simp only [Option.map_eq_some', Option.some.injEq, exists_eq_left', Prod.exists]
    exact exists_congr fun t => exists_congr fun a' => ⟨fun ⟨h, e⟩ => ⟨h, e.symm⟩,
      fun ⟨h, e⟩ => ⟨h, e.symm⟩⟩

/-- Invariants of the run are proved by showing they hold at the start and that
    each step keeps them; the step lemma may use that its state is reachable,
    which is how one invariant leans on another. -/
theorem Reachable.induct {s₀ : System} (P : System → Prop) (h0 : P s₀)
    (hs : ∀ s ℓ s', Reachable s₀ s → P s → step s ℓ = some s' → P s') :
    ∀ {s}, Reachable s₀ s → P s := by
  intro s h
  induction h with
  | refl => exact h0
  | tail ℓ hr hst ih => exact hs _ ℓ _ hr ih hst

/-- A sequence of labels that runs to the end reaches a reachable state. -/
theorem reachable_of_exec {s₀ s : System} {ls : List Label} (hr : Reachable s₀ s) :
    ∀ {s'}, exec s ls = some s' → Reachable s₀ s' := by
  induction ls generalizing s with
  | nil => intro s' h; cases h; exact hr
  | cons ℓ ls ih =>
      intro s' h
      obtain ⟨s₁, h₁, h₂⟩ := Option.bind_eq_some.mp h
      exact ih (hr.tail ℓ h₁) h₂

/-- Running two label sequences one after the other. -/
theorem exec_append (s : System) (l₁ l₂ : List Label) :
    exec s (l₁ ++ l₂) = (exec s l₁).bind fun s' => exec s' l₂ := by
  induction l₁ generalizing s with
  | nil => rfl
  | cons ℓ l₁ ih => rw [List.cons_append]; simp only [exec, ih, Option.bind_assoc]

/-! The labels one by one: what each step can do. -/

theorem act_start {target : Nat} {sample : List Nat}
    (h : act t a (.start i target sample) = some (t', a')) :
    t' = t ∧ startSession t.courses a target sample = some a' := by
  obtain ⟨b, hb, h⟩ := Option.map_eq_some'.mp h
  cases h
  exact ⟨rfl, hb⟩

theorem act_next (h : act t a (.next i) = some (t', a')) :
    a.pc = .loop ∧ t' = t ∧ a' = loopHead t.courses a := by
  cases hpc : a.pc <;> simp only [act, hpc, reduceCtorEq, Option.some.injEq, Prod.mk.injEq] at h
  exact ⟨rfl, h.1.symm, h.2.symm⟩

theorem act_lookup {draw : ℚ} (h : act t a (.lookup i draw) = some (t', a')) :
    ∃ c, a.pc = .begun c ∧ t' = countCacheLookup t (cacheHitOf draw) ∧
      a' = { a with pc := .cached c (cacheHitOf draw) } := by
  cases hpc : a.pc <;> simp only [act, hpc, reduceCtorEq, Option.some.injEq, Prod.mk.injEq] at h
  exact ⟨_, rfl, h.1.symm, h.2.symm⟩

theorem act_retry {ms : ℚ} {draws : List ℚ} (h : act t a (.retry i ms draws) = some (t', a')) :
    ∃ c hit n, a.pc = .cached c hit ∧ atomicPhase t c ms draws = some (t', n) ∧
      a' = { a with pc := .retried c hit n } := by
  cases hpc : a.pc <;> simp only [act, hpc, reduceCtorEq, Option.map_eq_some'] at h
  obtain ⟨⟨t'', n⟩, hp, he⟩ := h
  cases he
  exact ⟨_, _, n, rfl, hp, rfl⟩

theorem act_reserve {e w : ℚ} (h : act t a (.reserve i e w) = some (t', a')) :
    ∃ c hit n, a.pc = .retried c hit n ∧ t' = (reserveSlot t c e w).1 ∧
      a' = { a with pc := .decided ⟨c, hit, n, (reserveSlot t c e w).2⟩ } := by
  cases hpc : a.pc <;> simp only [act, hpc, reduceCtorEq, Option.some.injEq, Prod.mk.injEq] at h
  exact ⟨_, _, _, rfl, h.1.symm, h.2.symm⟩

theorem act_persist {db resp : ℚ} (h : act t a (.persist i db resp) = some (t', a')) :
    ∃ d, a.pc = .decided d ∧
      t' = (persistPhase t a.student d.course d.cacheHit d.retryCount d.status db resp).1 ∧
      a' = recordAttempt a d
        (persistPhase t a.student d.course d.cacheHit d.retryCount d.status db resp).2 := by
  cases hpc : a.pc <;> simp only [act, hpc, reduceCtorEq, Option.some.injEq, Prod.mk.injEq] at h
  exact ⟨_, rfl, h.1.symm, h.2.symm⟩

theorem act_collect (h : act t a (.collect i) = some (t', a')) :
    (a.pc = .returned ∧ t' = { t with registrations := t.registrations ++ a.studentRegistrations } ∧
      a' = { a with pc := .collected }) ∨
    (∃ err lost, a.pc = .raised err lost ∧ t' = t ∧ a' = { a with pc := .dropped err lost }) := by
  cases hpc : a.pc <;> simp only [act, hpc, reduceCtorEq, Option.some.injEq, Prod.mk.injEq] at h
  · exact .inl ⟨rfl, h.1.symm, h.2.symm⟩
  · exact .inr ⟨_, _, rfl, h.1.symm, h.2.symm⟩

/-- The unlocked phase appends the latency, and the retry history entry of a
    request that retried `n` times, and bumps the two retry counters. -/
theorem atomicPhase_spec {c : Course} {ms : ℚ} {draws : List ℚ} {n : Nat}
    (h : atomicPhase t c ms draws = some (t', n)) :
    ∃ needsRetry, t' = { t with
      atomicOpTimes := t.atomicOpTimes ++ [ms]
      hotSectionOps :=
        if decide (c.courseId ∈ t.hotSections) then t.hotSectionOps ++ [ms] else t.hotSectionOps
      retryCount := t.retryCount + n
      successfulRetries :=
        if 0 < n ∧ needsRetry = false then t.successfulRetries + 1 else t.successfulRetries
      retryLog := t.retryLog ++ [⟨n, !needsRetry⟩] } := by
  match draws, h with
  | _ :: _, h =>
      simp only [atomicPhase, Option.map_eq_some', Prod.mk.injEq] at h
      obtain ⟨⟨m, b⟩, -, rfl, rfl⟩ := h
      exact ⟨b, rfl⟩

theorem atomicPhase_eq_some {c : Course} {ms : ℚ} {draws : List ℚ} {n : Nat}
    (h : atomicPhase t c ms draws = some (t', n)) :
    t'.courses = t.courses ∧ t'.courseSlots = t.courseSlots ∧ t'.lockOrder = t.lockOrder ∧
      t'.registrations = t.registrations ∧ (∀ st, t'.statusCount st = t.statusCount st) ∧
      (∀ b, t'.cacheCount b = t.cacheCount b) := by
  obtain ⟨_, rfl⟩ := atomicPhase_spec h
  exact ⟨rfl, rfl, rfl, rfl, fun st => by cases st <;> rfl, fun b => by cases b <;> rfl⟩

/-- The catalog and the roster are read-only. -/
theorem act_readOnly (h : act t a ℓ = some (t', a')) :
    t'.courses = t.courses ∧ t'.students = t.students := by
  cases ℓ
  case start => rw [(act_start h).1]; exact ⟨rfl, rfl⟩
  case next => rw [(act_next h).2.1]; exact ⟨rfl, rfl⟩
  case lookup => obtain ⟨c, -, rfl, -⟩ := act_lookup h; cases cacheHitOf ‹_› <;> exact ⟨rfl, rfl⟩
  case retry =>
    obtain ⟨c, hit, n, -, hp, -⟩ := act_retry h
    obtain ⟨_, rfl⟩ := atomicPhase_spec hp
    exact ⟨rfl, rfl⟩
  case reserve =>
    obtain ⟨c, hit, n, -, rfl, -⟩ := act_reserve h
    simp only [reserveSlot]; cases decideStatus _ _ _ <;> exact ⟨rfl, rfl⟩
  case persist => obtain ⟨d, -, rfl, -⟩ := act_persist h; exact ⟨rfl, rfl⟩
  case collect => rcases act_collect h with ⟨-, rfl, -⟩ | ⟨_, _, -, rfl, -⟩ <;> exact ⟨rfl, rfl⟩

theorem act_courses (h : act t a ℓ = some (t', a')) : t'.courses = t.courses :=
  (act_readOnly h).1

theorem act_roster (h : act t a ℓ = some (t', a')) : t'.students = t.students :=
  (act_readOnly h).2

/-- A session never changes whose session it is. -/
theorem act_student (h : act t a ℓ = some (t', a')) : a'.student = a.student := by
  cases ℓ
  case start => obtain ⟨-, -, -, -, rfl⟩ := startSession_eq_some (act_start h).2; rfl
  case next =>
    obtain ⟨-, -, rfl⟩ := act_next h
    rcases loopHead_cases t.courses a with h' | ⟨_, -, ⟨_, -, h'⟩ | h' | h'⟩ <;> rw [h']
  case lookup => obtain ⟨c, -, -, rfl⟩ := act_lookup h; rfl
  case retry => obtain ⟨c, hit, n, -, -, rfl⟩ := act_retry h; rfl
  case reserve => obtain ⟨c, hit, n, -, -, rfl⟩ := act_reserve h; rfl
  case persist => obtain ⟨d, -, -, rfl⟩ := act_persist h; unfold recordAttempt; split <;> rfl
  case collect => rcases act_collect h with ⟨-, -, rfl⟩ | ⟨_, _, -, -, rfl⟩ <;> rfl

/-- Only the main thread's collection touches `registrations`, and only it
    marks a session collected; a collected session never moves again. -/
theorem act_registrations (h : act t a ℓ = some (t', a')) :
    a.pc ≠ .collected ∧
      ((t'.registrations = t.registrations ∧ a'.pc ≠ .collected) ∨
        (t'.registrations = t.registrations ++ a.studentRegistrations ∧
          a' = { a with pc := .collected })) := by
  cases ℓ
  case start =>
    obtain ⟨rfl, hs⟩ := act_start h
    obtain ⟨hpc, -, -, -, rfl⟩ := startSession_eq_some hs
    exact ⟨by simp [hpc], .inl ⟨rfl, nofun⟩⟩
  case next =>
    obtain ⟨hpc, rfl, rfl⟩ := act_next h
    refine ⟨by simp [hpc], .inl ⟨rfl, ?_⟩⟩
    rcases loopHead_cases t'.courses a with h' | ⟨_, -, ⟨_, -, h'⟩ | h' | h'⟩ <;> simp [h', hpc]
  case lookup =>
    obtain ⟨c, hpc, rfl, rfl⟩ := act_lookup h
    exact ⟨by simp [hpc], .inl ⟨by cases cacheHitOf ‹_› <;> rfl, nofun⟩⟩
  case retry =>
    obtain ⟨c, hit, n, hpc, hp, rfl⟩ := act_retry h
    exact ⟨by simp [hpc], .inl ⟨(atomicPhase_eq_some hp).2.2.2.1, nofun⟩⟩
  case reserve =>
    obtain ⟨c, hit, n, hpc, rfl, rfl⟩ := act_reserve h
    exact ⟨by simp [hpc], .inl ⟨by simp [reserveSlot], nofun⟩⟩
  case persist =>
    obtain ⟨d, hpc, rfl, rfl⟩ := act_persist h
    refine ⟨by simp [hpc], .inl ⟨rfl, ?_⟩⟩
    unfold recordAttempt; split <;> nofun
  case collect =>
    rcases act_collect h with ⟨hpc, rfl, rfl⟩ | ⟨_, _, hpc, rfl, rfl⟩
    · exact ⟨by simp [hpc], .inr ⟨rfl, rfl⟩⟩
    · exact ⟨by simp [hpc], .inl ⟨rfl, nofun⟩⟩

end Steps

/-! ### A run

One student over a one-seat, one-course catalog. The session enrols in its
one candidate; on a course with a `course_code` it records the enrolment,
finds no candidate left and is collected, and on a course without one the
record raises `KeyError` and the main thread drops the session. The later
modules instantiate their theorems at these runs. -/

/-- Rewrite only the head of a bind. As a congruence rule it makes simp run a
    concrete label list one step at a time, instead of first unfolding each
    later step at a state it does not know yet. -/
theorem bind_congr_head {α β : Type} {o o' : Option α} (h : o = o') (f : α → Option β) :
    o.bind f = o'.bind f :=
  h ▸ rfl

section Demo

attribute [local congr] bind_congr_head

/-- A course with one seat, with or without its `course_code`. -/
def demoCourse (courseCode : Option String) : Course :=
  ⟨"CS101-01", courseCode, 1, some ⟨"MWF", "09:00-10:30"⟩⟩

/-- The catalog of that one course. -/
def demoCatalog (courseCode : Option String) : List Course := [demoCourse courseCode]

/-- A student with both names, as `generate_students` writes them. -/
def demoStudent : Student := ⟨"S00001", some "Jane", some "Smith"⟩

/-- A roster of one. -/
def demoRoster : List Student := [demoStudent]

/-- Target 3, the one candidate, a cache hit, no retry, no error draw, then
    the record, the end of the candidates and the collection. -/
def demoRun : List Label :=
  [.start 0 3 [0], .next 0, .lookup 0 0, .retry 0 5 [1 / 2], .reserve 0 (1 / 2) (1 / 2),
    .persist 0 20 100, .next 0, .collect 0]

/-- `demoRun` up to the record, which raises on a course without a code, and
    then the collection. -/
def demoDropRun : List Label :=
  [.start 0 3 [0], .next 0, .lookup 0 0, .retry 0 5 [1 / 2], .reserve 0 (1 / 2) (1 / 2),
    .persist 0 20 100, .collect 0]

/-- The record `demoRun` produces. -/
def demoRecord : Registration := ⟨"S00001", "CS101-01", "CS101", .enrolled, 100, true, 0⟩

/-- The session at the end of `demoRun`: one enrolment, collected. -/
def demoEndSession : Session :=
  ⟨demoStudent, 3, demoCatalog (some "CS101"), 1, [demoRecord], 1, .collected⟩

/-- Where `demoRun` ends: the seat taken and its record collected. -/
def demoEnd : System where
  tester :=
    { Tester.init (demoCatalog (some "CS101")) demoRoster [] with
      courseSlots := fun _ => 0
      successfulRegistrations := 1
      requestTimes := [100]
      atomicOpTimes := [5]
      dbTxnTimes := [20]
      cacheHitCount := 1
      registrations := [demoRecord]
      lockOrder := [⟨"CS101-01", .enrolled⟩]
      retryLog := [⟨0, true⟩] }
  sessions := [demoEndSession]

/-- Where `demoDropRun` ends: the seat taken and the session dropped with its
    decision. -/
def demoDropEnd : System where
  tester :=
    { Tester.init (demoCatalog none) demoRoster [] with
      courseSlots := fun _ => 0
      successfulRegistrations := 1
      requestTimes := [100]
      atomicOpTimes := [5]
      dbTxnTimes := [20]
      cacheHitCount := 1
      lockOrder := [⟨"CS101-01", .enrolled⟩]
      retryLog := [⟨0, true⟩] }
  sessions := [⟨demoStudent, 3, demoCatalog none, 1, [], 0,
    .dropped (.keyError "course_code") (some ⟨demoCourse none, true, 0, .enrolled⟩)⟩]

/-- What the draws of `demoRun` and `demoDropRun` decide: the lookup hits, the
    atomic phase needs no retry, and the request enrols into the free seat. -/
theorem demo_draws :
    cacheHitOf 0 = true ∧ ¬(2⁻¹ : ℚ) < retryChance false ∧ decideStatus 1 2⁻¹ 2⁻¹ = .enrolled := by
  norm_num [cacheHitOf, retryChance, decideStatus]

theorem exec_demoRun :
    exec (System.init (demoCatalog (some "CS101")) demoRoster []) demoRun = some demoEnd := by
  obtain ⟨hhit, hdraw, hstatus⟩ := demo_draws
  simp [exec, demoRun, step, act, System.init, Tester.init, demoCatalog, demoCourse, demoRoster,
    startSession, ValidSample, loopHead, hasConflict, Label.thread, Session.init, countCacheLookup,
    atomicPhase, retryLoop, reserveSlot, persistPhase, recordAttempt, takeSeat, initSlots,
    Tester.countStatus, minCoursesPerStudent, maxCoursesPerStudent, maxRetries, demoStudent, hhit,
    hdraw, hstatus]
  rfl

theorem exec_demoDropRun :
    exec (System.init (demoCatalog none) demoRoster []) demoDropRun = some demoDropEnd := by
  obtain ⟨hhit, hdraw, hstatus⟩ := demo_draws
  simp [exec, demoDropRun, step, act, System.init, Tester.init, demoCatalog, demoCourse, demoRoster,
    startSession, ValidSample, loopHead, hasConflict, Label.thread, Session.init, countCacheLookup,
    atomicPhase, retryLoop, reserveSlot, persistPhase, recordAttempt, takeSeat, initSlots,
    Tester.countStatus, minCoursesPerStudent, maxCoursesPerStudent, maxRetries, demoStudent, hhit,
    hdraw, hstatus]
  rfl

theorem demoCatalog_wellFormed : WellFormed (demoCatalog (some "CS101")) :=
  ⟨by decide, by simp [demoCatalog, demoCourse], by simp [demoCatalog, demoCourse],
    by simp [demoCatalog, demoCourse]⟩

theorem demoEnd_finished : Finished demoEnd := by simp [Finished, demoEnd, demoEndSession]

theorem demoDropEnd_finished : Finished demoDropEnd := by simp [Finished, demoDropEnd]

/-! ### Two sessions and one seat

Two students race for the one seat of the one course, which is the hot
section `__init__` picks in a one-course catalog. Both start with the course
as their only candidate and run their requests up to the lock; the second
student's decision takes the lock first and enrols, the first finds the
course full and is waitlisted. Both then run out of candidates, and the main
thread collects the second session first. -/

/-- A second student, who wants the same seat. -/
def rivalStudent : Student := ⟨"S00002", some "John", some "Smith"⟩

/-- The two students. -/
def pairRoster : List Student := [demoStudent, rivalStudent]

/-- The race for the one seat, up to the lock: both sessions start, pass
    the loop head, hit the cache and need no retry. -/
def contendedStart : List Label :=
  [.start 0 3 [0], .start 1 3 [0], .next 0, .next 1, .lookup 0 0, .lookup 1 0,
    .retry 0 5 [1 / 2], .retry 1 5 [1 / 2]]

/-- The rest of the race: the second student takes the lock first, then both
    records, the end of both loops and the two collections. -/
def contendedFinish : List Label :=
  [.reserve 1 (1 / 2) (1 / 2), .reserve 0 (1 / 2) (1 / 2), .persist 0 20 100,
    .persist 1 20 100, .next 0, .next 1, .collect 1, .collect 0]

/-- The whole race. -/
def contendedRun : List Label := contendedStart ++ contendedFinish

/-- The record of the student who got the seat. -/
def rivalRecord : Registration := ⟨"S00002", "CS101-01", "CS101", .enrolled, 100, true, 0⟩

/-- The record of the student who found the course full. -/
def waitlistedRecord : Registration := ⟨"S00001", "CS101-01", "CS101", .waitlisted, 100, true, 0⟩

/-- Where `contendedStart` leaves the run: both requests at the lock, with
    their latencies and cache hits counted and no seat taken yet. -/
def contendedAtLock : System where
  tester :=
    { Tester.init (demoCatalog (some "CS101")) pairRoster ["CS101-01"] with
      atomicOpTimes := [5, 5]
      cacheHitCount := 2
      hotSectionOps := [5, 5]
      retryLog := [⟨0, true⟩, ⟨0, true⟩] }
  sessions :=
    [⟨demoStudent, 3, demoCatalog (some "CS101"), 1, [], 0,
        .retried (demoCourse (some "CS101")) true 0⟩,
      ⟨rivalStudent, 3, demoCatalog (some "CS101"), 1, [], 0,
        .retried (demoCourse (some "CS101")) true 0⟩]

/-- Where `contendedRun` ends: one seat taken, one request waitlisted, and
    both records collected in the order the sessions were. -/
def contendedEnd : System where
  tester :=
    { Tester.init (demoCatalog (some "CS101")) pairRoster ["CS101-01"] with
      courseSlots := fun _ => 0
      successfulRegistrations := 1
      waitlistedRegistrations := 1
      requestTimes := [100, 100]
      atomicOpTimes := [5, 5]
      dbTxnTimes := [20, 20]
      cacheHitCount := 2
      hotSectionOps := [5, 5]
      registrations := [rivalRecord, waitlistedRecord]
      lockOrder := [⟨"CS101-01", .enrolled⟩, ⟨"CS101-01", .waitlisted⟩]
      retryLog := [⟨0, true⟩, ⟨0, true⟩] }
  sessions :=
    [⟨demoStudent, 3, demoCatalog (some "CS101"), 1, [waitlistedRecord], 0, .collected⟩,
      ⟨rivalStudent, 3, demoCatalog (some "CS101"), 1, [rivalRecord], 1, .collected⟩]

/-- What the draws of `contendedRun` decide: no retry on the hot section, and
    the same error-free draws enrol on the free seat and waitlist on the full
    course. -/
theorem contended_draws :
    ¬(2⁻¹ : ℚ) < retryChance true ∧ decideStatus 1 2⁻¹ 2⁻¹ = .enrolled ∧
      decideStatus 0 2⁻¹ 2⁻¹ = .waitlisted := by
  norm_num [retryChance, decideStatus]

theorem exec_contendedStart :
    exec (System.init (demoCatalog (some "CS101")) pairRoster ["CS101-01"]) contendedStart =
      some contendedAtLock := by
  obtain ⟨hhit, -, -⟩ := demo_draws
  simp [exec, contendedStart, step, act, System.init, Tester.init, demoCatalog, demoCourse,
    pairRoster, startSession, ValidSample, loopHead, hasConflict, Label.thread, Session.init,
    countCacheLookup, atomicPhase, retryLoop, initSlots, minCoursesPerStudent,
    maxCoursesPerStudent, maxRetries, demoStudent, rivalStudent, hhit, contended_draws.1]
  rfl

theorem exec_contendedRun :
    exec (System.init (demoCatalog (some "CS101")) pairRoster ["CS101-01"]) contendedRun =
      some contendedEnd := by
  obtain ⟨-, henrol, hwait⟩ := contended_draws
  rw [contendedRun, exec_append, exec_contendedStart, Option.some_bind]
  simp only [contendedAtLock]
  simp [exec, contendedFinish, step, act, Tester.init, demoCatalog, demoCourse, pairRoster,
    loopHead, Label.thread, reserveSlot, persistPhase, recordAttempt, takeSeat, initSlots,
    Tester.countStatus, demoStudent, rivalStudent, henrol, hwait]
  rfl

theorem contendedEnd_finished : Finished contendedEnd := by simp [Finished, contendedEnd]


end Demo

end CourseRegistration
