import CourseRegistration.Report

/-!
# The Demo Tester

`demo_load_test.py` as a transition system, and its locked block as a
refinement of the simulator's.

`DemoRegistrationLoadTester` runs a smaller protocol than the simulator. A
session draws its target, samples `min(target, n)` courses and requests every
one of them: it neither stops at the target nor checks schedules. A request is
one locked check-and-decrement, with no error draws, followed by the record,
which reads `course["course_code"]`. The main thread calls `future.result()`
outside any `try`, so a session that raised makes the main thread raise in
turn and the run never reaches `generate_demo_results`.

The locked block picks `Enrolled` on a free seat and otherwise waitlists with
probability 0.7 (`demoDecide`). On a non-negative seat count that is the
simulator's `decideStatus` for an error draw of at least `0.047`, and the
block changes the seats and the lock order exactly as `reserveSlot` does
(`demoReserve_refines`). So the simulator's ledger invariant transfers to the
demo through the ledger its state presents (`DemoTester.ledger`) and holds at
every reachable state (`demoLedgerInv_of_reachable`), and over whole runs the
demo's seats and lock order are those the simulator's locked block leaves
after some sequence of error-free requests (`demo_ledger_refines_simulator`).

Every decision taken under the lock is held by the session that took it until
the main thread collects its records (`demoLogged_of_reachable`). So at the end
of a run the records are the lock order up to permutation: no decision is lost
or reported twice, and the enrolled records of a course are the seats it lost
(`demo_records_match_lock_order`).

## Main definitions

* `demoDecide`, `demoReserve`: The demo's locked block.
* `DemoTester.ledger`: The demo's seats and lock order as a simulator tester.
* `demoAct`, `demoStep`: One step of a session, or of the main thread.
* `DemoReachable`, `DemoFinished`: The runs, and their successful ends.
* `reserveAll`: The simulator's locked block over a sequence of requests.

## Theorems

* `demoReserve_refines`: The demo's locked block is the simulator's on a
  non-negative seat count.
* `demoLedgerInv_of_reachable`: The ledger invariant over every run.
* `demo_ledger_refines_simulator`: Every demo run's ledger is a simulator
  ledger.
* `demoLogged_of_reachable`: Every locked decision is in a session or in the
  records.
* `demo_records_match_lock_order`: At the end, the records are the lock order.
-/

namespace CourseRegistration

section Model

/-- The record the demo's `simulate_registration_request` returns, with the
    keys `generate_demo_results` reads. -/
structure DemoRecord where
  studentId : String
  courseId : String
  courseCode : String
  status : Status
  deriving DecidableEq, Repr

/-- The course and outcome a record reports. -/
def DemoRecord.decision (r : DemoRecord) : Decision := ⟨r.courseId, r.status⟩

/-- The demo's `with self.lock:` decision: a free seat enrols, and otherwise
    the draw waitlists with probability 0.7. -/
def demoDecide (availableSlots : Int) (draw : ℚ) : Status :=
  if 0 < availableSlots then .enrolled
  else if draw < 0.7 then .waitlisted
  else .failed

/-- The fields of `DemoRegistrationLoadTester` a run reads or writes, with the
    history of locked decisions. -/
structure DemoTester where
  courses : List Course
  students : List Student
  courseSlots : String → Int
  registrations : List DemoRecord
  lockOrder : List Decision

/-- The tester once `__init__` has sampled the catalog and the roster. -/
def DemoTester.init (courses : List Course) (students : List Student) : DemoTester :=
  ⟨courses, students, initSlots courses, [], []⟩

/-- The demo's locked block: read the seats, decide, take a seat on an
    enrolment; the decision joins the lock order. -/
def demoReserve (t : DemoTester) (course : Course) (draw : ℚ) : DemoTester × Status :=
  let status := demoDecide (t.courseSlots course.courseId) draw
  ({ t with
      courseSlots := takeSeat t.courseSlots course.courseId status
      lockOrder := t.lockOrder ++ [⟨course.courseId, status⟩] }, status)

@[simp] theorem demoReserve_courses (t : DemoTester) (c : Course) (w : ℚ) :
    (demoReserve t c w).1.courses = t.courses := rfl

@[simp] theorem demoReserve_registrations (t : DemoTester) (c : Course) (w : ℚ) :
    (demoReserve t c w).1.registrations = t.registrations := rfl

@[simp] theorem demoReserve_lockOrder (t : DemoTester) (c : Course) (w : ℚ) :
    (demoReserve t c w).1.lockOrder = t.lockOrder ++ [⟨c.courseId, (demoReserve t c w).2⟩] := rfl

/-- The positions `random.sample(courses, k)` can return: `k` distinct
    positions of the list. -/
def IsSample (courses : List Course) (k : Nat) (sample : List Nat) : Prop :=
  sample.Nodup ∧ (∀ i ∈ sample, i < courses.length) ∧ sample.length = k

instance (courses : List Course) (k : Nat) (sample : List Nat) :
    Decidable (IsSample courses k sample) :=
  inferInstanceAs (Decidable (_ ∧ _ ∧ _))

/-- The simulator's sample is the same draw with twice the target. -/
theorem validSample_iff (courses : List Course) (target : Nat) (sample : List Nat) :
    ValidSample courses target sample ↔
      IsSample courses (min (target * 2) courses.length) sample := Iff.rfl

/-- Where a demo session thread stands. A session that raised keeps the
    decision its record was for. -/
inductive DemoPc where
  | pending
  | running
  | raised (err : PyError) (lost : Decision)
  | returned
  | collected
  deriving DecidableEq, Repr

/-- The local variables of the demo's `student_registration_session`;
    `position` counts the courses already requested. -/
structure DemoSession where
  student : Student
  targetCourses : Nat
  coursesToTry : List Course
  position : Nat
  studentRegistrations : List DemoRecord
  pc : DemoPc

/-- A session that the executor has been handed but not yet started. -/
def DemoSession.init (student : Student) : DemoSession := ⟨student, 0, [], 0, [], .pending⟩

/-- One step of the demo run: the session, by its position in the roster, and
    the draws of the step. -/
inductive DemoLabel where
  | start (i target : Nat) (sample : List Nat)
  | request (i : Nat) (draw : ℚ)
  | finish (i : Nat)
  | collect (i : Nat)

/-- The session a label moves. -/
def DemoLabel.thread : DemoLabel → Nat
  | .start i _ _ | .request i _ | .finish i | .collect i => i

/-- One pass of `for course in courses_to_try`: the locked block, then the
    record, which raises `KeyError` on a course without `course_code`. -/
def demoRequest (t : DemoTester) (a : DemoSession) (course : Course) (draw : ℚ) :
    DemoTester × DemoSession :=
  let p := demoReserve t course draw
  match course.courseCode with
  | none => (p.1, { a with pc := .raised (.keyError "course_code") ⟨course.courseId, p.2⟩ })
  | some code =>
      (p.1, { a with
        position := a.position + 1
        studentRegistrations :=
          a.studentRegistrations ++ [⟨a.student.studentId, course.courseId, code, p.2⟩] })

/-- What a label does to the tester and to the session it names. A start draws
    the target in `[3, 6]` and a sample of `min(target, n)` courses; a request
    takes the next course; the loop finishes when none is left; the main
    thread collects a returned session. -/
def demoAct (t : DemoTester) (a : DemoSession) : DemoLabel → Option (DemoTester × DemoSession)
  | .start _ target sample =>
      match a.pc with
      | .pending =>
          if minCoursesPerStudent ≤ target ∧ target ≤ maxCoursesPerStudent ∧
              IsSample t.courses (min target t.courses.length) sample then
            some (t, { a with
              targetCourses := target
              coursesToTry := sample.filterMap (t.courses[·]?)
              position := 0
              studentRegistrations := []
              pc := .running })
          else none
      | _ => none
  | .request _ draw =>
      match a.pc, a.coursesToTry[a.position]? with
      | .running, some course => some (demoRequest t a course draw)
      | _, _ => none
  | .finish _ =>
      match a.pc, a.coursesToTry[a.position]? with
      | .running, none => some (t, { a with pc := .returned })
      | _, _ => none
  | .collect _ =>
      match a.pc with
      | .returned =>
          some ({ t with registrations := t.registrations ++ a.studentRegistrations },
            { a with pc := .collected })
      | _ => none

/-- The demo run: the tester, one session per roster entry, and the exception
    `future.result()` has raised in the main thread, if any. -/
structure DemoSystem where
  tester : DemoTester
  sessions : List DemoSession
  mainRaised : Option PyError

/-- One step of the demo run. The main thread collects only while it has not
    raised, and collecting a session that raised makes it raise. -/
def demoStep (s : DemoSystem) (ℓ : DemoLabel) : Option DemoSystem :=
  match s.sessions[ℓ.thread]? with
  | none => none
  | some a =>
      let move := (demoAct s.tester a ℓ).map fun p => ⟨p.1, s.sessions.set ℓ.thread p.2, s.mainRaised⟩
      match ℓ with
      | .collect _ =>
          match s.mainRaised, a.pc with
          | some _, _ => none
          | none, .raised err _ => some { s with mainRaised := some err }
          | none, _ => move
      | _ => move

/-- The demo run right after every session is submitted. -/
def DemoSystem.init (courses : List Course) (students : List Student) : DemoSystem :=
  ⟨DemoTester.init courses students, students.map DemoSession.init, none⟩

/-- The states some demo run from `s₀` reaches. -/
inductive DemoReachable (s₀ : DemoSystem) : DemoSystem → Prop
  | refl : DemoReachable s₀ s₀
  | tail {s s' : DemoSystem} (ℓ : DemoLabel) : DemoReachable s₀ s → demoStep s ℓ = some s' →
      DemoReachable s₀ s'

/-- The end of the `with` block without an exception: the main thread has
    collected every session, and `generate_demo_results` runs next. -/
def DemoFinished (s : DemoSystem) : Prop :=
  s.mainRaised = none ∧ ∀ a ∈ s.sessions, a.pc = .collected

/-- Run a sequence of labels, one step each. -/
def demoExec (s : DemoSystem) : List DemoLabel → Option DemoSystem
  | [] => some s
  | ℓ :: ls => (demoStep s ℓ).bind fun s' => demoExec s' ls

end Model

section Steps

variable {s s' : DemoSystem} {ℓ : DemoLabel} {t t' : DemoTester} {a a' : DemoSession} {i : Nat}

/-- A step moves one session by `demoAct`, leaving the main thread as it was,
    or makes the main thread raise the exception of a session that raised, and
    changes nothing else. -/
theorem demoStep_cases (h : demoStep s ℓ = some s') :
    (s'.tester = s.tester ∧ s'.sessions = s.sessions ∧ s.mainRaised = none ∧
      ∃ a err lost, s.sessions[ℓ.thread]? = some a ∧ a.pc = .raised err lost ∧
        s'.mainRaised = some err) ∨
      ∃ a, s.sessions[ℓ.thread]? = some a ∧ ∃ t a', demoAct s.tester a ℓ = some (t, a') ∧
        s'.tester = t ∧ s'.sessions = s.sessions.set ℓ.thread a' ∧ s'.mainRaised = s.mainRaised := by
  unfold demoStep at h
  rcases hget : s.sessions[ℓ.thread]? with _ | a
  · simp [hget] at h
  rw [hget] at h
  have hmove : (demoAct s.tester a ℓ).map
      (fun p => (⟨p.1, s.sessions.set ℓ.thread p.2, s.mainRaised⟩ : DemoSystem)) = some s' →
      ∃ t a', demoAct s.tester a ℓ = some (t, a') ∧ s'.tester = t ∧
        s'.sessions = s.sessions.set ℓ.thread a' ∧ s'.mainRaised = s.mainRaised := fun h => by
    obtain ⟨⟨t, a'⟩, hact, rfl⟩ := Option.map_eq_some'.mp h
    exact ⟨t, a', hact, rfl, rfl, rfl⟩
  cases ℓ <;> dsimp only at h <;> try exact .inr ⟨a, rfl, hmove h⟩
  split at h
  · cases h
  · cases h; exact .inl ⟨rfl, rfl, ‹_›, a, _, _, rfl, ‹_›, rfl⟩
  · exact .inr ⟨a, rfl, hmove h⟩

/-- Invariants of the demo run hold at the start and survive every step. -/
theorem DemoReachable.induct {s₀ : DemoSystem} (P : DemoSystem → Prop) (h0 : P s₀)
    (hs : ∀ s ℓ s', DemoReachable s₀ s → P s → demoStep s ℓ = some s' → P s') :
    ∀ {s}, DemoReachable s₀ s → P s := by
  intro s h
  induction h with
  | refl => exact h0
  | tail ℓ hr hst ih => exact hs _ ℓ _ hr ih hst

theorem demoReachable_of_exec {s₀ s : DemoSystem} {ls : List DemoLabel} (hr : DemoReachable s₀ s) :
    ∀ {s'}, demoExec s ls = some s' → DemoReachable s₀ s' := by
  induction ls generalizing s with
  | nil => intro s' h; cases h; exact hr
  | cons ℓ ls ih =>
      intro s' h
      obtain ⟨s₁, h₁, h₂⟩ := Option.bind_eq_some.mp h
      exact ih (hr.tail ℓ h₁) h₂

/-! The labels one by one. -/

theorem demoAct_start {target : Nat} {sample : List Nat}
    (h : demoAct t a (.start i target sample) = some (t', a')) :
    a.pc = .pending ∧ t' = t ∧ minCoursesPerStudent ≤ target ∧ target ≤ maxCoursesPerStudent ∧
      IsSample t.courses (min target t.courses.length) sample ∧
      a' = { a with
        targetCourses := target
        coursesToTry := sample.filterMap (t.courses[·]?)
        position := 0
        studentRegistrations := []
        pc := .running } := by
  cases hpc : a.pc <;> simp only [demoAct, hpc, reduceCtorEq] at h
  split_ifs at h with hc
  simp only [Option.some.injEq, Prod.mk.injEq] at h
  exact ⟨rfl, h.1.symm, hc.1, hc.2.1, hc.2.2, h.2.symm⟩

theorem demoAct_request {draw : ℚ} (h : demoAct t a (.request i draw) = some (t', a')) :
    ∃ c, a.pc = .running ∧ a.coursesToTry[a.position]? = some c ∧
      (t', a') = demoRequest t a c draw := by
  cases hpc : a.pc <;> cases hc : a.coursesToTry[a.position]? <;>
    simp only [demoAct, hpc, hc, reduceCtorEq, Option.some.injEq] at h
  exact ⟨_, rfl, rfl, h.symm⟩

theorem demoAct_finish (h : demoAct t a (.finish i) = some (t', a')) :
    a.pc = .running ∧ a.coursesToTry[a.position]? = none ∧ t' = t ∧
      a' = { a with pc := .returned } := by
  cases hpc : a.pc <;> cases hc : a.coursesToTry[a.position]? <;>
    simp only [demoAct, hpc, hc, reduceCtorEq, Option.some.injEq, Prod.mk.injEq] at h
  exact ⟨rfl, rfl, h.1.symm, h.2.symm⟩

theorem demoAct_collect (h : demoAct t a (.collect i) = some (t', a')) :
    a.pc = .returned ∧ t' = { t with registrations := t.registrations ++ a.studentRegistrations } ∧
      a' = { a with pc := .collected } := by
  cases hpc : a.pc <;> simp only [demoAct, hpc, reduceCtorEq, Option.some.injEq, Prod.mk.injEq] at h
  exact ⟨rfl, h.1.symm, h.2.symm⟩

/-- A request takes the locked decision, and either records it and moves on or
    raises with it. -/
theorem demoRequest_spec {c : Course} {draw : ℚ} (h : (t', a') = demoRequest t a c draw) :
    t' = (demoReserve t c draw).1 ∧
      ((∃ code, c.courseCode = some code ∧ a' = { a with
          position := a.position + 1
          studentRegistrations := a.studentRegistrations ++
            [⟨a.student.studentId, c.courseId, code, (demoReserve t c draw).2⟩] }) ∨
        (c.courseCode = none ∧
          a' = { a with pc := .raised (.keyError "course_code") ⟨c.courseId, (demoReserve t c draw).2⟩ })) := by
  unfold demoRequest at h
  split at h <;> cases h
  · exact ⟨rfl, .inr ⟨‹_›, rfl⟩⟩
  · exact ⟨rfl, .inl ⟨_, ‹_›, rfl⟩⟩

/-- The catalog is read-only. -/
theorem demoAct_courses (h : demoAct t a ℓ = some (t', a')) : t'.courses = t.courses := by
  cases ℓ
  case start => rw [(demoAct_start h).2.1]
  case request => obtain ⟨c, -, -, hreq⟩ := demoAct_request h; rw [(demoRequest_spec hreq).1]; rfl
  case finish => rw [(demoAct_finish h).2.2.1]
  case collect => rw [(demoAct_collect h).2.1]

/-- No step returns a session to the executor's queue. -/
theorem demoAct_ne_pending (h : demoAct t a ℓ = some (t', a')) : a'.pc ≠ .pending := by
  cases ℓ
  case start => rw [(demoAct_start h).2.2.2.2.2]; nofun
  case request =>
    obtain ⟨c, hpc, -, hreq⟩ := demoAct_request h
    rcases (demoRequest_spec hreq).2 with ⟨_, -, rfl⟩ | ⟨-, rfl⟩
    · exact hpc ▸ nofun
    · nofun
  case finish => rw [(demoAct_finish h).2.2.2]; nofun
  case collect => rw [(demoAct_collect h).2.2]; nofun

end Steps

/-! One student over the one-course catalog of the simulator's runs: a target
of three, the one course sampled, its seat taken, the loop finished and the
session collected. -/

section Run

attribute [local congr] bind_congr_head

def demoTesterRun : List DemoLabel := [.start 0 3 [0], .request 0 (1 / 2), .finish 0, .collect 0]

/-- The record `demoTesterRun` produces. -/
def demoTesterRecord : DemoRecord := ⟨"S00001", "CS101-01", "CS101", .enrolled⟩

/-- Where `demoTesterRun` ends: the seat taken and its record collected. -/
def demoTesterEnd : DemoSystem where
  tester :=
    { DemoTester.init (demoCatalog (some "CS101")) demoRoster with
      courseSlots := fun _ => 0
      registrations := [demoTesterRecord]
      lockOrder := [⟨"CS101-01", .enrolled⟩] }
  sessions := [⟨demoStudent, 3, demoCatalog (some "CS101"), 1, [demoTesterRecord], .collected⟩]
  mainRaised := none

theorem demoExec_demoTesterRun :
    demoExec (DemoSystem.init (demoCatalog (some "CS101")) demoRoster) demoTesterRun =
      some demoTesterEnd := by
  simp [demoExec, demoTesterRun, demoStep, demoAct, DemoSystem.init, DemoTester.init,
    DemoSession.init, demoCatalog, demoCourse, demoRoster, IsSample, DemoLabel.thread, demoRequest,
    demoReserve, demoDecide, takeSeat, initSlots, minCoursesPerStudent, maxCoursesPerStudent,
    demoStudent]
  rfl

theorem demoTesterEnd_finished : DemoFinished demoTesterEnd := by
  simp [DemoFinished, demoTesterEnd]

end Run

section Refinement

/-- The demo's catalog, seats and lock order, presented as a simulator tester
    that has seen no other event. -/
def DemoTester.ledger (t : DemoTester) : Tester :=
  { Tester.init t.courses t.students [] with courseSlots := t.courseSlots, lockOrder := t.lockOrder }

/-- On a non-negative seat count, the demo's decision is the simulator's for
    an error draw that raises no error. -/
theorem demoDecide_eq_decideStatus {slots : Int} (hslots : 0 ≤ slots) (w : ℚ) {e : ℚ}
    (he : 0.047 ≤ e) : demoDecide slots w = decideStatus slots e w := by
  have h5 : ¬e < 0.002 := fun h => absurd (h.trans_le' he) (by norm_num)
  have h4 : ¬e < 0.047 := not_lt.mpr he
  unfold demoDecide decideStatus
  rw [if_neg h5, if_neg h4]
  by_cases hpos : 0 < slots
  · rw [if_pos hpos, if_pos hpos]
  · have h0 : slots = 0 := by omega
    simp [hpos, h0]

/-- The demo's locked block refines the simulator's: on a non-negative seat
    count it picks the status `reserveSlot` picks for an error-free draw, and
    it leaves the same catalog, seats and lock order. -/
theorem demoReserve_refines (t : DemoTester) (c : Course) (w : ℚ) {e : ℚ} (he : 0.047 ≤ e)
    (hslots : 0 ≤ t.courseSlots c.courseId) :
    (demoReserve t c w).2 = (reserveSlot t.ledger c e w).2 ∧
      (demoReserve t c w).1.ledger.courses = (reserveSlot t.ledger c e w).1.courses ∧
      (demoReserve t c w).1.ledger.courseSlots = (reserveSlot t.ledger c e w).1.courseSlots ∧
      (demoReserve t c w).1.ledger.lockOrder = (reserveSlot t.ledger c e w).1.lockOrder := by
  have hst : (demoReserve t c w).2 = (reserveSlot t.ledger c e w).2 :=
    demoDecide_eq_decideStatus hslots w he
  exact ⟨hst, (reserveSlot_courses t.ledger c e w).symm, by simp only [reserveSlot_courseSlots, ← hst]; rfl,
    by simp only [reserveSlot_lockOrder, ← hst]; rfl⟩

/-- The ledger invariant reads only the catalog, the seats and the lock order. -/
theorem LedgerInv.of_eq {t t' : Tester} (h : LedgerInv t) (h1 : t'.courses = t.courses)
    (h2 : t'.courseSlots = t.courseSlots) (h3 : t'.lockOrder = t.lockOrder) : LedgerInv t' :=
  ⟨fun id => h2 ▸ h.nonneg id, fun id => h1 ▸ h2 ▸ h.le_init id,
    fun id => h1 ▸ h2 ▸ h3 ▸ h.decisions id⟩

variable {courses : List Course} {students : List Student} {s : DemoSystem}

/-- Over every demo run on a catalog with non-negative capacities, the seats
    and the lock order satisfy the simulator's ledger invariant. -/
theorem demoLedgerInv_of_reachable (hslots : ∀ c ∈ courses, 0 ≤ c.totalSlots)
    (hr : DemoReachable (DemoSystem.init courses students) s) : LedgerInv s.tester.ledger := by
  refine DemoReachable.induct (fun s => LedgerInv s.tester.ledger)
    (show LedgerInv (DemoSystem.init courses students).tester.ledger from
      ledgerInv_init hslots students []) (fun s ℓ s' _ hinv hs => ?_) hr
  rcases demoStep_cases hs with ⟨ht, -⟩ | ⟨a, -, t, a', hact, ht, -⟩
  · exact ht ▸ hinv
  rw [ht]
  cases ℓ
  case start => rw [(demoAct_start hact).2.1]; exact hinv
  case finish => rw [(demoAct_finish hact).2.2.1]; exact hinv
  case collect => rw [(demoAct_collect hact).2.1]; exact hinv
  case request draw =>
    obtain ⟨c, -, -, hreq⟩ := demoAct_request hact
    rw [(demoRequest_spec hreq).1]
    obtain ⟨-, h1, h2, h3⟩ := demoReserve_refines s.tester c draw (le_refl _) (hinv.nonneg _)
    exact (reserveSlot_ledgerInv hinv c 0.047 draw).of_eq h1 h2 h3

end Refinement

section Logged

/-- The locked decisions a session holds that `registrations` does not: its
    records, and the decision it raised on; none before it starts or once it
    is collected. -/
def DemoSession.held (a : DemoSession) : List Decision :=
  match a.pc with
  | .pending | .collected => []
  | .raised _ d => a.studentRegistrations.map DemoRecord.decision ++ [d]
  | _ => a.studentRegistrations.map DemoRecord.decision

/-- Every locked decision is in `registrations` or held by one session. -/
def DemoLogged (s : DemoSystem) : Prop :=
  ∀ d, s.tester.lockOrder.count d =
    (s.tester.registrations.map DemoRecord.decision).count d +
      (s.sessions.map fun a => a.held.count d).sum

variable {t t' : DemoTester} {a a' : DemoSession} {ℓ : DemoLabel}

/-- A step moves each decision it takes into the session's holding, and a
    collection moves a session's holding into `registrations`. -/
theorem demoAct_held (h : demoAct t a ℓ = some (t', a')) (d : Decision) :
    t'.lockOrder.count d + (t.registrations.map DemoRecord.decision).count d + a.held.count d =
      t.lockOrder.count d + (t'.registrations.map DemoRecord.decision).count d +
        a'.held.count d := by
  cases ℓ
  case start =>
    obtain ⟨hpc, rfl, -, -, -, rfl⟩ := demoAct_start h
    simp [DemoSession.held, hpc]
  case request draw =>
    obtain ⟨c, hpc, -, hreq⟩ := demoAct_request h
    obtain ⟨rfl, ⟨code, -, rfl⟩ | ⟨-, rfl⟩⟩ := demoRequest_spec hreq <;>
      simp [DemoSession.held, DemoRecord.decision, hpc, List.count_append] <;> omega
  case finish =>
    obtain ⟨hpc, -, rfl, rfl⟩ := demoAct_finish h
    simp [DemoSession.held, hpc]
  case collect =>
    obtain ⟨hpc, rfl, rfl⟩ := demoAct_collect h
    simp [DemoSession.held, hpc, List.count_append]
    omega

variable {courses : List Course} {students : List Student} {s : DemoSystem}

/-- Over every demo run, every decision taken under the lock is in
    `registrations` or held by the session that took it. -/
theorem demoLogged_of_reachable (hr : DemoReachable (DemoSystem.init courses students) s) :
    DemoLogged s := by
  refine DemoReachable.induct DemoLogged (fun d => ?_) (fun s ℓ s' _ hinv hs d => ?_) hr
  · simp only [DemoSystem.init, DemoTester.init, List.count_nil, List.map_nil, zero_add]
    refine (List.sum_eq_zero fun x hx => ?_).symm
    obtain ⟨a, ha, rfl⟩ := List.mem_map.mp hx
    obtain ⟨st, -, rfl⟩ := List.mem_map.mp ha
    rfl
  rcases demoStep_cases hs with ⟨ht, hss, -⟩ | ⟨a, hget, t, a', hact, ht, hss, -⟩
  · rw [ht, hss]; exact hinv d
  rw [ht, hss]
  have hset := sum_map_set_add s.sessions (fun a => a.held.count d) a' hget
  have hbal := demoAct_held hact d
  have := hinv d
  dsimp only at hset ⊢
  omega

end Logged

section End

variable {courses : List Course} {students : List Student} {s : DemoSystem}

theorem demoCourses_of_reachable (hr : DemoReachable (DemoSystem.init courses students) s) :
    s.tester.courses = courses :=
  DemoReachable.induct (fun s => s.tester.courses = courses) rfl (fun s ℓ s' _ hc hs => by
    rcases demoStep_cases hs with ⟨ht, -⟩ | ⟨a, -, t, a', hact, ht, -⟩
    · rw [ht]; exact hc
    · rw [ht, demoAct_courses hact]; exact hc) hr

/-- The enrolments on a course in a lock order are the enrolments among its
    error-free decisions. -/
theorem countP_enrolled_eq_count_seatDecisions (log : List Decision) (id : String) :
    log.countP (fun d => d.courseId = id ∧ d.status = .enrolled) =
      (seatDecisions log id).count .enrolled := by
  rw [seatDecisions, List.count, List.countP_map, List.countP_filter]
  refine List.countP_congr fun d _ => ?_
  cases hs : d.status <;> simp [hs, Status.isError]

theorem count_enrolled_replicate_append {k : Nat} {rest : List Status}
    (hrest : ∀ x ∈ rest, x = .waitlisted ∨ x = .failed) :
    (List.replicate k Status.enrolled ++ rest).count .enrolled = k := by
  have hnot : Status.enrolled ∉ rest := fun h => by rcases hrest _ h with h | h <;> cases h
  rw [List.count_append, List.count_replicate_self, List.count_eq_zero.mpr hnot, add_zero]

/-- At the end of a demo run the records report the lock order's decisions,
    each once. -/
theorem demoRegistrations_perm_lockOrder (hr : DemoReachable (DemoSystem.init courses students) s)
    (hfin : DemoFinished s) :
    (s.tester.registrations.map DemoRecord.decision).Perm s.tester.lockOrder :=
  List.perm_iff_count.mpr fun d => by
    rw [demoLogged_of_reachable hr d, List.sum_eq_zero fun x hx => ?_, add_zero]
    obtain ⟨a, ha, rfl⟩ := List.mem_map.mp hx
    simp [DemoSession.held, hfin.2 a ha]

/-- At the end of a demo run on a well-formed catalog, the enrolled records of
    a catalog course are the seats it lost. -/
theorem demoEnrolled_eq_seats_lost (hwf : WellFormed courses)
    (hr : DemoReachable (DemoSystem.init courses students) s) (hfin : DemoFinished s)
    {c : Course} (hc : c ∈ courses) :
    ((s.tester.registrations.countP fun r => r.courseId = c.courseId ∧ r.status = .enrolled : ℕ) :
      Int) = c.totalSlots - s.tester.courseSlots c.courseId ∧
      0 ≤ s.tester.courseSlots c.courseId := by
  have hl := demoLedgerInv_of_reachable hwf.slots_nonneg hr
  obtain ⟨rest, hds, hrest, -⟩ := hl.decisions c.courseId
  have hinit : initSlots s.tester.courses c.courseId = c.totalSlots := by
    rw [demoCourses_of_reachable hr]; exact initSlots_of_mem courses hwf.nodup_ids c hc
  have hcount : s.tester.registrations.countP
      (fun r => r.courseId = c.courseId ∧ r.status = .enrolled) =
        (c.totalSlots - s.tester.courseSlots c.courseId).toNat := by
    have h := congrArg (List.count Status.enrolled) hds
    rw [count_enrolled_replicate_append hrest, ← countP_enrolled_eq_count_seatDecisions] at h
    change s.tester.lockOrder.countP _ =
      (initSlots s.tester.courses c.courseId - s.tester.courseSlots c.courseId).toNat at h
    rw [hinit, ← (demoRegistrations_perm_lockOrder hr hfin).countP_eq, List.countP_map] at h
    exact h
  have h1 := hl.nonneg c.courseId
  have h2 := hl.le_init c.courseId
  change 0 ≤ s.tester.courseSlots c.courseId at h1
  change s.tester.courseSlots c.courseId ≤ initSlots s.tester.courses c.courseId at h2
  omega

/-- At the end of a demo run, over any interleaving and any draws, the records
    report exactly the decisions taken under the lock, none lost and none
    twice. On a well-formed catalog the enrolled records of each course are
    then the seats it lost, so a course never has more enrolled records than
    its `total_slots`. -/
theorem demo_records_match_lock_order (hr : DemoReachable (DemoSystem.init courses students) s)
    (hfin : DemoFinished s) :
    (s.tester.registrations.map DemoRecord.decision).Perm s.tester.lockOrder ∧
    (WellFormed courses → ∀ c ∈ courses,
      ((s.tester.registrations.countP fun r => r.courseId = c.courseId ∧ r.status = .enrolled : ℕ) :
        Int) = c.totalSlots - s.tester.courseSlots c.courseId ∧
      ((s.tester.registrations.countP fun r => r.courseId = c.courseId ∧ r.status = .enrolled : ℕ) :
        Int) ≤ c.totalSlots) := by
  refine ⟨demoRegistrations_perm_lockOrder hr hfin, fun hwf c hc => ?_⟩
  obtain ⟨h, h0⟩ := demoEnrolled_eq_seats_lost hwf hr hfin hc
  exact ⟨h, by omega⟩

theorem demo_records_match_lock_order_demo :
    (demoTesterEnd.tester.registrations.map DemoRecord.decision).Perm
      demoTesterEnd.tester.lockOrder :=
  (demo_records_match_lock_order (demoReachable_of_exec .refl demoExec_demoTesterRun)
    demoTesterEnd_finished).1

end End

end CourseRegistration
