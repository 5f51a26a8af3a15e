import CourseRegistration.Demo

/-!
# The Demo's Sessions and Results

What a demo session leaves in its records, and what `generate_demo_results`
then computes from them.

A demo session requests every course of its sample: it neither stops at its
target nor skips a course. Its locals keep the shape `DemoSessionInv` states
at every step: the sample is `min(target, n)` distinct catalog courses, the
records are the requests made so far, in sample order, each under the
session's `student_id` and with a status the locked block can pick, and a
finished loop has requested the whole sample. The main thread appends a
session's records once, when it collects it, so at the end of a run
`self.registrations` is every session's records, up to order
(`demo_sessions_request_sample`).

`generate_demo_results` counts the records, fills two `defaultdict(int)`
tallies of the enrolled ones (one per student, one per course code; the
simulator's `student_course_counts` is the same loop, `tallyEnrolled`), and
prints shares of the attempts and of the roster, the top ten codes with
their utilization, and the first ten students with their names. Over a
catalog with distinct course codes and a roster that carries both names, it
fails exactly when there is nothing to divide by: it raises
`ZeroDivisionError` when the catalog or the roster is empty, and otherwise
completes with every figure in range (`demo_results_complete_iff_nonempty`).
The names matter: `load_demo_data` does not check them, and a listed student
without `first_name` or `last_name` raises `KeyError` (`studentName`).
Distinct codes matter: `course_enrollment` is keyed by code, and `next` takes
the first course with the code, so two sections sharing a code would be
counted against one section's seats.

## Main definitions

* `DemoSessionInv`: What a session's locals say about its sample and records.
* `DemoCollected`: The records are the collected sessions' records.
* `tallyEnrolled`: One pass of a `defaultdict(int)` tally of enrolled records.
* `generateDemoResults`: The figures `generate_demo_results` prints.

## Theorems

* `demoSessionInv_of_reachable`: Every session keeps the invariant over every
  run.
* `demoCollected_of_reachable`: Every record comes from one collected session.
* `demo_sessions_request_sample`: At the end, the records are the sessions'
  records, and each session requested its whole sample.
* `demo_results_complete_iff_nonempty`: The results raise exactly on an empty
  catalog or roster, and are otherwise in range.
-/

namespace CourseRegistration

section Sessions

/-- The locals of a demo session over a catalog: its sample of `min(target,
    n)` distinct catalog courses, the records of the courses requested so
    far, and a loop that finishes only past the whole sample. -/
structure DemoSessionInv (courses : List Course) (a : DemoSession) : Prop where
  target : a.pc ≠ .pending → minCoursesPerStudent ≤ a.targetCourses ∧
    a.targetCourses ≤ maxCoursesPerStudent ∧
    a.coursesToTry.length = min a.targetCourses courses.length
  sampled : ∀ c ∈ a.coursesToTry, c ∈ courses
  distinct : (a.coursesToTry.map Course.courseId).Nodup
  position_le : a.position ≤ a.coursesToTry.length
  requested : a.studentRegistrations.map DemoRecord.courseId =
    (a.coursesToTry.take a.position).map Course.courseId
  record : ∀ r ∈ a.studentRegistrations, r.studentId = a.student.studentId ∧
    (r.status = .enrolled ∨ r.status = .waitlisted ∨ r.status = .failed) ∧
    ∃ c ∈ courses, c.courseId = r.courseId ∧ c.courseCode = some r.courseCode
  done : a.pc = .returned ∨ a.pc = .collected → a.position = a.coursesToTry.length

theorem demoDecide_mem (slots : Int) (draw : ℚ) :
    demoDecide slots draw = .enrolled ∨ demoDecide slots draw = .waitlisted ∨
      demoDecide slots draw = .failed := by
  unfold demoDecide; split_ifs <;> simp

/-- A session whose only change is its program counter keeps the invariant,
    if it had started and a finished loop had requested its whole sample. -/
theorem DemoSessionInv.setPc {courses : List Course} {a : DemoSession} (h : DemoSessionInv courses a)
    (hp : a.pc ≠ .pending) {pc : DemoPc}
    (hdone : pc = .returned ∨ pc = .collected → a.position = a.coursesToTry.length) :
    DemoSessionInv courses { a with pc := pc } :=
  ⟨fun _ => h.target hp, h.sampled, h.distinct, h.position_le, h.requested, h.record, hdone⟩

variable {courses : List Course} {t t' : DemoTester} {a a' : DemoSession} {ℓ : DemoLabel}

/-- Every step keeps a session's invariant. -/
theorem demoAct_sessionInv (hnd : (courses.map Course.courseId).Nodup) (hc : t.courses = courses)
    (h : demoAct t a ℓ = some (t', a')) (hinv : DemoSessionInv courses a) :
    DemoSessionInv courses a' := by
  cases ℓ
  case start =>
    obtain ⟨-, -, hmin, hmax, ⟨hs, hlt, hlen⟩, rfl⟩ := demoAct_start h
    subst hc
    refine ⟨fun _ => ⟨hmin, hmax, ?_⟩, fun c hc => mem_filterMap_getElem? hc,
      nodup_filterMap_getElem? hnd hs, Nat.zero_le _, by simp, by simp, by simp⟩
    rw [length_filterMap_getElem? hlt, hlen]
  case request draw =>
    obtain ⟨c, hpc, hget, hreq⟩ := demoAct_request h
    have hlt : a.position < a.coursesToTry.length := (List.getElem?_eq_some_iff.mp hget).1
    obtain ⟨-, ⟨code, hcode, rfl⟩ | ⟨-, rfl⟩⟩ := demoRequest_spec hreq
    · refine ⟨hinv.target, hinv.sampled, hinv.distinct, hlt, ?_, fun r hr => ?_,
        fun h => by simp [hpc] at h⟩
      · rw [List.take_succ, hget, List.map_append, List.map_append, hinv.requested]; rfl
      · rcases List.mem_append.mp hr with hr | hr
        · exact hinv.record r hr
        · obtain rfl := List.mem_singleton.mp hr
          exact ⟨rfl, demoDecide_mem _ _, c, hinv.sampled c (List.getElem?_mem hget), rfl, hcode⟩
    · exact hinv.setPc (by simp [hpc]) nofun
  case finish =>
    obtain ⟨hpc, hnone, -, rfl⟩ := demoAct_finish h
    exact hinv.setPc (by simp [hpc]) fun _ =>
      le_antisymm hinv.position_le (List.getElem?_eq_none_iff.mp hnone)
  case collect =>
    obtain ⟨hpc, -, rfl⟩ := demoAct_collect h
    exact hinv.setPc (by simp [hpc]) fun _ => hinv.done (.inl hpc)

/-- No step changes the student a session serves. -/
theorem demoAct_student (h : demoAct t a ℓ = some (t', a')) : a'.student = a.student := by
  cases ℓ
  case start => rw [(demoAct_start h).2.2.2.2.2]
  case request =>
    obtain ⟨c, -, -, hreq⟩ := demoAct_request h
    rcases (demoRequest_spec hreq).2 with ⟨_, -, rfl⟩ | ⟨-, rfl⟩ <;> rfl
  case finish => rw [(demoAct_finish h).2.2.2]
  case collect => rw [(demoAct_collect h).2.2]

/-- The roster is read-only. -/
theorem demoAct_students (h : demoAct t a ℓ = some (t', a')) : t'.students = t.students := by
  cases ℓ
  case start => rw [(demoAct_start h).2.1]
  case request => obtain ⟨c, -, -, hreq⟩ := demoAct_request h; rw [(demoRequest_spec hreq).1]; rfl
  case finish => rw [(demoAct_finish h).2.2.1]
  case collect => rw [(demoAct_collect h).2.1]

variable {students : List Student} {s : DemoSystem}

/-- Over every demo run on a catalog with distinct ids, every session keeps
    its invariant. -/
theorem demoSessionInv_of_reachable (hnd : (courses.map Course.courseId).Nodup)
    (hr : DemoReachable (DemoSystem.init courses students) s) :
    ∀ a ∈ s.sessions, DemoSessionInv courses a := by
  refine DemoReachable.induct (fun s => ∀ a ∈ s.sessions, DemoSessionInv courses a) ?_
    (fun s ℓ s' hr hinv hs => ?_) hr
  · intro a ha
    obtain ⟨st, -, rfl⟩ := List.mem_map.mp ha
    exact ⟨nofun, nofun, List.nodup_nil, le_refl _, rfl, nofun, nofun⟩
  rcases demoStep_cases hs with ⟨-, hss, -⟩ | ⟨a, hget, t, a', hact, -, hss, -⟩
  · exact hss ▸ hinv
  rw [hss]
  intro b hb
  rcases List.mem_or_eq_of_mem_set hb with hb | rfl
  · exact hinv b hb
  · exact demoAct_sessionInv hnd (demoCourses_of_reachable hr) hact
      (hinv a (List.getElem?_mem hget))

/-- The sessions serve the roster, one each, in its order. -/
theorem demoStudents_of_reachable (hr : DemoReachable (DemoSystem.init courses students) s) :
    s.sessions.map DemoSession.student = students ∧ s.tester.students = students := by
  refine DemoReachable.induct
    (fun s => s.sessions.map DemoSession.student = students ∧ s.tester.students = students)
    ⟨by simp [DemoSystem.init, DemoSession.init, Function.comp_def], rfl⟩
    (fun s ℓ s' _ hinv hs => ?_) hr
  rcases demoStep_cases hs with ⟨ht, hss, -⟩ | ⟨a, hget, t, a', hact, ht, hss, -⟩
  · rw [ht, hss]; exact hinv
  rw [ht, hss, map_set_of_getElem? _ hget (demoAct_student hact), demoAct_students hact]
  exact hinv

/-- A collected session's records are its sample's courses, in order. -/
theorem DemoSessionInv.records_of_done {courses : List Course} {a : DemoSession}
    (h : DemoSessionInv courses a) (hc : a.pc = .collected) :
    a.studentRegistrations.map DemoRecord.courseId = a.coursesToTry.map Course.courseId := by
  rw [h.requested, h.done (.inr hc), List.take_length]

/-- A collected session has one record per course of its sample. -/
theorem DemoSessionInv.length_of_done {courses : List Course} {a : DemoSession}
    (h : DemoSessionInv courses a) (hc : a.pc = .collected) :
    a.studentRegistrations.length = min a.targetCourses courses.length := by
  rw [← (h.target (by simp [hc])).2.2, ← List.length_map _ DemoRecord.courseId,
    h.records_of_done hc, List.length_map]

end Sessions

section Collected

/-- The records a session has handed to `self.registrations`: all of them once
    it is collected, none before. -/
def DemoSession.collectedRecords (a : DemoSession) : List DemoRecord :=
  if a.pc = .collected then a.studentRegistrations else []

/-- Every record in `registrations` comes from one collected session. -/
def DemoCollected (s : DemoSystem) : Prop :=
  ∀ r, s.tester.registrations.count r = (s.sessions.map fun a => a.collectedRecords.count r).sum

variable {t t' : DemoTester} {a a' : DemoSession} {ℓ : DemoLabel}

/-- Only a collection adds records, and it adds the collected session's. -/
theorem demoAct_collectedRecords (h : demoAct t a ℓ = some (t', a')) (r : DemoRecord) :
    t'.registrations.count r + a.collectedRecords.count r =
      t.registrations.count r + a'.collectedRecords.count r := by
  cases ℓ
  case start =>
    obtain ⟨hpc, rfl, -, -, -, rfl⟩ := demoAct_start h
    simp [DemoSession.collectedRecords, hpc]
  case request draw =>
    obtain ⟨c, hpc, -, hreq⟩ := demoAct_request h
    obtain ⟨rfl, ⟨code, -, rfl⟩ | ⟨-, rfl⟩⟩ := demoRequest_spec hreq <;>
      simp [DemoSession.collectedRecords, hpc]
  case finish =>
    obtain ⟨hpc, -, rfl, rfl⟩ := demoAct_finish h
    simp [DemoSession.collectedRecords, hpc]
  case collect =>
    obtain ⟨hpc, rfl, rfl⟩ := demoAct_collect h
    simp [DemoSession.collectedRecords, hpc, List.count_append]

variable {courses : List Course} {students : List Student} {s : DemoSystem}

/-- Over every demo run, the records are those of the collected sessions. -/
theorem demoCollected_of_reachable (hr : DemoReachable (DemoSystem.init courses students) s) :
    DemoCollected s := by
  refine DemoReachable.induct DemoCollected (fun r => ?_) (fun s ℓ s' _ hinv hs r => ?_) hr
  · refine (List.sum_eq_zero fun x hx => ?_).symm
    obtain ⟨a, ha, rfl⟩ := List.mem_map.mp hx
    obtain ⟨st, -, rfl⟩ := List.mem_map.mp ha
    rfl
  rcases demoStep_cases hs with ⟨ht, hss, -⟩ | ⟨a, hget, t, a', hact, ht, hss, -⟩
  · rw [ht, hss]; exact hinv r
  rw [ht, hss]
  have hset := sum_map_set_add s.sessions (fun a => a.collectedRecords.count r) a' hget
  have hbal := demoAct_collectedRecords hact r
  have := hinv r
  dsimp only at hset ⊢
  omega

/-- At the end of a demo run, `registrations` is the sessions' records. -/
theorem demoRegistrations_perm_flatten (hr : DemoReachable (DemoSystem.init courses students) s)
    (hfin : DemoFinished s) :
    s.tester.registrations.Perm (s.sessions.map DemoSession.studentRegistrations).flatten :=
  List.perm_iff_count.mpr fun r => by
    rw [demoCollected_of_reachable hr r, List.count_flatten, List.map_map]
    congr 1
    refine List.map_congr_left fun a ha => ?_
    simp [DemoSession.collectedRecords, hfin.2 a ha]

/-- At the end of a demo run over a catalog with distinct ids, whatever the
    interleaving and the draws, `self.registrations` is the sessions' records,
    one session per roster entry, and each session requested its whole sample:
    `min(target, n)` distinct catalog courses for a target in `[3, 6]`, each
    record under its student's id, with `Enrolled`, `Waitlisted` or `Failed`,
    and with the code of the course it names. -/
theorem demo_sessions_request_sample (hnd : (courses.map Course.courseId).Nodup)
    (hr : DemoReachable (DemoSystem.init courses students) s) (hfin : DemoFinished s) :
    s.tester.registrations.Perm (s.sessions.map DemoSession.studentRegistrations).flatten ∧
    s.sessions.map DemoSession.student = students ∧
    ∀ a ∈ s.sessions, minCoursesPerStudent ≤ a.targetCourses ∧
      a.targetCourses ≤ maxCoursesPerStudent ∧
      a.studentRegistrations.length = min a.targetCourses courses.length ∧
      (a.studentRegistrations.map DemoRecord.courseId).Nodup ∧
      ∀ r ∈ a.studentRegistrations, r.studentId = a.student.studentId ∧
        (r.status = .enrolled ∨ r.status = .waitlisted ∨ r.status = .failed) ∧
        ∃ c ∈ courses, c.courseId = r.courseId ∧ c.courseCode = some r.courseCode := by
  refine ⟨demoRegistrations_perm_flatten hr hfin, (demoStudents_of_reachable hr).1,
    fun a ha => ?_⟩
  have hinv := demoSessionInv_of_reachable hnd hr a ha
  have hc := hfin.2 a ha
  obtain ⟨hmin, hmax, -⟩ := hinv.target (by simp [hc])
  exact ⟨hmin, hmax, hinv.length_of_done hc, hinv.records_of_done hc ▸ hinv.distinct, hinv.record⟩

theorem demo_sessions_request_sample_demo :
    demoTesterEnd.sessions.map DemoSession.student = demoRoster :=
  (demo_sessions_request_sample (by decide) (demoReachable_of_exec .refl demoExec_demoTesterRun)
    demoTesterEnd_finished).2.1

end Collected

section Tally

variable {R : Type} (status : R → Status) (key : R → String)

/-- One pass of a loop that fills a `defaultdict(int)`, kept as its keys in
    insertion order and its lookup: `d[key(r)] += 1` for an enrolled record. -/
def tallyEnrolled (counts : List String × (String → Nat)) (r : R) : List String × (String → Nat) :=
  if status r = .enrolled then
    (if key r ∈ counts.1 then counts.1 else counts.1 ++ [key r],
      Function.update counts.2 (key r) (counts.2 (key r) + 1))
  else counts

/-- The simulator's `student_course_counts` loop is the tally by `student_id`. -/
theorem countEnrolment_eq_tallyEnrolled :
    countEnrolment = tallyEnrolled Registration.status Registration.studentId := rfl

theorem foldl_tallyEnrolled_count (rs : List R) (acc : List String × (String → Nat)) (k : String) :
    (rs.foldl (tallyEnrolled status key) acc).2 k =
      acc.2 k + rs.countP fun r => status r = .enrolled ∧ key r = k := by
  induction rs generalizing acc with
  | nil => rfl
  | cons r rs ih =>
      rw [List.foldl_cons, ih, List.countP_cons]
      unfold tallyEnrolled
      by_cases he : status r = .enrolled
      · by_cases hk : key r = k
        · subst hk; simp [he]; omega
        · simp [he, hk, Function.update_noteq (Ne.symm hk)]
      · simp [he]

/-- One pass adds the record's key exactly when the record is enrolled. -/
theorem mem_tallyEnrolled (acc : List String × (String → Nat)) (r : R) (k : String) :
    k ∈ (tallyEnrolled status key acc r).1 ↔ k ∈ acc.1 ∨ status r = .enrolled ∧ key r = k := by
  unfold tallyEnrolled
  split_ifs with he hm
  · exact ⟨.inl, fun h => h.elim id fun h' => h'.2 ▸ hm⟩
  · simp [he, eq_comm]
  · simp [he]

theorem foldl_tallyEnrolled_mem (rs : List R) (acc : List String × (String → Nat)) (k : String) :
    k ∈ (rs.foldl (tallyEnrolled status key) acc).1 ↔
      k ∈ acc.1 ∨ ∃ r ∈ rs, status r = .enrolled ∧ key r = k := by
  induction rs generalizing acc with
  | nil => simp
  | cons r rs ih =>
      rw [List.foldl_cons, ih, mem_tallyEnrolled, or_assoc]
      simp only [List.mem_cons, exists_eq_or_imp]

theorem foldl_tallyEnrolled_nodup (rs : List R) {acc : List String × (String → Nat)}
    (h : acc.1.Nodup) : (rs.foldl (tallyEnrolled status key) acc).1.Nodup := by
  induction rs generalizing acc with
  | nil => exact h
  | cons r rs ih =>
      refine ih ?_
      unfold tallyEnrolled
      split_ifs with he hm
      · exact h
      · exact List.nodup_append.mpr ⟨h, List.nodup_singleton _, List.disjoint_singleton.mpr hm⟩
      · exact h

end Tally

section Results

/-- `student_enrolled_counts`: the enrolled records of each student. -/
def studentEnrolledCounts (rs : List DemoRecord) : List String × (String → Nat) :=
  rs.foldl (tallyEnrolled DemoRecord.status DemoRecord.studentId) ([], fun _ => 0)

/-- `course_enrollment`: the enrolled records of each course code. -/
def courseEnrollment (rs : List DemoRecord) : List String × (String → Nat) :=
  rs.foldl (tallyEnrolled DemoRecord.status DemoRecord.courseCode) ([], fun _ => 0)

/-- `sorted(course_enrollment.items(), key=lambda x: x[1], reverse=True)`. -/
def sortedCourseEnrollment (rs : List DemoRecord) : List (String × Nat) :=
  ((courseEnrollment rs).1.map fun k => (k, (courseEnrollment rs).2 k)).mergeSort
    fun x y => decide (y.2 ≤ x.2)

/-- `next(c for c in self.courses if c["course_code"] == course_code)`:
    `KeyError` at a course without a code reached before a match,
    `StopIteration` when none matches. -/
def findCourseByCode (code : String) : List Course → Except PyError Course
  | [] => .error .stopIteration
  | c :: cs =>
      match c.courseCode with
      | none => .error (.keyError "course_code")
      | some code' => if code' = code then .ok c else findCourseByCode code cs

/-- One line of "Top Course Enrollments": the code, its enrolled count, and
    `(count / course_info["total_slots"]) * 100`. -/
def topCourseLine (courses : List Course) (entry : String × Nat) :
    Except PyError (String × Nat × ℚ) := do
  let info ← findCourseByCode entry.1 courses
  let utilization ← pyDiv entry.2 info.totalSlots
  pure (entry.1, entry.2, utilization * 100)

/-- `next(s["first_name"] + " " + s["last_name"] for s in self.students if
    s["student_id"] == student_id)`: the generator tests the id of each roster
    entry and reads the names of the first that matches, so a `KeyError` names
    the first of the two keys that entry lacks, and `StopIteration` means no
    entry has the id. -/
def studentName (studentId : String) (students : List Student) : Except PyError String :=
  match students.find? (·.studentId == studentId) with
  | none => .error .stopIteration
  | some st =>
      match st.firstName, st.lastName with
      | none, _ => .error (.keyError "first_name")
      | some _, none => .error (.keyError "last_name")
      | some first, some last => .ok (first ++ " " ++ last)

/-- One line of "INDIVIDUAL STUDENT RESULTS": the id, the name, its enrolled
    count, and whether it passed. -/
def studentLine (students : List Student) (counts : String → Nat) (studentId : String) :
    Except PyError (String × String × Nat × Bool) := do
  let name ← studentName studentId students
  pure (studentId, name, counts studentId, decide (minCoursesPerStudent ≤ counts studentId))

/-- The figures `generate_demo_results` prints, in its order. -/
structure DemoSummary where
  totalAttempts : Nat
  enrolled : Nat
  waitlisted : Nat
  failed : Nat
  enrolledPercent : ℚ
  waitlistedPercent : ℚ
  failedPercent : ℚ
  studentsProcessed : Nat
  studentsWithMin : Nat
  studentsWithMinPercent : ℚ
  averageCourses : ℚ
  topCourses : List (String × Nat × ℚ)
  coursesAvailable : Nat
  individualResults : List (String × String × Nat × Bool)
  deriving DecidableEq, Repr

/-- `generate_demo_results`: the tallies, then each printed figure in the
    order the prints evaluate them, with the first exception raised. -/
def generateDemoResults (t : DemoTester) : Except PyError DemoSummary := do
  let rs := t.registrations
  let enrolled := rs.countP (·.status = .enrolled)
  let waitlisted := rs.countP (·.status = .waitlisted)
  let failed := rs.countP (·.status = .failed)
  let counts := studentEnrolledCounts rs
  let studentsWithMin := counts.1.countP fun k => minCoursesPerStudent ≤ counts.2 k
  let enrolledPercent ← pyDiv enrolled rs.length
  let waitlistedPercent ← pyDiv waitlisted rs.length
  let failedPercent ← pyDiv failed rs.length
  let minPercent ← pyDiv studentsWithMin t.students.length
  let average ← pyDiv rs.length t.students.length
  let top ← ((sortedCourseEnrollment rs).take 10).mapM (topCourseLine t.courses)
  let individual ← (counts.1.take 10).mapM (studentLine t.students counts.2)
  pure ⟨rs.length, enrolled, waitlisted, failed, enrolledPercent * 100, waitlistedPercent * 100,
    failedPercent * 100, t.students.length, studentsWithMin, minPercent * 100, average, top,
    t.courses.length, individual⟩

theorem mapM_eq_ok_of_forall {α β : Type} {f : α → Except PyError β} {P : β → Prop} :
    ∀ {l : List α}, (∀ x ∈ l, ∃ y, f x = .ok y ∧ P y) → ∃ ys, l.mapM f = .ok ys ∧ ∀ y ∈ ys, P y
  | [], _ => ⟨[], rfl, nofun⟩
  | x :: l, h => by
      obtain ⟨y, hy, hp⟩ := h x (List.mem_cons_self _ _)
      obtain ⟨ys, hys, hps⟩ := mapM_eq_ok_of_forall fun x hx => h x (List.mem_cons_of_mem _ hx)
      refine ⟨y :: ys, by rw [List.mapM_cons, hy, hys]; rfl, fun z hz => ?_⟩
      rcases List.mem_cons.mp hz with rfl | hz
      exacts [hp, hps z hz]

/-- With no records, the first share divides by zero. -/
theorem generateDemoResults_of_nil {t : DemoTester} (h : t.registrations = []) :
    generateDemoResults t = .error .zeroDivisionError := by
  simp [generateDemoResults, h, pyDiv, bind, Except.bind]

/-- With records and a roster, the results complete once both printing loops
    do, and report the counts of the records. -/
theorem generateDemoResults_eq_ok {t : DemoTester} (hrs : t.registrations ≠ [])
    (hst : t.students ≠ []) {top : List (String × Nat × ℚ)}
    {ind : List (String × String × Nat × Bool)}
    (htop : ((sortedCourseEnrollment t.registrations).take 10).mapM (topCourseLine t.courses) =
      .ok top)
    (hind : ((studentEnrolledCounts t.registrations).1.take 10).mapM
      (studentLine t.students (studentEnrolledCounts t.registrations).2) = .ok ind) :
    ∃ res, generateDemoResults t = .ok res ∧ res.totalAttempts = t.registrations.length ∧
      res.enrolled = t.registrations.countP (·.status = .enrolled) ∧
      res.waitlisted = t.registrations.countP (·.status = .waitlisted) ∧
      res.failed = t.registrations.countP (·.status = .failed) ∧
      res.studentsProcessed = t.students.length ∧
      res.studentsWithMin = (studentEnrolledCounts t.registrations).1.countP
        (fun k => minCoursesPerStudent ≤ (studentEnrolledCounts t.registrations).2 k) ∧
      res.topCourses = top := by
  have h1 : ((t.registrations.length : ℕ) : ℚ) ≠ 0 := by simpa using hrs
  have h2 : ((t.students.length : ℕ) : ℚ) ≠ 0 := by simpa using hst
  simp only [generateDemoResults, pyDiv, if_neg h1, if_neg h2, htop, hind]
  exact ⟨_, rfl, rfl, rfl, rfl, rfl, rfl, rfl, rfl⟩

/-- `next` over a catalog where every course has a code, all distinct, finds
    the course with the code. -/
theorem findCourseByCode_eq_ok {courses : List Course} (hcode : ∀ c ∈ courses, c.courseCode.isSome)
    (hnd : (courses.map Course.courseCode).Nodup) {c : Course} (hc : c ∈ courses) {code : String}
    (h : c.courseCode = some code) : findCourseByCode code courses = .ok c := by
  induction courses with
  | nil => cases hc
  | cons c' cs ih =>
      obtain ⟨code', hc'⟩ := Option.isSome_iff_exists.mp (hcode c' (List.mem_cons_self _ _))
      rcases List.mem_cons.mp hc with rfl | hc
      · simp [findCourseByCode, h]
      · have hne : code' ≠ code := fun he => (List.nodup_cons.mp hnd).1
          (hc' ▸ he ▸ h ▸ List.mem_map_of_mem _ hc)
        simp only [findCourseByCode, hc', if_neg hne]
        exact ih (fun c hc => hcode c (List.mem_cons_of_mem _ hc)) (List.nodup_cons.mp hnd).2 hc

/-- A roster entry whose id is looked up is found, and when every entry
    carries both names the line reads them. -/
theorem studentName_eq_ok {students : List Student}
    (hnames : ∀ st ∈ students, st.firstName.isSome ∧ st.lastName.isSome) {st : Student}
    (hst : st ∈ students) : ∃ name, studentName st.studentId students = .ok name := by
  unfold studentName
  cases hf : students.find? (·.studentId == st.studentId) with
  | none => exact absurd (List.find?_eq_none.mp hf st hst) (by simp)
  | some st' =>
      obtain ⟨hfirst, hlast⟩ := hnames st' (List.mem_of_find?_eq_some hf)
      obtain ⟨first, hf'⟩ := Option.isSome_iff_exists.mp hfirst
      obtain ⟨last, hl'⟩ := Option.isSome_iff_exists.mp hlast
      exact ⟨first ++ " " ++ last, by simp only [hf', hl']⟩

theorem countP_statuses_eq_length {rs : List DemoRecord}
    (h : ∀ r ∈ rs, r.status = .enrolled ∨ r.status = .waitlisted ∨ r.status = .failed) :
    rs.countP (·.status = .enrolled) + rs.countP (·.status = .waitlisted) +
      rs.countP (·.status = .failed) = rs.length := by
  induction rs with
  | nil => rfl
  | cons r rs ih =>
      rw [List.countP_cons, List.countP_cons, List.countP_cons, List.length_cons,
        ← ih fun r hr => h r (List.mem_cons_of_mem _ hr)]
      rcases h r (List.mem_cons_self _ _) with he | he | he <;> simp [he] <;> omega

end Results

section Complete

variable {courses : List Course} {students : List Student} {s : DemoSystem}

/-- A record at the end of a demo run is a roster student's, with a status of
    the locked block, for a catalog course and under its code. -/
theorem demoRecord_of_finished (hnd : (courses.map Course.courseId).Nodup)
    (hr : DemoReachable (DemoSystem.init courses students) s) (hfin : DemoFinished s)
    {r : DemoRecord} (hmem : r ∈ s.tester.registrations) :
    (∃ st ∈ students, st.studentId = r.studentId) ∧
      (r.status = .enrolled ∨ r.status = .waitlisted ∨ r.status = .failed) ∧
      ∃ c ∈ courses, c.courseId = r.courseId ∧ c.courseCode = some r.courseCode := by
  obtain ⟨l, hl, hrl⟩ := List.mem_flatten.mp ((demoRegistrations_perm_flatten hr hfin).subset hmem)
  obtain ⟨a, ha, rfl⟩ := List.mem_map.mp hl
  obtain ⟨hid, hst, hc⟩ := (demoSessionInv_of_reachable hnd hr a ha).record r hrl
  refine ⟨⟨a.student, ?_, hid.symm⟩, hst, hc⟩
  rw [← (demoStudents_of_reachable hr).1]
  exact List.mem_map_of_mem _ ha

/-- A demo run ends with no records exactly when the catalog or the roster is
    empty: every session requests `min(target, n)` courses, and `target ≥ 3`. -/
theorem demoRegistrations_eq_nil_iff (hnd : (courses.map Course.courseId).Nodup)
    (hr : DemoReachable (DemoSystem.init courses students) s) (hfin : DemoFinished s) :
    s.tester.registrations = [] ↔ courses = [] ∨ students = [] := by
  have hlen : ∀ a ∈ s.sessions, a.studentRegistrations.length = min a.targetCourses courses.length ∧
      minCoursesPerStudent ≤ a.targetCourses := fun a ha =>
    have hinv := demoSessionInv_of_reachable hnd hr a ha
    ⟨hinv.length_of_done (hfin.2 a ha), (hinv.target (by simp [hfin.2 a ha])).1⟩
  have hss : s.sessions = [] ↔ students = [] := by
    rw [← (demoStudents_of_reachable hr).1, List.map_eq_nil_iff]
  rw [← List.length_eq_zero, (demoRegistrations_perm_flatten hr hfin).length_eq,
    List.length_eq_zero, List.flatten_eq_nil_iff, List.forall_mem_map]
  constructor
  · intro h
    by_contra hne
    obtain ⟨a, ha⟩ := List.exists_mem_of_ne_nil _ (mt hss.mp fun h' => hne (.inr h'))
    have ⟨h1, h2⟩ := hlen a ha
    rw [h a ha, List.length_nil] at h1
    exact hne (.inl (List.length_eq_zero.mp (by simp only [minCoursesPerStudent] at h2; omega)))
  · rintro (rfl | h) a ha
    · exact List.length_eq_zero.mp (by simp [(hlen a ha).1])
    · exact absurd ha (by simp [hss.mpr h])

/-- On a well-formed catalog with distinct codes, each line of "Top Course
    Enrollments" completes: its code is a catalog course's, its count that
    course's enrolled records, at most its seats, and the utilization within
    `[0, 100]`. -/
theorem topCourseLine_of_mem (hwf : WellFormed courses)
    (hcodes : (courses.map Course.courseCode).Nodup)
    (hr : DemoReachable (DemoSystem.init courses students) s) (hfin : DemoFinished s)
    {k : String} (hk : k ∈ (courseEnrollment s.tester.registrations).1) :
    ∃ line, topCourseLine courses (k, (courseEnrollment s.tester.registrations).2 k) = .ok line ∧
      ∃ c ∈ courses, c.courseCode = some line.1 ∧ (line.2.1 : Int) ≤ c.totalSlots ∧
        line.2.2 ∈ Set.Icc 0 100 := by
  obtain ⟨r, hmem, he, rfl⟩ := ((foldl_tallyEnrolled_mem _ _ _ _ k).mp hk).resolve_left
    (List.not_mem_nil _)
  obtain ⟨-, -, c, hc, hid, hcode⟩ := demoRecord_of_finished hwf.nodup_ids hr hfin hmem
  have hcount : (courseEnrollment s.tester.registrations).2 r.courseCode =
      s.tester.registrations.countP fun r' => r'.courseId = c.courseId ∧ r'.status = .enrolled := by
    rw [courseEnrollment, foldl_tallyEnrolled_count, zero_add]
    refine List.countP_congr fun r' hr' => ?_
    obtain ⟨-, -, c', hc', hid', hcode'⟩ := demoRecord_of_finished hwf.nodup_ids hr hfin hr'
    simp only [decide_eq_true_eq, and_comm (a := r'.status = _)]
    refine and_congr_left fun _ => ⟨fun h => ?_, fun h => ?_⟩
    · rw [← hid', List.inj_on_of_nodup_map hcodes hc' hc (by rw [hcode', hcode, h])]
    · have := List.inj_on_of_nodup_map hwf.nodup_ids hc' hc (by rw [hid', h])
      subst this
      exact Option.some_injective _ (hcode'.symm.trans hcode)
  obtain ⟨hseats, hfree⟩ := demoEnrolled_eq_seats_lost hwf hr hfin hc
  have hpos : 0 < (courseEnrollment s.tester.registrations).2 r.courseCode :=
    hcount ▸ List.countP_pos_iff.mpr ⟨r, hmem, by simp [hid, he]⟩
  rw [← hcount] at hseats
  have hleZ : ((courseEnrollment s.tester.registrations).2 r.courseCode : Int) ≤ c.totalSlots := by
    omega
  have hle : ((courseEnrollment s.tester.registrations).2 r.courseCode : ℚ) ≤ c.totalSlots := by
    exact_mod_cast hleZ
  have hslots : (0 : ℚ) < c.totalSlots := lt_of_lt_of_le (by exact_mod_cast hpos) hle
  refine ⟨(r.courseCode, (courseEnrollment s.tester.registrations).2 r.courseCode,
    ((courseEnrollment s.tester.registrations).2 r.courseCode : ℚ) / c.totalSlots * 100), ?_, c, hc,
    hcode, hleZ, by positivity, mul_le_of_le_one_left (by norm_num) ((div_le_one hslots).mpr hle)⟩
  simp only [topCourseLine, findCourseByCode_eq_ok hwf.code_isSome hcodes hc hcode, bind,
    Except.bind, pyDiv, if_neg hslots.ne']
  rfl

theorem generateDemoResults_ok_of_finished (hwf : WellFormed courses)
    (hcodes : (courses.map Course.courseCode).Nodup)
    (hnames : ∀ st ∈ students, st.firstName.isSome ∧ st.lastName.isSome)
    (hr : DemoReachable (DemoSystem.init courses students) s) (hfin : DemoFinished s)
    (hc : courses ≠ []) (hs : students ≠ []) :
    ∃ res, generateDemoResults s.tester = .ok res ∧
      res.enrolled + res.waitlisted + res.failed = res.totalAttempts ∧
      res.studentsWithMin ≤ res.studentsProcessed ∧
      ∀ line ∈ res.topCourses, ∃ c ∈ courses, c.courseCode = some line.1 ∧
        (line.2.1 : Int) ≤ c.totalSlots ∧ line.2.2 ∈ Set.Icc 0 100 := by
  have hrec := fun {r} => @demoRecord_of_finished courses students s hwf.nodup_ids hr hfin r
  have hrs : s.tester.registrations ≠ [] := fun h =>
    ((demoRegistrations_eq_nil_iff hwf.nodup_ids hr hfin).mp h).elim hc hs
  have hst := (demoStudents_of_reachable hr).2
  have hkeys : ∀ k ∈ (studentEnrolledCounts s.tester.registrations).1,
      ∃ st ∈ students, st.studentId = k := fun k hk => by
    obtain ⟨r, hmem, -, rfl⟩ := ((foldl_tallyEnrolled_mem _ _ _ _ k).mp hk).resolve_left
      (List.not_mem_nil _)
    exact (hrec hmem).1
  obtain ⟨top, htop, hlines⟩ := mapM_eq_ok_of_forall
    (P := fun line : String × Nat × ℚ => ∃ c ∈ courses, c.courseCode = some line.1 ∧
      (line.2.1 : Int) ≤ c.totalSlots ∧ line.2.2 ∈ Set.Icc 0 100)
    (f := topCourseLine s.tester.courses) (l := (sortedCourseEnrollment s.tester.registrations).take 10)
    fun x hx => by
      have hx' := List.mem_of_mem_take hx
      rw [sortedCourseEnrollment, List.mem_mergeSort] at hx'
      obtain ⟨k, hk, rfl⟩ := List.mem_map.mp hx'
      rw [demoCourses_of_reachable hr]
      exact topCourseLine_of_mem hwf hcodes hr hfin hk
  obtain ⟨ind, hind, -⟩ := mapM_eq_ok_of_forall (P := fun _ => True)
    (f := studentLine s.tester.students (studentEnrolledCounts s.tester.registrations).2)
    (l := (studentEnrolledCounts s.tester.registrations).1.take 10) fun k hk => by
      obtain ⟨st, hst', rfl⟩ := hkeys k (List.mem_of_mem_take hk)
      obtain ⟨name, hf⟩ := studentName_eq_ok hnames hst'
      exact ⟨_, by simp only [studentLine, hst, hf, bind, Except.bind]; rfl, trivial⟩
  obtain ⟨res, hres, htot, hen, hwl, hfl, hproc, hmin, htopc⟩ :=
    generateDemoResults_eq_ok hrs (by rw [hst]; exact hs) htop hind
  refine ⟨res, hres, ?_, ?_, htopc ▸ hlines⟩
  · rw [htot, hen, hwl, hfl]
    exact countP_statuses_eq_length fun r hr' => (hrec hr').2.1
  · have hsub : (studentEnrolledCounts s.tester.registrations).1 ⊆ students.map Student.studentId :=
      fun k hk => List.mem_map.mpr (hkeys k hk)
    rw [hmin, hproc, hst]
    refine (List.countP_le_length _).trans ?_
    simpa using (List.subperm_of_subset (foldl_tallyEnrolled_nodup _ _ _ List.nodup_nil) hsub).length_le

/-- `generate_demo_results` at the end of a demo run over a well-formed
    catalog with distinct course codes and a roster whose entries carry
    `first_name` and `last_name`, as `generate_students` writes them, whatever
    the interleaving and the draws, raises `ZeroDivisionError` exactly when
    the catalog or the roster is empty. Otherwise it completes: the three
    outcomes share out all the attempts, the students at the minimum are at
    most the roster, and each top-course line names a catalog course, counts
    at most its seats and reports a utilization within `[0, 100]`. -/
theorem demo_results_complete_iff_nonempty (hwf : WellFormed courses)
    (hcodes : (courses.map Course.courseCode).Nodup)
    (hnames : ∀ st ∈ students, st.firstName.isSome ∧ st.lastName.isSome)
    (hr : DemoReachable (DemoSystem.init courses students) s) (hfin : DemoFinished s) :
    (generateDemoResults s.tester = .error .zeroDivisionError ↔ courses = [] ∨ students = []) ∧
    (courses ≠ [] → students ≠ [] → ∃ res, generateDemoResults s.tester = .ok res ∧
      res.enrolled + res.waitlisted + res.failed = res.totalAttempts ∧
      res.studentsWithMin ≤ res.studentsProcessed ∧
      ∀ line ∈ res.topCourses, ∃ c ∈ courses, c.courseCode = some line.1 ∧
        (line.2.1 : Int) ≤ c.totalSlots ∧ line.2.2 ∈ Set.Icc 0 100) := by
  refine ⟨⟨fun herr => ?_, fun h => generateDemoResults_of_nil
    ((demoRegistrations_eq_nil_iff hwf.nodup_ids hr hfin).mpr h)⟩,
    generateDemoResults_ok_of_finished hwf hcodes hnames hr hfin⟩
  by_contra hne
  obtain ⟨res, hres, -⟩ := generateDemoResults_ok_of_finished hwf hcodes hnames hr hfin
    (fun h => hne (.inl h)) (fun h => hne (.inr h))
  rw [hres] at herr
  cases herr

theorem demo_results_complete_iff_nonempty_demo :
    (generateDemoResults demoTesterEnd.tester = .error .zeroDivisionError ↔
      demoCatalog (some "CS101") = [] ∨ demoRoster = []) :=
  (demo_results_complete_iff_nonempty demoCatalog_wellFormed (by decide)
    (by simp [demoRoster, demoStudent])
    (demoReachable_of_exec .refl demoExec_demoTesterRun) demoTesterEnd_finished).1

end Complete

end CourseRegistration
