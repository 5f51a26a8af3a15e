import CourseRegistration.DemoResults
import CourseRegistration.Ranges
import Mathlib.Data.Nat.Digits

/-!
# The Roster

Who the "students with at least three courses" figure counts, and why the
generated roster lets it count them.

Both testers tally enrolled records by `student_id` in a `defaultdict(int)`
and count the keys whose tally reaches the minimum. A key is a student id, not
a student: two roster entries sharing an id share a tally. On a roster with
distinct ids the figure is exactly the number of roster students with at
least `min_courses_per_student` enrolled records
(`countP_keys_foldl_tallyEnrolled`), for the simulator's
`students_with_min_courses` and for the demo's `students_with_min` alike.

`generate_test_data.py` builds the roster with ids `f"STU{i+1:06d}"`. The
digits after `STU` read back as `i + 1` (`decimalValue_zeroPadded`), so the
generated ids are distinct, and for fewer than ten million students they fit
the `student_id VARCHAR(10) PRIMARY KEY` column the generator's SQL export
declares (`generated_student_ids_fit_key`).

## Main definitions

* `decimalValue`: The number a run of decimal digits denotes.
* `zeroPadded`: `format(n, "0<width>d")`.
* `generatedStudentId`, `generateStudents`: The roster of `generate_students`.

## Theorems

* `decimalValue_zeroPadded`: A zero-padded number reads back.
* `generated_student_ids_fit_key`: Generated ids are distinct and at most ten
  characters long.
* `countP_keys_foldl_tallyEnrolled`: Counting a tally's keys is counting the
  ids they come from.
* `students_with_min_courses_counts_students`: The simulator's figure counts
  roster students.
* `demo_students_with_min_counts_students`: So does the demo's.
-/

namespace CourseRegistration

section Ids

/-- The number a run of decimal digit characters denotes. -/
def decimalValue (cs : List Char) : Nat := cs.foldl (fun acc c => 10 * acc + (c.toNat - 48)) 0

/-- `format(n, "0<width>d")`: the decimal digits of `n`, padded with zeros on
    the left to `width` characters. -/
def zeroPadded (width n : Nat) : String :=
  ⟨List.replicate (width - (Nat.toDigits 10 n).length) '0' ++ Nat.toDigits 10 n⟩

/-- `f"STU{i+1:06d}"`: the id `generate_students` gives its `i`-th student. -/
def generatedStudentId (i : Nat) : String := "STU" ++ zeroPadded 6 (i + 1)

/-- The roster `generate_students` builds, with the keys the testers read; the
    `i`-th pair of names is what its two `random.choice` draws pick. -/
def generateStudents (n : Nat) (names : Nat → String × String) : List Student :=
  (List.range n).map fun i => ⟨generatedStudentId i, some (names i).1, some (names i).2⟩

theorem decimalValue_append_singleton (cs : List Char) (c : Char) :
    decimalValue (cs ++ [c]) = 10 * decimalValue cs + (c.toNat - 48) := by
  simp [decimalValue, List.foldl_append]

theorem decimalValue_zeros_append (k : Nat) (cs : List Char) :
    decimalValue (List.replicate k '0' ++ cs) = decimalValue cs := by
  induction k with
  | zero => rfl
  | succ k ih => simpa [decimalValue] using ih

theorem toDigitsCore_append (f n : Nat) (ds : List Char) :
    Nat.toDigitsCore 10 f n ds = Nat.toDigitsCore 10 f n [] ++ ds := by
  induction f generalizing n ds with
  | zero => rfl
  | succ f ih =>
      simp only [Nat.toDigitsCore]
      split
      · rfl
      · rw [ih, ih (n / 10) [_], List.append_assoc]; rfl

theorem digitChar_value : ∀ k < 10, (Nat.digitChar k).toNat - 48 = k := by decide

/-- With fuel above `n`, the digits `toDigitsCore` writes read back as `n`. -/
theorem decimalValue_toDigitsCore {f n : Nat} (h : n < f) :
    decimalValue (Nat.toDigitsCore 10 f n []) = n := by
  induction f generalizing n with
  | zero => omega
  | succ f ih =>
      have hd := digitChar_value _ (Nat.mod_lt n (show 10 > 0 by norm_num))
      simp only [Nat.toDigitsCore]
      split
      · rw [← List.nil_append [_], decimalValue_append_singleton, hd]
        simp only [decimalValue, List.foldl_nil]
        omega
      · rw [toDigitsCore_append, decimalValue_append_singleton, ih (by omega), hd]
        omega

theorem decimalValue_zeroPadded (width n : Nat) : decimalValue (zeroPadded width n).toList = n := by
  rw [zeroPadded, String.toList, decimalValue_zeros_append]
  exact decimalValue_toDigitsCore (Nat.lt_succ_self n)

/-- A number below `10 ^ (e + 1)`, padded to at most `e + 1` characters, has
    at most `e + 1` characters. -/
theorem zeroPadded_length {width e n : Nat} (h : n < 10 ^ (e + 1)) (hw : width ≤ e + 1) :
    (zeroPadded width n).length ≤ e + 1 := by
  have hd : (Nat.toDigits 10 n).length ≤ e + 1 :=
    Nat.toDigitsCore_length 10 (by norm_num) (n + 1) n (e + 1) h (Nat.succ_pos _)
  simp only [zeroPadded, String.length, List.length_append, List.length_replicate]
  omega

/-- `generate_students` gives its students distinct ids, each of which reads
    back as the student's number after `STU`; up to ten million students,
    every id fits the students table's `VARCHAR(10)` primary key. -/
theorem generated_student_ids_fit_key (n : Nat) (names : Nat → String × String) :
    (∀ i, decimalValue ((generatedStudentId i).toList.drop 3) = i + 1) ∧
    ((generateStudents n names).map Student.studentId).Nodup ∧
    (n ≤ 9999999 → ∀ st ∈ generateStudents n names, st.studentId.length ≤ 10) := by
  have hdecode : ∀ i, decimalValue ((generatedStudentId i).toList.drop 3) = i + 1 := fun i => by
    rw [generatedStudentId, String.toList, String.data_append]
    exact decimalValue_zeroPadded 6 (i + 1)
  refine ⟨hdecode, ?_, fun hn st hst => ?_⟩
  · rw [generateStudents, List.map_map]
    refine List.nodup_range n |>.map fun i j h => ?_
    have := congrArg (fun s : String => decimalValue (s.toList.drop 3)) h
    simp only [Function.comp_apply, hdecode] at this
    omega
  · obtain ⟨i, hi, rfl⟩ := List.mem_map.mp hst
    have hlen := @zeroPadded_length 6 6 (i + 1) (by rw [List.mem_range] at hi; norm_num; omega)
      (le_refl _ |>.trans (Nat.le_succ 6))
    simp only [generatedStudentId, String.length_append]
    exact Nat.add_le_add_left hlen 3

/-- The generator's 8200 students fit the key column, whatever their names. -/
theorem generated_student_ids_fit_key_default :
    ((generateStudents 8200 fun _ => ("John", "Smith")).all
      fun st => decide (st.studentId.length ≤ 10)) = true :=
  List.all_eq_true.mpr fun st hst =>
    decide_eq_true ((generated_student_ids_fit_key 8200 _).2.2 (by norm_num) st hst)

end Ids

section Keys

variable {R : Type} (status : R → Status) (key : R → String)

/-- With every enrolled record's key among distinct ids, counting the tally's
    keys whose count passes a test that a zero count fails is counting the
    ids whose count passes it. -/
theorem countP_keys_foldl_tallyEnrolled {rs : List R} {ids : List String} (hids : ids.Nodup)
    (hsub : ∀ r ∈ rs, status r = .enrolled → key r ∈ ids) {p : Nat → Bool} (hp : p 0 = false) :
    (rs.foldl (tallyEnrolled status key) ([], fun _ => 0)).1.countP
        (fun k => p ((rs.foldl (tallyEnrolled status key) ([], fun _ => 0)).2 k)) =
      ids.countP fun id => p ((rs.foldl (tallyEnrolled status key) ([], fun _ => 0)).2 id) := by
  set tally := rs.foldl (tallyEnrolled status key) ([], fun _ => 0)
  have hcount : ∀ k, tally.2 k = rs.countP fun r => status r = .enrolled ∧ key r = k := fun k => by
    rw [foldl_tallyEnrolled_count, zero_add]
  have hkeys : tally.1.Perm (ids.filter fun id => 0 < tally.2 id) := by
    refine (List.perm_ext_iff_of_nodup (foldl_tallyEnrolled_nodup _ _ _ List.nodup_nil)
      (hids.filter _)).mpr fun k => ?_
    rw [foldl_tallyEnrolled_mem, List.mem_filter, hcount, decide_eq_true_iff,
      List.countP_pos_iff]
    simp only [List.not_mem_nil, false_or, decide_eq_true_eq]
    exact ⟨fun ⟨r, hr, he, hk⟩ => ⟨hk ▸ hsub r hr he, r, hr, he, hk⟩, fun ⟨_, h⟩ => h⟩
  rw [hkeys.countP_eq, List.countP_filter]
  refine List.countP_congr fun id _ => ?_
  simp only [Bool.and_eq_true, decide_eq_true_eq, and_iff_left_iff_imp]
  intro h
  exact Nat.pos_of_ne_zero fun h0 => by rw [h0, hp] at h; cases h

end Keys

section Figures

variable {courses : List Course} {students : List Student}

/-- On a catalog with distinct ids and a roster with distinct ids, at every
    state of every simulator run, `students_with_min_courses` is the number of
    roster students with at least `min_courses_per_student` enrolled records. -/
theorem students_with_min_courses_counts_students {hot : List String} {s : System}
    (hnd : (courses.map Course.courseId).Nodup) (hids : (students.map Student.studentId).Nodup)
    (hr : Reachable (System.init courses students hot) s) :
    studentsWithMinCourses s.tester.registrations = students.countP fun st =>
      minCoursesPerStudent ≤ s.tester.registrations.countP fun r =>
        r.status = .enrolled ∧ r.studentId = st.studentId := by
  have h := countP_keys_foldl_tallyEnrolled Registration.status Registration.studentId hids
    (fun r hr' _ => registrations_students_of_reachable hnd hr r hr')
    (p := fun n => decide (minCoursesPerStudent ≤ n)) (by decide)
  rw [← countEnrolment_eq_tallyEnrolled, List.countP_map] at h
  simp only [studentsWithMinCourses, studentCourseCounts, foldl_countEnrolment_count, zero_add] at h ⊢
  exact h

theorem students_with_min_courses_counts_students_demo :
    studentsWithMinCourses demoEnd.tester.registrations = demoRoster.countP fun st =>
      minCoursesPerStudent ≤ demoEnd.tester.registrations.countP fun r =>
        r.status = .enrolled ∧ r.studentId = st.studentId :=
  students_with_min_courses_counts_students (by decide) (by decide)
    (reachable_of_exec .refl exec_demoRun)

/-- A completed `generate_demo_results` reports the tallies of the records. -/
theorem generateDemoResults_studentsWithMin {t : DemoTester} {res : DemoSummary}
    (h : generateDemoResults t = .ok res) :
    res.studentsWithMin = (studentEnrolledCounts t.registrations).1.countP
      fun k => minCoursesPerStudent ≤ (studentEnrolledCounts t.registrations).2 k := by
  by_cases hrs : t.registrations = []
  · rw [generateDemoResults_of_nil hrs] at h; cases h
  have h1 : ((t.registrations.length : ℕ) : ℚ) ≠ 0 := by simpa using hrs
  by_cases hst : t.students = []
  · simp [generateDemoResults, pyDiv, h1, hst, bind, Except.bind] at h
  have h2 : ((t.students.length : ℕ) : ℚ) ≠ 0 := by simpa using hst
  cases htop : ((sortedCourseEnrollment t.registrations).take 10).mapM (topCourseLine t.courses) with
  | error e =>
      simp only [generateDemoResults, pyDiv, if_neg h1, if_neg h2, htop, bind, Except.bind,
        reduceCtorEq] at h
  | ok top =>
      cases hind : ((studentEnrolledCounts t.registrations).1.take 10).mapM
          (studentLine t.students (studentEnrolledCounts t.registrations).2) with
      | error e =>
          simp only [generateDemoResults, pyDiv, if_neg h1, if_neg h2, htop, hind, bind,
            Except.bind, reduceCtorEq] at h
      | ok ind =>
          obtain ⟨res', hres', -, -, -, -, -, hmin, -⟩ := generateDemoResults_eq_ok hrs hst htop hind
          rw [hres'] at h
          cases h
          exact hmin

/-- On a catalog with distinct ids and a roster with distinct ids, at the end
    of every demo run, a completed `generate_demo_results` reports as students
    with at least three courses the number of roster students with at least
    three enrolled records. -/
theorem demo_students_with_min_counts_students {s : DemoSystem}
    (hnd : (courses.map Course.courseId).Nodup) (hids : (students.map Student.studentId).Nodup)
    (hr : DemoReachable (DemoSystem.init courses students) s) (hfin : DemoFinished s)
    {res : DemoSummary} (hres : generateDemoResults s.tester = .ok res) :
    res.studentsWithMin = students.countP fun st =>
      minCoursesPerStudent ≤ s.tester.registrations.countP fun r =>
        r.status = .enrolled ∧ r.studentId = st.studentId := by
  have h := countP_keys_foldl_tallyEnrolled DemoRecord.status DemoRecord.studentId hids
    (fun r (hr' : r ∈ s.tester.registrations) _ => by
      obtain ⟨⟨st, hst, hid⟩, -⟩ := demoRecord_of_finished hnd hr hfin hr'
      exact List.mem_map.mpr ⟨st, hst, hid⟩)
    (p := fun n => decide (minCoursesPerStudent ≤ n)) (by decide)
  rw [List.countP_map] at h
  rw [generateDemoResults_studentsWithMin hres, studentEnrolledCounts]
  simp only [foldl_tallyEnrolled_count, zero_add] at h ⊢
  exact h

theorem demo_students_with_min_counts_students_demo :
    ∃ res, generateDemoResults demoTesterEnd.tester = .ok res ∧
      res.studentsWithMin = demoRoster.countP fun st =>
        minCoursesPerStudent ≤ demoTesterEnd.tester.registrations.countP fun r =>
          r.status = .enrolled ∧ r.studentId = st.studentId := by
  have hr := demoReachable_of_exec .refl demoExec_demoTesterRun
  obtain ⟨res, hres, -⟩ := generateDemoResults_ok_of_finished demoCatalog_wellFormed (by decide)
    (by simp [demoRoster, demoStudent]) hr demoTesterEnd_finished (by simp [demoCatalog])
    (by simp [demoRoster])
  exact ⟨res, hres, demo_students_with_min_counts_students (by decide) (by decide) hr
    demoTesterEnd_finished hres⟩

end Figures

end CourseRegistration
