import CourseRegistration.System
import Mathlib.Data.List.Sort
import Mathlib.Data.Rat.Floor
import Mathlib.Algebra.BigOperators.Group.List

/-!
# The Metrics

`calculate_slo_metrics` and the `calculate_test_results` it ends with: a
terminal reduction of the tester's counters, latency lists and records into
the `test_results` record the report reads.

Latencies are exact rationals here, and `round(x, 2)` rounds a rational to the
nearest hundredth, ties to even. `sorted` is the standard library's stable
merge sort, `statistics.median` averages the two middle values of an
even-length list, and `int(n * r)` is `⌊n * r⌋` for the exact ratio `r`. The
two fields the code draws with `random.uniform` are parameters.

Most of the reduction reads its inputs through order-blind views: lengths,
counts, sums and sorted lists. So the whole record is the same for any two
testers whose lists are permutations of each other (`metrics_order_independent`),
which is what makes the nondeterministic completion order of the sessions
harmless. `course_utilization` is the exception in kind, not in order: it is
keyed by `course_code`, which the catalog does not keep unique, so a later
course overwrites an earlier one's entry (`course_utilization_merges_shared_codes`).

## Main definitions

* `round2`, `pySorted`, `median`, `percentile`: The numeric helpers.
* `latencyOf`, `p95Of`: The latency blocks of `calculate_slo_metrics`.
* `sloMetricsOf`: The `slo_metrics` record.
* `studentCourseCounts`, `courseUtilizationOf`: The two dictionaries of
  `calculate_test_results`.
* `calculateTestResults`, `calculateSloMetrics`: The two methods.
* `SameUpToOrder`: Two testers that differ only in the order of their lists.

## Theorems

* `sloMetricsOf_ok`, `calculateSloMetrics_ok`: The metrics never raise on a
  catalog of sized, coded courses.
* `sloMetricsOf_retry_percents`: The two retry percentages read only the retry
  counters.
* `pySorted_perm`: Sorting forgets the order.
* `studentsWithMinCourses_perm`: The count of students at the minimum
  forgets the order of the records.
* `metrics_order_independent`: The whole record forgets the order.
* `course_utilization_merges_shared_codes`: Two courses with one code share
  one entry.
-/

namespace CourseRegistration

section Numbers

/-- Python's `/`: `ZeroDivisionError` on a zero divisor. -/
def pyDiv (a b : ℚ) : Except PyError ℚ :=
  if b = 0 then .error .zeroDivisionError else .ok (a / b)

/-- Round to the nearest integer, ties to the even one. -/
def roundHalfEven (q : ℚ) : ℤ :=
  if q - ⌊q⌋ < 1 / 2 then ⌊q⌋
  else if 1 / 2 < q - ⌊q⌋ then ⌊q⌋ + 1
  else if ⌊q⌋ % 2 = 0 then ⌊q⌋ else ⌊q⌋ + 1

/-- `round(x, 2)`. -/
def round2 (x : ℚ) : ℚ := roundHalfEven (x * 100) / 100

/-- `sorted` on a list of latencies. -/
def pySorted (l : List ℚ) : List ℚ := l.mergeSort fun a b => decide (a ≤ b)

/-- `l[i]`, with `IndexError` past the end. -/
def pyIndex (l : List ℚ) (i : Nat) : Except PyError ℚ :=
  match l[i]? with
  | some x => .ok x
  | none => .error .indexError

/-- `int(n * r)` for a ratio `r`. -/
def percentileIndex (n : Nat) (r : ℚ) : Nat := ⌊(n : ℚ) * r⌋.toNat

/-- `sorted_times[int(len(sorted_times) * r)]`. -/
def percentile (sorted : List ℚ) (r : ℚ) : Except PyError ℚ :=
  pyIndex sorted (percentileIndex sorted.length r)

/-- `statistics.median`: the middle value of the sorted data, or the mean of
    the two middle values when there is an even number of them. -/
def median (l : List ℚ) : Except PyError ℚ :=
  let data := pySorted l
  let n := data.length
  if n = 0 then .error .statisticsError
  else if n % 2 = 1 then pyIndex data (n / 2)
  else do
    let lo ← pyIndex data (n / 2 - 1)
    let hi ← pyIndex data (n / 2)
    pure ((lo + hi) / 2)

end Numbers

section Records

/-- `slo_metrics["throughput"]`. -/
structure Throughput where
  successfulRegistrationsPerSec : ℚ
  totalAttemptsPerSec : ℚ
  peakConcurrentUsers : Nat
  hotSectionOpsPerSec : ℚ
  deriving DecidableEq, Repr

/-- `slo_metrics["latency"]`. -/
structure Latency where
  p50Ms : ℚ
  p95Ms : ℚ
  p99Ms : ℚ
  tailGt1sPercent : ℚ
  deriving DecidableEq, Repr

/-- `slo_metrics["atomic_ops"]`. -/
structure AtomicOps where
  p95Ms : ℚ
  retryRatePercent : ℚ
  compensationSuccessPercent : ℚ
  deriving DecidableEq, Repr

/-- `slo_metrics["database"]`; `pool_utilization_p95` is drawn at random. -/
structure Database where
  writesPerSec : ℚ
  readsPerSec : ℚ
  p95TxnTimeMs : ℚ
  deadlockRatePercent : ℚ
  poolUtilizationP95 : ℚ
  deriving DecidableEq, Repr

/-- `slo_metrics["cache"]`; `p95_latency_ms` is drawn at random. -/
structure Cache where
  hitRatePercent : ℚ
  p95LatencyMs : ℚ
  hotKeyTimeouts : Nat
  evictions : Nat
  deriving DecidableEq, Repr

/-- `slo_metrics["reliability"]`. -/
structure Reliability where
  error5xxPercent : ℚ
  error4xxPercent : ℚ
  idempotencySuccessPercent : ℚ
  retrySuccessPercent : ℚ
  deriving DecidableEq, Repr

/-- `test_results["slo_metrics"]`. -/
structure SloMetrics where
  throughput : Throughput
  latency : Latency
  atomicOps : AtomicOps
  database : Database
  cache : Cache
  reliability : Reliability
  deriving DecidableEq, Repr

/-- One entry of `course_utilization`. -/
structure CourseUtilization where
  enrolled : Nat
  totalSlots : Int
  utilizationPercent : ℚ
  deriving DecidableEq, Repr

/-- `test_results["performance_metrics"]`. -/
structure PerformanceMetrics where
  avgResponseTimeMs : ℚ
  requestsPerSecond : ℚ
  totalThroughput : Nat
  deriving DecidableEq, Repr

/-- The fields of `test_results` the two methods write, with the run's
    `total_duration`. A dictionary is its entries in insertion order. -/
structure TestResults where
  totalDuration : ℚ
  sloMetrics : SloMetrics
  studentsProcessed : Nat
  registrationAttempts : Nat
  successfulRegistrations : Nat
  failedRegistrations : Nat
  waitlistedRegistrations : Nat
  studentsWithMinCourses : Nat
  courseUtilization : List (String × CourseUtilization)
  performanceMetrics : PerformanceMetrics
  deriving DecidableEq, Repr

/-- `slo_metrics` with the two randomly drawn fields cleared. -/
def SloMetrics.eraseDraws (m : SloMetrics) : SloMetrics :=
  { m with
    database := { m.database with poolUtilizationP95 := 0 }
    cache := { m.cache with p95LatencyMs := 0 } }

/-- The record with the two randomly drawn fields cleared. -/
def TestResults.eraseDraws (r : TestResults) : TestResults :=
  { r with sloMetrics := r.sloMetrics.eraseDraws }

end Records

section Metrics

/-- A rate per second of the run, `0` for a run of no duration. -/
def perSec (totalDuration x : ℚ) : ℚ := if 0 < totalDuration then x / totalDuration else 0

/-- The `if self.request_times:` block: p50, p95, p99 and the share of
    requests over one second, all `0` without requests. -/
def latencyOf (requestTimes : List ℚ) : Except PyError (ℚ × ℚ × ℚ × ℚ) :=
  if requestTimes = [] then pure (0, 0, 0, 0)
  else do
    let sortedTimes := pySorted requestTimes
    let p50 ← median sortedTimes
    let p95 ← percentile sortedTimes 0.95
    let p99 ← percentile sortedTimes 0.99
    let tailGt1s := requestTimes.countP (1000 < ·)
    pure (p50, p95, p99, (tailGt1s : ℚ) / requestTimes.length * 100)

/-- The atomic-operation and database blocks: the p95 of a latency list, `0`
    for an empty one. -/
def p95Of (times : List ℚ) : Except PyError ℚ :=
  if times = [] then pure 0 else percentile (pySorted times) 0.95

/-- The `slo_metrics` record `calculate_slo_metrics` builds. -/
def sloMetricsOf (t : Tester) (totalDuration poolUtilization cacheLatency : ℚ) :
    Except PyError SloMetrics := do
  let totalRegistrations := t.registrations.length
  let successfulCount := t.registrations.countP (·.status = .enrolled)
  let (p50, p95, p99, tailPercent) ← latencyOf t.requestTimes
  let atomicP95 ← p95Of t.atomicOpTimes
  let retryRate : ℚ :=
    if 0 < totalRegistrations then (t.retryCount : ℚ) / totalRegistrations * 100 else 0
  let compensationSuccess : ℚ :=
    if 0 < t.retryCount then (t.successfulRetries : ℚ) / t.retryCount * 100 else 100
  let writes := successfulCount + t.registrations.countP (·.status = .waitlisted)
  let cacheTotal := t.cacheHitCount + t.cacheMissCount
  let actualDbReads : ℚ := t.cacheMissCount + successfulCount * 0.3
  let dbP95 ← p95Of t.dbTxnTimes
  let cacheHitRate : ℚ := if 0 < cacheTotal then (t.cacheHitCount : ℚ) / cacheTotal * 100 else 0
  let error5xxRate : ℚ :=
    if 0 < totalRegistrations then (t.error5xxCount : ℚ) / totalRegistrations * 100 else 0
  let error4xxRate : ℚ :=
    if 0 < totalRegistrations then (t.error4xxCount : ℚ) / totalRegistrations * 100 else 0
  let retrySuccess : ℚ :=
    if 0 < t.retryCount then (t.successfulRetries : ℚ) / t.retryCount * 100 else 99.95
  pure
    { throughput :=
        { successfulRegistrationsPerSec := round2 (perSec totalDuration successfulCount)
          totalAttemptsPerSec := round2 (perSec totalDuration totalRegistrations)
          peakConcurrentUsers := t.peakConcurrentUsers
          hotSectionOpsPerSec := round2 (perSec totalDuration t.hotSectionOps.length) }
      latency :=
        { p50Ms := round2 p50, p95Ms := round2 p95, p99Ms := round2 p99
          tailGt1sPercent := round2 tailPercent }
      atomicOps :=
        { p95Ms := round2 atomicP95, retryRatePercent := round2 retryRate
          compensationSuccessPercent := round2 compensationSuccess }
      database :=
        { writesPerSec := round2 (perSec totalDuration writes)
          readsPerSec := round2 (perSec totalDuration actualDbReads)
          p95TxnTimeMs := round2 dbP95
          deadlockRatePercent := 0.05
          poolUtilizationP95 := poolUtilization }
      cache :=
        { hitRatePercent := round2 cacheHitRate, p95LatencyMs := cacheLatency
          hotKeyTimeouts := 0, evictions := 0 }
      reliability :=
        { error5xxPercent := round2 error5xxRate, error4xxPercent := round2 error4xxRate
          idempotencySuccessPercent := round2 99.9
          retrySuccessPercent := round2 retrySuccess } }

/-- One pass of the loop that fills `student_course_counts`, a
    `defaultdict(int)` kept as its keys in insertion order and its lookup:
    `student_course_counts[reg["student_id"]] += 1` for an enrolled record. -/
def countEnrolment (counts : List String × (String → Nat)) (r : Registration) :
    List String × (String → Nat) :=
  if r.status = .enrolled then
    (if r.studentId ∈ counts.1 then counts.1 else counts.1 ++ [r.studentId],
      Function.update counts.2 r.studentId (counts.2 r.studentId + 1))
  else counts

/-- `student_course_counts`. -/
def studentCourseCounts (rs : List Registration) : List String × (String → Nat) :=
  rs.foldl countEnrolment ([], fun _ => 0)

/-- `students_with_min_courses`: the values of `student_course_counts` that
    reach the minimum. -/
def studentsWithMinCourses (rs : List Registration) : Nat :=
  (studentCourseCounts rs).1.countP fun k => minCoursesPerStudent ≤ (studentCourseCounts rs).2 k

/-- `d[key] = value` on a dictionary kept as its entries in insertion order: a
    key already there keeps its place and takes the new value. -/
def dictSet {V : Type} (d : List (String × V)) (key : String) (value : V) : List (String × V) :=
  if d.any (·.1 == key) then d.map fun e => if e.1 = key then (key, value) else e
  else d ++ [(key, value)]

/-- The `course_utilization` loop over the catalog, from a given dictionary:
    count the course's enrolled records, divide by its `total_slots`, and store
    the entry under its `course_code`. -/
def courseUtilizationFrom (rs : List Registration) :
    List (String × CourseUtilization) → List Course →
      Except PyError (List (String × CourseUtilization))
  | d, [] => .ok d
  | d, course :: courses => do
      let enrolledInCourse :=
        rs.countP fun r => r.courseId = course.courseId ∧ r.status = .enrolled
      let utilization ← pyDiv enrolledInCourse course.totalSlots
      match course.courseCode with
      | none => .error (.keyError "course_code")
      | some code =>
          courseUtilizationFrom rs
            (dictSet d code ⟨enrolledInCourse, course.totalSlots, round2 (utilization * 100)⟩)
            courses

/-- `course_utilization`. -/
def courseUtilizationOf (courses : List Course) (rs : List Registration) :
    Except PyError (List (String × CourseUtilization)) :=
  courseUtilizationFrom rs [] courses

/-- `calculate_test_results`, given the `slo_metrics` already stored. -/
def calculateTestResults (t : Tester) (totalDuration : ℚ) (slo : SloMetrics) :
    Except PyError TestResults := do
  let totalRegistrations := t.registrations.length
  let courseUtilization ← courseUtilizationOf t.courses t.registrations
  let responseTimes := t.registrations.map (·.responseTimeMs)
  let avgResponseTime : ℚ :=
    if responseTimes = [] then 0 else responseTimes.sum / responseTimes.length
  pure
    { totalDuration := totalDuration
      sloMetrics := slo
      studentsProcessed := t.students.length
      registrationAttempts := totalRegistrations
      successfulRegistrations := t.registrations.countP (·.status = .enrolled)
      failedRegistrations := t.registrations.countP (·.status = .failed)
      waitlistedRegistrations := t.registrations.countP (·.status = .waitlisted)
      studentsWithMinCourses := studentsWithMinCourses t.registrations
      courseUtilization := courseUtilization
      performanceMetrics :=
        { avgResponseTimeMs := round2 avgResponseTime
          requestsPerSecond := round2 (perSec totalDuration totalRegistrations)
          totalThroughput := totalRegistrations } }

/-- `calculate_slo_metrics`: the `slo_metrics` record, then
    `calculate_test_results`. -/
def calculateSloMetrics (t : Tester) (totalDuration poolUtilization cacheLatency : ℚ) :
    Except PyError TestResults := do
  let slo ← sloMetricsOf t totalDuration poolUtilization cacheLatency
  calculateTestResults t totalDuration slo

end Metrics

section Totality

theorem pyIndex_of_lt {l : List ℚ} {i : Nat} (h : i < l.length) : pyIndex l i = .ok l[i] := by
  simp [pyIndex, List.getElem?_eq_getElem h]

/-- `int(n * r)` is an index into a list of length `n` for a ratio below one. -/
theorem percentileIndex_lt {n : Nat} {r : ℚ} (hn : 0 < n) (hr : r < 1) : percentileIndex n r < n := by
  have h : ⌊(n : ℚ) * r⌋ < n :=
    Int.floor_lt.mpr (by exact_mod_cast mul_lt_of_lt_one_right (Nat.cast_pos.mpr hn) hr)
  unfold percentileIndex
  omega

theorem length_pySorted (l : List ℚ) : (pySorted l).length = l.length :=
  (List.mergeSort_perm l _).length_eq

theorem percentile_ok {l : List ℚ} {r : ℚ} (hl : l ≠ []) (hr : r < 1) :
    ∃ x, percentile l r = .ok x :=
  ⟨_, pyIndex_of_lt (percentileIndex_lt (List.length_pos.mpr hl) hr)⟩

theorem median_ok {l : List ℚ} (hl : l ≠ []) : ∃ x, median l = .ok x := by
  have hn : 0 < (pySorted l).length := by rw [length_pySorted]; exact List.length_pos.mpr hl
  simp only [median]
  split_ifs with h0 h1
  · omega
  · exact ⟨_, pyIndex_of_lt (by omega)⟩
  · rw [pyIndex_of_lt (by omega), pyIndex_of_lt (by omega)]
    exact ⟨_, rfl⟩

theorem latencyOf_ok (l : List ℚ) : ∃ v, latencyOf l = .ok v := by
  simp only [latencyOf]
  split_ifs with hl
  · exact ⟨_, rfl⟩
  · have hs : pySorted l ≠ [] := by
      rw [← List.length_pos, length_pySorted]; exact List.length_pos.mpr hl
    obtain ⟨a, ha⟩ := median_ok hs
    obtain ⟨b, hb⟩ := percentile_ok hs (show (0.95 : ℚ) < 1 by norm_num)
    obtain ⟨c, hc⟩ := percentile_ok hs (show (0.99 : ℚ) < 1 by norm_num)
    rw [ha, hb, hc]
    exact ⟨_, rfl⟩

theorem p95Of_ok (l : List ℚ) : ∃ x, p95Of l = .ok x := by
  unfold p95Of
  split_ifs with hl
  · exact ⟨_, rfl⟩
  · exact percentile_ok (by rw [← List.length_pos, length_pySorted]; exact List.length_pos.mpr hl)
      (by norm_num)

/-- `calculate_slo_metrics` never raises before it reaches
    `calculate_test_results`: every index it reads is inside its list. -/
theorem sloMetricsOf_ok (t : Tester) (totalDuration p c : ℚ) :
    ∃ m, sloMetricsOf t totalDuration p c = .ok m := by
  obtain ⟨⟨a, b, c', d⟩, hl⟩ := latencyOf_ok t.requestTimes
  obtain ⟨e, he⟩ := p95Of_ok t.atomicOpTimes
  obtain ⟨f, hf⟩ := p95Of_ok t.dbTxnTimes
  unfold sloMetricsOf
  rw [hl, he, hf]
  exact ⟨_, rfl⟩

/-- The three retry percentages of `slo_metrics` read only the tester's retry
    counters and the number of records, whatever the latency lists hold. -/
theorem sloMetricsOf_retry_percents {t : Tester} {totalDuration p c : ℚ} {m : SloMetrics}
    (h : sloMetricsOf t totalDuration p c = .ok m) :
    m.atomicOps.retryRatePercent = round2 (if 0 < t.registrations.length then
        (t.retryCount : ℚ) / t.registrations.length * 100 else 0) ∧
    m.atomicOps.compensationSuccessPercent =
        round2 (if 0 < t.retryCount then (t.successfulRetries : ℚ) / t.retryCount * 100 else 100) ∧
      m.reliability.retrySuccessPercent =
        round2 (if 0 < t.retryCount then (t.successfulRetries : ℚ) / t.retryCount * 100 else 99.95) := by
  obtain ⟨⟨a, b, c', d⟩, hl⟩ := latencyOf_ok t.requestTimes
  obtain ⟨e, he⟩ := p95Of_ok t.atomicOpTimes
  obtain ⟨f, hf⟩ := p95Of_ok t.dbTxnTimes
  unfold sloMetricsOf at h
  rw [hl, he, hf] at h
  cases h
  exact ⟨rfl, rfl, rfl⟩

theorem courseUtilizationFrom_ok (rs : List Registration) {courses : List Course}
    (h : ∀ c ∈ courses, c.totalSlots ≠ 0 ∧ c.courseCode.isSome) (d : List (String × CourseUtilization)) :
    ∃ d', courseUtilizationFrom rs d courses = .ok d' := by
  induction courses generalizing d with
  | nil => exact ⟨d, rfl⟩
  | cons c cs ih =>
      obtain ⟨hslots, hcode⟩ := h c (List.mem_cons_self _ _)
      obtain ⟨code, hc⟩ := Option.isSome_iff_exists.mp hcode
      have hq : (c.totalSlots : ℚ) ≠ 0 := Int.cast_ne_zero.mpr hslots
      simp only [courseUtilizationFrom, pyDiv, hq, if_false, hc]
      exact ih (fun e he => h e (List.mem_cons_of_mem _ he)) _

/-- On a catalog with non-zero capacities and a `course_code` on every course,
    `calculate_slo_metrics` does not raise, and it records the roster size and
    the number of records. -/
theorem calculateSloMetrics_ok {t : Tester} (h : ∀ c ∈ t.courses, c.totalSlots ≠ 0 ∧ c.courseCode.isSome)
    (totalDuration p c : ℚ) :
    ∃ r, calculateSloMetrics t totalDuration p c = .ok r ∧
      r.studentsProcessed = t.students.length ∧ r.registrationAttempts = t.registrations.length := by
  obtain ⟨m, hm⟩ := sloMetricsOf_ok t totalDuration p c
  obtain ⟨u, hu⟩ := courseUtilizationFrom_ok t.registrations h []
  unfold calculateSloMetrics calculateTestResults courseUtilizationOf
  rw [hm, hu]
  exact ⟨_, rfl, rfl, rfl⟩

end Totality

section Order

theorem pySorted_sorted (l : List ℚ) : (pySorted l).Sorted (· ≤ ·) := by
  have h : (pySorted l).Pairwise fun a b => decide (a ≤ b) = true :=
    List.sorted_mergeSort (fun _ _ _ hab hbc => by simp only [decide_eq_true_eq] at *; exact hab.trans hbc)
      (fun a b => by simpa using le_total a b) l
  simpa [List.Sorted] using h

/-- Sorting forgets the order of the latencies. -/
theorem pySorted_perm {l l' : List ℚ} (h : l.Perm l') : pySorted l = pySorted l' :=
  List.eq_of_perm_of_sorted
    (((List.mergeSort_perm l _).trans h).trans (List.mergeSort_perm l' _).symm)
    (pySorted_sorted l) (pySorted_sorted l')

theorem latencyOf_perm {l l' : List ℚ} (h : l.Perm l') : latencyOf l = latencyOf l' := by
  simp only [latencyOf, ← List.length_eq_zero, h.length_eq, pySorted_perm h, h.countP_eq]

theorem p95Of_perm {l l' : List ℚ} (h : l.Perm l') : p95Of l = p95Of l' := by
  simp only [p95Of, ← List.length_eq_zero, h.length_eq, pySorted_perm h]

theorem foldl_countEnrolment_count (rs : List Registration) (acc : List String × (String → Nat))
    (k : String) : (rs.foldl countEnrolment acc).2 k =
      acc.2 k + rs.countP fun r => r.status = .enrolled ∧ r.studentId = k := by
  induction rs generalizing acc with
  | nil => rfl
  | cons r rs ih =>
      rw [List.foldl_cons, ih, List.countP_cons]
      unfold countEnrolment
      by_cases he : r.status = .enrolled
      · by_cases hk : r.studentId = k
        · subst hk; simp [he]; omega
        · simp [he, hk, Function.update_noteq (Ne.symm hk)]
      · simp [he]

theorem foldl_countEnrolment_mem (rs : List Registration) (acc : List String × (String → Nat))
    (k : String) : k ∈ (rs.foldl countEnrolment acc).1 ↔
      k ∈ acc.1 ∨ ∃ r ∈ rs, r.status = .enrolled ∧ r.studentId = k := by
  induction rs generalizing acc with
  | nil => simp
  | cons r rs ih =>
      rw [List.foldl_cons, ih]
      unfold countEnrolment
      by_cases he : r.status = .enrolled
      · simp only [he, if_true, List.mem_cons, exists_eq_or_imp, true_and]
        split_ifs with hm
        · constructor
          · rintro (h | h) <;> [exact .inl h; exact .inr (.inr h)]
          · rintro (h | rfl | h) <;> [exact .inl h; exact .inl hm; exact .inr h]
        · simp only [List.mem_append, List.mem_singleton]
          constructor
          · rintro ((h | rfl) | h) <;> [exact .inl h; exact .inr (.inl rfl); exact .inr (.inr h)]
          · rintro (h | rfl | h) <;> [exact .inl (.inl h); exact .inl (.inr rfl); exact .inr h]
      · simp [he]

theorem foldl_countEnrolment_nodup (rs : List Registration) {acc : List String × (String → Nat)}
    (h : acc.1.Nodup) : (rs.foldl countEnrolment acc).1.Nodup := by
  induction rs generalizing acc with
  | nil => exact h
  | cons r rs ih =>
      refine ih ?_
      unfold countEnrolment
      split_ifs with he hm
      · exact h
      · exact List.nodup_append.mpr ⟨h, List.nodup_singleton _, List.disjoint_singleton.mpr hm⟩
      · exact h

/-- The count of students at the minimum forgets the order of the records:
    the dictionary's keys are the same set, and its values the same counts. -/
theorem studentsWithMinCourses_perm {rs rs' : List Registration} (h : rs.Perm rs') :
    studentsWithMinCourses rs = studentsWithMinCourses rs' := by
  have hcount : (studentCourseCounts rs).2 = (studentCourseCounts rs').2 := funext fun k => by
    simp only [studentCourseCounts, foldl_countEnrolment_count, h.countP_eq]
  have hkeys : (studentCourseCounts rs).1.Perm (studentCourseCounts rs').1 :=
    (List.perm_ext_iff_of_nodup (foldl_countEnrolment_nodup rs List.nodup_nil)
      (foldl_countEnrolment_nodup rs' List.nodup_nil)).mpr fun k => by
        simp only [studentCourseCounts, foldl_countEnrolment_mem, h.mem_iff]
  unfold studentsWithMinCourses
  rw [hcount, hkeys.countP_eq]

theorem courseUtilizationFrom_perm {rs rs' : List Registration} (h : rs.Perm rs')
    (d : List (String × CourseUtilization)) (courses : List Course) :
    courseUtilizationFrom rs d courses = courseUtilizationFrom rs' d courses := by
  induction courses generalizing d with
  | nil => rfl
  | cons c cs ih => simp only [courseUtilizationFrom, h.countP_eq, ih]

/-- Two testers that differ only in the order in which sessions completed and
    requests finished: the same catalog, roster and counters, and lists that
    are permutations of each other. -/
structure SameUpToOrder (t t' : Tester) : Prop where
  courses : t.courses = t'.courses
  students : t.students = t'.students
  peakConcurrentUsers : t.peakConcurrentUsers = t'.peakConcurrentUsers
  cacheHitCount : t.cacheHitCount = t'.cacheHitCount
  cacheMissCount : t.cacheMissCount = t'.cacheMissCount
  error5xxCount : t.error5xxCount = t'.error5xxCount
  error4xxCount : t.error4xxCount = t'.error4xxCount
  retryCount : t.retryCount = t'.retryCount
  successfulRetries : t.successfulRetries = t'.successfulRetries
  registrations : t.registrations.Perm t'.registrations
  requestTimes : t.requestTimes.Perm t'.requestTimes
  atomicOpTimes : t.atomicOpTimes.Perm t'.atomicOpTimes
  dbTxnTimes : t.dbTxnTimes.Perm t'.dbTxnTimes
  hotSectionOps : t.hotSectionOps.Perm t'.hotSectionOps

end Order

section OrderIndependence

variable {t t' : Tester}

theorem sloMetricsOf_perm (h : SameUpToOrder t t') (totalDuration p c : ℚ) :
    sloMetricsOf t totalDuration p c = sloMetricsOf t' totalDuration p c := by
  simp only [sloMetricsOf, latencyOf_perm h.requestTimes, p95Of_perm h.atomicOpTimes,
    p95Of_perm h.dbTxnTimes, h.registrations.length_eq, h.registrations.countP_eq,
    h.hotSectionOps.length_eq, h.peakConcurrentUsers, h.cacheHitCount, h.cacheMissCount,
    h.error5xxCount, h.error4xxCount, h.retryCount, h.successfulRetries]

theorem calculateTestResults_perm (h : SameUpToOrder t t') (totalDuration : ℚ) (slo : SloMetrics) :
    calculateTestResults t totalDuration slo = calculateTestResults t' totalDuration slo := by
  have hsum := (h.registrations.map Registration.responseTimeMs).sum_eq
  have hnil : t.registrations.map Registration.responseTimeMs = [] ↔
      t'.registrations.map Registration.responseTimeMs = [] := by
    simp only [← List.length_eq_zero, List.length_map, h.registrations.length_eq]
  simp only [calculateTestResults, courseUtilizationOf, h.courses, h.students,
    courseUtilizationFrom_perm h.registrations, h.registrations.length_eq,
    h.registrations.countP_eq, studentsWithMinCourses_perm h.registrations, List.length_map]
  simp only [hsum, hnil]

theorem sloMetricsOf_eraseDraws (t : Tester) (totalDuration p c p' c' : ℚ) :
    (sloMetricsOf t totalDuration p c).map SloMetrics.eraseDraws =
      (sloMetricsOf t totalDuration p' c').map SloMetrics.eraseDraws := by
  unfold sloMetricsOf
  rcases latencyOf t.requestTimes with _ | ⟨_, _, _, _⟩ <;> rcases p95Of t.atomicOpTimes with _ | _ <;>
    rcases p95Of t.dbTxnTimes with _ | _ <;> rfl

theorem calculateTestResults_eraseDraws (t : Tester) (totalDuration : ℚ) (slo : SloMetrics) :
    (calculateTestResults t totalDuration slo).map TestResults.eraseDraws =
      calculateTestResults t totalDuration slo.eraseDraws := by
  unfold calculateTestResults
  cases courseUtilizationOf t.courses t.registrations <;> rfl

theorem calculateSloMetrics_eraseDraws (t : Tester) (totalDuration p c : ℚ) :
    (calculateSloMetrics t totalDuration p c).map TestResults.eraseDraws =
      ((sloMetricsOf t totalDuration p c).map SloMetrics.eraseDraws).bind
        (calculateTestResults t totalDuration) := by
  unfold calculateSloMetrics
  cases sloMetricsOf t totalDuration p c with
  | error e => rfl
  | ok slo => exact calculateTestResults_eraseDraws t totalDuration slo

/-- Two runs that differ only in the order in which sessions completed and
    requests finished get the same `test_results` from `calculate_slo_metrics`,
    apart from the two fields drawn at random, whatever those draws are; and
    if one raises, the other raises the same. -/
theorem metrics_order_independent (h : SameUpToOrder t t') (totalDuration p c p' c' : ℚ) :
    (calculateSloMetrics t totalDuration p c).map TestResults.eraseDraws =
      (calculateSloMetrics t' totalDuration p' c').map TestResults.eraseDraws := by
  have hres : calculateTestResults t totalDuration = calculateTestResults t' totalDuration :=
    funext (calculateTestResults_perm h totalDuration)
  rw [calculateSloMetrics_eraseDraws, calculateSloMetrics_eraseDraws,
    sloMetricsOf_eraseDraws t totalDuration p c p' c', sloMetricsOf_perm h, hres]

/-- A tester holding two request latencies, in the given order. -/
def twoRequests (requestTimes : List ℚ) : Tester :=
  { Tester.init (demoCatalog (some "CS101")) demoRoster [] with requestTimes := requestTimes }

theorem metrics_order_independent_swap :
    (calculateSloMetrics (twoRequests [100, 20]) 1 50 3).map TestResults.eraseDraws =
      (calculateSloMetrics (twoRequests [20, 100]) 1 60 4).map TestResults.eraseDraws :=
  @metrics_order_independent (twoRequests [100, 20]) (twoRequests [20, 100])
    ⟨rfl, rfl, rfl, rfl, rfl, rfl, rfl, rfl, rfl, .refl _, .swap _ _ _, .refl _, .refl _, .refl _⟩
    1 50 3 60 4

end OrderIndependence

section SharedCodes

/-- Two sections that share the code `ENG101`, as `generate_course_code` can
    draw for two courses: distinct ids, thirty seats each. -/
def sharedCodeCatalog : List Course :=
  [⟨"c-1", some "ENG101", 30, some ⟨"MWF", "09:00-10:30"⟩⟩,
    ⟨"c-2", some "ENG101", 30, some ⟨"TTh", "13:00-14:30"⟩⟩]

/-- One enrolment, in the first section. -/
def sharedCodeTester : Tester :=
  { Tester.init sharedCodeCatalog demoRoster [] with
    registrations := [⟨"S00001", "c-1", "ENG101", .enrolled, 100, true, 0⟩] }

/-- The second section's entry overwrites the first's: two catalog courses get
    one entry, whose `enrolled` is the second section's `0`, while the run
    reports one successful registration. -/
theorem course_utilization_merges_shared_codes (totalDuration : ℚ) (slo : SloMetrics) :
    (calculateTestResults sharedCodeTester totalDuration slo).map
        (fun r => (r.courseUtilization, r.successfulRegistrations)) =
      .ok ([("ENG101", ⟨0, 30, 0⟩)], 1) := by
  simp [calculateTestResults, courseUtilizationOf, courseUtilizationFrom, sharedCodeTester,
    sharedCodeCatalog, Tester.init, pyDiv, dictSet, round2, roundHalfEven, bind, Except.bind,
    Except.map]
  rfl

end SharedCodes

end CourseRegistration
