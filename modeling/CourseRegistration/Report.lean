import CourseRegistration.Metrics
import CourseRegistration.Sessions
import CourseRegistration.Accounting

/-!
# The Report

What `generate_load_test_report` computes from a finished run, and where it
can fail.

`calculate_slo_metrics` guards every division it makes, and on a catalog with
positive capacities and a `course_code` on every course neither it nor
`calculate_test_results` raises: every index the percentiles read is inside
its list. The report does not guard its own: it divides by the number of
students and by `registration_attempts`. So the whole pipeline divides by zero
exactly when the roster or the catalog is empty (`report_divides_by_zero_iff`).
The direction that needs the run is that a non-empty catalog gives every
session at least one attempt, which is the session invariant again, summed over
the sessions with `registrations_length_of_reachable`.

The retry counters are a second reading of the run. Every request appends
one entry to the retry history, so the counters are sums over it
(`retryCounters_of_reachable`): `retry_count` counts retries and
`successful_retries` counts requests, and the rate the report prints as retry
success divides the second by the first
(`retry_success_counts_retries_not_requests`).

## Main definitions

* `sloChecks`: The twenty SLO checks the report counts.
* `generateLoadTestReport`: The report's figures, with its divisions.
* `loadTestReport`: The metrics, then the report.

## Theorems

* `registrations_length_of_reachable`: Records are counted session by session.
* `report_divides_by_zero_iff`: Every run completes, and the report divides
  by zero exactly on an empty roster or catalog.
* `retryCounters_of_reachable`: The retry counters as sums over the history.
* `retry_success_counts_retries_not_requests`: A run where they disagree with
  the share of retried requests that resolved.
-/

namespace CourseRegistration

section Report

/-- The twenty checks `generate_load_test_report` counts as SLO passes. -/
def sloChecks (slo : SloMetrics) : List Bool :=
  [decide (40 ≤ slo.throughput.successfulRegistrationsPerSec),
    decide (80 ≤ slo.throughput.totalAttemptsPerSec ∧ slo.throughput.totalAttemptsPerSec ≤ 120),
    decide (1000 ≤ slo.throughput.peakConcurrentUsers),
    decide (slo.latency.p50Ms ≤ 120),
    decide (slo.latency.p95Ms ≤ 300),
    decide (slo.latency.p99Ms ≤ 600),
    decide (slo.latency.tailGt1sPercent < 1),
    decide (slo.atomicOps.p95Ms ≤ 50),
    decide (slo.atomicOps.retryRatePercent < 3),
    decide (99.9 ≤ slo.atomicOps.compensationSuccessPercent),
    decide (80 ≤ slo.database.writesPerSec ∧ slo.database.writesPerSec ≤ 240),
    decide (slo.database.readsPerSec ≤ 100),
    decide (slo.database.p95TxnTimeMs ≤ 40),
    decide (slo.database.deadlockRatePercent < 0.1),
    decide (slo.database.poolUtilizationP95 < 70),
    decide (95 ≤ slo.cache.hitRatePercent),
    decide (slo.cache.p95LatencyMs ≤ 5),
    decide (slo.reliability.error5xxPercent < 0.5),
    decide (slo.reliability.error4xxPercent < 5),
    decide (99 ≤ slo.reliability.retrySuccessPercent)]

/-- The figures `generate_load_test_report` computes; the text around them is
    formatting. -/
structure ReportFigures where
  minCourseSuccessRate : ℚ
  avgUtilization : ℚ
  successfulPercent : ℚ
  waitlistedPercent : ℚ
  failedPercent : ℚ
  avgRegistrationsPerStudent : ℚ
  coursesAtCapacity : Nat
  coursesOver80 : Nat
  sloPasses : Nat
  sloSuccessRate : ℚ
  deriving DecidableEq, Repr

/-- `generate_load_test_report`, in the order it divides: the students at the
    minimum over the roster, the average utilization (guarded), then the three
    shares of `registration_attempts` and the attempts per student that the
    report's text evaluates. -/
def generateLoadTestReport (t : Tester) (results : TestResults) : Except PyError ReportFigures := do
  let totalStudents := t.students.length
  let minCourseSuccessRate ← (pyDiv results.studentsWithMinCourses totalStudents).map (· * 100)
  let utilizations := results.courseUtilization.map (·.2.utilizationPercent)
  let avgUtilization : ℚ := if utilizations = [] then 0 else utilizations.sum / utilizations.length
  let successfulShare ← pyDiv results.successfulRegistrations results.registrationAttempts
  let waitlistedShare ← pyDiv results.waitlistedRegistrations results.registrationAttempts
  let failedShare ← pyDiv results.failedRegistrations results.registrationAttempts
  let perStudent ← pyDiv results.registrationAttempts results.studentsProcessed
  let sloPasses := (sloChecks results.sloMetrics).count true
  pure
    { minCourseSuccessRate := minCourseSuccessRate
      avgUtilization := avgUtilization
      successfulPercent := successfulShare * 100
      waitlistedPercent := waitlistedShare * 100
      failedPercent := failedShare * 100
      avgRegistrationsPerStudent := perStudent
      coursesAtCapacity := utilizations.countP (100 ≤ ·)
      coursesOver80 := utilizations.countP (80 ≤ ·)
      sloPasses := sloPasses
      sloSuccessRate := (sloPasses : ℚ) / 20 * 100 }

/-- The end of `run_concurrent_load_test`, `calculate_slo_metrics`, followed by
    `generate_load_test_report`. -/
def loadTestReport (t : Tester) (totalDuration poolUtilization cacheLatency : ℚ) :
    Except PyError ReportFigures := do
  let results ← calculateSloMetrics t totalDuration poolUtilization cacheLatency
  generateLoadTestReport t results

end Report

/-- The report divides by zero exactly when the roster is empty or there are
    no records; otherwise it never raises. -/
theorem generateLoadTestReport_eq_error_iff (t : Tester) {r : TestResults}
    (hsp : r.studentsProcessed = t.students.length) :
    generateLoadTestReport t r = .error .zeroDivisionError ↔
      t.students = [] ∨ r.registrationAttempts = 0 := by
  unfold generateLoadTestReport
  by_cases hs : t.students = []
  · simp [hs, pyDiv, Except.map, bind, Except.bind]
  · have hs' : (t.students.length : ℚ) ≠ 0 := by simpa using hs
    by_cases ha : r.registrationAttempts = 0
    · simp [hs, hs', ha, pyDiv, Except.map, bind, Except.bind]
    · have ha' : (r.registrationAttempts : ℚ) ≠ 0 := by simpa using ha
      simp [hs, hs', ha, ha', hsp, pyDiv, Except.map, bind, Except.bind, pure, Except.pure]

section Attempts

/-- The records a session has put in `registrations`: all of them once it is
    collected, none before. -/
def collectedLength (a : Session) : Nat :=
  if a.pc = .collected then a.studentRegistrations.length else 0

/-- `registrations` holds the records of the collected sessions and nothing
    else. -/
theorem registrations_length_of_reachable {courses : List Course} {students : List Student}
    {hot : List String} {s : System} (hr : Reachable (System.init courses students hot) s) :
    s.tester.registrations.length = (s.sessions.map collectedLength).sum := by
  refine Reachable.induct (fun s => s.tester.registrations.length = (s.sessions.map collectedLength).sum)
    ?_ (fun s ℓ s' _ hinv hs => ?_) hr
  · refine (List.sum_eq_zero fun x hx => ?_).symm
    obtain ⟨a, ha, rfl⟩ := List.mem_map.mp hx
    obtain ⟨st, -, rfl⟩ := List.mem_map.mp ha
    rfl
  · obtain ⟨a, hget, t, a', hact, rfl⟩ := step_eq_some_iff.mp hs
    have hset := sum_map_set_add s.sessions collectedLength a' hget
    obtain ⟨hnc, ⟨hreg, hpc⟩ | ⟨hreg, rfl⟩⟩ := act_registrations hact
    · simp only [collectedLength, if_neg hnc, if_neg hpc, add_zero] at hset
      simp only [hreg, hinv, hset]
    · simp only [collectedLength, if_neg hnc, ite_true, add_zero] at hset
      simp only [hreg, List.length_append, hinv, collectedLength, hset]

theorem roster_of_reachable {courses : List Course} {students : List Student} {hot : List String}
    {s : System} (hr : Reachable (System.init courses students hot) s) : s.tester.students = students :=
  Reachable.induct (fun s => s.tester.students = students) rfl (fun s ℓ s' _ hc hs => by
    obtain ⟨a, -, t, a', hact, rfl⟩ := step_eq_some_iff.mp hs
    exact (act_roster hact).trans hc) hr

/-- At the end of a run on a well-formed catalog every session has been
    collected: an empty catalog leaves `registrations` empty, and a non-empty
    one puts at least one record in it per student. -/
theorem registrations_length_of_finished {courses : List Course} (hwf : WellFormed courses)
    {students : List Student} {hot : List String} {s : System}
    (hr : Reachable (System.init courses students hot) s) (hfin : Finished s) :
    (courses = [] → s.tester.registrations.length = 0) ∧
      (courses ≠ [] → students.length ≤ s.tester.registrations.length) := by
  have hcol : ∀ a ∈ s.sessions, a.pc = .collected := fun a ha =>
    (hfin a ha).resolve_right fun ⟨err, lost, hd⟩ => (live_of_reachable hwf hr a ha err lost).2 hd
  have hinv := sessionsInv_of_reachable hwf.nodup_ids hr
  have hlen : ∀ a ∈ s.sessions, collectedLength a = a.studentRegistrations.length := fun a ha => by
    simp [collectedLength, hcol a ha]
  rw [registrations_length_of_reachable hr]
  constructor
  · rintro rfl
    refine List.sum_eq_zero fun x hx => ?_
    obtain ⟨a, ha, rfl⟩ := List.mem_map.mp hx
    have := (hinv a ha).records_length_le (by rw [hcol a ha]; nofun)
    simp only [List.length_nil, min_zero, Nat.le_zero] at this
    rw [hlen a ha, this]
  · intro hne
    have hone := List.length_le_sum_of_one_le (s.sessions.map collectedLength) fun x hx => by
      obtain ⟨a, ha, rfl⟩ := List.mem_map.mp hx
      rw [hlen a ha]
      exact List.length_pos.mpr ((hinv a ha).records_ne_nil (.inr (hcol a ha)) hne)
    rwa [List.length_map, ← List.length_map s.sessions Session.student, students_of_reachable hr] at hone

end Attempts

/-- On a well-formed catalog with positive capacities every run completes, and
    at its end the metrics followed by the report divide by zero exactly when
    the roster or the catalog is empty; when both are non-empty every student
    has made an attempt. -/
theorem report_divides_by_zero_iff {courses : List Course} (hwf : WellFormed courses)
    (hpos : ∀ c ∈ courses, 0 < c.totalSlots) {students : List Student} {hot : List String}
    {s : System} (hr : Reachable (System.init courses students hot) s)
    (totalDuration poolUtilization cacheLatency : ℚ) :
    Completes s ∧
    (Finished s →
      (loadTestReport s.tester totalDuration poolUtilization cacheLatency = .error .zeroDivisionError ↔
        students = [] ∨ courses = []) ∧
      (students ≠ [] → courses ≠ [] →
        0 < students.length ∧ students.length ≤ s.tester.registrations.length)) := by
  refine ⟨completes s, fun hfin => ?_⟩
  have hcs := courses_of_reachable hr
  have hok : ∀ c ∈ s.tester.courses, c.totalSlots ≠ 0 ∧ c.courseCode.isSome := fun c hc => by
    rw [hcs] at hc; exact ⟨(hpos c hc).ne', hwf.code_isSome c hc⟩
  obtain ⟨r, hres, hsp, hatt⟩ := calculateSloMetrics_ok hok totalDuration poolUtilization cacheLatency
  obtain ⟨hempty, hmany⟩ := registrations_length_of_finished hwf hr hfin
  have hrep : loadTestReport s.tester totalDuration poolUtilization cacheLatency =
      generateLoadTestReport s.tester r := by
    simp only [loadTestReport, hres]; rfl
  refine ⟨?_, fun hs hc => ⟨List.length_pos.mpr hs, hmany hc⟩⟩
  rw [hrep, generateLoadTestReport_eq_error_iff s.tester hsp, hatt, roster_of_reachable hr]
  constructor
  · rintro (h | h)
    · exact .inl h
    · by_cases hc : courses = []
      · exact .inr hc
      · have := hmany hc; exact .inl (List.length_eq_zero.mp (by omega))
  · rintro (h | h)
    · exact .inl h
    · exact .inr (hempty h)

theorem report_divides_by_zero_iff_contended :
    loadTestReport contendedEnd.tester 1 50 3 ≠ .error .zeroDivisionError := fun h =>
  absurd (((report_divides_by_zero_iff demoCatalog_wellFormed (by simp [demoCatalog, demoCourse])
    (reachable_of_exec .refl exec_contendedRun) 1 50 3).2 contendedEnd_finished).1.mp h)
    (by simp [pairRoster, demoCatalog])

section Retries

variable {t t' : Tester} {a a' : Session} {ℓ : Label}

/-- Only the unlocked retry phase touches the retry counters and the retry
    history, and it moves all three together. -/
theorem act_retryLog (h : act t a ℓ = some (t', a')) :
    (t'.retryCount = t.retryCount ∧ t'.successfulRetries = t.successfulRetries ∧
      t'.retryLog = t.retryLog) ∨
    ∃ n needsRetry, t'.retryCount = t.retryCount + n ∧
      t'.successfulRetries =
        (if 0 < n ∧ needsRetry = false then t.successfulRetries + 1 else t.successfulRetries) ∧
      t'.retryLog = t.retryLog ++ [⟨n, !needsRetry⟩] := by
  cases ℓ
  case start => rw [(act_start h).1]; exact .inl ⟨rfl, rfl, rfl⟩
  case next => rw [(act_next h).2.1]; exact .inl ⟨rfl, rfl, rfl⟩
  case lookup =>
    obtain ⟨c, -, rfl, -⟩ := act_lookup h
    exact .inl (by cases cacheHitOf ‹_› <;> exact ⟨rfl, rfl, rfl⟩)
  case retry =>
    obtain ⟨c, hit, n, -, hp, -⟩ := act_retry h
    obtain ⟨b, rfl⟩ := atomicPhase_spec hp
    exact .inr ⟨n, b, rfl, rfl, rfl⟩
  case reserve =>
    obtain ⟨c, hit, n, -, rfl, -⟩ := act_reserve h
    simp only [reserveSlot]
    exact .inl (by cases decideStatus _ _ _ <;> exact ⟨rfl, rfl, rfl⟩)
  case persist => obtain ⟨d, -, rfl, -⟩ := act_persist h; exact .inl ⟨rfl, rfl, rfl⟩
  case collect =>
    rcases act_collect h with ⟨-, rfl, -⟩ | ⟨_, _, -, rfl, -⟩ <;> exact .inl ⟨rfl, rfl, rfl⟩

/-- Over every run, `retry_count` is the number of retries in the history and
    `successful_retries` the number of requests that retried and resolved. -/
theorem retryCounters_of_reachable {courses : List Course} {students : List Student}
    {hot : List String} {s : System} (hr : Reachable (System.init courses students hot) s) :
    s.tester.retryCount = (s.tester.retryLog.map RetryOutcome.retries).sum ∧
      s.tester.successfulRetries = s.tester.retryLog.countP fun o => 0 < o.retries ∧ o.resolved := by
  refine Reachable.induct (fun s => s.tester.retryCount = (s.tester.retryLog.map RetryOutcome.retries).sum ∧
      s.tester.successfulRetries = s.tester.retryLog.countP fun o => 0 < o.retries ∧ o.resolved)
    ⟨rfl, rfl⟩ (fun s ℓ s' _ ⟨hc, hs⟩ hst => ?_) hr
  obtain ⟨a, -, t, a', hact, rfl⟩ := step_eq_some_iff.mp hst
  rcases act_retryLog hact with ⟨h1, h2, h3⟩ | ⟨n, b, h1, h2, h3⟩
  · exact ⟨h1.trans (h3 ▸ hc), h2.trans (h3 ▸ hs)⟩
  · refine ⟨by simp [h1, h3, hc], ?_⟩
    cases b <;> by_cases hn : 0 < n <;> simp [h2, h3, hs, hn, List.countP_append]

end Retries

section RetryRun

attribute [local congr] bind_congr_head

/-- `demoRun` on the hot section `__init__` makes the only course of the
    catalog, with a request whose first draw needs a retry, whose first retry
    needs another, and whose second resolves. -/
def demoRetryRun : List Label :=
  [.start 0 3 [0], .next 0, .lookup 0 0, .retry 0 5 [0, 0, 1 / 2], .reserve 0 (1 / 2) (1 / 2),
    .persist 0 20 100, .next 0, .collect 0]

/-- The record `demoRetryRun` produces: `demoRecord` with two retries. -/
def demoRetryRecord : Registration := { demoRecord with retryCount := 2 }

/-- What the retry draws of `demoRetryRun` decide: the first draw and the first
    retry's draw fall under their chances, the second retry's does not. -/
theorem demoRetry_draws :
    (0 : ℚ) < retryChance true ∧ (0 : ℚ) < retryChance true * 0.2 ∧
      ¬(2⁻¹ : ℚ) < retryChance true * 0.2 := by
  norm_num [retryChance]

/-- Where `demoRetryRun` ends: `demoEnd` on the hot section, with two retries
    for one resolved request. -/
def demoRetryEnd : System where
  tester :=
    { demoEnd.tester with
      hotSections := ["CS101-01"], hotSectionOps := [5]
      retryCount := 2, successfulRetries := 1, retryLog := [⟨2, true⟩]
      registrations := [demoRetryRecord] }
  sessions := [{ demoEndSession with studentRegistrations := [demoRetryRecord] }]

theorem exec_demoRetryRun :
    exec (System.init (demoCatalog (some "CS101")) demoRoster ["CS101-01"]) demoRetryRun =
      some demoRetryEnd := by
  obtain ⟨hhit, -, hstatus⟩ := demo_draws
  obtain ⟨hfirst, hagain, hlast⟩ := demoRetry_draws
  simp [exec, demoRetryRun, step, act, System.init, Tester.init, demoCatalog, demoCourse,
    demoRoster, startSession, ValidSample, loopHead, hasConflict, Label.thread, Session.init,
    countCacheLookup, atomicPhase, retryLoop, reserveSlot, persistPhase, recordAttempt, takeSeat,
    initSlots, Tester.countStatus, minCoursesPerStudent, maxCoursesPerStudent, maxRetries, hhit,
    hstatus, hfirst, hagain, hlast]
  rfl

theorem demoRetryEnd_finished : Finished demoRetryEnd := by
  simp [Finished, demoRetryEnd, demoEndSession]

/-- One request retried twice and resolved: the share of retried requests that
    resolved is `100`, but the rate the report prints as retry success, and as
    compensation success, is `successful_retries / retry_count * 100 = 50`. -/
theorem retry_success_counts_retries_not_requests (totalDuration p c : ℚ) :
    exec (System.init (demoCatalog (some "CS101")) demoRoster ["CS101-01"]) demoRetryRun =
      some demoRetryEnd ∧
    100 * ((demoRetryEnd.tester.retryLog.countP fun o => 0 < o.retries ∧ o.resolved : Nat) : ℚ) /
        (demoRetryEnd.tester.retryLog.countP fun o => 0 < o.retries : Nat) = 100 ∧
    (sloMetricsOf demoRetryEnd.tester totalDuration p c).map
        (fun m => (m.atomicOps.compensationSuccessPercent, m.reliability.retrySuccessPercent)) =
      .ok (50, 50) := by
  refine ⟨exec_demoRetryRun, by simp [demoRetryEnd], ?_⟩
  obtain ⟨m, hm⟩ := sloMetricsOf_ok demoRetryEnd.tester totalDuration p c
  obtain ⟨-, hcomp, hretry⟩ := sloMetricsOf_retry_percents hm
  rw [hm, Except.map, hcomp, hretry]
  norm_num [demoRetryEnd, demoEnd, Tester.init, round2, roundHalfEven]

end RetryRun

end CourseRegistration
