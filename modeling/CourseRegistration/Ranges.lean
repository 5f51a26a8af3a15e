import CourseRegistration.Bookkeeping

/-!
# The Ranges of the Reported Figures

Which values the shares and counts of `calculate_slo_metrics` can take at the
end of a run, for every interleaving and every draw.

Each share the method prints is a count over a count, times one hundred,
rounded to two decimals, and a constant where the denominator is zero. The
rounding never leaves an interval with integer ends (`round2_mem_Icc`), so a
share lies in `[0, 100 k]` as soon as its numerator is at most `k` times its
denominator (`round2_ite_share_mem`). For the tail and cache shares that holds
of every tester; for the others it is a fact about the run, supplied by the
bookkeeping and accounting invariants: `successful_retries` never exceeds
`retry_count`, a request retries at most `max_retries` times, and at the end of
a run on a well-formed catalog each locked counter is at most the number of
records. So `retry_rate_percent`, which counts retries per record, lies in
`[0, 300]` rather than in `[0, 100]`.

`calculate_test_results` draws on the same facts: the keys of
`student_course_counts` are distinct roster ids, and every entry of
`course_utilization` belongs to a catalog course whose enrolled records are
the seats it lost.

## Theorems

* `round2_mem_Icc`: Rounding to two decimals stays between integer bounds.
* `sloMetricsOf_shares_mem`: What bounds each share, for any tester.
* `slo_percentages_in_range`: The shares of a run's report.
* `courseUtilizationFrom_entry`: Every `course_utilization` entry is a catalog
  course's.
* `studentsWithMinCourses_le`: At most one student at the minimum per roster
  entry.
* `test_results_in_range`: The counts of a run's results.
-/

namespace CourseRegistration

section Rounding

theorem roundHalfEven_le {q : ℚ} {n : ℤ} (h : q ≤ n) : roundHalfEven q ≤ n := by
  have hle : ⌊q⌋ ≤ n := Int.cast_le.mp ((Int.floor_le q).trans h)
  have hlt : 1 / 2 ≤ q - ⌊q⌋ → ⌊q⌋ < n := fun hq => Int.cast_lt.mp (show (⌊q⌋ : ℚ) < n by linarith)
  unfold roundHalfEven
  split_ifs with h1 <;> first | exact hle | exact hlt (not_lt.mp h1)

theorem roundHalfEven_nonneg {q : ℚ} (h : 0 ≤ q) : 0 ≤ roundHalfEven q := by
  have := Int.floor_nonneg.mpr h
  unfold roundHalfEven
  split_ifs <;> omega

/-- `round(x, 2)` stays between `0` and an integer bound of `x`. -/
theorem round2_mem_Icc {x : ℚ} {n : ℕ} (h : x ∈ Set.Icc (0 : ℚ) n) : round2 x ∈ Set.Icc (0 : ℚ) n := by
  have h1 := roundHalfEven_nonneg (mul_nonneg h.1 (by norm_num : (0 : ℚ) ≤ 100))
  have h2 : roundHalfEven (x * 100) ≤ (n * 100 : ℕ) := roundHalfEven_le (by push_cast; linarith [h.2])
  refine ⟨div_nonneg (Int.cast_nonneg.mpr h1) (by norm_num), ?_⟩
  rw [round2, div_le_iff₀ (by norm_num)]
  exact_mod_cast h2

theorem share_mem_Icc {a b k : ℕ} (h : a ≤ k * b) :
    (a : ℚ) / b * 100 ∈ Set.Icc (0 : ℚ) (100 * k : ℕ) := by
  refine ⟨by positivity, ?_⟩
  rcases Nat.eq_zero_or_pos b with rfl | hb
  · simp
  · rw [div_mul_eq_mul_div, div_le_iff₀ (by exact_mod_cast hb)]
    exact_mod_cast (show a * 100 ≤ 100 * k * b by rw [Nat.mul_assoc]; omega)

/-- A share `a / b * 100`, with a default for `b = 0`, rounds into
    `[0, 100 k]` when `a ≤ k b` and the default lies there. -/
theorem round2_ite_share_mem {a b k : ℕ} {d : ℚ} (h : a ≤ k * b)
    (hd : d ∈ Set.Icc (0 : ℚ) (100 * k : ℕ)) :
    round2 (if 0 < b then (a : ℚ) / b * 100 else d) ∈ Set.Icc (0 : ℚ) (100 * k : ℕ) :=
  round2_mem_Icc (by split_ifs; exacts [share_mem_Icc h, hd])

end Rounding

section Shares

theorem latencyOf_tail_mem {l : List ℚ} {v : ℚ × ℚ × ℚ × ℚ} (h : latencyOf l = .ok v) :
    v.2.2.2 ∈ Set.Icc (0 : ℚ) (100 * 1 : ℕ) := by
  by_cases hl : l = []
  · simp only [latencyOf, if_pos hl] at h; cases h; simp
  · simp only [latencyOf, if_neg hl] at h
    have hs : pySorted l ≠ [] := by
      rw [← List.length_pos, length_pySorted]; exact List.length_pos.mpr hl
    obtain ⟨a, ha⟩ := median_ok hs
    obtain ⟨b, hb⟩ := percentile_ok hs (show (0.95 : ℚ) < 1 by norm_num)
    obtain ⟨c, hc⟩ := percentile_ok hs (show (0.99 : ℚ) < 1 by norm_num)
    rw [ha, hb, hc] at h
    cases h
    exact share_mem_Icc (by simpa using List.countP_le_length _)

/-- What bounds each share of `slo_metrics`, for any tester: the tail and
    cache shares always lie in `[0, 100]`; each other share once its counter
    is within its denominator, `retry_count` within three per record for the
    retry rate. -/
theorem sloMetricsOf_shares_mem {t : Tester} {totalDuration p c : ℚ} {m : SloMetrics}
    (h : sloMetricsOf t totalDuration p c = .ok m) :
    m.latency.tailGt1sPercent ∈ Set.Icc (0 : ℚ) 100 ∧ m.cache.hitRatePercent ∈ Set.Icc (0 : ℚ) 100 ∧
    (t.successfulRetries ≤ t.retryCount →
      m.atomicOps.compensationSuccessPercent ∈ Set.Icc (0 : ℚ) 100 ∧
      m.reliability.retrySuccessPercent ∈ Set.Icc (0 : ℚ) 100) ∧
    (t.retryCount ≤ maxRetries * t.registrations.length →
      m.atomicOps.retryRatePercent ∈ Set.Icc (0 : ℚ) 300) ∧
    (t.error5xxCount ≤ t.registrations.length →
      m.reliability.error5xxPercent ∈ Set.Icc (0 : ℚ) 100) ∧
    (t.error4xxCount ≤ t.registrations.length →
      m.reliability.error4xxPercent ∈ Set.Icc (0 : ℚ) 100) := by
  obtain ⟨v, hl⟩ := latencyOf_ok t.requestTimes
  obtain ⟨e, he⟩ := p95Of_ok t.atomicOpTimes
  obtain ⟨f, hf⟩ := p95Of_ok t.dbTxnTimes
  unfold sloMetricsOf at h
  rw [hl, he, hf] at h
  cases h
  have hd : ∀ k, (0 : ℚ) ∈ Set.Icc (0 : ℚ) (100 * k : ℕ) := fun k => ⟨le_rfl, by positivity⟩
  refine ⟨round2_mem_Icc (latencyOf_tail_mem hl), round2_ite_share_mem (k := 1) (by omega) (hd 1),
    fun hs => ⟨round2_ite_share_mem (k := 1) (by omega) ⟨by norm_num, by norm_num⟩,
      round2_ite_share_mem (k := 1) (by omega) ⟨by norm_num, by norm_num⟩⟩,
    fun hr => round2_ite_share_mem (k := 3) hr (hd 3),
    fun h5 => round2_ite_share_mem (k := 1) (by omega) (hd 1),
    fun h4 => round2_ite_share_mem (k := 1) (by omega) (hd 1)⟩

end Shares

section Run

variable {courses : List Course} {students : List Student} {hot : List String} {s : System}

/-- On a well-formed catalog each locked counter is at most the number of
    records at the end of a run. -/
theorem statusCount_le_of_finished (hwf : WellFormed courses)
    (hr : Reachable (System.init courses students hot) s) (hfin : Finished s) (st : Status) :
    s.tester.statusCount st ≤ s.tester.registrations.length := by
  have h := tally_of_finished_wellFormed hwf hr hfin (.status st)
  rw [Tester.tally, sum_weight_status, Nat.cast_inj] at h
  exact h ▸ List.countP_le_length _

/-- Every share `slo_metrics` prints as a percentage stays in `[0, 100]`, except
    `retry_rate_percent`, retries per record, which stays in `[0, 300]`. The tail,
    cache and two retry-success shares do so at every point of every run, on
    any catalog; the retry rate and the two error shares at the end of a run on
    a well-formed catalog. -/
theorem slo_percentages_in_range (hr : Reachable (System.init courses students hot) s)
    (totalDuration poolUtilization cacheLatency : ℚ) :
    ∃ m, sloMetricsOf s.tester totalDuration poolUtilization cacheLatency = .ok m ∧
      m.latency.tailGt1sPercent ∈ Set.Icc (0 : ℚ) 100 ∧
      m.cache.hitRatePercent ∈ Set.Icc (0 : ℚ) 100 ∧
      m.atomicOps.compensationSuccessPercent ∈ Set.Icc (0 : ℚ) 100 ∧
      m.reliability.retrySuccessPercent ∈ Set.Icc (0 : ℚ) 100 ∧
      (WellFormed courses → Finished s →
        m.atomicOps.retryRatePercent ∈ Set.Icc (0 : ℚ) 300 ∧
        m.reliability.error5xxPercent ∈ Set.Icc (0 : ℚ) 100 ∧
        m.reliability.error4xxPercent ∈ Set.Icc (0 : ℚ) 100) := by
  obtain ⟨m, hm⟩ := sloMetricsOf_ok s.tester totalDuration poolUtilization cacheLatency
  obtain ⟨htail, hhit, hretry, hrate, h5, h4⟩ := sloMetricsOf_shares_mem hm
  have hsucc := hretry (successfulRetries_le_retryCount hr)
  refine ⟨m, hm, htail, hhit, hsucc.1, hsucc.2, fun hwf hfin => ⟨hrate ?_,
    h5 (statusCount_le_of_finished hwf hr hfin .error5xx),
    h4 (statusCount_le_of_finished hwf hr hfin .error4xx)⟩⟩
  rw [← atomicOpTimes_length_of_finished hwf hr hfin]
  exact retryCount_le_maxRetries_mul hr

/-- The retry run's one request, retried twice: a retry rate of `200`, over
    `100` and within `300`. -/
theorem slo_percentages_in_range_retried :
    ∃ m, sloMetricsOf demoRetryEnd.tester 1 50 3 = .ok m ∧
      m.atomicOps.retryRatePercent ∈ Set.Icc (0 : ℚ) 300 ∧ m.atomicOps.retryRatePercent = 200 := by
  obtain ⟨m, hm, -, -, -, -, hfin⟩ :=
    slo_percentages_in_range (reachable_of_exec .refl exec_demoRetryRun) 1 50 3
  refine ⟨m, hm, (hfin demoCatalog_wellFormed demoRetryEnd_finished).1, ?_⟩
  rw [(sloMetricsOf_retry_percents hm).1]
  norm_num [demoRetryEnd, demoEnd, Tester.init, round2, roundHalfEven]

end Run

section Results

variable {courses : List Course} {students : List Student} {hot : List String} {s : System}

theorem registrations_students_of_reachable (hnd : (courses.map Course.courseId).Nodup)
    (hr : Reachable (System.init courses students hot) s) :
    ∀ r ∈ s.tester.registrations, r.studentId ∈ students.map Student.studentId := by
  refine Reachable.induct
    (fun s => ∀ r ∈ s.tester.registrations, r.studentId ∈ students.map Student.studentId)
    (fun _ h => by cases h) (fun s ℓ s' hr hinv hs => ?_) hr
  obtain ⟨a, hget, t, a', hact, rfl⟩ := step_eq_some_iff.mp hs
  have ha : a ∈ s.sessions := List.mem_iff_getElem?.mpr ⟨_, hget⟩
  obtain ⟨-, ⟨hreg, -⟩ | ⟨hreg, -⟩⟩ := act_registrations hact
  · exact hreg ▸ hinv
  · intro r hr'
    rcases List.mem_append.mp (hreg ▸ hr') with h | h
    · exact hinv r h
    · rw [(sessionsInv_of_reachable hnd hr a ha).student r h, ← students_of_reachable hr,
        List.map_map]
      exact List.mem_map_of_mem _ ha

theorem studentsWithMinCourses_le (hnd : (courses.map Course.courseId).Nodup)
    (hr : Reachable (System.init courses students hot) s) :
    studentsWithMinCourses s.tester.registrations ≤ students.length := by
  have hsub : (studentCourseCounts s.tester.registrations).1 ⊆ students.map Student.studentId :=
    fun k hk => by
      obtain ⟨r, hr', -, rfl⟩ :=
        ((foldl_countEnrolment_mem _ _ k).mp hk).resolve_left (List.not_mem_nil _)
      exact registrations_students_of_reachable hnd hr r hr'
  refine (List.countP_le_length _).trans ?_
  simpa using (List.subperm_of_subset (foldl_countEnrolment_nodup _ List.nodup_nil) hsub).length_le

theorem mem_dictSet {V : Type} {d : List (String × V)} {k : String} {v : V} {e : String × V}
    (h : e ∈ dictSet d k v) : e ∈ d ∨ e = (k, v) := by
  unfold dictSet at h
  split_ifs at h
  · obtain ⟨e', he', rfl⟩ := List.mem_map.mp h
    by_cases hk : e'.1 = k
    · exact .inr (if_pos hk)
    · exact .inl (by rwa [if_neg hk])
  · simpa using h

/-- The entry the `course_utilization` loop stores for a course. -/
theorem courseUtilizationFrom_entry {rs : List Registration} {d out : List (String × CourseUtilization)}
    {courses : List Course} (h : courseUtilizationFrom rs d courses = .ok out)
    {e : String × CourseUtilization} (he : e ∈ out) :
    e ∈ d ∨ ∃ c ∈ courses, c.courseCode = some e.1 ∧
      e.2.enrolled = (rs.countP fun r => r.courseId = c.courseId ∧ r.status = .enrolled) ∧
      e.2.totalSlots = c.totalSlots ∧
      e.2.utilizationPercent = round2 ((e.2.enrolled : ℚ) / c.totalSlots * 100) := by
  induction courses generalizing d with
  | nil => cases h; exact .inl he
  | cons c cs ih =>
      simp only [courseUtilizationFrom, pyDiv] at h
      split_ifs at h
      · cases h
      · split at h
        · cases h
        · rename_i code hc
          rcases ih h with h' | ⟨c', hc', h'⟩
          · rcases mem_dictSet h' with h' | rfl
            · exact .inl h'
            · exact .inr ⟨c, List.mem_cons_self _ _, hc, rfl, rfl, rfl⟩
          · exact .inr ⟨c', List.mem_cons_of_mem _ hc', h'⟩

/-- At the end of a run on a well-formed catalog a course's enrolled records
    are the seats it lost, so there are at most `total_slots` of them. -/
theorem enrolled_le_totalSlots (hwf : WellFormed courses)
    (hr : Reachable (System.init courses students hot) s) (hfin : Finished s) {c : Course}
    (hc : c ∈ courses) :
    ((s.tester.registrations.countP fun r => r.courseId = c.courseId ∧ r.status = .enrolled : ℕ) :
      Int) ≤ c.totalSlots := by
  have h := tally_of_finished_wellFormed hwf hr hfin (.seat c.courseId)
  rw [Tester.tally, courses_of_reachable hr, initSlots_of_mem courses hwf.nodup_ids c hc,
    sum_weight_seat] at h
  have := (ledgerInv_of_reachable hwf.slots_nonneg hr).nonneg c.courseId
  simp only [and_comm] at h ⊢
  omega

theorem calculateSloMetrics_spec {t : Tester} {totalDuration p c : ℚ} {r : TestResults}
    (h : calculateSloMetrics t totalDuration p c = .ok r) :
    courseUtilizationOf t.courses t.registrations = .ok r.courseUtilization ∧
      r.studentsWithMinCourses = studentsWithMinCourses t.registrations ∧
      r.studentsProcessed = t.students.length := by
  obtain ⟨m, hm⟩ := sloMetricsOf_ok t totalDuration p c
  unfold calculateSloMetrics calculateTestResults at h
  rw [hm] at h
  cases hu : courseUtilizationOf t.courses t.registrations with
  | error e => rw [hu] at h; cases h
  | ok u => rw [hu] at h; cases h; exact ⟨rfl, rfl, rfl⟩

/-- At the end of a run on a well-formed catalog whose courses all have seats,
    `calculate_slo_metrics` completes; no more students reach the minimum than
    the roster holds; and every `course_utilization` entry is a catalog
    course's, under its code, with its `total_slots`, at most that many
    enrolled, and a percentage between 0 and 100. -/
theorem test_results_in_range (hwf : WellFormed courses) (hpos : ∀ c ∈ courses, 0 < c.totalSlots)
    (hr : Reachable (System.init courses students hot) s) (hfin : Finished s)
    (totalDuration poolUtilization cacheLatency : ℚ) :
    ∃ r, calculateSloMetrics s.tester totalDuration poolUtilization cacheLatency = .ok r ∧
      r.studentsWithMinCourses ≤ r.studentsProcessed ∧
      ∀ e ∈ r.courseUtilization, ∃ c ∈ courses, c.courseCode = some e.1 ∧
        e.2.totalSlots = c.totalSlots ∧ (e.2.enrolled : Int) ≤ e.2.totalSlots ∧
        e.2.utilizationPercent ∈ Set.Icc (0 : ℚ) 100 := by
  have hcs := courses_of_reachable hr
  obtain ⟨r, hr', -⟩ := calculateSloMetrics_ok (t := s.tester)
    (fun c hc => ⟨(hpos c (hcs ▸ hc)).ne', hwf.code_isSome c (hcs ▸ hc)⟩)
    totalDuration poolUtilization cacheLatency
  obtain ⟨hu, hmin, hproc⟩ := calculateSloMetrics_spec hr'
  refine ⟨r, hr', ?_, fun e he => ?_⟩
  · rw [hmin, hproc, roster_of_reachable hr]
    exact studentsWithMinCourses_le hwf.nodup_ids hr
  obtain he' | ⟨c, hc, hcode, hn, hslots, hpct⟩ := courseUtilizationFrom_entry hu he
  · cases he'
  rw [hcs] at hc
  have hle := enrolled_le_totalSlots hwf hr hfin hc
  rw [← hn, ← hslots] at hle
  have hq : (e.2.enrolled : ℚ) ≤ c.totalSlots := by rw [← hslots]; exact_mod_cast hle
  have hT : (0 : ℚ) < c.totalSlots := by exact_mod_cast hpos c hc
  refine ⟨c, hc, hcode, hslots, hle, hpct ▸ round2_mem_Icc (n := 100)
    ⟨mul_nonneg (div_nonneg (Nat.cast_nonneg _) hT.le) (by norm_num), ?_⟩⟩
  rw [Nat.cast_ofNat]
  exact mul_le_of_le_one_left (by norm_num) ((div_le_one hT).mpr hq)

theorem test_results_in_range_demo :
    ∃ r, calculateSloMetrics demoEnd.tester 1 50 3 = .ok r ∧
      r.studentsWithMinCourses ≤ r.studentsProcessed := by
  obtain ⟨r, hr, hmin, -⟩ := test_results_in_range demoCatalog_wellFormed
    (by simp [demoCatalog, demoCourse]) (reachable_of_exec .refl exec_demoRun) demoEnd_finished 1 50 3
  exact ⟨r, hr, hmin⟩

end Results

end CourseRegistration
