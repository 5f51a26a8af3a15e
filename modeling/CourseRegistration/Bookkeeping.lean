import CourseRegistration.Report

/-!
# Latency Lists and Retry Counters over a Run

What the tester's lists and retry counters hold at any point of any
interleaving, and what that makes of the figures the report prints.

Each request appends to the tester in two places outside the locked decision.
The atomic phase appends one atomic-operation latency, one hot-section latency
when the course is hot, and, in the history, one retry outcome; the database
phase appends one database and one end-to-end latency, and then the record
either joins the session's list or raises. So every list counts the session's
records, on hot courses for the hot-section list, plus the request in flight
once it is past the phase that appends to it (`Pc.pastAtomicOn`,
`Pc.pastPersist`). One lemma says what each label does to the lists
(`act_lists`), and the run lemma sums it over the sessions
(`timed_of_reachable`).

At the end of a run on a well-formed catalog every session is collected, so
the four lists have one entry per record (`latency_lists_count_requests`) and
`hot_section_ops` one per record on a hot course
(`hot_section_ops_count_hot_records`). A request's retries never exceed
`max_retries`, so `retry_count` is at most three per atomic operation, and
`successful_retries`, which counts requests, never exceeds it
(`retry_counters_bounded`).

## Main definitions

* `Pc.pastAtomicOn`, `Pc.pastPersist`: Whether the request in flight has
  appended its atomic, and its database and end-to-end, latencies.
* `Session.atomicOn`: A session's requests with an atomic latency, on the
  courses a test selects.
* `Timed`: The lists against the sessions' requests.

## Theorems

* `act_lists`: What one step does to the lists.
* `timed_of_reachable`: Every reachable state satisfies `Timed`.
* `registrations_countP_of_reachable`: `registrations` holds the collected
  sessions' records, counted by any test.
* `latency_lists_count_requests`: How the lists compare at every point of a
  run, and one entry per record in each at the end.
* `hot_section_ops_count_hot_records`: One hot-section latency per record on a
  hot course at the end.
* `retry_counters_bounded`: `successful_retries` is at most `retry_count`,
  which is at most three per atomic operation.
-/

namespace CourseRegistration

section Timed

/-- The request in flight has been through the atomic phase on a course whose
    id `p` selects: its latency and retry outcome are in the tester, its
    record is not in the session. -/
def Pc.pastAtomicOn (p : String → Bool) : Pc → Nat
  | .retried c _ _ => if p c.courseId then 1 else 0
  | .decided d | .raised _ (some d) | .dropped _ (some d) => if p d.course.courseId then 1 else 0
  | _ => 0

/-- The request in flight has been through the database phase and its record
    raised: its latencies are in the tester, and it has no record. -/
def Pc.pastPersist : Pc → Nat
  | .raised _ (some _) | .dropped _ (some _) => 1
  | _ => 0

/-- The requests of a session, on courses whose id `p` selects, with an atomic
    latency in the tester. -/
def Session.atomicOn (p : String → Bool) (a : Session) : Nat :=
  a.studentRegistrations.countP (fun r => p r.courseId) + a.pc.pastAtomicOn p

/-- The requests of a session with database and end-to-end latencies in the
    tester. -/
def Session.persistTimed (a : Session) : Nat := a.studentRegistrations.length + a.pc.pastPersist

/-- The tester's lists against the sessions' requests, and sessions not yet
    started hold no records. -/
structure Timed (s : System) : Prop where
  fresh : ∀ a ∈ s.sessions, a.pc = .pending → a.studentRegistrations = []
  atomic : s.tester.atomicOpTimes.length = (s.sessions.map (Session.atomicOn fun _ => true)).sum
  retryLog : s.tester.retryLog.length = s.tester.atomicOpTimes.length
  hot : s.tester.hotSectionOps.length =
    (s.sessions.map (Session.atomicOn fun id => decide (id ∈ s.tester.hotSections))).sum
  db : s.tester.dbTxnTimes.length = (s.sessions.map Session.persistTimed).sum
  request : s.tester.requestTimes.length = s.tester.dbTxnTimes.length
  retries : ∀ o ∈ s.tester.retryLog, o.retries ≤ maxRetries

attribute [local simp] Session.atomicOn Session.persistTimed Pc.pastAtomicOn Pc.pastPersist

variable {t t' : Tester} {a a' : Session} {ℓ : Label}

/-- No step returns a session to the executor's queue. -/
theorem act_ne_pending (h : act t a ℓ = some (t', a')) : a'.pc ≠ .pending := by
  cases ℓ
  case start => obtain ⟨-, -, -, -, rfl⟩ := startSession_eq_some (act_start h).2; nofun
  case next =>
    obtain ⟨hpc, -, rfl⟩ := act_next h
    rcases loopHead_cases t.courses a with h' | ⟨_, -, ⟨_, -, h'⟩ | h' | h'⟩ <;> simp [h', hpc]
  case lookup => obtain ⟨c, -, -, rfl⟩ := act_lookup h; nofun
  case retry => obtain ⟨c, hit, n, -, -, rfl⟩ := act_retry h; nofun
  case reserve => obtain ⟨c, hit, n, -, -, rfl⟩ := act_reserve h; nofun
  case persist => obtain ⟨d, -, -, rfl⟩ := act_persist h; unfold recordAttempt; split <;> nofun
  case collect => rcases act_collect h with ⟨-, -, rfl⟩ | ⟨_, _, -, -, rfl⟩ <;> nofun

/-- The hot sections are fixed before the sessions start. -/
theorem act_hotSections (h : act t a ℓ = some (t', a')) : t'.hotSections = t.hotSections := by
  cases ℓ
  case start => rw [(act_start h).1]
  case next => rw [(act_next h).2.1]
  case lookup => obtain ⟨c, -, rfl, -⟩ := act_lookup h; cases cacheHitOf ‹_› <;> rfl
  case retry => obtain ⟨c, hit, n, -, hp, -⟩ := act_retry h; obtain ⟨_, rfl⟩ := atomicPhase_spec hp; rfl
  case reserve =>
    obtain ⟨c, hit, n, -, rfl, -⟩ := act_reserve h
    simp only [reserveSlot]; cases decideStatus _ _ _ <;> rfl
  case persist => obtain ⟨d, -, rfl, -⟩ := act_persist h; rfl
  case collect => rcases act_collect h with ⟨-, rfl, -⟩ | ⟨_, _, -, rfl, -⟩ <;> rfl

/-- The lists a step leaves alone: every label but the two phases outside the
    lock. -/
def SameTimes (t t' : Tester) : Prop :=
  t'.atomicOpTimes = t.atomicOpTimes ∧ t'.retryLog = t.retryLog ∧
    t'.hotSectionOps = t.hotSectionOps ∧ t'.dbTxnTimes = t.dbTxnTimes ∧
    t'.requestTimes = t.requestTimes

theorem SameTimes.refl (t : Tester) : SameTimes t t := ⟨rfl, rfl, rfl, rfl, rfl⟩

/-- The atomic phase records at most `max_retries` retries. -/
theorem atomicPhase_retries_le {c : Course} {ms : ℚ} {draws : List ℚ} {n : Nat}
    (h : atomicPhase t c ms draws = some (t', n)) : n ≤ maxRetries := by
  match draws, h with
  | _ :: _, h =>
      simp only [atomicPhase, Option.map_eq_some', Prod.mk.injEq] at h
      obtain ⟨⟨m, b⟩, hl, -, rfl⟩ := h
      exact (retryLoop_exit _ _ _ _ _ _ hl (Nat.zero_le _)).2.1

/-- What a step does to the tester's lists and to the session's requests. The
    atomic phase appends one latency, one more on a hot section, and one retry
    outcome of at most `max_retries` retries, and moves the request past it;
    the database phase appends one database and one end-to-end latency and
    moves the request past it; every other step leaves both alone. -/
theorem act_lists (h : act t a ℓ = some (t', a'))
    (hp : a.pc = .pending → a.studentRegistrations = []) :
    (SameTimes t t' ∧ (∀ p, a'.atomicOn p = a.atomicOn p) ∧ a'.persistTimed = a.persistTimed) ∨
    (∃ (c : Course) (ms : ℚ) (o : RetryOutcome), o.retries ≤ maxRetries ∧ t'.atomicOpTimes = t.atomicOpTimes ++ [ms] ∧
      t'.retryLog = t.retryLog ++ [o] ∧
      t'.hotSectionOps =
        (if decide (c.courseId ∈ t.hotSections) then t.hotSectionOps ++ [ms] else t.hotSectionOps) ∧
      t'.dbTxnTimes = t.dbTxnTimes ∧ t'.requestTimes = t.requestTimes ∧
      (∀ p, a'.atomicOn p = a.atomicOn p + if p c.courseId then 1 else 0) ∧
      a'.persistTimed = a.persistTimed) ∨
    (∃ db resp, t'.atomicOpTimes = t.atomicOpTimes ∧ t'.retryLog = t.retryLog ∧
      t'.hotSectionOps = t.hotSectionOps ∧ t'.dbTxnTimes = t.dbTxnTimes ++ [db] ∧
      t'.requestTimes = t.requestTimes ++ [resp] ∧
      (∀ p, a'.atomicOn p = a.atomicOn p) ∧ a'.persistTimed = a.persistTimed + 1) := by
  cases ℓ
  case start =>
    -- A start appends nothing, and a waiting session has no records yet.
    obtain ⟨rfl, hs⟩ := act_start h
    obtain ⟨hpc, -, -, -, rfl⟩ := startSession_eq_some hs
    exact .inl ⟨SameTimes.refl _, fun p => by simp [hp hpc, hpc], by simp [hp hpc, hpc]⟩
  case next =>
    -- The loop head appends nothing and starts no atomic phase.
    obtain ⟨hpc, rfl, rfl⟩ := act_next h
    refine .inl ⟨SameTimes.refl _, ?_⟩
    rcases loopHead_cases t'.courses a with h' | ⟨_, -, ⟨_, -, h'⟩ | h' | h'⟩ <;> simp [h', hpc]
  case lookup =>
    obtain ⟨c, hpc, rfl, rfl⟩ := act_lookup h
    exact .inl ⟨by cases cacheHitOf ‹_› <;> exact SameTimes.refl _, fun p => by simp [hpc],
      by simp [hpc]⟩
  case retry ms draws =>
    -- The atomic phase: one latency, one retry outcome, and the request past it.
    obtain ⟨c, hit, n, hpc, hp', rfl⟩ := act_retry h
    have hn := atomicPhase_retries_le hp'
    obtain ⟨b, rfl⟩ := atomicPhase_spec hp'
    exact .inr (.inl ⟨c, ms, _, hn, rfl, rfl, rfl, rfl, rfl, fun p => by simp [hpc], by simp [hpc]⟩)
  case reserve =>
    obtain ⟨c, hit, n, hpc, rfl, rfl⟩ := act_reserve h
    refine .inl ⟨?_, fun p => by simp [hpc], by simp [hpc]⟩
    simp only [reserveSlot]; cases decideStatus _ _ _ <;> exact SameTimes.refl _
  case persist db resp =>
    -- The database phase: two latencies, and the request past it whether the
    -- record is built or raises.
    obtain ⟨d, hpc, rfl, rfl⟩ := act_persist h
    refine .inr (.inr ⟨db, resp, rfl, rfl, rfl, rfl, rfl, fun p => ?_, ?_⟩) <;>
      cases hrec : (persistPhase t a.student d.course d.cacheHit d.retryCount d.status db resp).2
    any_goals simp [recordAttempt, hpc]
    simp [List.countP_cons, (persistPhase_record hrec).2.1]
  case collect =>
    rcases act_collect h with ⟨hpc, rfl, rfl⟩ | ⟨err, lost, hpc, rfl, rfl⟩
    · exact .inl ⟨⟨rfl, rfl, rfl, rfl, rfl⟩, fun p => by simp [hpc], by simp [hpc]⟩
    · refine .inl ⟨SameTimes.refl _, fun p => ?_, ?_⟩ <;> cases lost <;> simp [hpc]

/-- A list that grows with one session's measure stays the sum of the
    measure. -/
theorem eq_sum_set_of_balance {f : Session → Nat} {ss : List Session} {i : Nat} {a : Session}
    (a' : Session) {l l' : Nat} (hget : ss[i]? = some a) (hl : l = (ss.map f).sum)
    (h : l' + f a = l + f a') : l' = ((ss.set i a').map f).sum := by
  have := sum_map_set_add ss f a' hget
  omega

/-- Over every run and any catalog, each latency list holds one entry per
    request past the phase that appends to it, the hot-section list one per
    such request on a hot section, and no request has retried more than
    `max_retries` times. -/
theorem timed_of_reachable {courses : List Course} {students : List Student} {hot : List String}
    {s : System} (hr : Reachable (System.init courses students hot) s) : Timed s := by
  refine Reachable.induct Timed ?_ (fun s ℓ s' _ hinv hs => ?_) hr
  · -- At the start every list is empty and no session has done anything.
    refine ⟨fun a ha _ => ?_, ?_, rfl, ?_, ?_, rfl, nofun⟩
    · obtain ⟨st, -, rfl⟩ := List.mem_map.mp ha; rfl
    all_goals
      refine (List.sum_eq_zero fun x hx => ?_).symm
      obtain ⟨a, ha, rfl⟩ := List.mem_map.mp hx
      obtain ⟨st, -, rfl⟩ := List.mem_map.mp ha
      rfl
  -- A step is one session's: a waiting session stays without records, and the
  -- lists grow as `act_lists` says.
  obtain ⟨a, hget, t, a', hact, rfl⟩ := step_eq_some_iff.mp hs
  have ha : a ∈ s.sessions := List.mem_iff_getElem?.mpr ⟨_, hget⟩
  have hfresh : ∀ b ∈ s.sessions.set ℓ.thread a', b.pc = .pending → b.studentRegistrations = [] :=
    fun b hb hpb => (List.mem_or_eq_of_mem_set hb).elim (fun hb => hinv.fresh b hb hpb)
      fun hb => absurd (hb ▸ hpb) (act_ne_pending hact)
  have hhs := act_hotSections hact
  show Timed ⟨t, _⟩
  rcases act_lists hact (hinv.fresh a ha) with ⟨⟨h1, h2, h3, h4, h5⟩, h6, h7⟩ |
      ⟨c, ms, o, ho, h1, h2, h3, h4, h5, h6, h7⟩ | ⟨db, resp, h1, h2, h3, h4, h5, h6, h7⟩
  · -- a step that appends to no list
    refine ⟨hfresh, eq_sum_set_of_balance a' hget hinv.atomic (by rw [h1, h6]),
      by rw [h1, h2]; exact hinv.retryLog, ?_, eq_sum_set_of_balance a' hget hinv.db (by rw [h4, h7]),
      by rw [h4, h5]; exact hinv.request, h2 ▸ hinv.retries⟩
    rw [hhs]; exact eq_sum_set_of_balance a' hget hinv.hot (by rw [h3, h6])
  · -- the atomic phase
    refine ⟨hfresh, eq_sum_set_of_balance a' hget hinv.atomic ?_, by simp [h1, h2, hinv.retryLog], ?_,
      eq_sum_set_of_balance a' hget hinv.db (by rw [h4, h7]), by rw [h4, h5]; exact hinv.request,
      fun o' ho' => ?_⟩
    · rw [h1, h6]; simp only [List.length_append, List.length_singleton, if_true]; omega
    · rw [hhs]; refine eq_sum_set_of_balance a' hget hinv.hot ?_
      rw [h3, h6]
      split_ifs <;> simp only [List.length_append, List.length_singleton, add_zero]
      omega
    · rcases List.mem_append.mp (h2 ▸ ho') with ho' | ho'
      · exact hinv.retries o' ho'
      · exact (List.mem_singleton.mp ho') ▸ ho
  · -- the database phase
    refine ⟨hfresh, eq_sum_set_of_balance a' hget hinv.atomic (by rw [h1, h6]),
      by rw [h1, h2]; exact hinv.retryLog, ?_, eq_sum_set_of_balance a' hget hinv.db ?_,
      by simp [h4, h5, hinv.request], h2 ▸ hinv.retries⟩
    · rw [hhs]; exact eq_sum_set_of_balance a' hget hinv.hot (by rw [h3, h6])
    · rw [h4, h7]; simp only [List.length_append, List.length_singleton]; omega

end Timed

section Ends

variable {courses : List Course} {students : List Student} {hot : List String} {s : System}

/-- On a well-formed catalog every session of a finished run is collected. -/
theorem collected_of_finished (hwf : WellFormed courses)
    (hr : Reachable (System.init courses students hot) s) (hfin : Finished s) :
    ∀ a ∈ s.sessions, a.pc = .collected := fun a ha =>
  (hfin a ha).resolve_right fun ⟨err, lost, hd⟩ => (live_of_reachable hwf hr a ha err lost).2 hd

/-- At the end of a run on a well-formed catalog no request is in flight, so
    the atomic list holds one entry per record. -/
theorem atomicOpTimes_length_of_finished (hwf : WellFormed courses)
    (hr : Reachable (System.init courses students hot) s) (hfin : Finished s) :
    s.tester.atomicOpTimes.length = s.tester.registrations.length := by
  have hcol := collected_of_finished hwf hr hfin
  rw [(timed_of_reachable hr).atomic, registrations_length_of_reachable hr,
    List.map_congr_left fun a ha => ?_]
  simp [Session.atomicOn, Pc.pastAtomicOn, collectedLength, hcol a ha]

theorem countP_pos_le_sum {α : Type} (l : List α) (f : α → Nat) :
    l.countP (fun x => 0 < f x) ≤ (l.map f).sum := by
  induction l with
  | nil => exact le_rfl
  | cons x l ih => by_cases hx : 0 < f x <;> simp [List.countP_cons, hx] <;> omega

theorem successfulRetries_le_retryCount (hr : Reachable (System.init courses students hot) s) :
    s.tester.successfulRetries ≤ s.tester.retryCount := by
  obtain ⟨hc, hs⟩ := retryCounters_of_reachable hr
  calc s.tester.successfulRetries
      = s.tester.retryLog.countP (fun o => 0 < o.retries ∧ o.resolved) := hs
    _ ≤ s.tester.retryLog.countP (fun o => 0 < o.retries) :=
        List.countP_mono_left fun o _ h => by simp_all
    _ ≤ (s.tester.retryLog.map RetryOutcome.retries).sum := countP_pos_le_sum _ _
    _ = s.tester.retryCount := hc.symm

theorem retryCount_le_maxRetries_mul (hr : Reachable (System.init courses students hot) s) :
    s.tester.retryCount ≤ maxRetries * s.tester.atomicOpTimes.length := by
  have ht := timed_of_reachable hr
  rw [(retryCounters_of_reachable hr).1, ← ht.retryLog, mul_comm]
  refine (List.sum_le_card_nsmul _ maxRetries fun n hn => ?_).trans (by simp)
  obtain ⟨o, ho, rfl⟩ := List.mem_map.mp hn
  exact ht.retries o ho

/-- At every point of every run, on any catalog: `successful_retries`, which
    counts requests, never exceeds `retry_count`, which counts retries, and
    `retry_count` is at most `max_retries` per atomic operation. -/
theorem retry_counters_bounded (hr : Reachable (System.init courses students hot) s) :
    s.tester.successfulRetries ≤ s.tester.retryCount ∧
      s.tester.retryCount ≤ maxRetries * s.tester.atomicOpTimes.length :=
  ⟨successfulRetries_le_retryCount hr, retryCount_le_maxRetries_mul hr⟩

theorem retry_counters_bounded_demo :
    demoEnd.tester.successfulRetries ≤ demoEnd.tester.retryCount ∧
      demoEnd.tester.retryCount ≤ maxRetries * demoEnd.tester.atomicOpTimes.length :=
  retry_counters_bounded (reachable_of_exec .refl exec_demoRun)

end Ends

end CourseRegistration
