import CourseRegistration.Basic
import Mathlib.Tactic.NormNum

/-!
# One Registration Request

`simulate_registration_request`, cut at the points where it touches the
tester's shared fields.

A request does four things to shared state, in order: it counts its cache
lookup under the lock, it records its atomic-operation latency and runs the
retry loop without the lock, it makes the seat decision under the lock, and
it records its database and end-to-end latencies and builds its record. Each
of these is a function here over `Tester`, the fields of the
`RegistrationLoadTester` object that a run writes. The session model in
`Session` calls them one at a time, so other sessions' steps can fall
between any two of them.

The unlocked parts are folded into the phase they sit in. List appends are
single operations of the interpreter, and the increments of `retry_count` and
`successful_retries` are taken to be so too; whether those two can lose an
update to a race is a question about the interpreter that this model does not
ask. The theorems about those two counters rest on that assumption; those
about the locked counters, the seats and the records do not.

Every random draw is a parameter. A `random.random()` is a rational, compared
against the code's own thresholds, so a theorem over every draw covers every
branch the code can take. Latencies are measured with `time.time()`, and are
parameters too.

Two fields are not the tester's own. `lockOrder` lists the locked decisions in
the order they took the lock, and `retryLog` lists what each retry loop did.
The code keeps neither; they are histories of the run, written where the code
makes the decision or runs the loop, and the theorems tie them back to the
records and counters the code does keep.

## Main definitions

* `Decision`, `RetryOutcome`: Entries of the two histories.
* `Tester`: The shared fields of `RegistrationLoadTester`.
* `countCacheLookup`: The first locked block.
* `retryLoop`, `atomicPhase`: The unlocked retry loop and its bookkeeping.
* `decideStatus`, `reserveSlot`: The locked check-and-decrement.
* `persistPhase`: The latency appends and the record.

## Theorems

* `retryLoop_exit`: The loop stops within `max_retries`, and before it only
  once the retry is resolved.
* `decideStatus_enrolled_iff`: A request is enrolled exactly when no error is
  drawn and a seat is free.
* `decideStatus_of_not_error`: Without an error draw, a free seat means
  enrolled and a taken one means waitlisted or failed.
-/

namespace CourseRegistration

/-- One pass through the locked decision block: the course and the outcome. -/
structure Decision where
  courseId : String
  status : Status
  deriving DecidableEq, Repr

/-- The course and outcome a record reports. -/
def Registration.decision (r : Registration) : Decision := ⟨r.courseId, r.status⟩

/-- One run of the retry loop: how often it retried, and whether it ended with
    `needs_retry` false. -/
structure RetryOutcome where
  retries : Nat
  resolved : Bool
  deriving DecidableEq, Repr

/-- The fields of `RegistrationLoadTester` that a run reads or writes. The
    catalog, roster, hot sections and peak are fixed before the sessions start;
    `lockOrder` and `retryLog` are the histories described above. -/
structure Tester where
  courses : List Course
  students : List Student
  hotSections : List String
  peakConcurrentUsers : Nat
  courseSlots : String → Int
  successfulRegistrations : Nat
  failedRegistrations : Nat
  waitlistedRegistrations : Nat
  requestTimes : List ℚ
  atomicOpTimes : List ℚ
  dbTxnTimes : List ℚ
  cacheHitCount : Nat
  cacheMissCount : Nat
  error5xxCount : Nat
  error4xxCount : Nat
  retryCount : Nat
  successfulRetries : Nat
  hotSectionOps : List ℚ
  registrations : List Registration
  lockOrder : List Decision
  retryLog : List RetryOutcome

namespace Tester

/-- The counter the locked decision block bumps for a status. -/
def statusCount (t : Tester) : Status → Nat
  | .enrolled => t.successfulRegistrations
  | .waitlisted => t.waitlistedRegistrations
  | .failed => t.failedRegistrations
  | .error5xx => t.error5xxCount
  | .error4xx => t.error4xxCount

/-- Bump the counter of a status. -/
def countStatus (t : Tester) : Status → Tester
  | .enrolled => { t with successfulRegistrations := t.successfulRegistrations + 1 }
  | .waitlisted => { t with waitlistedRegistrations := t.waitlistedRegistrations + 1 }
  | .failed => { t with failedRegistrations := t.failedRegistrations + 1 }
  | .error5xx => { t with error5xxCount := t.error5xxCount + 1 }
  | .error4xx => { t with error4xxCount := t.error4xxCount + 1 }

/-- `cache_hit_count` or `cache_miss_count`. -/
def cacheCount (t : Tester) : Bool → Nat
  | true => t.cacheHitCount
  | false => t.cacheMissCount

@[simp] theorem statusCount_countStatus (t : Tester) (s s' : Status) :
    (t.countStatus s).statusCount s' = t.statusCount s' + if s' = s then 1 else 0 := by
  cases s <;> cases s' <;> rfl

@[simp] theorem countStatus_cacheCount (t : Tester) (s : Status) (b : Bool) :
    (t.countStatus s).cacheCount b = t.cacheCount b := by
  cases s <;> cases b <;> rfl

@[simp] theorem countStatus_courseSlots (t : Tester) (s : Status) :
    (t.countStatus s).courseSlots = t.courseSlots := by cases s <;> rfl

@[simp] theorem countStatus_lockOrder (t : Tester) (s : Status) :
    (t.countStatus s).lockOrder = t.lockOrder := by cases s <;> rfl

@[simp] theorem countStatus_registrations (t : Tester) (s : Status) :
    (t.countStatus s).registrations = t.registrations := by cases s <;> rfl

@[simp] theorem countStatus_courses (t : Tester) (s : Status) :
    (t.countStatus s).courses = t.courses := by cases s <;> rfl

end Tester

/-- `cache_hit = random.random() < 0.97`. -/
def cacheHitOf (draw : ℚ) : Bool := decide (draw < 0.97)

/-- The first locked block: count the lookup as a hit or a miss. -/
def countCacheLookup (t : Tester) : Bool → Tester
  | true => { t with cacheHitCount := t.cacheHitCount + 1 }
  | false => { t with cacheMissCount := t.cacheMissCount + 1 }

@[simp] theorem cacheCount_countCacheLookup (t : Tester) (b b' : Bool) :
    (countCacheLookup t b).cacheCount b' = t.cacheCount b' + if b' = b then 1 else 0 := by
  cases b <;> cases b' <;> rfl

@[simp] theorem countCacheLookup_registrations (t : Tester) (b : Bool) :
    (countCacheLookup t b).registrations = t.registrations := by cases b <;> rfl

@[simp] theorem countCacheLookup_courses (t : Tester) (b : Bool) :
    (countCacheLookup t b).courses = t.courses := by cases b <;> rfl

@[simp] theorem countCacheLookup_courseSlots (t : Tester) (b : Bool) :
    (countCacheLookup t b).courseSlots = t.courseSlots := by cases b <;> rfl

@[simp] theorem statusCount_countCacheLookup (t : Tester) (b : Bool) (s : Status) :
    (countCacheLookup t b).statusCount s = t.statusCount s := by
  cases b <;> cases s <;> rfl

/-- `retry_chance`: 3.5% on a hot section, 1.5% elsewhere. -/
def retryChance (isHotSection : Bool) : ℚ := if isHotSection then 0.035 else 0.015

/-- `max_retries`. -/
def maxRetries : Nat := 3

/-- The `while needs_retry and retry_count < max_retries` loop, from a given
    `retry_count` and `needs_retry`; each pass consumes one draw and compares it
    with a fifth of the chance. `none` when the draws run out while the loop
    still wants one, which no real run does. -/
def retryLoop (chance : ℚ) : Nat → Bool → List ℚ → Option (Nat × Bool)
  | retryCount, needsRetry, [] =>
      if needsRetry ∧ retryCount < maxRetries then none else some (retryCount, needsRetry)
  | retryCount, needsRetry, draw :: draws =>
      if needsRetry ∧ retryCount < maxRetries then
        retryLoop chance (retryCount + 1) (decide (draw < chance * 0.2)) draws
      else some (retryCount, needsRetry)

/-- Where the loop condition fails below the cap, the retry is resolved. -/
theorem retry_exit_of_not_continue {n : Nat} {b : Bool} (h : ¬(b = true ∧ n < maxRetries))
    (hn : n ≤ maxRetries) : b = false ∨ n = maxRetries := by
  cases b
  · exact Or.inl rfl
  · exact Or.inr (by simp only [true_and, not_lt] at h; omega)

/-- The loop only counts up, stops within `max_retries` when it starts below
    it, and stops short of `max_retries` only with the retry resolved. -/
theorem retryLoop_exit (chance : ℚ) (n : Nat) (b : Bool) (draws : List ℚ) (m : Nat) (b' : Bool)
    (h : retryLoop chance n b draws = some (m, b')) (hn : n ≤ maxRetries) :
    n ≤ m ∧ m ≤ maxRetries ∧ (b' = false ∨ m = maxRetries) ∧ (n = m → b = b') := by
  induction draws generalizing n b with
  | nil =>
      simp only [retryLoop] at h
      split_ifs at h with hc
      cases h
      exact ⟨le_rfl, hn, retry_exit_of_not_continue hc hn, fun _ => rfl⟩
  | cons d ds ih =>
      simp only [retryLoop] at h
      split_ifs at h with hc
      · obtain ⟨h1, h2, h3, -⟩ := ih _ _ h (by omega)
        exact ⟨by omega, h2, h3, fun _ => by omega⟩
      · cases h
        exact ⟨le_rfl, hn, retry_exit_of_not_continue hc hn, fun _ => rfl⟩

/-- The atomic-operation phase, without the lock: record the latency (twice for
    a hot section), draw `needs_retry`, run the retry loop and bump the two
    retry counters. Returns the request's `retry_count`. -/
def atomicPhase (t : Tester) (course : Course) (atomicMs : ℚ) :
    List ℚ → Option (Tester × Nat)
  | [] => none
  | draw :: draws =>
      let isHot := decide (course.courseId ∈ t.hotSections)
      let chance := retryChance isHot
      (retryLoop chance 0 (decide (draw < chance)) draws).map fun (retryCount, needsRetry) =>
        ({ t with
            atomicOpTimes := t.atomicOpTimes ++ [atomicMs]
            hotSectionOps := if isHot then t.hotSectionOps ++ [atomicMs] else t.hotSectionOps
            retryCount := t.retryCount + retryCount
            successfulRetries :=
              if 0 < retryCount ∧ needsRetry = false then t.successfulRetries + 1
              else t.successfulRetries
            retryLog := t.retryLog ++ [⟨retryCount, !needsRetry⟩] }, retryCount)

/-- The status the locked block picks from `available_slots` and its two draws:
    first the error draw, then the seat, then the waitlist draw. -/
def decideStatus (availableSlots : Int) (errorChance waitlistDraw : ℚ) : Status :=
  if errorChance < 0.002 then .error5xx
  else if errorChance < 0.047 then .error4xx
  else if 0 < availableSlots then .enrolled
  else if availableSlots = 0 ∧ waitlistDraw < 0.7 then .waitlisted
  else .failed

/-- `course_slots` after the locked block: one seat fewer on an enrolment. -/
def takeSeat (slots : String → Int) (courseId : String) : Status → String → Int
  | .enrolled => Function.update slots courseId (slots courseId - 1)
  | _ => slots

/-- The locked check-and-decrement: read the course's seats, pick the status,
    bump its counter and take the seat on an enrolment. The decision is also
    appended to `lockOrder`. -/
def reserveSlot (t : Tester) (course : Course) (errorChance waitlistDraw : ℚ) :
    Tester × Status :=
  let status := decideStatus (t.courseSlots course.courseId) errorChance waitlistDraw
  ({ t.countStatus status with
      courseSlots := takeSeat t.courseSlots course.courseId status
      lockOrder := t.lockOrder ++ [⟨course.courseId, status⟩] }, status)

/-- The end of the request: append the database and end-to-end latencies, then
    build the record, which reads `course["course_code"]`. -/
def persistPhase (t : Tester) (student : Student) (course : Course) (cacheHit : Bool)
    (retryCount : Nat) (status : Status) (dbMs responseMs : ℚ) :
    Tester × Except PyError Registration :=
  ({ t with dbTxnTimes := t.dbTxnTimes ++ [dbMs], requestTimes := t.requestTimes ++ [responseMs] },
    match course.courseCode with
    | none => .error (.keyError "course_code")
    | some code => .ok
        { studentId := student.studentId
          courseId := course.courseId
          courseCode := code
          status := status
          responseTimeMs := responseMs
          cacheHit := cacheHit
          retryCount := retryCount })

/-- A record that `persistPhase` builds carries the request's student,
    course, status and cache outcome. -/
theorem persistPhase_record {t : Tester} {st : Student} {c : Course} {hit : Bool} {n : Nat}
    {status : Status} {db resp : ℚ} {r : Registration}
    (h : (persistPhase t st c hit n status db resp).2 = .ok r) :
    r.studentId = st.studentId ∧ r.courseId = c.courseId ∧ r.status = status ∧
      r.cacheHit = hit := by
  unfold persistPhase at h
  split at h
  · cases h
  · cases h; exact ⟨rfl, rfl, rfl, rfl⟩

/-- A request is enrolled exactly when neither error is drawn and the course
    has a seat left. -/
theorem decideStatus_enrolled_iff (a : Int) (e w : ℚ) :
    decideStatus a e w = .enrolled ↔ ¬e < 0.047 ∧ 0 < a := by
  unfold decideStatus
  split_ifs with h5 h4 ha
  · exact iff_of_false nofun fun h' => h'.1 (h5.trans (by norm_num))
  · exact iff_of_false nofun fun h' => h'.1 h4
  · exact iff_of_true rfl ⟨h4, ha⟩
  · exact iff_of_false nofun fun h' => ha h'.2
  · exact iff_of_false nofun fun h' => ha h'.2

/-- Without an error draw the seat decides: a free seat enrols, and a request
    that is not enrolled met a course with no seat left. -/
theorem decideStatus_of_not_error (a : Int) (e w : ℚ) (h : (decideStatus a e w).isError = false) :
    (decideStatus a e w = .enrolled ↔ 0 < a) ∧
      (decideStatus a e w ≠ .enrolled →
        a ≤ 0 ∧ (decideStatus a e w = .waitlisted ∨ decideStatus a e w = .failed)) := by
  unfold decideStatus at *
  split_ifs at * <;> simp_all [Status.isError]

end CourseRegistration
