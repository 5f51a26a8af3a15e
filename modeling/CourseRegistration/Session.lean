import CourseRegistration.Request

/-!
# Registration Sessions

`student_registration_session`, as a thread that the executor runs alongside
all the others.

A session's local variables are a record, `Session`, and where the thread
stands is its program counter, `Pc`. Between two steps of a session any number
of steps of other sessions may run, so the program counter has a value for
every point at which the session touches shared state: the head of the
`for` loop, and the four phases of a request from `Request`.

The loop itself is `loopHead`. It reads only the session's own records and the
catalog, never another session's state, so it is one step: break once the
target is met, skip a course that conflicts with an enrolled one, or start a
request. The conflict scan `hasConflict` is where a catalog entry without
`schedule` raises, and `recordAttempt` is where one without `course_code` does;
a session that raises stops there, and its program counter keeps the error
and the request it was in the middle of, which the tester never sees again.

## Main definitions

* `Decided`: A request past its locked decision.
* `Pc`: Where a session thread stands.
* `Session`: The local variables of one session.
* `ValidSample`: What `random.sample` can return.
* `startSession`: Drawing the target and the candidate list.
* `hasConflict`: The schedule-conflict scan.
* `loopHead`: One pass of the loop up to its request.
* `recordAttempt`: Appending the request's record, or raising.

## Theorems

* `startSession_eq_some`: What a start can do.
* `loopHead_cases`: What one pass of the loop head can do.
* `enrolledCount_append`: The enrolled count of the records grows with an
  enrolled record.
* `hasConflict_eq_ok`: A scan that returns finds a conflict exactly when an
  enrolled record's course meets at the candidate's time.
* `hasConflict_isOk`: With schedules on every course it reads, the scan
  returns.
-/

namespace CourseRegistration

/-- A request past the locked decision: what its record will say. -/
structure Decided where
  course : Course
  cacheHit : Bool
  retryCount : Nat
  status : Status
  deriving DecidableEq, Repr

/-- Where a session thread stands. `raised` and `dropped` keep the exception
    and the request it interrupted, if it interrupted one. -/
inductive Pc where
  | pending
  | loop
  | begun (course : Course)
  | cached (course : Course) (cacheHit : Bool)
  | retried (course : Course) (cacheHit : Bool) (retryCount : Nat)
  | decided (d : Decided)
  | returned
  | raised (err : PyError) (lost : Option Decided)
  | collected
  | dropped (err : PyError) (lost : Option Decided)
  deriving DecidableEq, Repr

/-- The local variables of `student_registration_session`; `position` counts
    the candidates the `for` loop has dealt with. -/
structure Session where
  student : Student
  targetCourses : Nat
  availableCourses : List Course
  position : Nat
  studentRegistrations : List Registration
  registeredCourses : Nat
  pc : Pc
  deriving DecidableEq, Repr

/-- A session that the executor has been handed but not yet started. -/
def Session.init (student : Student) : Session :=
  ⟨student, 0, [], 0, [], 0, .pending⟩

/-- The positions `random.sample(self.courses, min(target * 2, len(self.courses)))`
    can return: distinct, in range, and as many as asked for. -/
def ValidSample (courses : List Course) (target : Nat) (sample : List Nat) : Prop :=
  sample.Nodup ∧ (∀ k ∈ sample, k < courses.length) ∧
    sample.length = min (target * 2) courses.length

instance (courses : List Course) (target : Nat) (sample : List Nat) :
    Decidable (ValidSample courses target sample) :=
  inferInstanceAs (Decidable (_ ∧ _ ∧ _))

/-- The start of a session: `random.randint` draws the target and
    `random.sample` the candidates, given here by their catalog positions. A
    draw outside what the two functions return is no step at all. -/
def startSession (courses : List Course) (a : Session) (target : Nat) (sample : List Nat) :
    Option Session :=
  match a.pc with
  | .pending =>
      if minCoursesPerStudent ≤ target ∧ target ≤ maxCoursesPerStudent ∧
          ValidSample courses target sample then
        let available := sample.filterMap (courses[·]?)
        some { a with
          targetCourses := target
          availableCourses := available
          position := 0
          studentRegistrations := []
          registeredCourses := 0
          pc := .loop }
      else none
  | _ => none

/-- The scan for a schedule conflict: each enrolled record's course is looked
    up in the catalog and compared with the candidate on `days`, then `time`.
    Reading a `schedule` the entry lacks raises `KeyError`. -/
def hasConflict (courses : List Course) (course : Course) :
    List Registration → Except PyError Bool
  | [] => .ok false
  | r :: rs =>
      if r.status = .enrolled then
        match findCourse courses r.courseId with
        | none => .error .stopIteration
        | some existing =>
            match existing.schedule, course.schedule with
            | some es, some cs =>
                if es.days = cs.days ∧ es.time = cs.time then .ok true
                else hasConflict courses course rs
            | _, _ => .error (.keyError "schedule")
      else hasConflict courses course rs

/-- One pass of the `for` loop up to its request: return when the candidates
    run out or the target is met, skip a conflicting course, raise if the scan
    raises, and otherwise start the request. -/
def loopHead (courses : List Course) (a : Session) : Session :=
  match a.availableCourses[a.position]? with
  | none => { a with pc := .returned }
  | some course =>
      if a.targetCourses ≤ a.registeredCourses then { a with pc := .returned }
      else
        match hasConflict courses course a.studentRegistrations with
        | .error err => { a with pc := .raised err none }
        | .ok true => { a with position := a.position + 1 }
        | .ok false => { a with position := a.position + 1, pc := .begun course }

/-- The end of a request in the session: append the record and count an
    enrolment, or stop with the exception building the record raised. -/
def recordAttempt (a : Session) (d : Decided) : Except PyError Registration → Session
  | .error err => { a with pc := .raised err (some d) }
  | .ok r =>
      { a with
        studentRegistrations := a.studentRegistrations ++ [r]
        registeredCourses :=
          if r.status = .enrolled then a.registeredCourses + 1 else a.registeredCourses
        pc := .loop }

/-- What a start can do: only a waiting session starts, on draws the two
    functions can return, with the drawn candidates and nothing done yet. -/
theorem startSession_eq_some {courses : List Course} {a a' : Session} {target : Nat}
    {sample : List Nat} (hs : startSession courses a target sample = some a') :
    a.pc = .pending ∧ minCoursesPerStudent ≤ target ∧ target ≤ maxCoursesPerStudent ∧
      ValidSample courses target sample ∧
      a' = { a with
        targetCourses := target
        availableCourses := sample.filterMap (courses[·]?)
        position := 0
        studentRegistrations := []
        registeredCourses := 0
        pc := .loop } := by
  unfold startSession at hs
  split at hs <;> [split_ifs at hs with hdraw; cases hs]
  cases hs
  exact ⟨‹_›, hdraw.1, hdraw.2.1, hdraw.2.2, rfl⟩

/-- What one pass of the loop head can do: return, or, on the candidate at
    the position, raise because the scan raised, skip it, or begin a request
    on it. Every other field, the records among them, stays as it was. -/
theorem loopHead_cases (courses : List Course) (a : Session) :
    loopHead courses a = { a with pc := .returned } ∨
    ∃ c, a.availableCourses[a.position]? = some c ∧
      ((∃ err, hasConflict courses c a.studentRegistrations = .error err ∧
          loopHead courses a = { a with pc := .raised err none }) ∨
        loopHead courses a = { a with position := a.position + 1 } ∨
        loopHead courses a = { a with position := a.position + 1, pc := .begun c }) := by
  unfold loopHead
  rcases a.availableCourses[a.position]? with _ | c
  · exact .inl rfl
  dsimp only
  split_ifs
  · exact .inl rfl
  refine .inr ⟨c, rfl, ?_⟩
  split
  · exact .inl ⟨_, ‹_›, rfl⟩
  · exact .inr (.inl rfl)
  · exact .inr (.inr rfl)

/-- The number of enrolled records in a list. -/
def enrolledCount (rs : List Registration) : Nat :=
  rs.countP (·.status = .enrolled)

theorem enrolledCount_append (rs : List Registration) (r : Registration) :
    enrolledCount (rs ++ [r]) = enrolledCount rs + if r.status = .enrolled then 1 else 0 := by
  simp [enrolledCount, List.countP_append, List.countP_cons]

/-- Two courses meet at the same time: the first has a schedule, and the second
    has the same one. -/
def SameSlot (c d : Course) : Prop :=
  c.schedule.isSome ∧ c.schedule = d.schedule

instance (c d : Course) : Decidable (SameSlot c d) :=
  inferInstanceAs (Decidable (_ ∧ _))

/-- An enrolled record's course, as the scan finds it in the catalog, meets at
    the candidate's time. -/
def Clashes (courses : List Course) (r : Registration) (c : Course) : Prop :=
  ∃ e, findCourse courses r.courseId = some e ∧ SameSlot e c

/-- Whatever the catalog, a scan that returns says whether some enrolled
    record clashes with the candidate. -/
theorem hasConflict_eq_ok {courses : List Course} {c : Course} {rs : List Registration} {b : Bool}
    (h : hasConflict courses c rs = .ok b) :
    b = true ↔ ∃ r ∈ rs, r.status = .enrolled ∧ Clashes courses r c := by
  induction rs with
  | nil => cases h; simp
  | cons r rs ih =>
      simp only [hasConflict] at h
      split_ifs at h with hst
      · split at h
        · cases h
        · next e he =>
          split at h
          · next es cs hes hcs =>
            split_ifs at h with hslot
            · cases h
              have : es = cs := by cases es; cases cs; simp_all
              exact iff_of_true rfl ⟨r, List.mem_cons_self _ _, hst, e, he, by simp [SameSlot, hes, hcs, this]⟩
            · refine (ih h).trans ⟨fun ⟨r', hr', h'⟩ => ⟨r', List.mem_cons_of_mem _ hr', h'⟩, ?_⟩
              rintro ⟨r', hr', hst', e', he', hsome, heq⟩
              rcases List.mem_cons.mp hr' with rfl | hr'
              · rw [he] at he'
                cases he'
                rw [hes, hcs, Option.some.injEq] at heq
                exact absurd ⟨by rw [heq], by rw [heq]⟩ hslot
              · exact ⟨r', hr', hst', e', he', hsome, heq⟩
          · cases h
      · refine (ih h).trans ⟨fun ⟨r', hr', h'⟩ => ⟨r', List.mem_cons_of_mem _ hr', h'⟩, ?_⟩
        rintro ⟨r', hr', h'⟩
        rcases List.mem_cons.mp hr' with rfl | hr'
        · exact absurd h'.1 hst
        · exact ⟨r', hr', h'⟩

/-- The scan returns when every enrolled record's course is in the catalog
    with a schedule and the candidate has one. -/
theorem hasConflict_isOk {courses : List Course} {c : Course} (hc : c.schedule.isSome)
    {rs : List Registration}
    (hrs : ∀ r ∈ rs, r.status = .enrolled → ∃ e, findCourse courses r.courseId = some e ∧ e.schedule.isSome) :
    ∃ b, hasConflict courses c rs = .ok b := by
  induction rs with
  | nil => exact ⟨false, rfl⟩
  | cons r rs ih =>
      obtain ⟨b, hb⟩ := ih fun r' h => hrs r' (List.mem_cons_of_mem _ h)
      by_cases hst : r.status = .enrolled
      · obtain ⟨e, he, hsch⟩ := hrs r (List.mem_cons_self _ _) hst
        obtain ⟨es, hes⟩ := Option.isSome_iff_exists.mp hsch
        obtain ⟨cs, hcs⟩ := Option.isSome_iff_exists.mp hc
        by_cases hslot : es.days = cs.days ∧ es.time = cs.time
        · exact ⟨true, by simp [hasConflict, hst, he, hes, hcs, hslot]⟩
        · exact ⟨b, by simp [hasConflict, hst, he, hes, hcs, hslot, hb]⟩
      · exact ⟨b, by simp [hasConflict, hst, hb]⟩

end CourseRegistration
