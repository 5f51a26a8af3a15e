import CourseRegistration.Ledger

/-!
# The Session Invariant

What holds of every session at every point of every run, whatever the other
sessions do in between.

A session only ever reads its own records and the catalog, and the one piece
of shared state its outcomes depend on is the seat map, which other sessions
can only shrink. So the invariant is a property of one session and the seat
map, `SessionInv`, and it survives two kinds of step: the session's own
(`SessionInv.act`), and any step that only shrinks the seats
(`SessionInv.shrink`), which is all another session can do.

The invariant is phrased through the candidates the loop has *settled*: those
it has dealt with, less the one whose request is still in flight. Every
settled candidate is covered: the session enrolled in it, got an error for
it, found no seat left (and there is still none), or skipped it for a clash
with one of its enrolled courses. The records are a sublist of the settled
candidates, so they name distinct courses; the enrolled ones never clash; and
while every record so far is an enrolment, the records are exactly
`firstBySlot` of the settled candidates, the first candidate of each time
slot.

## Main definitions

* `Pc.inflight`, `Pc.decided?`: The request a session is in the middle of.
* `Session.settled`: The candidates the loop is done with.
* `firstBySlot`: The first candidate of each time slot, in order.
* `Covered`: What became of a settled candidate.
* `SessionInv`: The session invariant.

## Theorems

* `SessionInv.shrink`: Other sessions' steps keep the invariant.
* `SessionInv.of_pc`: A step that only moves the program counter keeps it.
* `SessionInv.loopHead`, `SessionInv.reserve`, `SessionInv.record`,
  `SessionInv.start`, `SessionInv.act`: The session's own steps keep it.
* `sessionsInv_of_reachable`: Every session of every reachable state keeps it.
* `live_of_reachable`: On a well-formed catalog no session ever raises.
-/

namespace CourseRegistration

/-- The course of the request a session is in the middle of; a request cut
    short by an exception stays in the middle forever. -/
def Pc.inflight : Pc → Option Course
  | .begun c | .cached c _ | .retried c _ _ => some c
  | .decided d | .raised _ (some d) | .dropped _ (some d) => some d.course
  | _ => none

/-- Nothing is in flight at the loop head. -/
theorem Pc.not_mem_inflight_of_loop {p : Pc} (hp : p = .loop) (c : Course) : c ∉ p.inflight := by
  simp [hp, Pc.inflight]

theorem Pc.not_isSome_inflight_of_loop {p : Pc} (hp : p = .loop) : ¬p.inflight.isSome := by
  simp [hp, Pc.inflight]

/-- The decision of the request a session is in the middle of, once it is
    made. -/
def Pc.decided? : Pc → Option Decided
  | .decided d | .raised _ (some d) | .dropped _ (some d) => some d
  | _ => none

/-- The session function has returned, whether or not the main thread has
    collected it yet. -/
def Pc.Returned (pc : Pc) : Prop := pc = .returned ∨ pc = .collected

/-- The candidates the loop has dealt with, less the one in flight. -/
def Session.settled (a : Session) : List Course :=
  a.availableCourses.take (if a.pc.inflight.isSome then a.position - 1 else a.position)

/-- One step of `firstBySlot`: a candidate is kept unless a kept one meets at
    its time. -/
def keepFirst (kept : List Course) (c : Course) : List Course :=
  if ∃ e ∈ kept, SameSlot e c then kept else kept ++ [c]

/-- The first candidate of each time slot, in candidate order. -/
def firstBySlot (cands : List Course) : List Course := cands.foldl keepFirst []

theorem firstBySlot_append_singleton (cands : List Course) (c : Course) :
    firstBySlot (cands ++ [c]) =
      if ∃ e ∈ firstBySlot cands, SameSlot e c then firstBySlot cands else firstBySlot cands ++ [c] := by
  simp only [firstBySlot, List.foldl_append, List.foldl_cons, List.foldl_nil, keepFirst]

/-- What became of a settled candidate: a record says it enrolled, errored, or
    found the course full (and the course is full now), or there is no record
    for it and an enrolled course clashes with it. -/
def Covered (courses : List Course) (slots : String → Int) (rs : List Registration) (c : Course) :
    Prop :=
  (∃ r ∈ rs, r.courseId = c.courseId ∧
    (r.status = .enrolled ∨ r.status.isError = true ∨ slots c.courseId ≤ 0)) ∨
  ((∀ r ∈ rs, r.courseId ≠ c.courseId) ∧ ∃ r ∈ rs, r.status = .enrolled ∧ Clashes courses r c)

/-- Two enrolled records, in order, never clash. -/
def Apart (courses : List Course) (r r' : Registration) : Prop :=
  ∀ e, findCourse courses r'.courseId = some e → ¬Clashes courses r e

/-- The session invariant, relative to the catalog and the current seat map. -/
structure SessionInv (courses : List Course) (slots : String → Int) (a : Session) : Prop where
  pending : a.pc = .pending →
    a.availableCourses = [] ∧ a.position = 0 ∧ a.studentRegistrations = [] ∧ a.registeredCourses = 0
  target : a.pc ≠ .pending →
    minCoursesPerStudent ≤ a.targetCourses ∧ a.targetCourses ≤ maxCoursesPerStudent ∧
      a.availableCourses.length = min (a.targetCourses * 2) courses.length
  avail_sub : ∀ c ∈ a.availableCourses, c ∈ courses
  avail_nodup : (a.availableCourses.map Course.courseId).Nodup
  position_le : a.position ≤ a.availableCourses.length
  inflight : ∀ c ∈ a.pc.inflight, 0 < a.position ∧ a.availableCourses[a.position - 1]? = some c
  registered : a.registeredCourses = enrolledCount a.studentRegistrations
  below_target : a.registeredCourses ≤ a.targetCourses
  inflight_below : a.pc.inflight.isSome → a.registeredCourses < a.targetCourses
  student : ∀ r ∈ a.studentRegistrations, r.studentId = a.student.studentId
  attempted : (a.studentRegistrations.map Registration.courseId).Sublist
    (a.settled.map Course.courseId)
  enrolled_apart : (a.studentRegistrations.filter (·.status = .enrolled)).Pairwise (Apart courses)
  inflight_apart : ∀ c ∈ a.pc.inflight, ∀ r ∈ a.studentRegistrations,
    r.status = .enrolled → ¬Clashes courses r c
  nonempty : a.settled ≠ [] → a.studentRegistrations ≠ []
  finished : a.pc.Returned →
    a.availableCourses.length ≤ a.position ∨ a.targetCourses ≤ a.registeredCourses
  full_of_record : ∀ r ∈ a.studentRegistrations,
    (r.status = .waitlisted ∨ r.status = .failed) → slots r.courseId ≤ 0
  full_of_decided : ∀ d ∈ a.pc.decided?,
    (d.status = .waitlisted ∨ d.status = .failed) → slots d.course.courseId ≤ 0
  covered : ∀ c ∈ a.settled, Covered courses slots a.studentRegistrations c
  greedy : (∀ r ∈ a.studentRegistrations, r.status = .enrolled) →
    a.studentRegistrations.map Registration.courseId = (firstBySlot a.settled).map Course.courseId ∧
      ∀ c ∈ a.pc.inflight, ∀ e ∈ firstBySlot a.settled, ¬SameSlot e c

namespace SessionInv

variable {courses : List Course} {slots slots' : String → Int} {a : Session}

/-- Other sessions only shrink the seat map, and a course that is full stays
    full, so the invariant survives their steps. -/
theorem shrink (h : SessionInv courses slots a) (hle : ∀ id, slots' id ≤ slots id) :
    SessionInv courses slots' a := by
  have hz : ∀ id, slots id ≤ 0 → slots' id ≤ 0 := fun id h0 => (hle id).trans h0
  refine { h with
    full_of_record := fun r hr hs => hz _ (h.full_of_record r hr hs)
    full_of_decided := fun d hd hs => hz _ (h.full_of_decided d hd hs)
    covered := fun c hc => ?_ }
  rcases h.covered c hc with ⟨r, hr, hid, hs⟩ | hskip
  · exact .inl ⟨r, hr, hid, hs.imp_right (Or.imp_right (hz _))⟩
  · exact .inr hskip

/-- A step that moves only the program counter, to one with the same request
    in flight and the same decision, keeps the invariant. -/
theorem of_pc (h : SessionInv courses slots a) {p : Pc} (hinf : p.inflight = a.pc.inflight)
    (hdec : ∀ d ∈ p.decided?, (d.status = .waitlisted ∨ d.status = .failed) →
      slots d.course.courseId ≤ 0) (hp : p ≠ .pending) (ha : a.pc ≠ .pending)
    (hfin : p.Returned →
      a.availableCourses.length ≤ a.position ∨ a.targetCourses ≤ a.registeredCourses) :
    SessionInv courses slots { a with pc := p } := by
  have hset : ({ a with pc := p } : Session).settled = a.settled := by
    simp only [Session.settled, hinf]
  exact
    { pending := fun h' => absurd h' hp
      target := fun _ => h.target ha
      avail_sub := h.avail_sub
      avail_nodup := h.avail_nodup
      position_le := h.position_le
      inflight := by rw [hinf]; exact h.inflight
      registered := h.registered
      below_target := h.below_target
      inflight_below := by rw [hinf]; exact h.inflight_below
      student := h.student
      attempted := by rw [hset]; exact h.attempted
      enrolled_apart := h.enrolled_apart
      inflight_apart := by rw [hinf]; exact h.inflight_apart
      nonempty := by rw [hset]; exact h.nonempty
      finished := hfin
      full_of_record := h.full_of_record
      full_of_decided := hdec
      covered := by rw [hset]; exact h.covered
      greedy := by rw [hset, hinf]; exact h.greedy }

end SessionInv

section Lists

theorem mem_settled {a : Session} {c : Course} (h : c ∈ a.settled) : c ∈ a.availableCourses :=
  List.mem_of_mem_take h

theorem mem_of_mem_firstBySlot {cands : List Course} {e : Course} (h : e ∈ firstBySlot cands) :
    e ∈ cands := by
  induction cands using List.reverseRecOn with
  | nil => simp [firstBySlot] at h
  | append_singleton l c ih =>
      rw [firstBySlot_append_singleton] at h
      split_ifs at h
      · exact List.mem_append_left _ (ih h)
      · rcases List.mem_append.mp h with h | h
        · exact List.mem_append_left _ (ih h)
        · exact List.mem_append_right _ h

/-- With distinct ids, the candidate at a position has an id that no earlier
    candidate has. -/
theorem id_not_mem_take {l : List Course} (hnd : (l.map Course.courseId).Nodup) {n : Nat}
    {c : Course} (hget : l[n]? = some c) : c.courseId ∉ (l.take n).map Course.courseId := by
  rw [← List.take_append_drop n l, List.map_append] at hnd
  have hdrop : c ∈ l.drop n := by
    rw [List.mem_iff_getElem?]; exact ⟨0, by simpa using hget⟩
  exact fun hc => List.disjoint_of_nodup_append hnd hc (List.mem_map_of_mem _ hdrop)

theorem length_filterMap_getElem? {l : List Course} {sample : List Nat}
    (h : ∀ k ∈ sample, k < l.length) : (sample.filterMap (l[·]?)).length = sample.length := by
  induction sample with
  | nil => rfl
  | cons k ks ih =>
      have hk := h k (List.mem_cons_self _ _)
      simp [List.filterMap_cons, List.getElem?_eq_getElem hk,
        ih fun k' hk' => h k' (List.mem_cons_of_mem _ hk')]

theorem mem_filterMap_getElem? {l : List Course} {sample : List Nat} {c : Course}
    (hc : c ∈ sample.filterMap (l[·]?)) : c ∈ l := by
  obtain ⟨k, -, hk⟩ := List.mem_filterMap.mp hc
  exact List.mem_iff_getElem?.mpr ⟨k, hk⟩

/-- Distinct positions in a catalog with distinct ids pick courses with
    distinct ids. -/
theorem nodup_filterMap_getElem? {l : List Course} (hnd : (l.map Course.courseId).Nodup)
    {sample : List Nat} (hs : sample.Nodup) :
    ((sample.filterMap (l[·]?)).map Course.courseId).Nodup := by
  induction sample with
  | nil => exact List.nodup_nil
  | cons k ks ih =>
      obtain ⟨hk, hks⟩ := List.nodup_cons.mp hs
      rcases hget : l[k]? with _ | c
      · simpa [List.filterMap_cons, hget] using ih hks
      · simp only [List.filterMap_cons, hget, List.map_cons, List.nodup_cons]
        refine ⟨fun hmem => ?_, ih hks⟩
        obtain ⟨c', hc', hid⟩ := List.mem_map.mp hmem
        obtain ⟨k', hk', hget'⟩ := List.mem_filterMap.mp hc'
        obtain ⟨hlt, rfl⟩ := List.getElem?_eq_some_iff.mp hget
        obtain ⟨hlt', rfl⟩ := List.getElem?_eq_some_iff.mp hget'
        have : k' = k := by
          have hb' : k' < (l.map Course.courseId).length := by simpa using hlt'
          have hb : k < (l.map Course.courseId).length := by simpa using hlt
          have h1 : (l.map Course.courseId)[k'] = (l.map Course.courseId)[k] := by simpa using hid
          exact (List.Nodup.getElem_inj_iff hnd).mp h1
        exact hk (this ▸ hk')

end Lists

namespace SessionInv

variable {courses : List Course} {slots : String → Int} {a : Session} {c : Course}

/-- A settled candidate is a catalog course, so the scan's lookup finds it. -/
theorem findCourse_settled (h : SessionInv courses slots a) (hnd : (courses.map Course.courseId).Nodup)
    {e : Course} (he : e ∈ a.settled) : findCourse courses e.courseId = some e :=
  findCourse_of_mem hnd (h.avail_sub e (mem_settled he))

/-- While every record enrols, the courses the scan finds for them are the
    kept candidates themselves. -/
theorem clashes_iff_kept (h : SessionInv courses slots a) (hnd : (courses.map Course.courseId).Nodup)
    (hall : ∀ r ∈ a.studentRegistrations, r.status = .enrolled) :
    (∃ r ∈ a.studentRegistrations, r.status = .enrolled ∧ Clashes courses r c) ↔
      ∃ e ∈ firstBySlot a.settled, SameSlot e c := by
  have hids := (h.greedy hall).1
  constructor
  · rintro ⟨r, hr, -, e, he, hsame⟩
    obtain ⟨e', he', hid⟩ := List.mem_map.mp (hids ▸ List.mem_map_of_mem Registration.courseId hr)
    rw [← hid, h.findCourse_settled hnd (mem_of_mem_firstBySlot he')] at he
    exact ⟨e', he', Option.some.inj he ▸ hsame⟩
  · rintro ⟨e, he, hsame⟩
    obtain ⟨r, hr, hid⟩ := List.mem_map.mp (hids.symm ▸ List.mem_map_of_mem Course.courseId he)
    exact ⟨r, hr, hall r hr, e, hid ▸ h.findCourse_settled hnd (mem_of_mem_firstBySlot he), hsame⟩

/-- Skipping a candidate that clashes with an enrolled course settles it. -/
theorem skip (h : SessionInv courses slots a) (hnd : (courses.map Course.courseId).Nodup)
    (hpc : a.pc = .loop) (hget : a.availableCourses[a.position]? = some c)
    (hcl : ∃ r ∈ a.studentRegistrations, r.status = .enrolled ∧ Clashes courses r c) :
    SessionInv courses slots { a with position := a.position + 1 } := by
  have hset : a.settled = a.availableCourses.take a.position := by
    simp [Session.settled, hpc, Pc.inflight]
  have hset' : ({ a with position := a.position + 1 } : Session).settled = a.settled ++ [c] := by
    simp [Session.settled, hpc, Pc.inflight, hset, List.take_succ, hget]
  have hlt : a.position < a.availableCourses.length := (List.getElem?_eq_some_iff.mp hget).1
  have hfresh : ∀ r ∈ a.studentRegistrations, r.courseId ≠ c.courseId := fun r hr hid =>
    id_not_mem_take h.avail_nodup hget
      (hset ▸ h.attempted.subset (hid ▸ List.mem_map_of_mem Registration.courseId hr))
  exact
    { h with
      pending := fun h' => absurd (hpc ▸ h' : Pc.loop = .pending) nofun
      position_le := hlt
      inflight := fun c hc => absurd hc (Pc.not_mem_inflight_of_loop hpc c)
      inflight_below := fun hs => absurd hs (Pc.not_isSome_inflight_of_loop hpc)
      attempted := by
        rw [hset', List.map_append]
        exact h.attempted.trans (List.sublist_append_left _ _)
      inflight_apart := fun c hc => absurd hc (Pc.not_mem_inflight_of_loop hpc c)
      nonempty := fun _ => by
        obtain ⟨r, hr, -⟩ := hcl
        exact List.ne_nil_of_mem hr
      finished := by simp [hpc, Pc.Returned]
      full_of_decided := by simp [hpc, Pc.decided?]
      covered := by
        rw [hset']
        intro c' hc'
        rcases List.mem_append.mp hc' with hc' | hc'
        · exact h.covered c' hc'
        · rw [List.mem_singleton.mp hc']
          exact .inr ⟨hfresh, hcl⟩
      greedy := fun hall => by
        rw [hset', firstBySlot_append_singleton, if_pos ((h.clashes_iff_kept hnd hall).mp hcl)]
        exact ⟨(h.greedy hall).1, fun c hc => absurd hc (Pc.not_mem_inflight_of_loop hpc c)⟩ }

/-- Starting a request on a candidate that clashes with nothing puts it in
    flight. -/
theorem start_request (h : SessionInv courses slots a) (hnd : (courses.map Course.courseId).Nodup)
    (hpc : a.pc = .loop) (hget : a.availableCourses[a.position]? = some c)
    (hbelow : a.registeredCourses < a.targetCourses)
    (hno : ¬∃ r ∈ a.studentRegistrations, r.status = .enrolled ∧ Clashes courses r c) :
    SessionInv courses slots { a with position := a.position + 1, pc := .begun c } := by
  have hset : ({ a with position := a.position + 1, pc := .begun c } : Session).settled =
      a.settled := by
    simp [Session.settled, hpc, Pc.inflight]
  have hlt : a.position < a.availableCourses.length := (List.getElem?_eq_some_iff.mp hget).1
  exact
    { h with
      pending := nofun
      target := fun _ => h.target (by rw [hpc]; exact nofun)
      position_le := hlt
      inflight := by
        simp only [Pc.inflight, Option.mem_def, Option.some.injEq]
        rintro _ rfl
        exact ⟨Nat.succ_pos _, hget⟩
      inflight_below := fun _ => hbelow
      attempted := hset ▸ h.attempted
      inflight_apart := by
        simp only [Pc.inflight, Option.mem_def, Option.some.injEq]
        rintro _ rfl r hr hst hcl
        exact hno ⟨r, hr, hst, hcl⟩
      nonempty := hset ▸ h.nonempty
      finished := nofun
      full_of_decided := fun _ h => nomatch h
      covered := hset ▸ h.covered
      greedy := fun hall => by
        rw [hset]
        refine ⟨(h.greedy hall).1, ?_⟩
        simp only [Pc.inflight, Option.mem_def, Option.some.injEq]
        rintro _ rfl e he hsame
        exact hno ((h.clashes_iff_kept hnd hall).mpr ⟨e, he, hsame⟩) }

/-- One pass of the loop keeps the invariant. -/
theorem loopHead (h : SessionInv courses slots a) (hnd : (courses.map Course.courseId).Nodup)
    (hpc : a.pc = .loop) : SessionInv courses slots (loopHead courses a) := by
  have hne : a.pc ≠ .pending := by rw [hpc]; exact nofun
  unfold CourseRegistration.loopHead
  rcases hget : a.availableCourses[a.position]? with _ | c
  · exact h.of_pc (by simp [hpc, Pc.inflight]) (fun _ h => nomatch h) nofun hne
      fun _ => .inl (List.getElem?_eq_none_iff.mp hget)
  · dsimp only
    split_ifs with htarget
    · exact h.of_pc (by simp [hpc, Pc.inflight]) (fun _ h => nomatch h) nofun hne
        fun _ => .inr htarget
    · rcases hcon : hasConflict courses c a.studentRegistrations with err | b
      · exact h.of_pc (by simp [hpc, Pc.inflight]) (fun _ h => nomatch h) nofun hne
          nofun
      · have hiff := hasConflict_eq_ok hcon
        cases b
        · exact h.start_request hnd hpc hget (by omega) fun hc => absurd (hiff.mpr hc) nofun
        · exact h.skip hnd hpc hget (hiff.mp rfl)

/-- The locked decision keeps the invariant under the seat map it leaves: a
    waitlist or failure outcome is only issued on a full course. -/
theorem reserve {t : Tester} (h : SessionInv courses t.courseSlots a)
    {hit : Bool} {n : Nat} (hpc : a.pc = .retried c hit n) (e w : ℚ) :
    SessionInv courses (reserveSlot t c e w).1.courseSlots
      { a with pc := .decided ⟨c, hit, n, (reserveSlot t c e w).2⟩ } := by
  have hle : ∀ id, (reserveSlot t c e w).1.courseSlots id ≤ t.courseSlots id := fun id => by
    rw [reserveSlot_courseSlots, takeSeat_apply]; split_ifs <;> omega
  refine (h.shrink hle).of_pc (by simp [hpc, Pc.inflight]) ?_ nofun
    (by rw [hpc]; exact nofun) nofun
  simp only [Pc.decided?, Option.mem_def, Option.some.injEq]
  rintro _ rfl hwf
  simp only at hwf
  have hnot : (reserveSlot t c e w).2 ≠ .enrolled := by rcases hwf with h' | h' <;> rw [h'] <;> nofun
  have herr : (reserveSlot t c e w).2.isError = false := by rcases hwf with h' | h' <;> rw [h'] <;> rfl
  have hz := ((decideStatus_of_not_error _ e w herr).2 hnot).1
  simp only [reserveSlot_courseSlots, takeSeat_apply, hnot, false_and, if_false]
  omega

/-- Once the decided request is recorded and the loop is back at its head, its
    course is settled too. -/
theorem settled_record (h : SessionInv courses slots a) {d : Decided} (hpc : a.pc = .decided d)
    (rs : List Registration) (n : Nat) :
    ({ a with studentRegistrations := rs, registeredCourses := n, pc := .loop } : Session).settled =
      a.settled ++ [d.course] := by
  obtain ⟨hpos, hget⟩ := h.inflight d.course (by simp [hpc, Pc.inflight])
  obtain ⟨k, hk⟩ : ∃ k, a.position = k + 1 := ⟨a.position - 1, by omega⟩
  rw [hk, Nat.add_sub_cancel] at hget
  simp [Session.settled, Pc.inflight, hpc, hk, List.take_succ, hget]

/-- Recording the decided request covers its course, and the courses settled
    before stay covered. -/
theorem covered_record (h : SessionInv courses slots a) {d : Decided} (hpc : a.pc = .decided d)
    {r : Registration} (hcid : r.courseId = d.course.courseId) (hst : r.status = d.status)
    (hfresh : ∀ c ∈ a.settled, r.courseId ≠ c.courseId) :
    ∀ c ∈ a.settled ++ [d.course], Covered courses slots (a.studentRegistrations ++ [r]) c := by
  refine List.forall_mem_append.mpr ⟨fun c hc => ?_, List.forall_mem_singleton.mpr ?_⟩
  · -- An earlier course keeps its record, or its clash and its lack of one.
    rcases h.covered c hc with ⟨r0, hr0, hid, hs⟩ | ⟨hnone, r0, hr0, hcl⟩
    · exact .inl ⟨r0, List.mem_append_left _ hr0, hid, hs⟩
    · exact .inr ⟨List.forall_mem_append.mpr ⟨hnone, List.forall_mem_singleton.mpr (hfresh c hc)⟩,
        r0, List.mem_append_left _ hr0, hcl⟩
  · -- The decided course: an enrolment, an error, or a course found full.
    refine .inl ⟨r, List.mem_append_right _ (List.mem_singleton_self _), hcid, ?_⟩
    rw [hst]
    rcases hds : d.status
    · exact .inl rfl
    all_goals first
      | exact .inr (.inl rfl)
      | exact .inr (.inr (h.full_of_decided d (by simp [hpc, Pc.decided?]) (by simp [hds])))

/-- Appending the record of a decided request settles its course. -/
theorem record (h : SessionInv courses slots a) (hnd : (courses.map Course.courseId).Nodup)
    {d : Decided} (hpc : a.pc = .decided d) {r : Registration}
    (hsid : r.studentId = a.student.studentId) (hcid : r.courseId = d.course.courseId)
    (hst : r.status = d.status) :
    SessionInv courses slots
      { a with
        studentRegistrations := a.studentRegistrations ++ [r]
        registeredCourses :=
          if r.status = .enrolled then a.registeredCourses + 1 else a.registeredCourses
        pc := .loop } := by
  -- The decided course is the candidate before the position: a catalog course
  -- that no settled candidate, so no earlier record, names.
  obtain ⟨hpos, hget⟩ := h.inflight d.course (by simp [hpc, Pc.inflight])
  have hset : a.settled = a.availableCourses.take (a.position - 1) := by
    simp [Session.settled, hpc, Pc.inflight]
  have hset' := h.settled_record hpc (a.studentRegistrations ++ [r])
    (if r.status = .enrolled then a.registeredCourses + 1 else a.registeredCourses)
  have hfind : findCourse courses d.course.courseId = some d.course :=
    findCourse_of_mem hnd (h.avail_sub _ (List.mem_iff_getElem?.mpr ⟨_, hget⟩))
  have hbelow := h.inflight_below (by simp [hpc, Pc.inflight])
  have hfresh : ∀ c' ∈ a.settled, r.courseId ≠ c'.courseId := fun c' hc' hid =>
    id_not_mem_take h.avail_nodup hget (hset ▸ hcid ▸ hid ▸ List.mem_map_of_mem Course.courseId hc')
  have hdec : d ∈ a.pc.decided? := by simp [hpc, Pc.decided?]
  exact
    { h with
      pending := nofun
      target := fun _ => h.target (by rw [hpc]; exact nofun)
      inflight := fun c hc => absurd hc (Pc.not_mem_inflight_of_loop rfl c)
      registered := by rw [enrolledCount_append, h.registered]; split_ifs <;> rfl
      below_target := by dsimp only; have := h.below_target; split_ifs <;> omega
      inflight_below := fun hs => absurd hs (Pc.not_isSome_inflight_of_loop rfl)
      student := List.forall_mem_append.mpr ⟨h.student, List.forall_mem_singleton.mpr hsid⟩
      attempted := by
        rw [hset', List.map_append, List.map_append, List.map_singleton, List.map_singleton, hcid]
        exact h.attempted.append (List.Sublist.refl _)
      enrolled_apart := by
        -- An enrolled new record clashes with no earlier enrolment: its request
        -- was started only on a candidate that clashed with none.
        rw [List.filter_append, List.pairwise_append]
        refine ⟨h.enrolled_apart, List.pairwise_singleton _ _ |>.sublist (List.filter_sublist _), ?_⟩
        intro r0 hr0 r1 hr1 e he
        obtain rfl : r1 = r := List.mem_singleton.mp (List.mem_of_mem_filter hr1)
        rw [hcid, hfind] at he
        cases he
        have hr0' := List.mem_filter.mp hr0
        exact h.inflight_apart d.course (by simp [hpc, Pc.inflight]) r0 hr0'.1 (by simpa using hr0'.2)
      inflight_apart := fun c hc => absurd hc (Pc.not_mem_inflight_of_loop rfl c)
      nonempty := fun _ => by simp
      finished := nofun
      full_of_record := List.forall_mem_append.mpr ⟨h.full_of_record,
        List.forall_mem_singleton.mpr fun hwf => hcid ▸ h.full_of_decided d hdec (hst ▸ hwf)⟩
      full_of_decided := fun _ h => nomatch h
      covered := hset' ▸ h.covered_record hpc hcid hst hfresh
      greedy := fun hall => by
        -- An enrolment is kept by `firstBySlot`: no kept course meets at its time.
        obtain ⟨hids, hkeep⟩ := h.greedy fun r' hr' => hall r' (List.mem_append_left _ hr')
        have hnot : ¬∃ e ∈ firstBySlot a.settled, SameSlot e d.course := fun ⟨e, he, hs⟩ =>
          hkeep d.course (by simp [hpc, Pc.inflight]) e he hs
        rw [hset', firstBySlot_append_singleton, if_neg hnot, List.map_append, List.map_append, hids]
        exact ⟨by simp [hcid], fun c hc => absurd hc (Pc.not_mem_inflight_of_loop rfl c)⟩ }

/-- Drawing the target and the candidates starts the loop with nothing
    settled. -/
theorem start (hnd : (courses.map Course.courseId).Nodup)
    {target : Nat} {sample : List Nat} {a' : Session}
    (hs : startSession courses a target sample = some a') : SessionInv courses slots a' := by
  obtain ⟨-, hmin, hmax, ⟨hnd', hlt, hlen⟩, rfl⟩ := startSession_eq_some hs
  exact
    { pending := nofun
      target := fun _ => ⟨hmin, hmax, by rw [length_filterMap_getElem? hlt, hlen]⟩
      avail_sub := fun c hc => mem_filterMap_getElem? hc
      avail_nodup := nodup_filterMap_getElem? hnd hnd'
      position_le := Nat.zero_le _
      inflight := fun c hc => absurd hc (Pc.not_mem_inflight_of_loop rfl c)
      registered := rfl
      below_target := Nat.zero_le _
      inflight_below := fun hs => absurd hs (Pc.not_isSome_inflight_of_loop rfl)
      student := by simp
      attempted := by simp
      enrolled_apart := by simp
      inflight_apart := fun c hc => absurd hc (Pc.not_mem_inflight_of_loop rfl c)
      nonempty := by simp [Session.settled]
      finished := nofun
      full_of_record := by simp
      full_of_decided := fun _ h => nomatch h
      covered := by simp [Session.settled]
      greedy := fun _ => by simp [Session.settled, firstBySlot, Pc.inflight] }

/-- A session's own step keeps its invariant, under the seat map the step
    leaves. -/
theorem act {t t' : Tester} {a' : Session} {ℓ : Label} (hnd : (courses.map Course.courseId).Nodup)
    (h : SessionInv courses t.courseSlots a) (hcs : t.courses = courses)
    (hact : act t a ℓ = some (t', a')) : SessionInv courses t'.courseSlots a' := by
  cases ℓ
  case start =>
    obtain ⟨rfl, hs⟩ := act_start hact
    exact start hnd (hcs ▸ hs)
  case next =>
    obtain ⟨hpc, rfl, rfl⟩ := act_next hact
    exact hcs ▸ h.loopHead hnd hpc
  case lookup =>
    obtain ⟨c, hpc, rfl, rfl⟩ := act_lookup hact
    have : (countCacheLookup t (cacheHitOf ‹_›)).courseSlots = t.courseSlots := by
      cases cacheHitOf ‹_› <;> rfl
    rw [this]
    exact h.of_pc (by simp [hpc, Pc.inflight]) (fun _ h => nomatch h) nofun
      (by rw [hpc]; exact nofun) nofun
  case retry =>
    obtain ⟨c, hit, n, hpc, hp, rfl⟩ := act_retry hact
    rw [(atomicPhase_eq_some hp).2.1]
    exact h.of_pc (by simp [hpc, Pc.inflight]) (fun _ h => nomatch h) nofun
      (by rw [hpc]; exact nofun) nofun
  case reserve =>
    obtain ⟨c, hit, n, hpc, rfl, rfl⟩ := act_reserve hact
    exact h.reserve hpc _ _
  case persist =>
    obtain ⟨d, hpc, rfl, rfl⟩ := act_persist hact
    unfold recordAttempt
    split
    · next err _ =>
      exact h.of_pc (by simp [hpc, Pc.inflight]) (by simpa [hpc, Pc.decided?] using h.full_of_decided)
        nofun (by rw [hpc]; exact nofun) nofun
    · next r hr =>
      obtain ⟨hsid, hcid, hst, -⟩ := persistPhase_record hr
      exact h.record hnd hpc hsid hcid hst
  case collect =>
    rcases act_collect hact with ⟨hpc, rfl, rfl⟩ | ⟨err, lost, hpc, rfl, rfl⟩
    · exact h.of_pc (by simp [hpc, Pc.inflight]) (fun _ h => nomatch h) nofun
        (by rw [hpc]; exact nofun) fun _ => h.finished (.inl hpc)
    · exact h.of_pc (by cases lost <;> simp [hpc, Pc.inflight])
        (by rcases lost with _ | d
            · exact fun _ h => nomatch h
            · simpa [hpc, Pc.decided?] using h.full_of_decided) nofun
        (by rw [hpc]; exact nofun) nofun

end SessionInv

/-- Every session of the run satisfies the session invariant under the
    current seat map. -/
def SessionsInv (courses : List Course) (s : System) : Prop :=
  ∀ a ∈ s.sessions, SessionInv courses s.tester.courseSlots a

theorem courses_of_reachable {courses : List Course} {students : List Student} {hot : List String}
    {s : System} (hr : Reachable (System.init courses students hot) s) : s.tester.courses = courses :=
  Reachable.induct (fun s => s.tester.courses = courses) rfl (fun s ℓ s' _ hc hs => by
    obtain ⟨a, -, t, a', hact, rfl⟩ := step_eq_some_iff.mp hs
    exact (act_courses hact).trans hc) hr

/-- On a catalog with distinct ids, every session satisfies the session
    invariant at every reachable state. -/
theorem sessionsInv_of_reachable {courses : List Course} (hnd : (courses.map Course.courseId).Nodup)
    {students : List Student} {hot : List String} {s : System}
    (hr : Reachable (System.init courses students hot) s) : SessionsInv courses s := by
  refine Reachable.induct (SessionsInv courses) ?_ (fun s ℓ s' hr hinv hs => ?_) hr
  · intro a ha
    obtain ⟨st, -, rfl⟩ := List.mem_map.mp ha
    refine ⟨fun _ => ⟨rfl, rfl, rfl, rfl⟩, nofun, by simp [Session.init], by simp [Session.init],
      le_rfl, by simp [Session.init, Pc.inflight], rfl, le_rfl, by simp [Session.init, Pc.inflight],
      by simp [Session.init], by simp [Session.init], by simp [Session.init],
      by simp [Session.init, Pc.inflight], by simp [Session.init, Session.settled],
      by simp [Session.init, Pc.Returned], by simp [Session.init], by simp [Session.init, Pc.decided?],
      by simp [Session.init, Session.settled], fun _ => by
        simp [Session.init, Session.settled, firstBySlot, Pc.inflight]⟩
  · have hcs := courses_of_reachable hr
    obtain ⟨a, hget, t, a', hact, rfl⟩ := step_eq_some_iff.mp hs
    intro b hb
    rcases List.mem_or_eq_of_mem_set hb with hb | rfl
    · refine (hinv b hb).shrink fun id => ?_
      rcases slots_step hs id with h' | ⟨h', -⟩ <;> simp only at h' ⊢ <;> omega
    · exact (hinv a (List.mem_iff_getElem?.mpr ⟨_, hget⟩)).act hnd hcs hact

/-- A session that has not raised. -/
def Pc.Live (pc : Pc) : Prop := ∀ err lost, pc ≠ .raised err lost ∧ pc ≠ .dropped err lost

/-- On a well-formed catalog a session's own step never raises: the scan
    finds every enrolled course with a schedule, and the record finds its
    course's `course_code`. -/
theorem SessionInv.act_live {courses : List Course} (hwf : WellFormed courses)
    {t t' : Tester} {a a' : Session} {ℓ : Label} (h : SessionInv courses t.courseSlots a)
    (hcs : t.courses = courses) (hlive : a.pc.Live)
    (hact : CourseRegistration.act t a ℓ = some (t', a')) : a'.pc.Live := by
  cases ℓ
  case start =>
    obtain ⟨-, -, -, -, rfl⟩ := startSession_eq_some (act_start hact).2
    exact fun _ _ => ⟨nofun, nofun⟩
  case next =>
    obtain ⟨hpc, -, rfl⟩ := act_next hact
    rcases loopHead_cases t.courses a with h' | ⟨c, hget, ⟨err, hcon, -⟩ | h' | h'⟩
    · rw [h']; exact fun _ _ => ⟨nofun, nofun⟩
    · -- The scan raises only on a course it cannot find or without a schedule,
      -- and the records name settled candidates, all catalog courses.
      have hc : c ∈ courses := h.avail_sub c (List.mem_iff_getElem?.mpr ⟨_, hget⟩)
      obtain ⟨b, hb⟩ := hasConflict_isOk (hwf.schedule_isSome c hc) fun r hr _ => by
        obtain ⟨e, he, hid⟩ := List.mem_map.mp
          (h.attempted.subset (List.mem_map_of_mem Registration.courseId hr))
        have he' := h.avail_sub e (mem_settled he)
        exact ⟨e, hid ▸ findCourse_of_mem hwf.nodup_ids he', hwf.schedule_isSome e he'⟩
      rw [hcs, hb] at hcon
      cases hcon
    all_goals rw [h']; intro _ _; simp [hpc]
  case lookup => obtain ⟨c, -, -, rfl⟩ := act_lookup hact; exact fun _ _ => ⟨nofun, nofun⟩
  case retry => obtain ⟨c, hit, n, -, -, rfl⟩ := act_retry hact; exact fun _ _ => ⟨nofun, nofun⟩
  case reserve => obtain ⟨c, hit, n, -, -, rfl⟩ := act_reserve hact; exact fun _ _ => ⟨nofun, nofun⟩
  case persist =>
    -- The record finds its course's `course_code`, which every catalog course has.
    obtain ⟨d, hpc, -, rfl⟩ := act_persist hact
    obtain ⟨-, hget⟩ := h.inflight d.course (by simp [hpc, Pc.inflight])
    have hc := h.avail_sub _ (List.mem_iff_getElem?.mpr ⟨_, hget⟩)
    obtain ⟨code, hcode⟩ := Option.isSome_iff_exists.mp (hwf.code_isSome _ hc)
    simp only [persistPhase, hcode, recordAttempt]
    exact fun _ _ => ⟨nofun, nofun⟩
  case collect =>
    rcases act_collect hact with ⟨-, -, rfl⟩ | ⟨err, lost, hpc, -, -⟩
    · exact fun _ _ => ⟨nofun, nofun⟩
    · exact absurd hpc (hlive err lost).1

/-- On a well-formed catalog no session ever raises. -/
theorem live_of_reachable {courses : List Course} (hwf : WellFormed courses)
    {students : List Student} {hot : List String} {s : System}
    (hr : Reachable (System.init courses students hot) s) : ∀ a ∈ s.sessions, a.pc.Live := by
  refine Reachable.induct (fun s => ∀ a ∈ s.sessions, a.pc.Live) ?_ (fun s ℓ s' hr hinv hs => ?_) hr
  · intro a ha
    obtain ⟨st, -, rfl⟩ := List.mem_map.mp ha
    intro _ _; exact ⟨nofun, nofun⟩
  · have hsi := sessionsInv_of_reachable hwf.nodup_ids hr
    obtain ⟨a, hget, t, a', hact, rfl⟩ := step_eq_some_iff.mp hs
    have ha := List.mem_iff_getElem?.mpr ⟨_, hget⟩
    intro b hb
    rcases List.mem_or_eq_of_mem_set hb with hb | rfl
    · exact hinv b hb
    · exact (hsi a ha).act_live hwf (courses_of_reachable hr) (hinv a ha) hact

end CourseRegistration
