import Mathlib.Data.Rat.Defs
import Mathlib.Data.List.Nodup
import Mathlib.Logic.Function.Basic

/-!
# Catalog, Roster and Registration Records

The data the load tester reads and writes, as `load_test_simulator.py` sees it.

The tester loads `course_registration_data.json` without checking it. A catalog
entry is a dictionary, and a key it lacks is only noticed when some line reads
it: `course_code` when a registration record is built, `schedule` when the
conflict scan compares two courses. Those two keys are therefore `Option`
fields here, `none` standing for the missing key, and the functions that read
them return `Except PyError`. Every other key the tester reads is read in
`__init__` already, so a catalog that gets as far as a run has them, and they
are plain fields.

A roster entry is read the same way. The simulator reads only `student_id`;
the demo's results also read `first_name` and `last_name`, when they print a
student's line, so those two are `Option` fields as well.

A registration record carries more keys than this file keeps. The ones kept
are those some modelled function reads (`status`, `student_id`, `course_id`,
`course_code`, `response_time_ms`) and those the theorems about a run compare
with the tester's counters (`cache_hit`, `retry_count`). The rest are written
once and never read back.

## Main definitions

* `PyError`: The exceptions the modelled code can raise.
* `Schedule`, `Course`, `Student`: Catalog and roster entries.
* `Status`: The outcome of one registration request.
* `Registration`: The record `simulate_registration_request` returns.
* `initSlots`: The seat map `__init__` builds from the catalog.
* `findCourse`: The `next(...)` lookup of a course by id.
* `WellFormed`: A catalog as `generate_test_data.py` produces it.

## Theorems

* `initSlots_of_mem`: A catalog course with a unique id starts with its
  `total_slots`.
* `initSlots_of_not_mem`: An id the catalog lacks reads `0`.
* `findCourse_of_mem`: With unique ids the lookup finds the course itself.
-/

namespace CourseRegistration

/-- The exceptions the modelled code can raise. A `KeyError` carries the key. -/
inductive PyError where
  | keyError (key : String)
  | stopIteration
  | zeroDivisionError
  | indexError
  | statisticsError
  deriving DecidableEq, Repr

/-- The part of a course's `schedule` that the conflict scan compares. -/
structure Schedule where
  days : String
  time : String
  deriving DecidableEq, Repr

/-- A catalog entry. `courseCode` and `schedule` are `none` when the entry lacks
    the key. -/
structure Course where
  courseId : String
  courseCode : Option String
  totalSlots : Int
  schedule : Option Schedule
  deriving DecidableEq, Repr

/-- A roster entry: `student_id`, which both testers read, and the two names
    the demo's results read, `none` when the entry lacks the key. -/
structure Student where
  studentId : String
  firstName : Option String
  lastName : Option String
  deriving DecidableEq, Repr

/-- The `status` of a registration record. -/
inductive Status where
  | enrolled
  | waitlisted
  | failed
  | error5xx
  | error4xx
  deriving DecidableEq, Repr

/-- `status.startswith("Error")`. -/
def Status.isError : Status → Bool
  | .error5xx | .error4xx => true
  | _ => false

/-- The record `simulate_registration_request` returns, with the keys some
    modelled function reads or some theorem counts. -/
structure Registration where
  studentId : String
  courseId : String
  courseCode : String
  status : Status
  responseTimeMs : ℚ
  cacheHit : Bool
  retryCount : Nat
  deriving DecidableEq, Repr

/-- `min_courses_per_student`. -/
def minCoursesPerStudent : Nat := 3

/-- `max_courses_per_student`. -/
def maxCoursesPerStudent : Nat := 6

/-- `course_slots` after `__init__`: each catalog course writes its
    `total_slots` under its id, a later course overwriting an earlier one, and
    `get(course_id, 0)` reads `0` for an id no course has. -/
def initSlots (courses : List Course) : String → Int :=
  courses.foldl (fun slots c => Function.update slots c.courseId c.totalSlots) fun _ => 0

/-- `next(c for c in self.courses if c["course_id"] == course_id)`, with
    `none` where `next` raises `StopIteration`. -/
def findCourse (courses : List Course) (courseId : String) : Option Course :=
  courses.find? (·.courseId == courseId)

/-- A catalog as `generate_test_data.py` writes it: ids pairwise distinct,
    capacities non-negative, and every entry has `course_code` and `schedule`. -/
structure WellFormed (courses : List Course) : Prop where
  nodup_ids : (courses.map Course.courseId).Nodup
  slots_nonneg : ∀ c ∈ courses, 0 ≤ c.totalSlots
  code_isSome : ∀ c ∈ courses, c.courseCode.isSome
  schedule_isSome : ∀ c ∈ courses, c.schedule.isSome

theorem initSlots_foldl_of_not_mem (courses : List Course) (f : String → Int) (id : String)
    (h : id ∉ courses.map Course.courseId) :
    courses.foldl (fun slots c => Function.update slots c.courseId c.totalSlots) f id = f id := by
  induction courses generalizing f with
  | nil => rfl
  | cons c cs ih =>
      simp only [List.map_cons, List.mem_cons, not_or] at h
      rw [List.foldl_cons, ih _ h.2, Function.update_noteq h.1]

/-- An id the catalog lacks reads `0`, the default of `get`. -/
theorem initSlots_of_not_mem (courses : List Course) (id : String)
    (h : id ∉ courses.map Course.courseId) : initSlots courses id = 0 :=
  initSlots_foldl_of_not_mem courses _ id h

/-- With pairwise distinct ids no later course overwrites a course's entry, so
    it starts with its own `total_slots`. -/
theorem initSlots_of_mem (courses : List Course) (hnd : (courses.map Course.courseId).Nodup)
    (c : Course) (hc : c ∈ courses) : initSlots courses c.courseId = c.totalSlots := by
  unfold initSlots
  generalize (fun _ => 0 : String → Int) = f
  induction courses generalizing f with
  | nil => cases hc
  | cons d ds ih =>
      simp only [List.map_cons, List.nodup_cons] at hnd
      rw [List.foldl_cons]
      rcases List.mem_cons.mp hc with rfl | hc
      · rw [initSlots_foldl_of_not_mem ds _ _ hnd.1, Function.update_same]
      · exact ih hnd.2 hc _

/-- With pairwise distinct ids, looking a catalog course up by its id finds it. -/
theorem findCourse_of_mem {courses : List Course} (hnd : (courses.map Course.courseId).Nodup)
    {c : Course} (hc : c ∈ courses) : findCourse courses c.courseId = some c := by
  induction courses with
  | nil => cases hc
  | cons d ds ih =>
      simp only [List.map_cons, List.nodup_cons, List.mem_map, not_exists, not_and] at hnd
      rcases List.mem_cons.mp hc with rfl | hc
      · simp [findCourse]
      · have hne : d.courseId ≠ c.courseId := fun h => hnd.1 c hc h.symm
        simpa [findCourse, List.find?_cons, hne] using ih hnd.2 hc

end CourseRegistration
