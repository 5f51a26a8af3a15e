import CourseRegistration.Roster

/-!
# The Generated Catalog

What `generate_test_data.py` hands the testers, and what a demo run then
guarantees on it.

`generate_courses` gives each course a fresh `uuid4` id, a code made of one of
its department's prefixes and a three-digit number, `slots_per_course = 30`
seats and a schedule. On distinct uuid draws that is a well-formed catalog
with positive capacities, the hypotheses the simulator's and the demo's
theorems take, and every code fits the `course_code VARCHAR(10)` column of the
generator's SQL export (`generated_catalog_well_formed`). The codes need not
be distinct: `ENG` is a prefix of both Literature and Engineering, and the
numbers are drawn independently, so the distinct codes the demo's results
theorem assumes are not something the generator provides.

`load_demo_data` samples `min(20, n)` of the catalog's courses, and a sample of
distinct positions of a well-formed catalog is well formed
(`wellFormed_filterMap_getElem?`). So on generated data, whatever the draws,
the sample and the interleaving, every course of a finished demo run has the
30 seats the demo's report prints and at most 30 enrolled records
(`demo_on_generated_catalog`).

## Main definitions

* `coursePrefixes`: `self.course_prefixes.get(department, ["GEN"])`.
* `generateCourseCode`, `generateCourses`: The catalog `generate_courses`
  builds from its draws.
* `loadDemoData`, `DemoSystem.ofData`: The demo's sampled data, and the run
  that starts from it.

## Theorems

* `generateCourseCode_length`: A generated code has at most seven characters.
* `generated_catalog_well_formed`: The generated catalog is well formed and
  fits its table.
* `wellFormed_filterMap_getElem?`: Sampling keeps a catalog well formed.
* `demo_on_generated_catalog`: A demo run on generated data enrols at most
  30 students per course.
-/

namespace CourseRegistration

section Generate

/-- `self.course_prefixes`. -/
def coursePrefixTable : List (String × List String) :=
  [("Computer Science", ["CS", "CSE", "COMP"]), ("Mathematics", ["MATH", "STAT", "CALC"]),
    ("Physics", ["PHYS", "PHY"]), ("Chemistry", ["CHEM", "CHM"]), ("Biology", ["BIO", "BIOL"]),
    ("Economics", ["ECON", "ECO"]), ("Psychology", ["PSYC", "PSY"]), ("History", ["HIST", "HIS"]),
    ("Literature", ["LIT", "ENG"]), ("Engineering", ["ENG", "ENGR"]),
    ("Business Administration", ["BUS", "MGMT"]), ("Statistics", ["STAT", "STA"]),
    ("Philosophy", ["PHIL", "PHI"])]

/-- `self.course_prefixes.get(department, ["GEN"])`. -/
def coursePrefixes (department : String) : List String :=
  ((coursePrefixTable.find? (·.1 == department)).map (·.2)).getD ["GEN"]

/-- `self.slots_per_course`. -/
def slotsPerCourse : Int := 30

/-- `generate_course_code`: the prefix `random.choice` drew from the
    department's list, then `f"{course_number:03d}"`. -/
def generateCourseCode (subject : String) (courseNumber : Nat) : String :=
  subject ++ zeroPadded 3 courseNumber

/-- The draws of one pass of `generate_courses` that the testers read: the
    department and the prefix drawn for the code, `random.randint(100, 599)`,
    `str(uuid.uuid4())`, and the schedule's days and time. -/
structure CourseDraw where
  department : String
  subject : String
  courseNumber : Nat
  uuid : String
  days : String
  time : String
  deriving DecidableEq, Repr

/-- The draws `random.choice` and `random.randint(100, 599)` can make. -/
def CourseDraw.Valid (d : CourseDraw) : Prop :=
  d.subject ∈ coursePrefixes d.department ∧ 100 ≤ d.courseNumber ∧ d.courseNumber ≤ 599

instance (d : CourseDraw) : Decidable d.Valid := inferInstanceAs (Decidable (_ ∧ _ ∧ _))

/-- The course one pass of `generate_courses` appends, with the keys the
    testers read. -/
def generateCourse (d : CourseDraw) : Course :=
  ⟨d.uuid, some (generateCourseCode d.subject d.courseNumber), slotsPerCourse,
    some ⟨d.days, d.time⟩⟩

/-- `generate_courses`. -/
def generateCourses (draws : List CourseDraw) : List Course := draws.map generateCourse

theorem length_le_of_mem_coursePrefixes (department : String) :
    ∀ p ∈ coursePrefixes department, p.length ≤ 4 := by
  have htable : ∀ e ∈ coursePrefixTable, ∀ p ∈ e.2, p.length ≤ 4 := by decide
  unfold coursePrefixes
  cases h : coursePrefixTable.find? (·.1 == department) with
  | none => decide
  | some e => exact htable e (List.mem_of_find?_eq_some h)

/-- A code is a prefix of at most four letters and three digits. -/
theorem generateCourseCode_length {department subject : String} {courseNumber : Nat}
    (hs : subject ∈ coursePrefixes department) (hn : courseNumber < 1000) :
    (generateCourseCode subject courseNumber).length ≤ 7 := by
  have h1 := length_le_of_mem_coursePrefixes department subject hs
  have h2 := @zeroPadded_length 3 2 courseNumber (by norm_num; omega) (le_refl _)
  rw [generateCourseCode, String.length_append]
  omega

theorem generateCourses_wellFormed {draws : List CourseDraw}
    (hu : (draws.map CourseDraw.uuid).Nodup) : WellFormed (generateCourses draws) := by
  refine ⟨by rwa [generateCourses, List.map_map], fun c hc => ?_, fun c hc => ?_, fun c hc => ?_⟩ <;>
    obtain ⟨d, -, rfl⟩ := List.mem_map.mp hc
  · exact (show (0 : Int) ≤ 30 by decide)
  · rfl
  · rfl

/-- On distinct uuid draws, `generate_courses` builds a well-formed catalog
    whose courses all have `slots_per_course = 30` seats, and whose codes fit
    the `course_code VARCHAR(10)` column its SQL export declares. -/
theorem generated_catalog_well_formed {draws : List CourseDraw} (hv : ∀ d ∈ draws, d.Valid)
    (hu : (draws.map CourseDraw.uuid).Nodup) :
    WellFormed (generateCourses draws) ∧ ∀ c ∈ generateCourses draws, c.totalSlots = 30 ∧
      ∃ code, c.courseCode = some code ∧ code.length ≤ 10 := by
  refine ⟨generateCourses_wellFormed hu, fun c hc => ?_⟩
  obtain ⟨d, hd, rfl⟩ := List.mem_map.mp hc
  obtain ⟨hs, -, hn⟩ := hv d hd
  exact ⟨rfl, _, rfl, (generateCourseCode_length hs (by omega)).trans (by norm_num)⟩

/-- One draw `generate_courses` can make. -/
def generatedDraw : CourseDraw :=
  ⟨"Computer Science", "CS", 101, "6f1c2a9e-0b7d-4c3e-9a51-2f8e4d7b1c30", "MWF", "08:00-09:30"⟩

end Generate

section Load

/-- `self.demo_courses`. -/
def demoCourses : Nat := 20

/-- `self.demo_students`. -/
def demoStudents : Nat := 50

/-- `load_demo_data` once the file is read: `random.sample` of
    `min(demo_courses, n)` courses and of `min(demo_students, m)` students, as
    the positions each sample picks. -/
def loadDemoData (allCourses : List Course) (allStudents : List Student)
    (courseSample studentSample : List Nat) : List Course × List Student :=
  (courseSample.filterMap (allCourses[·]?), studentSample.filterMap (allStudents[·]?))

/-- `DemoRegistrationLoadTester()`: `__init__` loads the sampled data, and the
    run starts with every session submitted. -/
def DemoSystem.ofData (allCourses : List Course) (allStudents : List Student)
    (courseSample studentSample : List Nat) : DemoSystem :=
  DemoSystem.init (loadDemoData allCourses allStudents courseSample studentSample).1
    (loadDemoData allCourses allStudents courseSample studentSample).2

/-- A sample of distinct positions of a well-formed catalog is well formed. -/
theorem wellFormed_filterMap_getElem? {all : List Course} (hwf : WellFormed all)
    {sample : List Nat} (hs : sample.Nodup) : WellFormed (sample.filterMap (all[·]?)) :=
  ⟨nodup_filterMap_getElem? hwf.nodup_ids hs,
    fun c hc => hwf.slots_nonneg c (mem_filterMap_getElem? hc),
    fun c hc => hwf.code_isSome c (mem_filterMap_getElem? hc),
    fun c hc => hwf.schedule_isSome c (mem_filterMap_getElem? hc)⟩

end Load

/-! The generated course and the first generated student in a demo run: a
target of three, the course sampled, a seat taken, the loop finished and the
session collected. -/

section Run

attribute [local congr] bind_congr_head

/-- The record the generated run produces. -/
def generatedRecord : DemoRecord :=
  ⟨generatedStudentId 0, generatedDraw.uuid, generateCourseCode "CS" 101, .enrolled⟩

/-- The generated student's names. -/
def generatedNames : Nat → String × String := fun _ => ("John", "Smith")

/-- Where `demoTesterRun` ends on the generated data. -/
def generatedRunEnd : DemoSystem where
  tester :=
    { DemoTester.init (generateCourses [generatedDraw]) (generateStudents 1 generatedNames) with
      courseSlots := Function.update (fun _ => 0) generatedDraw.uuid 29
      registrations := [generatedRecord]
      lockOrder := [⟨generatedDraw.uuid, .enrolled⟩] }
  sessions :=
    [⟨⟨generatedStudentId 0, some "John", some "Smith"⟩, 3, generateCourses [generatedDraw], 1,
      [generatedRecord], .collected⟩]
  mainRaised := none

theorem demoExec_generatedRun :
    demoExec (DemoSystem.ofData (generateCourses [generatedDraw]) (generateStudents 1 generatedNames) [0] [0])
      demoTesterRun = some generatedRunEnd := by
  simp [demoExec, demoTesterRun, demoStep, demoAct, DemoSystem.ofData, loadDemoData,
    DemoSystem.init, DemoTester.init, DemoSession.init, generateCourses, generateCourse,
    generateStudents, generatedNames, IsSample, DemoLabel.thread, demoRequest, demoReserve, demoDecide, takeSeat,
    initSlots, slotsPerCourse, minCoursesPerStudent, maxCoursesPerStudent]
  rfl

theorem generatedRunEnd_finished : DemoFinished generatedRunEnd := by
  simp [DemoFinished, generatedRunEnd]

end Run

section End

/-- On data `generate_test_data.py` produced from distinct uuid draws, whatever
    the demo samples and however its sessions interleave, every course of a
    finished demo run has the 30 seats its report prints and at most 30
    enrolled records. -/
theorem demo_on_generated_catalog {draws : List CourseDraw} (hu : (draws.map CourseDraw.uuid).Nodup)
    {allStudents : List Student} {courseSample studentSample : List Nat}
    (hs : IsSample (generateCourses draws) (min demoCourses draws.length) courseSample)
    {s : DemoSystem}
    (hr : DemoReachable (DemoSystem.ofData (generateCourses draws) allStudents courseSample
      studentSample) s)
    (hfin : DemoFinished s) :
    ∀ c ∈ s.tester.courses, c.totalSlots = 30 ∧
      s.tester.registrations.countP (fun r => r.courseId = c.courseId ∧ r.status = .enrolled) ≤ 30 := by
  have hwf := wellFormed_filterMap_getElem? (generateCourses_wellFormed hu) hs.1
  rw [demoCourses_of_reachable hr]
  intro c hc
  have h30 : c.totalSlots = 30 := by
    obtain ⟨d, -, rfl⟩ := List.mem_map.mp (mem_filterMap_getElem? hc)
    rfl
  obtain ⟨h, h0⟩ := demoEnrolled_eq_seats_lost hwf hr hfin hc
  exact ⟨h30, by omega⟩

theorem demo_on_generated_catalog_demo :
    (generateCourse generatedDraw).totalSlots = 30 ∧
      generatedRunEnd.tester.registrations.countP
        (fun r => r.courseId = (generateCourse generatedDraw).courseId ∧ r.status = .enrolled) ≤ 30 :=
  demo_on_generated_catalog (by decide) (by decide)
    (demoReachable_of_exec .refl demoExec_generatedRun) generatedRunEnd_finished _
    (List.mem_singleton_self _)

end End


end CourseRegistration
