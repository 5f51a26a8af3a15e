import CourseRegistration.Bookkeeping

/-!
# The Hot Sections

Which courses `__init__` marks as hot sections, and what a run then reports
about them.

`__init__` sorts the catalog by `course.get("popularity_score",
random.random())` in descending order and keeps the ids of the first
`max(1, len(courses) // 10)`. Python evaluates the default of `get` before the
lookup, so every course consumes a draw, and a course without a score is keyed
by its draw. The sort is a stable descending merge sort (`sortedByKeyDesc`),
and the selection its first `hot_count` entries (`hotSectionsOf`).

The sorted list is ordered by key, so the selection is a top-`k` set: every
course kept has at least the key of every course left out
(`key_le_of_mem_take_of_mem_drop`). On a catalog with distinct ids that is a
statement about ids, which is what `is_hot_section` reads
(`hot_sections_are_top_tenth`); with a score on every course the draws play no
part (`hotSectionsOf_eq_of_scores`).

The run starts from these hot sections (`System.ofCatalog`). Every theorem
about a run is stated for every hot list `System.init` is given, so each of
them covers the runs `__init__` starts; in a catalog of fewer than twenty
courses `__init__` marks exactly one hot section, and in a one-course catalog
that course (`hotSectionsOf_single`), which is where the concrete runs of the
earlier modules start. The bookkeeping module then says what
`hot_section_ops_per_sec` counts.

## Main definitions

* `popularityKey`: The sort key of one course.
* `sortedByKeyDesc`: `sorted(..., reverse=True)` on keyed courses.
* `hotSectionsOf`: `self.hot_sections`.
* `Tester.ofCatalog`, `System.ofCatalog`: The tester `__init__` builds, and the
  run that starts from it.

## Theorems

* `key_le_of_mem_take_of_mem_drop`: A kept course outranks a dropped one.
* `hot_sections_are_top_tenth`: The hot sections are distinct catalog ids,
  `max(1, n // 10)` of them on a non-empty catalog, and a top set by key.
* `hotSectionsOf_eq_of_scores`: With every score present the draws do not
  matter.
* `hotSectionsOf_single`: The one course of a one-course catalog is hot.
-/

namespace CourseRegistration

section Selection

/-- `course.get("popularity_score", random.random())`: the score, or the draw
    made for the course when it has none. -/
def popularityKey (popularityScore : Option ℚ) (draw : ℚ) : ℚ := popularityScore.getD draw

/-- `max(1, len(self.courses) // 10)`. -/
def hotCount (n : Nat) : Nat := max 1 (n / 10)

/-- The catalog's entries, each with its `popularity_score` if it has one,
    keyed with the draws made for them in order. -/
def keyedCourses (entries : List (Course × Option ℚ)) (draws : List ℚ) : List (Course × ℚ) :=
  List.zipWith (fun e draw => (e.1, popularityKey e.2 draw)) entries draws

/-- `sorted(courses, key=..., reverse=True)`: descending by key, and stable. -/
def sortedByKeyDesc (keyed : List (Course × ℚ)) : List (Course × ℚ) :=
  keyed.mergeSort fun x y => decide (y.2 ≤ x.2)

/-- `self.hot_sections`: the ids of the first `hot_count` courses of the
    sorted catalog. -/
def hotSectionsOf (entries : List (Course × Option ℚ)) (draws : List ℚ) : List String :=
  ((sortedByKeyDesc (keyedCourses entries draws)).take (hotCount entries.length)).map
    (·.1.courseId)

/-- The tester `__init__` builds from the catalog's entries, the roster and
    the draws of the hot-section sort. -/
def Tester.ofCatalog (entries : List (Course × Option ℚ)) (students : List Student)
    (draws : List ℚ) : Tester :=
  Tester.init (entries.map Prod.fst) students (hotSectionsOf entries draws)

/-- `run_concurrent_load_test` right after `__init__`, with every session
    submitted. -/
def System.ofCatalog (entries : List (Course × Option ℚ)) (students : List Student)
    (draws : List ℚ) : System :=
  System.init (entries.map Prod.fst) students (hotSectionsOf entries draws)

theorem System.ofCatalog_tester (entries : List (Course × Option ℚ)) (students : List Student)
    (draws : List ℚ) :
    (System.ofCatalog entries students draws).tester = Tester.ofCatalog entries students draws :=
  rfl

theorem map_fst_keyedCourses (entries : List (Course × Option ℚ)) {draws : List ℚ}
    (h : entries.length ≤ draws.length) :
    (keyedCourses entries draws).map Prod.fst = entries.map Prod.fst := by
  induction entries generalizing draws with
  | nil => rfl
  | cons e es ih =>
      cases draws with
      | nil => simp at h
      | cons d ds =>
          simp only [keyedCourses, List.zipWith_cons_cons, List.map_cons] at ih ⊢
          rw [ih (by simpa using h)]

theorem sortedByKeyDesc_pairwise (l : List (Course × ℚ)) :
    (sortedByKeyDesc l).Pairwise fun x y => y.2 ≤ x.2 := by
  have h : (sortedByKeyDesc l).Pairwise fun x y => decide (y.2 ≤ x.2) = true :=
    List.sorted_mergeSort
      (fun _ _ _ hab hbc => by simp only [decide_eq_true_eq] at *; exact hbc.trans hab)
      (fun a b => by simpa using le_total b.2 a.2) l
  simpa using h

theorem sortedByKeyDesc_perm (l : List (Course × ℚ)) : (sortedByKeyDesc l).Perm l :=
  List.mergeSort_perm l _

/-- In the descending order, a course among the first `k` has at least the key
    of every course after them. -/
theorem key_le_of_mem_take_of_mem_drop {l : List (Course × ℚ)} {k : Nat} {x y : Course × ℚ}
    (hx : x ∈ (sortedByKeyDesc l).take k) (hy : y ∈ (sortedByKeyDesc l).drop k) : y.2 ≤ x.2 := by
  have h := sortedByKeyDesc_pairwise l
  rw [← List.take_append_drop k (sortedByKeyDesc l), List.pairwise_append] at h
  exact h.2.2 x hx y hy

/-- With distinct ids, a course is among the first `k` exactly when its id is
    among theirs. -/
theorem mem_take_iff_courseId_mem {l : List (Course × ℚ)} (hnd : (l.map (·.1.courseId)).Nodup)
    {k : Nat} {x : Course × ℚ} (hx : x ∈ l) :
    x ∈ l.take k ↔ x.1.courseId ∈ (l.take k).map (·.1.courseId) := by
  refine ⟨List.mem_map_of_mem _, fun h => ?_⟩
  obtain ⟨x', hx', hid⟩ := List.mem_map.mp h
  rwa [List.inj_on_of_nodup_map hnd hx (List.mem_of_mem_take hx') hid.symm]

end Selection

section Top

variable {entries : List (Course × Option ℚ)} {draws : List ℚ}

/-- `__init__` marks as hot sections distinct catalog ids, `max(1, n // 10)` of
    them on a catalog of `n ≥ 1` courses with distinct ids, and a top set by
    key: a course whose id is hot has at least the key of every course whose
    id is not. -/
theorem hot_sections_are_top_tenth
    (hnd : ((entries.map Prod.fst).map Course.courseId).Nodup)
    (hlen : entries.length ≤ draws.length) :
    (hotSectionsOf entries draws).Nodup ∧
    (hotSectionsOf entries draws).length = min (hotCount entries.length) entries.length ∧
    (∀ id ∈ hotSectionsOf entries draws, id ∈ (entries.map Prod.fst).map Course.courseId) ∧
    ∀ x ∈ keyedCourses entries draws, ∀ y ∈ keyedCourses entries draws,
      x.1.courseId ∈ hotSectionsOf entries draws → y.1.courseId ∉ hotSectionsOf entries draws →
        y.2 ≤ x.2 := by
  have hperm := sortedByKeyDesc_perm (keyedCourses entries draws)
  have hids : (keyedCourses entries draws).map (·.1.courseId) =
      (entries.map Prod.fst).map Course.courseId := by
    rw [← map_fst_keyedCourses entries hlen, List.map_map]; rfl
  have hsnd : ((sortedByKeyDesc (keyedCourses entries draws)).map (·.1.courseId)).Nodup :=
    (hperm.map _).nodup_iff.mpr (hids ▸ hnd)
  have hlen' : (sortedByKeyDesc (keyedCourses entries draws)).length = entries.length := by
    rw [hperm.length_eq, keyedCourses, List.length_zipWith]; omega
  refine ⟨?_, ?_, fun id hid => ?_, fun x hx y hy hxh hyh => ?_⟩
  · rw [hotSectionsOf, List.map_take]
    exact hsnd.sublist (List.take_sublist _ _)
  · rw [hotSectionsOf, List.length_map, List.length_take, hlen']
  · rw [← hids, ← (hperm.map _).mem_iff]
    rw [hotSectionsOf, List.map_take] at hid
    exact List.mem_of_mem_take hid
  · have hx' := hperm.symm.subset hx
    have hy' := hperm.symm.subset hy
    have hyd : y ∈ (sortedByKeyDesc (keyedCourses entries draws)).drop
        (hotCount entries.length) := by
      rw [← List.take_append_drop (hotCount entries.length)
        (sortedByKeyDesc (keyedCourses entries draws)), List.mem_append] at hy'
      exact hy'.resolve_left fun h =>
        hyh ((mem_take_iff_courseId_mem hsnd (List.mem_of_mem_take h)).mp h)
    exact key_le_of_mem_take_of_mem_drop ((mem_take_iff_courseId_mem hsnd hx').mpr hxh) hyd

theorem hot_sections_are_top_tenth_demo :
    (hotSectionsOf [(demoCourse (some "CS101"), some 5)] [0]).length = min (hotCount 1) 1 :=
  (@hot_sections_are_top_tenth [(demoCourse (some "CS101"), some 5)] [0] (by decide)
    (by decide)).2.1

/-- With a `popularity_score` on every course, the key is the score, so the
    hot sections do not depend on the draws. -/
theorem hotSectionsOf_eq_of_scores {draws' : List ℚ} (hs : ∀ e ∈ entries, e.2.isSome)
    (hlen : entries.length ≤ draws.length) (hlen' : entries.length ≤ draws'.length) :
    hotSectionsOf entries draws = hotSectionsOf entries draws' := by
  suffices h : keyedCourses entries draws = keyedCourses entries draws' by
    rw [hotSectionsOf, hotSectionsOf, h]
  induction entries generalizing draws draws' with
  | nil => rfl
  | cons e es ih =>
      obtain ⟨score, he⟩ := Option.isSome_iff_exists.mp (hs e (List.mem_cons_self _ _))
      cases draws with
      | nil => simp at hlen
      | cons d ds =>
          cases draws' with
          | nil => simp at hlen'
          | cons d' ds' =>
              simp only [keyedCourses, List.zipWith_cons_cons, popularityKey, he,
                Option.getD_some] at ih ⊢
              rw [ih (fun e he => hs e (List.mem_cons_of_mem _ he)) (by simpa using hlen)
                (by simpa using hlen')]

/-- In a catalog of one course, whatever its score and its draw, `__init__`
    marks that course as the hot section, so the runs of the earlier modules
    on the one-course catalog start where `__init__` leaves them. -/
theorem hotSectionsOf_single (c : Course) (score : Option ℚ) (draw : ℚ) :
    hotSectionsOf [(c, score)] [draw] = [c.courseId] := by
  simp [hotSectionsOf, sortedByKeyDesc, keyedCourses, hotCount]

theorem ofCatalog_demoCatalog (score : Option ℚ) (draw : ℚ) (students : List Student) :
    System.ofCatalog [(demoCourse (some "CS101"), score)] students [draw] =
      System.init (demoCatalog (some "CS101")) students ["CS101-01"] := by
  rw [System.ofCatalog, hotSectionsOf_single]; rfl

end Top

end CourseRegistration
