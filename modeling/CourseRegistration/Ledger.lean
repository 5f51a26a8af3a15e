import CourseRegistration.System

/-!
# The Seat Ledger

What the lock around the check-and-decrement buys: `course_slots` never goes
negative, never grows, and hands out each seat to exactly one decision.

The seat map and the lock-order history change in one place only, the locked
block `reserveSlot`, and every other step leaves both alone
(`act_ledger`). The ledger invariant is therefore a fact about `reserveSlot`
alone (`reserveSlot_ledgerInv`), and the run lemma lifts it to every
interleaving, since no two sessions can be inside the block at once.

The invariant says more than the bounds. Take the decisions on one course
that drew no error, in the order they took the lock: they are a run of
enrolments, as many as the seats taken so far, followed by waitlist and
failure outcomes, and once one of the latter has been issued the course has
no seat left. A later enrolment would need a free seat, and seats are never
given back, so the shape can only grow at its end.

## Main definitions

* `seatDecisions`: The error-free decisions on a course in lock order.
* `LedgerInv`: The ledger invariant.

## Theorems

* `act_ledger`: Only the locked block touches the seat map and the history.
* `reserveSlot_decisions`: The locked block extends a course's decisions in
  the invariant's shape.
* `reserveSlot_ledgerInv`: The locked block keeps the invariant.
* `ledgerInv_of_reachable`: Every reachable state satisfies it.
* `seatDecisions_prefix`: The first `min total k` of `k` decisions enrol.
* `slots_step`: A step changes a course's seats only by one enrolment.
-/

namespace CourseRegistration

/-- The decisions on a course that drew no error, in the order they took the
    lock. -/
def seatDecisions (lockOrder : List Decision) (courseId : String) : List Status :=
  (lockOrder.filter fun d => d.courseId == courseId && !d.status.isError).map (·.status)

/-- The ledger invariant: seats stay within `[0, total]`, and the error-free
    decisions on each course are one enrolment per seat taken followed by
    waitlist or failure outcomes, which only a full course issues. -/
structure LedgerInv (t : Tester) : Prop where
  nonneg : ∀ id, 0 ≤ t.courseSlots id
  le_init : ∀ id, t.courseSlots id ≤ initSlots t.courses id
  decisions : ∀ id, ∃ rest, seatDecisions t.lockOrder id =
    List.replicate (initSlots t.courses id - t.courseSlots id).toNat .enrolled ++ rest ∧
    (∀ x ∈ rest, x = .waitlisted ∨ x = .failed) ∧ (rest ≠ [] → t.courseSlots id = 0)

theorem seatDecisions_append (log : List Decision) (d : Decision) (id : String) :
    seatDecisions (log ++ [d]) id =
      seatDecisions log id ++ if d.courseId = id ∧ d.status.isError = false then [d.status] else [] := by
  by_cases h : d.courseId = id ∧ d.status.isError = false <;>
    simp_all [seatDecisions, List.filter_append, List.filter_cons]

/-- Only the locked block touches the seat map and the lock-order history. -/
theorem act_ledger {t t' : Tester} {a a' : Session} {ℓ : Label}
    (h : act t a ℓ = some (t', a')) :
    (t'.courseSlots = t.courseSlots ∧ t'.lockOrder = t.lockOrder) ∨
      ∃ c e w, t' = (reserveSlot t c e w).1 := by
  cases ℓ
  case start => exact .inl (by rw [(act_start h).1]; exact ⟨rfl, rfl⟩)
  case next => exact .inl (by rw [(act_next h).2.1]; exact ⟨rfl, rfl⟩)
  case lookup =>
    obtain ⟨c, -, rfl, -⟩ := act_lookup h
    exact .inl (by cases cacheHitOf ‹_› <;> exact ⟨rfl, rfl⟩)
  case retry =>
    obtain ⟨c, hit, n, -, hp, -⟩ := act_retry h
    exact .inl ⟨(atomicPhase_eq_some hp).2.1, (atomicPhase_eq_some hp).2.2.1⟩
  case reserve => obtain ⟨c, hit, n, -, rfl, -⟩ := act_reserve h; exact .inr ⟨c, _, _, rfl⟩
  case persist => obtain ⟨d, -, rfl, -⟩ := act_persist h; exact .inl ⟨rfl, rfl⟩
  case collect => rcases act_collect h with ⟨-, rfl, -⟩ | ⟨_, _, -, rfl, -⟩ <;> exact .inl ⟨rfl, rfl⟩

@[simp] theorem reserveSlot_courses (t : Tester) (c : Course) (e w : ℚ) :
    (reserveSlot t c e w).1.courses = t.courses := by simp [reserveSlot]

@[simp] theorem reserveSlot_courseSlots (t : Tester) (c : Course) (e w : ℚ) :
    (reserveSlot t c e w).1.courseSlots =
      takeSeat t.courseSlots c.courseId (reserveSlot t c e w).2 := rfl

@[simp] theorem reserveSlot_lockOrder (t : Tester) (c : Course) (e w : ℚ) :
    (reserveSlot t c e w).1.lockOrder = t.lockOrder ++ [⟨c.courseId, (reserveSlot t c e w).2⟩] :=
  rfl

@[simp] theorem reserveSlot_statusCount (t : Tester) (c : Course) (e w : ℚ) (st : Status) :
    (reserveSlot t c e w).1.statusCount st = (t.countStatus (reserveSlot t c e w).2).statusCount st := by
  cases st <;> rfl

@[simp] theorem reserveSlot_cacheCount (t : Tester) (c : Course) (e w : ℚ) (b : Bool) :
    (reserveSlot t c e w).1.cacheCount b = t.cacheCount b := by
  rw [← Tester.countStatus_cacheCount t (reserveSlot t c e w).2 b]
  cases b <;> rfl

@[simp] theorem reserveSlot_registrations (t : Tester) (c : Course) (e w : ℚ) :
    (reserveSlot t c e w).1.registrations = t.registrations := by
  simp [reserveSlot]

theorem takeSeat_apply (slots : String → Int) (cid id : String) (st : Status) :
    takeSeat slots cid st id = if st = .enrolled ∧ id = cid then slots id - 1 else slots id := by
  by_cases h : id = cid
  · subst h; cases st <;> simp [takeSeat]
  · cases st <;> simp [takeSeat, h, Function.update_noteq]

/-- The locked block extends a course's decision list in the invariant's
    shape: an enrolment joins the run of enrolments while a seat is free, a
    waitlist or failure outcome joins the tail once the course is full. -/
theorem reserveSlot_decisions {t : Tester} (h : LedgerInv t) (c : Course) (e w : ℚ) (id : String) :
    ∃ rest, seatDecisions (reserveSlot t c e w).1.lockOrder id =
      List.replicate (initSlots t.courses id - (reserveSlot t c e w).1.courseSlots id).toNat
        .enrolled ++ rest ∧
      (∀ x ∈ rest, x = .waitlisted ∨ x = .failed) ∧
      (rest ≠ [] → (reserveSlot t c e w).1.courseSlots id = 0) := by
  set st := (reserveSlot t c e w).2 with hst
  have hdec : st = decideStatus (t.courseSlots c.courseId) e w := rfl
  obtain ⟨rest, hds, hrest, hfull⟩ := h.decisions id
  rw [reserveSlot_lockOrder, seatDecisions_append, reserveSlot_courseSlots, ← hst, takeSeat_apply,
    hds]
  by_cases hid : c.courseId = id ∧ st.isError = false
  · obtain ⟨rfl, herr⟩ := hid
    have hslot := decideStatus_of_not_error (t.courseSlots c.courseId) e w (hdec ▸ herr)
    rw [← hdec] at hslot
    by_cases hen : st = .enrolled
    · -- A free seat: the waitlist tail is still empty, and the run of enrolments grows.
      have hpos := hslot.1.mp hen
      have hnil : rest = [] := by
        by_contra hne
        have := hfull hne
        omega
      subst hnil
      refine ⟨[], ?_, by simp, by simp⟩
      have : (initSlots t.courses c.courseId - (t.courseSlots c.courseId - 1)).toNat =
          (initSlots t.courses c.courseId - t.courseSlots c.courseId).toNat + 1 := by
        have := h.le_init c.courseId
        omega
      simp [hen, this, List.replicate_succ', Status.isError]
    · -- No seat: the course is full, and the outcome joins the tail.
      obtain ⟨hle, hwf⟩ := hslot.2 hen
      have hz : t.courseSlots c.courseId = 0 := le_antisymm hle (h.nonneg _)
      refine ⟨rest ++ [st], by simp [hen, herr], fun x hx => ?_, fun _ => by simp [hen, hz]⟩
      rcases List.mem_append.mp hx with hx | hx
      · exact hrest x hx
      · rw [List.mem_singleton.mp hx]; exact hwf
  · have hnot : ¬(st = .enrolled ∧ id = c.courseId) := by
      rintro ⟨h1, rfl⟩
      exact hid ⟨rfl, by rw [h1]; rfl⟩
    simp only [hid, if_false, List.append_nil, hnot]
    exact ⟨rest, rfl, hrest, hfull⟩

/-- The locked block keeps the ledger invariant: it takes a seat only when one
    is free, and issues a waitlist or failure outcome only on a full course. -/
theorem reserveSlot_ledgerInv {t : Tester} (h : LedgerInv t) (c : Course) (e w : ℚ) :
    LedgerInv (reserveSlot t c e w).1 := by
  refine ⟨fun id => ?_, fun id => ?_, fun id => ?_⟩
  · have := h.nonneg id
    rw [reserveSlot_courseSlots, takeSeat_apply]
    split_ifs with hs
    · rw [hs.2]
      have := (decideStatus_enrolled_iff _ e w).mp hs.1
      omega
    · exact this
  · have := h.le_init id
    rw [reserveSlot_courseSlots, reserveSlot_courses, takeSeat_apply]
    split_ifs <;> omega
  · rw [reserveSlot_courses]
    exact reserveSlot_decisions h c e w id

theorem initSlots_nonneg {courses : List Course} (h : ∀ c ∈ courses, 0 ≤ c.totalSlots)
    (id : String) : 0 ≤ initSlots courses id := by
  unfold initSlots
  suffices ∀ (cs : List Course) (f : String → Int), (∀ c ∈ cs, 0 ≤ c.totalSlots) → (∀ i, 0 ≤ f i) →
      ∀ i, 0 ≤ cs.foldl (fun slots c => Function.update slots c.courseId c.totalSlots) f i from
    this courses _ h (fun _ => le_rfl) id
  intro cs
  induction cs with
  | nil => exact fun f _ hf => hf
  | cons c cs ih =>
      intro f hc hf
      refine ih _ (fun d hd => hc d (List.mem_cons_of_mem _ hd)) fun i => ?_
      by_cases hi : i = c.courseId
      · subst hi; simpa using hc c (List.mem_cons_self _ _)
      · simpa [Function.update_noteq hi] using hf i

theorem ledgerInv_init {courses : List Course} (hslots : ∀ c ∈ courses, 0 ≤ c.totalSlots)
    (students : List Student) (hot : List String) :
    LedgerInv (System.init courses students hot).tester :=
  ⟨initSlots_nonneg hslots, fun _ => le_rfl,
    fun _ => ⟨[], by simp [System.init, Tester.init, seatDecisions], by simp, by simp⟩⟩

/-- Every reachable state of a run over a catalog with non-negative capacities
    satisfies the ledger invariant. -/
theorem ledgerInv_of_reachable {courses : List Course} (hslots : ∀ c ∈ courses, 0 ≤ c.totalSlots)
    {students : List Student} {hot : List String} {s : System}
    (hr : Reachable (System.init courses students hot) s) : LedgerInv s.tester := by
  refine Reachable.induct (fun s => LedgerInv s.tester) (ledgerInv_init hslots students hot)
    (fun s ℓ s' _ hinv hs => ?_) hr
  obtain ⟨a, -, t, a', hact, rfl⟩ := step_eq_some_iff.mp hs
  rcases act_ledger hact with ⟨hslot, hlog⟩ | ⟨c, e, w, rfl⟩
  · have hc := act_courses hact
    exact ⟨fun id => hslot ▸ hinv.nonneg id, fun id => hslot ▸ hc ▸ hinv.le_init id,
      fun id => hslot ▸ hlog ▸ hc ▸ hinv.decisions id⟩
  · exact reserveSlot_ledgerInv hinv c e w

/-- Of the `k` error-free decisions on a course, in lock order, the first
    `min total k` enrol and the rest are waitlist or failure outcomes. -/
theorem seatDecisions_prefix {t : Tester} (h : LedgerInv t) (id : String) :
    ∃ rest, seatDecisions t.lockOrder id = List.replicate
        (min (initSlots t.courses id).toNat (seatDecisions t.lockOrder id).length) .enrolled ++ rest ∧
      ∀ x ∈ rest, x = .waitlisted ∨ x = .failed := by
  obtain ⟨rest, hds, hrest, hfull⟩ := h.decisions id
  refine ⟨rest, ?_, hrest⟩
  have h0 := h.nonneg id
  have h1 := h.le_init id
  have hmin : min (initSlots t.courses id).toNat (seatDecisions t.lockOrder id).length =
      (initSlots t.courses id - t.courseSlots id).toNat := by
    rw [hds, List.length_append, List.length_replicate]
    by_cases hne : rest = []
    · subst hne; simp only [List.length_nil, add_zero]; omega
    · have := hfull hne; omega
  rw [hmin, hds]

/-- A step changes the seats of a course only by a decision that enrols on
    it: one seat fewer, and that enrolment appended to the lock order. -/
theorem slots_step {s s' : System} {ℓ : Label} (h : step s ℓ = some s') (id : String) :
    s'.tester.courseSlots id = s.tester.courseSlots id ∨
      (s'.tester.courseSlots id = s.tester.courseSlots id - 1 ∧
        s'.tester.lockOrder = s.tester.lockOrder ++ [⟨id, .enrolled⟩]) := by
  obtain ⟨a, -, t, a', hact, rfl⟩ := step_eq_some_iff.mp h
  rcases act_ledger hact with ⟨hslot, -⟩ | ⟨c, e, w, rfl⟩
  · exact .inl (congrFun hslot id)
  · simp only [reserveSlot_courseSlots, reserveSlot_lockOrder, takeSeat_apply]
    split_ifs with hs
    · obtain ⟨h1, rfl⟩ := hs
      exact .inr ⟨rfl, by rw [h1]⟩
    · exact .inl rfl

end CourseRegistration
