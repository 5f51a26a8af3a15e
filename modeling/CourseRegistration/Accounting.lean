import CourseRegistration.Progress
import Mathlib.Algebra.Order.BigOperators.Group.List
import Mathlib.Algebra.BigOperators.Ring

/-!
# Counters, Seats and Records

Every counter the tester bumps under its lock, and every seat it takes,
corresponds to a record: in `registrations` once the main thread has collected
the session, and until then in the session itself.

A quantity the run counts twice is a `Tally`: a status, a cache outcome, the
seats of one course, or one locked decision. The tester's side of it is a
counter; for seats, the capacity less the seats left; for a decision, how
often the lock order holds it. The records' side is what each record
contributes, and a session that has not been collected holds its records and
whatever its request in flight has been counted for so far: its cache lookup
from the first locked block on, its status and seat from the decision on.
`Accounted` says the two sides agree, and one lemma per label shows that a
step moves a unit from one side to the other or adds it to both
(`act_balance`).

Counted decision by decision, the balance says that the lock order is, up to
order, the decisions the records report together with those the sessions
still hold (`lockOrder_perm_of_reachable`): the history the ledger laws are
stated over is the records' history, with no decision lost or reported
twice.

At the end of a run every session has been collected or dropped. On a
well-formed catalog none is dropped, so the counters are exactly the counts
over `registrations`, and the lock order is the records' decisions. A dropped session, though, takes its records with it,
and with them seats and counter increments the tester has already made: the
end-of-run identity then has a third term, `Tally.lost`.

## Main definitions

* `Tally`: A quantity counted both by the tester and by the records.
* `Tester.tally`: The tester's side.
* `Tally.weight`, `Tally.held`: A record's and a session's share.
* `Accounted`: The two sides agree.
* `Tally.lost`: What a dropped session took with it.
* `Session.heldDecisions`: The locked decisions a session holds.

## Theorems

* `act_balance`: A step keeps the balance.
* `accounted_of_reachable`: Every reachable state is accounted.
* `lockOrder_perm_of_reachable`: The lock order is the records' decisions and
  the sessions' held ones.
* `seat_ledger_sound`: The ledger laws over the records' history, and seats
  taken equal enrolled records at the end.
* `counters_match_registrations`: The locked counters equal the counts over
  `registrations` at the end.
* `decisions_reflected_unless_dropped`: With dropped sessions, seats and
  error counters exceed the records by what the dropped sessions held.
* `dropped_session_loses_its_seat`: A run in which that happens.
-/

namespace CourseRegistration

/-- A quantity counted both by the tester and by the records. -/
inductive Tally where
  | status (st : Status)
  | cache (hit : Bool)
  | seat (courseId : String)
  | decision (d : Decision)

/-- The tester's side: a counter, the seats a course has lost, or how often the
    lock order holds a decision. -/
def Tester.tally (t : Tester) : Tally → Int
  | .status st => t.statusCount st
  | .cache b => t.cacheCount b
  | .seat id => initSlots t.courses id - t.courseSlots id
  | .decision d => t.lockOrder.count d

/-- The course and outcome of a decided request. -/
def Decided.decision (d : Decided) : Decision := ⟨d.course.courseId, d.status⟩

namespace Tally

/-- What one record contributes. -/
def weight : Tally → Registration → Int
  | .status st, r => if r.status = st then 1 else 0
  | .cache b, r => if r.cacheHit = b then 1 else 0
  | .seat id, r => if r.status = .enrolled ∧ r.courseId = id then 1 else 0
  | .decision d, r => if r.decision = d then 1 else 0

/-- What a decided request has been counted for: all of its record. -/
def decidedWeight : Tally → Decided → Int
  | .status st, d => if d.status = st then 1 else 0
  | .cache b, d => if d.cacheHit = b then 1 else 0
  | .seat id, d => if d.status = .enrolled ∧ d.course.courseId = id then 1 else 0
  | .decision dd, d => if d.decision = dd then 1 else 0

/-- What a request past its cache lookup has been counted for. -/
def lookupWeight : Tally → Bool → Int
  | .cache b, hit => if hit = b then 1 else 0
  | _, _ => 0

/-- What the request a session is in the middle of has been counted for. -/
def pcWeight (k : Tally) : Pc → Int
  | .cached _ hit | .retried _ hit _ => k.lookupWeight hit
  | .decided d | .raised _ (some d) | .dropped _ (some d) => k.decidedWeight d
  | _ => 0

/-- What a session holds that `registrations` does not: nothing before it
    starts or once it is collected, and otherwise its records and its request
    in flight. -/
def held (k : Tally) (a : Session) : Int :=
  match a.pc with
  | .pending | .collected => 0
  | pc => (a.studentRegistrations.map k.weight).sum + k.pcWeight pc

/-- What a dropped session took with it: its records and the decision its
    exception interrupted. -/
def lost (k : Tally) (a : Session) : Int :=
  match a.pc with
  | .dropped _ d => (a.studentRegistrations.map k.weight).sum + (d.map k.decidedWeight).getD 0
  | _ => 0

theorem weight_eq_decidedWeight (k : Tally) {r : Registration} {d : Decided}
    (hst : r.status = d.status) (hhit : r.cacheHit = d.cacheHit)
    (hid : r.courseId = d.course.courseId) : k.weight r = k.decidedWeight d := by
  cases k <;> simp [weight, decidedWeight, hst, hhit, hid, Registration.decision, Decided.decision]

theorem held_of_live (k : Tally) {a : Session} (h1 : a.pc ≠ .pending) (h2 : a.pc ≠ .collected) :
    k.held a = (a.studentRegistrations.map k.weight).sum + k.pcWeight a.pc := by
  unfold held; split <;> simp_all

end Tally

/-- The tester's counters and seats agree with the records, collected or
    still held by their sessions. -/
def Accounted (s : System) : Prop :=
  ∀ k : Tally, s.tester.tally k =
    (s.tester.registrations.map k.weight).sum + (s.sessions.map k.held).sum

theorem sum_map_set {α : Type} (l : List α) (f : α → Int) {i : Nat} {a : α} (a' : α)
    (h : l[i]? = some a) : ((l.set i a').map f).sum = (l.map f).sum - f a + f a' := by
  induction l generalizing i with
  | nil => simp at h
  | cons b l ih =>
      cases i with
      | zero => simp only [List.getElem?_cons_zero, Option.some.injEq] at h; subst h; simp; omega
      | succ i =>
          simp only [List.getElem?_cons_succ] at h
          simp only [List.set_cons_succ, List.map_cons, List.sum_cons, ih h]
          omega

section Balance

variable {t t' : Tester} {a a' : Session} {ℓ : Label} (k : Tally)

theorem tally_countCacheLookup (hit : Bool) :
    (countCacheLookup t hit).tally k = t.tally k + k.lookupWeight hit := by
  cases k with
  | status st => simp [Tester.tally, Tally.lookupWeight]
  | cache b => simp [Tester.tally, Tally.lookupWeight, eq_comm]
  | seat id => cases hit <;> simp [Tester.tally, Tally.lookupWeight, countCacheLookup]
  | decision d => cases hit <;> simp [Tester.tally, Tally.lookupWeight, countCacheLookup]

theorem tally_reserveSlot (c : Course) (e w : ℚ) (hit : Bool) (n : Nat) :
    (reserveSlot t c e w).1.tally k + k.lookupWeight hit =
      t.tally k + k.decidedWeight ⟨c, hit, n, (reserveSlot t c e w).2⟩ := by
  cases k with
  | status st => simp [Tester.tally, Tally.lookupWeight, Tally.decidedWeight, eq_comm]
  | cache b => simp [Tester.tally, Tally.lookupWeight, Tally.decidedWeight]
  | seat id =>
      simp only [Tester.tally, reserveSlot_courses, reserveSlot_courseSlots, takeSeat_apply,
        Tally.lookupWeight, Tally.decidedWeight]
      by_cases h : (reserveSlot t c e w).2 = .enrolled ∧ id = c.courseId
      · simp only [if_pos h, if_pos (And.intro h.1 h.2.symm)]; omega
      · simp only [if_neg h, if_neg fun h' : _ ∧ c.courseId = id => h ⟨h'.1, h'.2.symm⟩]
  | decision d =>
      simp [Tester.tally, Tally.lookupWeight, Tally.decidedWeight, Decided.decision,
        List.count_singleton]

/-- One step moves a counted unit between the records and a session, or adds
    it to the tester and to a session at once. -/
theorem act_balance (h : act t a ℓ = some (t', a')) :
    t'.tally k - (t'.registrations.map k.weight).sum - k.held a' =
      t.tally k - (t.registrations.map k.weight).sum - k.held a := by
  cases ℓ
  case start =>
    -- A start counts nothing, and the session holds nothing before or after.
    obtain ⟨rfl, hs⟩ := act_start h
    obtain ⟨hpc, -, -, -, rfl⟩ := startSession_eq_some hs
    simp [Tally.held, Tally.pcWeight, hpc]
  case next =>
    -- The loop head counts nothing and leaves no request in flight.
    obtain ⟨hpc, rfl, rfl⟩ := act_next h
    congr 1
    rcases loopHead_cases t'.courses a with h' | ⟨_, -, ⟨_, -, h'⟩ | h' | h'⟩ <;>
      simp only [Tally.held, hpc, h', Tally.pcWeight]
  case lookup =>
    -- The cache counter's unit is now held by the request in flight.
    obtain ⟨c, hpc, rfl, rfl⟩ := act_lookup h
    rw [tally_countCacheLookup, Tally.held_of_live k (by simp) (by simp),
      Tally.held_of_live k (by simp [hpc]) (by simp [hpc])]
    simp only [hpc, Tally.pcWeight, countCacheLookup_registrations]
    omega
  case retry =>
    -- The unlocked retry phase touches no counted unit.
    obtain ⟨c, hit, n, hpc, hp, rfl⟩ := act_retry h
    obtain ⟨hc, hsl, hlo, hreg, hst, hch⟩ := atomicPhase_eq_some hp
    have : t'.tally k = t.tally k := by
      cases k <;> simp only [Tester.tally, hc, hsl, hlo, hst, hch]
    rw [this, hreg, Tally.held_of_live k (by simp) (by simp),
      Tally.held_of_live k (by simp [hpc]) (by simp [hpc])]
    simp [hpc, Tally.pcWeight]
  case reserve i e w =>
    -- The locked block counts a status and takes a seat, which the decision
    -- now holds in place of the cache lookup.
    obtain ⟨c, hit, n, hpc, rfl, rfl⟩ := act_reserve h
    rw [Tally.held_of_live k (by simp) (by simp),
      Tally.held_of_live k (by simp [hpc]) (by simp [hpc])]
    have := tally_reserveSlot (t := t) k c e w hit n
    simp only [hpc, Tally.pcWeight, reserveSlot_registrations] at this ⊢
    omega
  case persist i db resp =>
    -- The record takes over what the decision held.
    obtain ⟨d, hpc, rfl, rfl⟩ := act_persist h
    congr 1
    unfold recordAttempt
    split
    · simp [Tally.held, hpc, Tally.pcWeight]
    · next r hr =>
      obtain ⟨-, hcid, hst, hhit⟩ := persistPhase_record hr
      simp [Tally.held, hpc, Tally.pcWeight, Tally.weight_eq_decidedWeight k hst hhit hcid]
  case collect =>
    -- Collection moves the records from the session to `registrations`;
    -- dropping keeps what the session held.
    rcases act_collect h with ⟨hpc, rfl, rfl⟩ | ⟨err, lost, hpc, rfl, rfl⟩
    · simp only [List.map_append, List.sum_append, Tally.held, hpc, Tally.pcWeight]
      have : ({ t with registrations := t.registrations ++ a.studentRegistrations }).tally k =
          t.tally k := rfl
      rw [this]; omega
    · congr 1
      cases lost <;> simp [Tally.held, hpc, Tally.pcWeight]

end Balance

theorem accounted_init (courses : List Course) (students : List Student) (hot : List String) :
    Accounted (System.init courses students hot) := by
  intro k
  have hheld : ∀ l : List Student, ((l.map Session.init).map k.held).sum = 0 := by
    intro l
    induction l with
    | nil => rfl
    | cons st l ih => simpa [Tally.held, Session.init] using ih
  simp only [System.init, hheld]
  cases k with
  | status st => cases st <;> rfl
  | cache b => cases b <;> rfl
  | seat id => simp [Tester.tally, System.init, Tester.init]
  | decision d => simp [Tester.tally, System.init, Tester.init]

/-- Every reachable state of every run is accounted, whatever the catalog. -/
theorem accounted_of_reachable {s₀ s : System} (h0 : Accounted s₀) (hr : Reachable s₀ s) :
    Accounted s := by
  refine Reachable.induct Accounted h0 (fun s ℓ s' _ hinv hs k => ?_) hr
  obtain ⟨a, hget, t, a', hact, rfl⟩ := step_eq_some_iff.mp hs
  have := act_balance k hact
  have hsum := sum_map_set s.sessions k.held a' hget
  simp only [Label.thread] at hsum ⊢
  have := hinv k
  omega

/-- At the end of a run a session holds exactly what it lost: nothing once
    collected, and its records and interrupted decision once dropped. -/
theorem Tally.held_eq_lost (k : Tally) {a : Session}
    (h : a.pc = .collected ∨ ∃ err lost, a.pc = .dropped err lost) : k.held a = k.lost a := by
  rcases h with h | ⟨err, lost, h⟩
  · simp [Tally.held, Tally.lost, h]
  · cases lost <;> simp [Tally.held, Tally.lost, Tally.pcWeight, h]

theorem Tally.lost_of_live (k : Tally) {a : Session} (h : a.pc.Live) : k.lost a = 0 := by
  unfold Tally.lost
  split
  · next err d hpc => exact absurd hpc (h err d).2
  · rfl

theorem Tally.weight_nonneg (k : Tally) (r : Registration) : 0 ≤ k.weight r := by
  cases k <;> simp only [Tally.weight] <;> split <;> omega

theorem Tally.decidedWeight_nonneg (k : Tally) (d : Decided) : 0 ≤ k.decidedWeight d := by
  cases k <;> simp only [Tally.decidedWeight] <;> split <;> omega

theorem sum_map_nonneg {α : Type} {l : List α} {f : α → Int} (h : ∀ x, 0 ≤ f x) :
    0 ≤ (l.map f).sum :=
  List.sum_nonneg fun _ hx => by obtain ⟨x, -, rfl⟩ := List.mem_map.mp hx; exact h x

theorem Tally.lost_nonneg (k : Tally) (a : Session) : 0 ≤ k.lost a := by
  have := sum_map_nonneg (l := a.studentRegistrations) k.weight_nonneg
  unfold Tally.lost
  split
  · next d _ =>
      rcases d with _ | d
      · simpa using this
      · have := k.decidedWeight_nonneg d
        simp only [Option.map_some', Option.getD_some]; omega
  · exact le_rfl

/-- At the end of any run, over any catalog, each counted quantity is what the
    collected records count plus what the dropped sessions took with them. -/
theorem tally_of_finished {courses : List Course} {students : List Student} {hot : List String}
    {s : System} (hr : Reachable (System.init courses students hot) s) (hfin : Finished s)
    (k : Tally) :
    s.tester.tally k = (s.tester.registrations.map k.weight).sum + (s.sessions.map k.lost).sum := by
  rw [accounted_of_reachable (accounted_init courses students hot) hr k,
    List.map_congr_left fun a ha => k.held_eq_lost (hfin a ha)]

/-- On a well-formed catalog no session is dropped, so the records alone
    account for every counter and every seat. -/
theorem tally_of_finished_wellFormed {courses : List Course} (hwf : WellFormed courses)
    {students : List Student} {hot : List String} {s : System}
    (hr : Reachable (System.init courses students hot) s) (hfin : Finished s) (k : Tally) :
    s.tester.tally k = (s.tester.registrations.map k.weight).sum := by
  rw [tally_of_finished hr hfin,
    List.map_congr_left fun a ha => k.lost_of_live (live_of_reachable hwf hr a ha)]
  simp

theorem sum_map_ite_eq_countP {α : Type} (l : List α) (p : α → Prop) [DecidablePred p] :
    (l.map fun x => if p x then (1 : Int) else 0).sum = l.countP fun x => decide (p x) := by
  induction l with
  | nil => rfl
  | cons x l ih => by_cases hx : p x <;> simp [List.countP_cons, hx, ih, add_comm]

theorem sum_weight_status (rs : List Registration) (st : Status) :
    (rs.map (Tally.status st).weight).sum = rs.countP (·.status = st) :=
  sum_map_ite_eq_countP rs _

theorem sum_weight_cache (rs : List Registration) (b : Bool) :
    (rs.map (Tally.cache b).weight).sum = rs.countP (·.cacheHit = b) :=
  sum_map_ite_eq_countP rs _

theorem sum_weight_seat (rs : List Registration) (id : String) :
    (rs.map (Tally.seat id).weight).sum =
      rs.countP fun r => r.status = .enrolled ∧ r.courseId = id :=
  sum_map_ite_eq_countP rs _

theorem sum_weight_decision (rs : List Registration) (d : Decision) :
    (rs.map (Tally.decision d).weight).sum = (rs.map Registration.decision).count d := by
  rw [List.count, List.countP_map]
  refine (sum_map_ite_eq_countP rs fun r => r.decision = d).trans ?_
  exact congrArg _ (List.countP_congr fun r _ => by simp)

/-- The locked decisions a session holds that `registrations` does not: its
    records' and that of its request in flight, none before it starts or once
    it is collected. -/
def Session.heldDecisions (a : Session) : List Decision :=
  match a.pc with
  | .pending | .collected => []
  | pc => a.studentRegistrations.map Registration.decision ++ (pc.decided?.map Decided.decision).toList

theorem Tally.pcWeight_decision (d : Decision) (pc : Pc) :
    (Tally.decision d).pcWeight pc = ((pc.decided?.map Decided.decision).toList.count d : Int) := by
  rcases pc with _ | _ | _ | _ | _ | dd | _ | ⟨_, _ | dd⟩ | _ | ⟨_, _ | dd⟩ <;>
    simp [Tally.pcWeight, Tally.lookupWeight, Tally.decidedWeight, Pc.decided?, List.count_singleton]

theorem Tally.held_decision (d : Decision) (a : Session) :
    (Tally.decision d).held a = (a.heldDecisions.count d : Int) := by
  unfold Tally.held Session.heldDecisions
  split <;> simp only [List.count_nil, Nat.cast_zero, List.count_append, Nat.cast_add,
    sum_weight_decision, Tally.pcWeight_decision]

/-- Over every run, on any catalog, the lock order holds, up to order, the
    decisions of the records in `registrations` and those the sessions still
    hold: every locked decision is reported once, or is still on its way. -/
theorem lockOrder_perm_of_reachable {courses : List Course} {students : List Student}
    {hot : List String} {s : System} (hr : Reachable (System.init courses students hot) s) :
    s.tester.lockOrder.Perm (s.tester.registrations.map Registration.decision ++
      (s.sessions.map Session.heldDecisions).flatten) := by
  refine List.perm_iff_count.mpr fun d => ?_
  have h := accounted_of_reachable (accounted_init courses students hot) hr (.decision d)
  rw [Tester.tally, sum_weight_decision, List.map_congr_left fun a _ => Tally.held_decision d a] at h
  have hsum : ((s.sessions.map (List.count d ∘ Session.heldDecisions)).sum : Int) =
      (s.sessions.map fun a => (a.heldDecisions.count d : Int)).sum := by
    rw [Nat.cast_list_sum, List.map_map]; rfl
  rw [List.count_append, List.count_flatten, List.map_map]
  omega

/-- At the end of a run on a well-formed catalog the lock order is, up to
    order, the decisions the records report. -/
theorem lockOrder_perm_of_finished {courses : List Course} (hwf : WellFormed courses)
    {students : List Student} {hot : List String} {s : System}
    (hr : Reachable (System.init courses students hot) s) (hfin : Finished s) :
    s.tester.lockOrder.Perm (s.tester.registrations.map Registration.decision) := by
  have hheld : (s.sessions.map Session.heldDecisions).flatten = [] :=
    List.flatten_eq_nil_iff.mpr fun l hl => by
      obtain ⟨a, ha, rfl⟩ := List.mem_map.mp hl
      have hcol := (hfin a ha).resolve_right fun ⟨err, lost, hd⟩ =>
        (live_of_reachable hwf hr a ha err lost).2 hd
      simp [Session.heldDecisions, hcol]
  simpa [hheld] using lockOrder_perm_of_reachable hr

/-- Every record has one of the five statuses. -/
theorem countP_status_total (rs : List Registration) :
    rs.countP (·.status = .enrolled) + rs.countP (·.status = .waitlisted) +
      rs.countP (·.status = .failed) + rs.countP (·.status = .error5xx) +
      rs.countP (·.status = .error4xx) = rs.length := by
  induction rs with
  | nil => rfl
  | cons r rs ih =>
      cases h : r.status <;>
        simp only [List.countP_cons, List.length_cons, h, reduceCtorEq, decide_True, decide_False,
          if_true, if_false] <;> omega

/-- Every record is a cache hit or a miss. -/
theorem countP_cache_total (rs : List Registration) :
    rs.countP (·.cacheHit = true) + rs.countP (·.cacheHit = false) = rs.length := by
  induction rs with
  | nil => rfl
  | cons r rs ih =>
      cases h : r.cacheHit <;>
        simp only [List.countP_cons, h, List.length_cons, decide_True, decide_False,
          Bool.true_eq_false, Bool.false_eq_true, if_true, if_false] <;> omega

/-- The seat ledger, over every interleaving and every draw: every run
    completes; seats stay within `[0, total]`; a step changes a course's seats
    only by taking one, with an enrolment on that course appended to the lock
    order; the lock order is, up to order, the decisions the records report and
    those the sessions still hold; of the error-free decisions on a course, in
    lock order, the first `min total k` enrol and the rest are waitlist or
    failure outcomes; and at the end the lock order is the records' decisions
    and the enrolled records of a course are exactly the seats it lost. -/
theorem seat_ledger_sound {courses : List Course} (hwf : WellFormed courses)
    {students : List Student} {hot : List String} {s : System}
    (hr : Reachable (System.init courses students hot) s) :
    Completes s ∧
    (∀ c ∈ courses, 0 ≤ s.tester.courseSlots c.courseId ∧
      s.tester.courseSlots c.courseId ≤ c.totalSlots) ∧
    (∀ ℓ s', step s ℓ = some s' → ∀ c ∈ courses,
      s'.tester.courseSlots c.courseId = s.tester.courseSlots c.courseId ∨
      (s'.tester.courseSlots c.courseId = s.tester.courseSlots c.courseId - 1 ∧
        s'.tester.lockOrder = s.tester.lockOrder ++ [⟨c.courseId, .enrolled⟩])) ∧
    s.tester.lockOrder.Perm (s.tester.registrations.map Registration.decision ++
      (s.sessions.map Session.heldDecisions).flatten) ∧
    (∀ c ∈ courses, ∃ rest, seatDecisions s.tester.lockOrder c.courseId = List.replicate
        (min c.totalSlots.toNat (seatDecisions s.tester.lockOrder c.courseId).length) .enrolled ++ rest ∧
      ∀ x ∈ rest, x = .waitlisted ∨ x = .failed) ∧
    (Finished s → s.tester.lockOrder.Perm (s.tester.registrations.map Registration.decision) ∧
      ∀ c ∈ courses,
      ((s.tester.registrations.countP fun r => r.status = .enrolled ∧ r.courseId = c.courseId : Nat) : Int) =
        c.totalSlots - s.tester.courseSlots c.courseId ∧
      ((s.tester.registrations.countP fun r => r.status = .enrolled ∧ r.courseId = c.courseId : Nat) : Int) ≤
        c.totalSlots) := by
  have hl := ledgerInv_of_reachable hwf.slots_nonneg hr
  have hinit : ∀ c ∈ courses, initSlots s.tester.courses c.courseId = c.totalSlots := fun c hc => by
    rw [courses_of_reachable hr]; exact initSlots_of_mem courses hwf.nodup_ids c hc
  refine ⟨completes s, fun c hc => ⟨hl.nonneg _, hinit c hc ▸ hl.le_init _⟩,
    fun ℓ s' hs c _ => slots_step hs _,
    lockOrder_perm_of_reachable hr, fun c hc => hinit c hc ▸ seatDecisions_prefix hl c.courseId,
    fun hfin => ⟨lockOrder_perm_of_finished hwf hr hfin, fun c hc => ?_⟩⟩
  have := tally_of_finished_wellFormed hwf hr hfin (.seat c.courseId)
  rw [Tester.tally, hinit c hc, sum_weight_seat] at this
  have := hl.nonneg c.courseId
  omega

/-- Two sessions race for the one seat: of the two error-free decisions on the
    course, in lock order, the first enrols and the second is waitlisted, and
    the records report both. -/
theorem seat_ledger_sound_contended :
    (∃ rest, seatDecisions contendedEnd.tester.lockOrder "CS101-01" = List.replicate
        (min (1 : Int).toNat (seatDecisions contendedEnd.tester.lockOrder "CS101-01").length)
          .enrolled ++ rest ∧ ∀ x ∈ rest, x = .waitlisted ∨ x = .failed) ∧
      contendedEnd.tester.lockOrder.Perm (contendedEnd.tester.registrations.map Registration.decision) := by
  obtain ⟨-, -, -, -, hlaw, hend⟩ :=
    seat_ledger_sound demoCatalog_wellFormed (reachable_of_exec .refl exec_contendedRun)
  exact ⟨hlaw _ (List.mem_singleton_self _), (hend contendedEnd_finished).1⟩

/-- Every locked counter equals the matching count over `registrations` at the
    end of a run on a well-formed catalog, so the five status counters and the
    two cache counters each add up to the number of records. -/
theorem counters_match_registrations {courses : List Course} (hwf : WellFormed courses)
    {students : List Student} {hot : List String} {s : System}
    (hr : Reachable (System.init courses students hot) s) (hfin : Finished s) :
    s.tester.successfulRegistrations = s.tester.registrations.countP (·.status = .enrolled) ∧
    s.tester.waitlistedRegistrations = s.tester.registrations.countP (·.status = .waitlisted) ∧
    s.tester.failedRegistrations = s.tester.registrations.countP (·.status = .failed) ∧
    s.tester.error5xxCount = s.tester.registrations.countP (·.status = .error5xx) ∧
    s.tester.error4xxCount = s.tester.registrations.countP (·.status = .error4xx) ∧
    s.tester.cacheHitCount = s.tester.registrations.countP (·.cacheHit = true) ∧
    s.tester.cacheMissCount = s.tester.registrations.countP (·.cacheHit = false) ∧
    s.tester.successfulRegistrations + s.tester.waitlistedRegistrations +
      s.tester.failedRegistrations + s.tester.error5xxCount + s.tester.error4xxCount =
        s.tester.registrations.length ∧
    s.tester.cacheHitCount + s.tester.cacheMissCount = s.tester.registrations.length := by
  have hst : ∀ st, s.tester.statusCount st = s.tester.registrations.countP (·.status = st) :=
    fun st => by
      have := tally_of_finished_wellFormed hwf hr hfin (.status st)
      rwa [Tester.tally, sum_weight_status, Nat.cast_inj] at this
  have hc : ∀ b, s.tester.cacheCount b = s.tester.registrations.countP (·.cacheHit = b) :=
    fun b => by
      have := tally_of_finished_wellFormed hwf hr hfin (.cache b)
      rwa [Tester.tally, sum_weight_cache, Nat.cast_inj] at this
  refine ⟨hst .enrolled, hst .waitlisted, hst .failed, hst .error5xx, hst .error4xx, hc true,
    hc false, ?_, ?_⟩
  · rw [← countP_status_total, ← hst .enrolled, ← hst .waitlisted, ← hst .failed, ← hst .error5xx,
      ← hst .error4xx]
    rfl
  · rw [← countP_cache_total, ← hc true, ← hc false]
    rfl

theorem counters_match_registrations_contended :
    contendedEnd.tester.successfulRegistrations + contendedEnd.tester.waitlistedRegistrations +
      contendedEnd.tester.failedRegistrations + contendedEnd.tester.error5xxCount +
        contendedEnd.tester.error4xxCount = contendedEnd.tester.registrations.length :=
  (counters_match_registrations demoCatalog_wellFormed (reachable_of_exec .refl exec_contendedRun)
    contendedEnd_finished).2.2.2.2.2.2.2.1

/-- With sessions that raise, the seats taken and the error counters exceed
    what `registrations` records by what the dropped sessions took with them:
    an amount that is never negative, and zero when no session was dropped. -/
theorem decisions_reflected_unless_dropped {courses : List Course} {students : List Student}
    {hot : List String} {s : System} (hr : Reachable (System.init courses students hot) s)
    (hfin : Finished s) :
    (∀ id, initSlots courses id = s.tester.courseSlots id +
        ((s.tester.registrations.countP fun r => r.status = .enrolled ∧ r.courseId = id : Nat) : Int) +
        (s.sessions.map (Tally.seat id).lost).sum) ∧
    ((s.tester.error5xxCount : Int) =
        ((s.tester.registrations.countP (·.status = .error5xx) : Nat) : Int) +
        (s.sessions.map (Tally.status .error5xx).lost).sum) ∧
    ((s.tester.error4xxCount : Int) =
        ((s.tester.registrations.countP (·.status = .error4xx) : Nat) : Int) +
        (s.sessions.map (Tally.status .error4xx).lost).sum) ∧
    (∀ k : Tally, 0 ≤ (s.sessions.map k.lost).sum) ∧
    ((∀ a ∈ s.sessions, a.pc = .collected) → ∀ k : Tally, (s.sessions.map k.lost).sum = 0) := by
  have herr : ∀ st, (s.tester.statusCount st : Int) =
      ((s.tester.registrations.countP (·.status = st) : Nat) : Int) +
        (s.sessions.map (Tally.status st).lost).sum := fun st => by
    rw [← sum_weight_status]; exact tally_of_finished hr hfin (.status st)
  refine ⟨fun id => ?_, herr .error5xx, herr .error4xx, fun k => sum_map_nonneg k.lost_nonneg,
    fun hall k => ?_⟩
  · have := tally_of_finished hr hfin (.seat id)
    rw [Tester.tally, sum_weight_seat, courses_of_reachable hr] at this
    omega
  · rw [List.map_congr_left fun a ha => k.lost_of_live fun err lost => by simp [hall a ha]]
    simp

theorem decisions_reflected_unless_dropped_demo :
    initSlots (demoCatalog none) "CS101-01" = demoDropEnd.tester.courseSlots "CS101-01" +
      ((demoDropEnd.tester.registrations.countP fun r =>
        r.status = .enrolled ∧ r.courseId = "CS101-01" : Nat) : Int) +
      (demoDropEnd.sessions.map (Tally.seat "CS101-01").lost).sum :=
  (decisions_reflected_unless_dropped (reachable_of_exec .refl exec_demoDropRun)
    demoDropEnd_finished).1 "CS101-01"

/-- A session that raises after its seat was taken: the catalog's one course
    lacks `course_code`, the enrolment takes the last seat, the record raises
    `KeyError`, and the main thread drops the session. The seat is gone and no
    record says so. -/
theorem dropped_session_loses_its_seat :
    Reachable (System.init (demoCatalog none) demoRoster []) demoDropEnd ∧ Finished demoDropEnd ∧
      demoDropEnd.tester.courseSlots "CS101-01" +
        ((demoDropEnd.tester.registrations.countP fun r =>
          r.status = .enrolled ∧ r.courseId = "CS101-01" : Nat) : Int) ≠ (demoCourse none).totalSlots :=
  ⟨reachable_of_exec .refl exec_demoDropRun, demoDropEnd_finished, by decide⟩

end CourseRegistration
