import Gatehouse.Proofs.Security.Allowance

/-!
# Which clients a limiter tracks

A limiter tracks the clients for which it keeps a bucket, and only a sweep
makes it forget one.  Which calls sweep depends on nothing but their ages: a
call does once a whole minute has gone by since the last one that did.  Whom
a sweep forgets depends on nothing but what the buckets hold, and that is up
to the calls of each client alone.  So right after a sweep none is tracked
but the caller and those that lack tokens, and from there on the table grows
by no one but its callers.
-/

namespace Gatehouse.Security

open Gatehouse.Decimal

namespace Limiter

section Clock

variable {Number : Type} [Quantity Number]

/-! ## When a call sweeps -/

/-- Whether a call at a time sweeps: the time of the last sweep moves on. -/
def sweeps (limiter : Limiter Number) (now : Int) : Bool :=
  (limiter.sweep now).lastSweep != limiter.lastSweep

/-- The ages at which some calls sweep, one after the other. -/
def sweepAges (limiter : Limiter Number) : List Call → List Nat
  | [] => []
  | call :: rest =>
    let others := sweepAges (limiter.check call.client call.now).2 rest
    if limiter.sweeps call.now then limiter.age call.now :: others
    else others

variable (limiter : Limiter Number) (client : String) (now : Int)

/-- A sweep that is due moves the time of the last one, as time has passed. -/
theorem sweeps_eq : limiter.sweeps now = limiter.isDue now := by
  rw [sweeps, sweep]
  cases due : limiter.isDue now with
  | false => exact bne_self_eq_false _
  | true =>
      rw [isDue, decide_eq_true_iff, sweepInterval] at due
      have later : limiter.age now ≠ limiter.lastSweep := by omega
      exact bne_iff_ne.mpr later

theorem sweeps_iff :
    limiter.sweeps now = true ↔
      limiter.lastSweep + 60000 ≤ limiter.age now := by
  rw [sweeps_eq, isDue, decide_eq_true_iff, sweepInterval]
  omega

theorem lastSweep_check :
    (limiter.check client now).2.lastSweep =
      if limiter.sweeps now then limiter.age now else limiter.lastSweep := by
  show (limiter.sweep now).lastSweep = _
  rw [sweeps_eq, sweep]
  split <;> rfl

@[simp]
theorem started_check :
    (limiter.check client now).2.started = limiter.started := by
  show (limiter.sweep now).started = _
  rw [sweep]
  split <;> rfl

theorem age_after (calls : List Call) :
    (limiter.after calls).age now = limiter.age now := by
  induction calls generalizing limiter with
  | nil => rfl
  | cons call rest induction =>
      refine (induction _).trans ?_
      rw [age, started_check, age]

/-- A limiter remembers the age at which a call swept last. -/
theorem lastSweep_after (calls : List Call) :
    (limiter.after calls).lastSweep =
      (limiter.sweepAges calls).getLastD limiter.lastSweep := by
  induction calls generalizing limiter with
  | nil => rfl
  | cons call rest induction =>
      refine (induction _).trans ?_
      rw [lastSweep_check, sweepAges]
      split
      · rw [List.getLastD_cons]
      · rfl

theorem after_concat (calls : List Call) (call : Call) :
    limiter.after (calls ++ [call]) =
      ((limiter.after calls).check call.client call.now).2 :=
  List.foldl_concat ..

end Clock

/-! ## Who is tracked -/

section Table

variable {Number : Type}

/-- A limiter has a bucket for a client. -/
def Tracks (limiter : Limiter Number) (client : String) : Prop :=
  client ∈ limiter.buckets.map Prod.fst

instance (limiter : Limiter Number) (client : String) :
    Decidable (limiter.Tracks client) :=
  inferInstanceAs (Decidable (client ∈ limiter.buckets.map Prod.fst))

theorem tracks_iff {limiter : Limiter Number} {client : String} :
    limiter.Tracks client ↔
      ∃ bucket, limiter.buckets.lookup client = some bucket := by
  rw [← Option.isSome_iff_exists, List.lookup_isSome_iff, Tracks,
    List.mem_map]
  simp only [beq_iff_eq, eq_comm (a := client)]

/-- Storing a bucket adds one exactly if the client had none. -/
theorem length_store (client : String) (bucket : Bucket Number)
    (buckets : List (String × Bucket Number)) :
    (store client bucket buckets).length =
      buckets.length + if client ∈ buckets.map Prod.fst then 0 else 1 := by
  induction buckets with
  | nil => rfl
  | cons held rest induction =>
      rw [store, List.map_cons, List.length_cons]
      by_cases same : held.1 = client
      · rw [if_pos same, if_pos (same ▸ List.mem_cons_self)]
        rfl
      · have elsewhere : client ∈ held.1 :: rest.map Prod.fst ↔
            client ∈ rest.map Prod.fst := by
          rw [List.mem_cons, or_iff_right (Ne.symm same)]
        rw [if_neg same, List.length_cons, induction]
        simp only [elsewhere]
        omega

end Table

section Steps

variable {Number : Type} [Quantity Number] {limiter : Limiter Number}
  {client other : String} {now : Int}

theorem sweep_of_not_sweeps (quiet : limiter.sweeps now = false) :
    limiter.sweep now = limiter := by
  rw [sweeps_eq] at quiet
  rw [sweep, quiet, if_neg Bool.false_ne_true]

/-- A sweep keeps just the buckets that are not full. -/
theorem lookup_sweep_of_sweeps
    (distinct : (limiter.buckets.map Prod.fst).Nodup)
    (swept : limiter.sweeps now = true) :
    (limiter.sweep now).buckets.lookup client =
      (limiter.buckets.lookup client).filter fun bucket =>
        !bucket.isFull limiter.limit now := by
  rw [sweeps_eq] at swept
  rw [sweep, if_pos swept]
  exact lookup_filter client (fun bucket =>
    !bucket.isFull limiter.limit now) distinct

/-- For whoever does not call, a call does no more than its sweep does. -/
theorem lookup_check_of_ne (differs : client ≠ other) :
    (limiter.check other now).2.buckets.lookup client =
      (limiter.sweep now).buckets.lookup client := by
  rw [buckets_check, lookup_store_of_ne client _ differs]

theorem tracks_check_iff :
    (limiter.check other now).2.Tracks client ↔
      client = other ∨ (limiter.sweep now).Tracks client := by
  rw [tracks_iff, tracks_iff]
  by_cases own : client = other
  · subst own
    rw [buckets_check, lookup_store_self]
    simp
  · rw [lookup_check_of_ne own, or_iff_right own]

/-- A bucket that is left was last used by a call of its client. -/
theorem mem_buckets_check {limiter : Limiter Rat}
    {held : String × Bucket Rat}
    (member : held ∈ (limiter.check client now).2.buckets) :
    held ∈ limiter.buckets ∨ held.1 = client ∧ held.2.updated = now := by
  rw [buckets_check] at member
  rcases mem_store member with rfl | old
  · exact .inr ⟨rfl, Bucket.updated_take _ _ _⟩
  · exact .inl (mem_buckets_sweep old)

theorem mem_buckets_after {limiter : Limiter Rat} {calls : List Call}
    {held : String × Bucket Rat}
    (member : held ∈ (limiter.after calls).buckets) :
    held ∈ limiter.buckets ∨
      ∃ call ∈ calls, call.client = held.1 ∧
        call.now = held.2.updated := by
  induction calls generalizing limiter with
  | nil => exact .inl member
  | cons call rest induction =>
      rcases induction member with old | ⟨later, inRest, of⟩
      · rcases mem_buckets_check old with older | ⟨client, updated⟩
        · exact .inl older
        · exact .inr
            ⟨call, List.mem_cons_self, client.symm, updated.symm⟩
      · exact .inr ⟨later, List.mem_cons_of_mem call inRest, of⟩

end Steps

end Limiter

/-! ## Buckets that are never swept -/

/-- What a call of its client makes of a bucket, which is new if need be. -/
def takeAlone (limit : Limit Rat) (alone : Option (Bucket Rat))
    (now : Int) : Option (Bucket Rat) :=
  some ((alone.getD (.full limit now)).take limit now).2

/-- The bucket of a client that called at some times, if never swept. -/
def bucketAlone (limit : Limit Rat) (times : List Int) :
    Option (Bucket Rat) :=
  times.foldl (takeAlone limit) none

/-- However calls interleave, a limiter keeps the bucket of each client. -/
theorem Keeps.after {limiter : Limiter Rat} {client : String}
    {now finish : Int} {alone : Option (Bucket Rat)} {calls : List Call}
    (keeps : Keeps limiter client now alone)
    (ordered : calls.Pairwise fun former latter =>
      former.now ≤ latter.now)
    (behind : ∀ call ∈ calls, now ≤ call.now)
    (ahead : ∀ call ∈ calls, call.now ≤ finish) (passed : now ≤ finish) :
    Keeps (limiter.after calls) client finish
      ((timesOf client calls).foldl (takeAlone limiter.limit) alone) := by
  induction calls generalizing limiter now alone with
  | nil => exact keeps.wait passed
  | cons call rest induction =>
      rw [List.pairwise_cons] at ordered
      rw [List.forall_mem_cons] at ahead
      have arrived := keeps.wait (behind call List.mem_cons_self)
      by_cases own : call.client = client
      · subst own
        have others := induction arrived.check_self.2 ordered.2 ordered.1
          ahead.2 ahead.1
        rw [Limiter.limit_check] at others
        rw [timesOf, List.filter_cons_of_pos (by simp)]
        exact others
      · have others := induction (arrived.check_other (Ne.symm own))
          ordered.2 ordered.1 ahead.2 ahead.1
        rw [Limiter.limit_check] at others
        rw [timesOf, List.filter_cons_of_neg (by simpa using own)]
        exact others

/-- What stands for a bucket lacks tokens exactly if the bucket does. -/
theorem StandsFor.lacking_iff {limit : Limit Rat} {now : Int}
    {held alone : Option (Bucket Rat)}
    (stands : StandsFor limit now held alone) :
    (∃ bucket, held = some bucket ∧
        bucket.accrued limit now < limit.burst) ↔
      ∃ bucket, alone = some bucket ∧
        bucket.accrued limit now < limit.burst := by
  cases stands with
  | same => rfl
  | dropped isFull =>
      rw [Bucket.isFull_iff, ← not_lt] at isFull
      simp [isFull]

/-- A bucket that rests for as long as it takes to fill it is full. -/
theorem Bucket.Within.isFull_of_idle {limit : Limit Rat}
    {bucket : Bucket Rat} {now : Int} (within : bucket.Within limit)
    (steady : 0 < limit.rate) (passed : bucket.updated ≤ now)
    (idle : limit.burst / limit.rate ≤ secondsBetween bucket.updated now) :
    bucket.isFull limit now = true := by
  have gained := (div_le_iff₀ steady).mp idle
  rw [Bucket.isFull_iff, Bucket.accrued_of_le passed]
  linarith [within.nonneg]

/-! ## What a call makes of the table -/

/--
What one more call does to the clients that a limiter tracks after some
calls: when it sweeps, who is left after a sweep, and who comes in.
-/
structure Tracking (limiter : Limiter Rat) (earlier : List Call)
    (call : Call) : Prop where
  /-- It sweeps exactly if a minute has gone by since the last sweep. -/
  due : (limiter.after earlier).sweeps call.now = true ↔
    (limiter.sweepAges earlier).getLastD 0 + 60000 ≤ limiter.age call.now
  /-- Right after a sweep, clients are tracked that lack tokens or call. -/
  swept : (limiter.after earlier).sweeps call.now = true → ∀ client,
    (limiter.after (earlier ++ [call])).Tracks client ↔
      client = call.client ∨ ∃ bucket,
        (limiter.after earlier).buckets.lookup client = some bucket ∧
        bucket.accrued limiter.limit call.now < limiter.limit.burst
  /-- Whether clients lack tokens is up to their own calls. -/
  alone : (limiter.after earlier).sweeps call.now = true → ∀ client,
    (limiter.after (earlier ++ [call])).Tracks client ↔
      client = call.client ∨ ∃ bucket,
        bucketAlone limiter.limit (timesOf client earlier) = some bucket ∧
        bucket.accrued limiter.limit call.now < limiter.limit.burst
  /-- A sweep forgets whoever rested for as long as it takes to fill up. -/
  idle : (limiter.after earlier).sweeps call.now = true → ∀ client,
    client ≠ call.client →
    (∀ past ∈ earlier, past.client = client →
      limiter.limit.burst / limiter.limit.rate ≤
        secondsBetween past.now call.now) →
    ¬ (limiter.after (earlier ++ [call])).Tracks client
  /-- Without a sweep, no one is forgotten, and only the caller is new. -/
  quiet : (limiter.after earlier).sweeps call.now = false → ∀ client,
    (limiter.after (earlier ++ [call])).Tracks client ↔
      client = call.client ∨ (limiter.after earlier).Tracks client
  /-- Without a sweep, the table grows by the caller if it is new. -/
  grows : (limiter.after earlier).sweeps call.now = false →
    (limiter.after (earlier ++ [call])).buckets.length =
      (limiter.after earlier).buckets.length +
        if (limiter.after earlier).Tracks call.client then 0 else 1
  /-- A bucket that is not full is kept, less what its client takes. -/
  kept : ∀ client bucket,
    (limiter.after earlier).buckets.lookup client = some bucket →
    bucket.accrued limiter.limit call.now < limiter.limit.burst →
    (limiter.after (earlier ++ [call])).buckets.lookup client =
      some (if client = call.client then
          (bucket.take limiter.limit call.now).2
        else bucket)

namespace Limiter.Balanced

variable {limiter : Limiter Rat}

/-- Right after a sweep, clients are tracked that lack tokens or call. -/
theorem tracks_check_iff_of_sweeps (balanced : limiter.Balanced)
    {now : Int} (swept : limiter.sweeps now = true)
    (client other : String) :
    (limiter.check other now).2.Tracks client ↔
      client = other ∨ ∃ bucket,
        limiter.buckets.lookup client = some bucket ∧
        bucket.accrued limiter.limit now < limiter.limit.burst := by
  rw [tracks_check_iff, tracks_iff,
    lookup_sweep_of_sweeps balanced.distinct swept]
  simp only [Option.filter_eq_some_iff, Bool.not_eq_true',
    Bool.eq_false_iff, ne_eq, Bucket.isFull_iff, not_le]

/-- Whether a client lacks tokens is up to its own calls. -/
theorem keeps_after (balanced : limiter.Balanced)
    (unseen : limiter.buckets = []) {calls : List Call} {finish : Int}
    (ordered : calls.Pairwise fun former latter =>
      former.now ≤ latter.now)
    (ahead : ∀ call ∈ calls, call.now ≤ finish) (client : String) :
    Keeps (limiter.after calls) client finish
      (bucketAlone limiter.limit (timesOf client calls)) := by
  have begun : ∀ now, Keeps limiter client now none := by
    intro now
    refine ⟨balanced.steady.le, balanced.distinct, ?_⟩
    rw [unseen]
    exact .same none
  cases calls with
  | nil => exact begun finish
  | cons first rest =>
      apply (begun first.now).after ordered _ ahead
        (ahead first List.mem_cons_self)
      rw [List.forall_mem_cons]
      exact ⟨le_rfl, (List.pairwise_cons.mp ordered).1⟩

/-- A client that rested for as long as it takes to fill up lacks nothing. -/
theorem isFull_of_idle (balanced : limiter.Balanced)
    (unseen : limiter.buckets = []) {calls : List Call} {now : Int}
    (behind : ∀ call ∈ calls, call.now ≤ now) {client : String}
    (idle : ∀ call ∈ calls, call.client = client →
      limiter.limit.burst / limiter.limit.rate ≤
        secondsBetween call.now now)
    {bucket : Bucket Rat}
    (found : (limiter.after calls).buckets.lookup client = some bucket) :
    bucket.isFull limiter.limit now = true := by
  rcases List.lookup_eq_some_iff.mp found with ⟨front, back, split, _⟩
  have member : (client, bucket) ∈ (limiter.after calls).buckets := by
    rw [split]
    simp
  have within := (balanced.after calls).within _ member
  rw [limit_after] at within
  rcases mem_buckets_after member with old | ⟨call, called, own, updated⟩
  · rw [unseen] at old
    cases old
  · have passed := behind call called
    have rested := idle call called own
    rw [updated] at passed rested
    exact within.isFull_of_idle balanced.steady passed rested

/-- A bucket that is not full is kept, less what its client takes. -/
theorem lookup_check_of_lacking (balanced : limiter.Balanced)
    {client : String} (other : String) {now : Int} {bucket : Bucket Rat}
    (found : limiter.buckets.lookup client = some bucket)
    (lacking : bucket.accrued limiter.limit now < limiter.limit.burst) :
    (limiter.check other now).2.buckets.lookup client =
      some (if client = other then (bucket.take limiter.limit now).2
        else bucket) := by
  by_cases own : client = other
  · subst own
    rw [if_pos rfl, (balanced.check_own client now).2, found]
    rfl
  · rw [if_neg own, lookup_check_of_ne own]
    rcases limiter.lookup_sweep client now balanced.distinct with
      kept | ⟨dropped, foundDropped, isFull, _⟩
    · rw [kept, found]
    · cases found.symm.trans foundDropped
      rw [Bucket.isFull_iff] at isFull
      exact absurd isFull (not_le.mpr lacking)

end Limiter.Balanced

/--
Whatever limit is accepted, and whoever calls when: sweeps come a minute
apart at least, and leave only clients that lack tokens or are calling.
-/
theorem tracking_exact {settings accepted : RateLimitSettings}
    (checked : settings.checked = .ok accepted) (route : String)
    (started : Int) {calls : List Call}
    (ordered : calls.Pairwise fun former latter =>
      former.now ≤ latter.now) :
    ∀ earlier call later, calls = earlier ++ call :: later →
      Tracking (Limiter.start route accepted.exactLimit started) earlier
        call := by
  rintro earlier call later rfl
  have begun := Limiter.balanced_start checked route started
  generalize beginning :
    Limiter.start route accepted.exactLimit started = limiter at begun ⊢
  have unseen : limiter.buckets = [] := beginning ▸ rfl
  have unswept : limiter.lastSweep = 0 := beginning ▸ rfl
  have balanced := begun.after earlier
  rcases List.pairwise_append.mp ordered with ⟨inOrder, _, across⟩
  have behind : ∀ past ∈ earlier, past.now ≤ call.now :=
    fun past member => across past member call List.mem_cons_self
  have swept :=
    fun (due : (limiter.after earlier).sweeps call.now = true) client =>
      balanced.tracks_check_iff_of_sweeps due client call.client
  rw [Limiter.limit_after] at swept
  constructor
  case due =>
    rw [Limiter.sweeps_iff, Limiter.lastSweep_after, unswept,
      Limiter.age_after]
  case swept =>
    rw [Limiter.after_concat]
    exact swept
  case alone =>
    intro due client
    have keeps := begun.keeps_after unseen inOrder behind client
    have lacking := keeps.held.lacking_iff
    rw [Limiter.limit_after] at lacking
    rw [Limiter.after_concat, swept due, lacking]
  case idle =>
    intro due client differs rested
    rw [Limiter.after_concat, swept due, or_iff_right differs]
    rintro ⟨bucket, found, lacking⟩
    have isFull := begun.isFull_of_idle unseen behind rested found
    rw [Bucket.isFull_iff] at isFull
    exact absurd isFull (not_le.mpr lacking)
  case quiet =>
    intro quiet client
    rw [Limiter.after_concat, Limiter.tracks_check_iff,
      Limiter.sweep_of_not_sweeps quiet]
  case grows =>
    intro quiet
    rw [Limiter.after_concat, Limiter.buckets_check, Limiter.length_store,
      Limiter.sweep_of_not_sweeps quiet]
    rfl
  case kept =>
    intro client bucket found lacking
    rw [Limiter.after_concat]
    rw [← limiter.limit_after earlier] at lacking ⊢
    exact balanced.lookup_check_of_lacking call.client found lacking

/-- A client that rests for a minute is forgotten when another one calls. -/
theorem tracking_after_a_minute :
    RateLimitSettings.default.checked = .ok RateLimitSettings.default ∧
      ([⟨"a", 0⟩, ⟨"b", 60000000000⟩] : List Call).Pairwise
        (fun former latter => former.now ≤ latter.now) ∧
      ((Limiter.start "/" RateLimitSettings.default.exactLimit 0).after
        [⟨"a", 0⟩]).Tracks "a" ∧
      ¬ ((Limiter.start "/" RateLimitSettings.default.exactLimit 0).after
        [⟨"a", 0⟩, ⟨"b", 60000000000⟩]).Tracks "a" :=
  ⟨checked_default, by decide, by decide +kernel,
    (tracking_exact checked_default "/" 0 (by decide) [⟨"a", 0⟩]
        ⟨"b", 60000000000⟩ [] rfl).idle
      (by decide +kernel) "a" (by decide) (by decide +kernel)⟩

end Gatehouse.Security
