import Gatehouse.Proofs.Security.ExactBucket
import Mathlib.Data.List.Nodup

/-!
# A limiter is one bucket for every client

A limiter keeps the buckets of all clients in one table and drops full ones
from time to time, whoever calls at that moment.  What it answers to one
client is nevertheless what a bucket of that client alone would answer.  The
invariant compares the table with that bucket: either the table holds it, or
the table holds nothing and the bucket is full.
-/

namespace Gatehouse.Security

open Gatehouse.Decimal

/-! ## Sequences of calls -/

/-- A call of a client at a time. -/
structure Call where
  client : String
  now : Int
  deriving DecidableEq, Repr

section Sequences

variable {Number : Type} [Quantity Number]

/-- What a bucket answers when tokens are taken at some times. -/
def Bucket.verdicts (limit : Limit Number) :
    Bucket Number → List Int → List (Verdict Number)
  | _, [] => []
  | bucket, now :: rest =>
    (bucket.take limit now).1 ::
      verdicts limit (bucket.take limit now).2 rest

/-- What a bucket answers that is new and full at the first of some times. -/
def verdictsAlone (limit : Limit Number) :
    List Int → List (Verdict Number)
  | [] => []
  | first :: rest =>
    (Bucket.full limit first).verdicts limit (first :: rest)

/-- What a limiter answers to some calls, each with the client it answers. -/
def Limiter.verdicts (limiter : Limiter Number) :
    List Call → List (String × Verdict Number)
  | [] => []
  | call :: rest =>
    (call.client, (limiter.check call.client call.now).1) ::
      verdicts (limiter.check call.client call.now).2 rest

/-- The times at which a client calls. -/
def timesOf (client : String) (calls : List Call) : List Int :=
  (calls.filter (·.client = client)).map (·.now)

/-- The answers that a client gets. -/
def verdictsOf (client : String)
    (answers : List (String × Verdict Number)) : List (Verdict Number) :=
  (answers.filter (·.1 = client)).map (·.2)

end Sequences

/-! ## The table of buckets -/

namespace Limiter

section Table

variable {Number : Type} (client : String) (bucket : Bucket Number)

theorem lookup_store_self (buckets : List (String × Bucket Number)) :
    (store client bucket buckets).lookup client = some bucket := by
  induction buckets with
  | nil => simp [store]
  | cons held rest induction =>
      rw [store]
      split
      · simp
      · rename_i differs
        rw [List.lookup_cons, beq_false_of_ne (Ne.symm differs)]
        exact induction

/-- Storing the bucket of one client keeps those of the others. -/
theorem lookup_store_of_ne {other : String} (differs : client ≠ other)
    (buckets : List (String × Bucket Number)) :
    (store other bucket buckets).lookup client =
      buckets.lookup client := by
  induction buckets with
  | nil =>
      rw [store, List.lookup_cons, beq_false_of_ne differs]
  | cons held rest induction =>
      rw [store]
      split
      · rename_i same
        rw [List.lookup_cons, List.lookup_cons, same]
        rw [beq_false_of_ne differs]
      · rw [List.lookup_cons, List.lookup_cons, induction]

theorem mem_keys_store {name : String}
    {buckets : List (String × Bucket Number)}
    (member : name ∈ (store client bucket buckets).map Prod.fst) :
    name = client ∨ name ∈ buckets.map Prod.fst := by
  induction buckets with
  | nil => simpa [store] using member
  | cons held rest induction =>
      unfold store at member
      split at member
      · rw [List.map_cons, List.mem_cons] at member
        exact member.imp_right (List.mem_cons_of_mem _)
      · rw [List.map_cons, List.mem_cons] at member ⊢
        rcases member with same | later
        · exact .inr (.inl same)
        · exact (induction later).imp_right .inr

theorem nodup_keys_store {buckets : List (String × Bucket Number)}
    (distinct : (buckets.map Prod.fst).Nodup) :
    ((store client bucket buckets).map Prod.fst).Nodup := by
  induction buckets with
  | nil => simp [store]
  | cons held rest induction =>
      rw [List.map_cons, List.nodup_cons] at distinct
      rw [store]
      split
      · rename_i same
        rw [List.map_cons, List.nodup_cons, ← same]
        exact distinct
      · rename_i differs
        rw [List.map_cons, List.nodup_cons]
        refine ⟨fun member => ?_, induction distinct.2⟩
        rcases mem_keys_store client bucket member with same | later
        · exact differs same
        · exact distinct.1 later

/-- Where no client has two buckets, dropping some drops no others. -/
theorem lookup_filter (keep : Bucket Number → Bool)
    {buckets : List (String × Bucket Number)}
    (distinct : (buckets.map Prod.fst).Nodup) :
    (buckets.filter fun held => keep held.2).lookup client =
      (buckets.lookup client).filter keep := by
  induction buckets with
  | nil => rfl
  | cons held rest induction =>
      rw [List.map_cons, List.nodup_cons] at distinct
      rw [List.lookup_cons]
      by_cases same : client = held.1
      · subst same
        have absent : rest.lookup held.1 = none := by
          rw [List.lookup_eq_none_iff]
          intro other member
          rw [bne_iff_ne]
          intro equal
          exact distinct.1 (List.mem_map.mpr ⟨other, member, equal.symm⟩)
        rw [BEq.rfl, List.filter_cons]
        split
        · rename_i kept
          rw [List.lookup_cons, BEq.rfl, Option.filter_some, if_pos kept]
        · rename_i dropped
          rw [induction distinct.2, absent, Option.filter_some,
            if_neg dropped, Option.filter_none]
      · rw [beq_false_of_ne same, List.filter_cons, ← induction distinct.2]
        split
        · rw [List.lookup_cons, beq_false_of_ne same]
        · rfl

end Table

/-! ## What a sweep and a call do to the table -/

section Steps

variable {Number : Type} [Quantity Number] (limiter : Limiter Number)
  (client : String) (now : Int)

@[simp]
theorem limit_sweep : (limiter.sweep now).limit = limiter.limit := by
  rw [sweep]
  split <;> rfl

@[simp]
theorem limit_check :
    (limiter.check client now).2.limit = limiter.limit :=
  limit_sweep limiter now

theorem verdict_check :
    (limiter.check client now).1 =
      (((limiter.sweep now).bucket client now).take limiter.limit now).1 := by
  rw [← limit_sweep limiter now]
  rfl

theorem buckets_check :
    (limiter.check client now).2.buckets =
      store client
        (((limiter.sweep now).bucket client now).take limiter.limit now).2
        (limiter.sweep now).buckets := by
  rw [← limit_sweep limiter now]
  rfl

/-- A sweep keeps a bucket, or drops it because it is full. -/
theorem lookup_sweep
    (distinct : (limiter.buckets.map Prod.fst).Nodup) :
    (limiter.sweep now).buckets.lookup client =
        limiter.buckets.lookup client ∨
      ∃ bucket, limiter.buckets.lookup client = some bucket ∧
        bucket.isFull limiter.limit now = true ∧
        (limiter.sweep now).buckets.lookup client = none := by
  rw [sweep]
  split
  · dsimp only
    rw [lookup_filter client (fun bucket =>
      !bucket.isFull limiter.limit now) distinct]
    cases found : limiter.buckets.lookup client with
    | none => exact .inl rfl
    | some bucket =>
        cases isFull : bucket.isFull limiter.limit now with
        | false =>
            refine .inl ?_
            rw [Option.filter_some, isFull]
            rfl
        | true =>
            refine .inr ⟨bucket, rfl, isFull, ?_⟩
            rw [Option.filter_some, isFull]
            rfl
  · exact .inl rfl

theorem nodup_keys_sweep
    (distinct : (limiter.buckets.map Prod.fst).Nodup) :
    ((limiter.sweep now).buckets.map Prod.fst).Nodup := by
  rw [sweep]
  split
  · exact distinct.sublist (List.filter_sublist.map Prod.fst)
  · exact distinct

end Steps

end Limiter

/-! ## The invariant -/

/--
What the table holds for a client stands for the bucket of that client
alone: it is that bucket, or nothing while that bucket is full.
-/
inductive StandsFor (limit : Limit Rat) (now : Int) :
    Option (Bucket Rat) → Option (Bucket Rat) → Prop where
  | same (bucket : Option (Bucket Rat)) :
      StandsFor limit now bucket bucket
  | dropped {bucket : Bucket Rat}
      (isFull : bucket.isFull limit now = true) :
      StandsFor limit now none (some bucket)

/-- A limiter keeps the bucket of a client, as far as it makes a difference. -/
structure Keeps (limiter : Limiter Rat) (client : String) (now : Int)
    (alone : Option (Bucket Rat)) : Prop where
  /-- Tokens are gained, if anything. -/
  steady : 0 ≤ limiter.limit.rate
  /-- No client has two buckets. -/
  distinct : (limiter.buckets.map Prod.fst).Nodup
  held : StandsFor limiter.limit now (limiter.buckets.lookup client) alone

namespace Keeps

variable {limiter : Limiter Rat} {client : String} {now later : Int}
  {alone : Option (Bucket Rat)}

/-- Time that passes makes no difference. -/
theorem wait (keeps : Keeps limiter client now alone)
    (passed : now ≤ later) : Keeps limiter client later alone where
  steady := keeps.steady
  distinct := keeps.distinct
  held := by
    have held := keeps.held
    generalize limiter.buckets.lookup client = found at held ⊢
    cases held with
    | same => exact .same _
    | dropped isFull =>
        exact .dropped (Bucket.isFull_later keeps.steady passed isFull)

/-- A sweep makes no difference. -/
theorem sweep (keeps : Keeps limiter client now alone) :
    Keeps (limiter.sweep now) client now alone where
  steady := by
    rw [Limiter.limit_sweep]
    exact keeps.steady
  distinct := limiter.nodup_keys_sweep now keeps.distinct
  held := by
    rw [Limiter.limit_sweep]
    have held := keeps.held
    rcases limiter.lookup_sweep client now keeps.distinct with
      kept | ⟨bucket, found, isFull, gone⟩
    · rw [kept]
      exact held
    · rw [gone]
      rw [found] at held
      cases held
      exact .dropped isFull

/-- A call of another client makes no difference. -/
theorem check_other {other : String}
    (keeps : Keeps limiter client now alone) (differs : client ≠ other) :
    Keeps (limiter.check other now).2 client now alone where
  steady := by
    rw [Limiter.limit_check]
    exact keeps.steady
  distinct := by
    rw [Limiter.buckets_check]
    exact Limiter.nodup_keys_store other _ keeps.sweep.distinct
  held := by
    rw [Limiter.buckets_check, Limiter.limit_check,
      Limiter.lookup_store_of_ne client _ differs,
      ← limiter.limit_sweep now]
    exact keeps.sweep.held

/-- The bucket that a call takes from fares like the one of the client alone. -/
theorem take_bucket (keeps : Keeps limiter client now alone) :
    (limiter.bucket client now).take limiter.limit now =
      (alone.getD (.full limiter.limit now)).take limiter.limit now := by
  rw [Limiter.bucket]
  have held := keeps.held
  generalize limiter.buckets.lookup client = found at held ⊢
  cases held with
  | same => rfl
  | dropped isFull => exact (Bucket.take_of_isFull isFull).symm

/-- A call of the client is answered from the bucket of the client alone. -/
theorem check_self (keeps : Keeps limiter client now alone) :
    (limiter.check client now).1 =
        ((alone.getD (.full limiter.limit now)).take
          limiter.limit now).1 ∧
      Keeps (limiter.check client now).2 client now
        (some ((alone.getD (.full limiter.limit now)).take
          limiter.limit now).2) := by
  have taken := keeps.sweep.take_bucket
  rw [Limiter.limit_sweep] at taken
  refine ⟨?_, ?_, ?_, ?_⟩
  · rw [Limiter.verdict_check, taken]
  · rw [Limiter.limit_check]
    exact keeps.steady
  · rw [Limiter.buckets_check]
    exact Limiter.nodup_keys_store client _ keeps.sweep.distinct
  · rw [Limiter.buckets_check, Limiter.lookup_store_self, taken]
    exact .same _

end Keeps

/-! ## Whole sequences of calls -/

/-- What a client is owed for its calls, given its bucket so far. -/
def verdictsFrom (limit : Limit Rat) :
    Option (Bucket Rat) → List Int → List (Verdict Rat)
  | none, times => verdictsAlone limit times
  | some bucket, times => bucket.verdicts limit times

theorem verdictsFrom_cons (limit : Limit Rat)
    (alone : Option (Bucket Rat)) (now : Int) (rest : List Int) :
    verdictsFrom limit alone (now :: rest) =
      ((alone.getD (.full limit now)).take limit now).1 ::
        verdictsFrom limit
          (some ((alone.getD (.full limit now)).take limit now).2) rest := by
  cases alone <;> rfl

/-- However calls interleave, a client gets what its own bucket answers. -/
theorem Keeps.verdicts {limiter : Limiter Rat} {client : String}
    {now : Int} {alone : Option (Bucket Rat)} {calls : List Call}
    (keeps : Keeps limiter client now alone)
    (ordered : calls.Pairwise fun former latter =>
      former.now ≤ latter.now)
    (behind : ∀ call ∈ calls, now ≤ call.now) :
    verdictsOf client (limiter.verdicts calls) =
      verdictsFrom limiter.limit alone (timesOf client calls) := by
  induction calls generalizing limiter now alone with
  | nil => cases alone <;> rfl
  | cons call rest induction =>
      rw [List.pairwise_cons] at ordered
      -- Time passes up to the call, and only then the call is made.
      have arrived := keeps.wait (behind call List.mem_cons_self)
      rw [Limiter.verdicts]
      by_cases own : call.client = client
      · subst own
        rcases arrived.check_self with ⟨verdict, kept⟩
        have others := induction kept ordered.2 ordered.1
        rw [Limiter.limit_check] at others
        unfold verdictsOf timesOf at others ⊢
        rw [List.filter_cons_of_pos (by simp),
          List.filter_cons_of_pos (by simp), List.map_cons,
          List.map_cons, verdictsFrom_cons, others, verdict]
      · have kept := arrived.check_other (Ne.symm own)
        have others := induction kept ordered.2 ordered.1
        rw [Limiter.limit_check] at others
        unfold verdictsOf timesOf at others ⊢
        rw [List.filter_cons_of_neg (by simpa using own),
          List.filter_cons_of_neg (by simpa using own)]
        exact others

/--
Whatever limit is accepted, and whoever calls when: every client gets the
answers of one bucket that is new and full at its first call, is fed only
its own calls and is never swept.
-/
theorem verdicts_exact {settings accepted : RateLimitSettings}
    (checked : settings.checked = .ok accepted) (route : String)
    (started : Int) {calls : List Call}
    (ordered : calls.Pairwise fun former latter =>
      former.now ≤ latter.now) (client : String) :
    verdictsOf client
        ((Limiter.start route accepted.exactLimit started).verdicts calls) =
      verdictsAlone accepted.exactLimit (timesOf client calls) := by
  cases calls with
  | nil => rfl
  | cons first rest =>
      have begun : Keeps
          (Limiter.start route accepted.exactLimit started) client
          first.now none :=
        ⟨(exactLimit_rate_pos checked).le, List.nodup_nil, .same none⟩
      refine begun.verdicts ordered ?_
      rw [List.forall_mem_cons]
      exact ⟨le_rfl, (List.pairwise_cons.mp ordered).1⟩

/-- Two clients in turn, before and after a sweep drops full buckets. -/
theorem verdicts_two_clients :
    RateLimitSettings.default.checked = .ok RateLimitSettings.default ∧
      ([⟨"a", 0⟩, ⟨"b", 1⟩, ⟨"b", 60000000000⟩, ⟨"a", 60000000001⟩] :
        List Call).Pairwise (fun former latter =>
          former.now ≤ latter.now) ∧
      verdictsOf "a"
          ((Limiter.start "/" RateLimitSettings.default.exactLimit
            0).verdicts
            [⟨"a", 0⟩, ⟨"b", 1⟩, ⟨"b", 60000000000⟩, ⟨"a", 60000000001⟩]) =
        verdictsAlone RateLimitSettings.default.exactLimit
          [0, 60000000001] :=
  ⟨checked_default, by decide,
    verdicts_exact checked_default "/" 0 (by decide) "a"⟩

end Gatehouse.Security
