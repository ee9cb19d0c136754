import CanonicalTypes.Proofs.Converters.Log
import CanonicalTypes.Proofs.History
import Mathlib.Data.List.Induction
import Mathlib.Data.List.Nodup

/-!
# What a registry of converters holds

After any calls, the converter of a pair is the one of the latest call for this pair, if that call is
a registration (`find?_runCalls`). The table keeps one converter for each pair, and their numbers grow
in the order of registration (`Numbered`), which every call preserves. So no two converters are equal
for the order of listings, and a listing does not depend on the order in which the table is walked
through (`listing_unique`).

The main result is `registry_keeps_latest`.
-/
namespace CanonicalTypes

theorem ConverterPriority.rank_injective : Function.Injective rank := by
  intro p q h
  cases p <;> cases q <;> first | rfl | cases h

namespace ConverterEntry

variable {κ : Type}

/-- One converter stands before another in listings: its priority is higher, or it is the same and
the converter was registered earlier. -/
def StandsBefore (e e' : ConverterEntry κ) : Prop :=
  e'.priority.rank < e.priority.rank ∨ e.priority = e'.priority ∧ e.sequence < e'.sequence

theorem listedBefore_trans (a b c : ConverterEntry κ) (hab : a.listedBefore b = true)
    (hbc : b.listedBefore c = true) : a.listedBefore c = true := by
  simp only [listedBefore, Bool.or_eq_true, Bool.and_eq_true,
    decide_eq_true_eq] at hab hbc ⊢
  omega

theorem listedBefore_total (a b : ConverterEntry κ) :
    (a.listedBefore b || b.listedBefore a) = true := by
  simp only [listedBefore, Bool.or_eq_true, Bool.and_eq_true, decide_eq_true_eq]
  omega

/-- Between converters with different numbers the order of listings is strict. -/
theorem standsBefore_of_listedBefore {a b : ConverterEntry κ} (hne : a.sequence ≠ b.sequence)
    (h : a.listedBefore b = true) : a.StandsBefore b := by
  simp only [listedBefore, Bool.or_eq_true, Bool.and_eq_true,
    decide_eq_true_eq] at h
  rcases h with hhigher | ⟨hrank, hle⟩
  · exact .inl hhigher
  · exact .inr ⟨ConverterPriority.rank_injective hrank, by omega⟩

theorem StandsBefore.asymm {a b : ConverterEntry κ} (h : a.StandsBefore b) : ¬ b.StandsBefore a := by
  rintro (hlower | ⟨hsame, hlater⟩)
  · rcases h with hhigher | ⟨hsame, -⟩
    · omega
    · rw [hsame] at hlower
      omega
  · rcases h with hhigher | ⟨-, hearlier⟩
    · rw [hsame] at hhigher
      omega
    · omega

end ConverterEntry

namespace ConverterRegistry

variable {κ : Type} {r : ConverterRegistry κ} {e : ConverterEntry κ}

/-- A call that changes a registry. -/
inductive Call (κ : Type) where
  | register (producer : ProducerType) (target : CanonicalType) (action : ConverterAction κ)
      (priority : ConverterPriority)
  | deregister (producer : ProducerType) (target : TypeId)

namespace Call

def pair : Call κ → ProducerType × TypeId
  | register producer target _ _ => (producer, target.id)
  | deregister producer target => (producer, target)

def converter? (sequence : Nat) : Call κ → Option (ConverterEntry κ)
  | register producer target action priority =>
    some ⟨producer, target.id, target.name, sequence, priority, action⟩
  | deregister _ _ => none

def registers : Call κ → Bool
  | register _ _ _ _ => true
  | deregister _ _ => false

end Call

def call (r : ConverterRegistry κ) : Call κ → ConverterRegistry κ
  | .register producer target action priority => (r.register producer target action priority).2
  | .deregister producer target => (r.deregister producer target).2

def runCalls (r : ConverterRegistry κ) (calls : List (Call κ)) : ConverterRegistry κ :=
  calls.foldl call r

def registrations (calls : List (Call κ)) : Nat := calls.countP Call.registers

/-- The latest call for a pair is the registration of this converter, whose number says how many
registrations there were before. -/
def Latest (calls : List (Call κ)) (pair : ProducerType × TypeId) (e : ConverterEntry κ) : Prop :=
  LatestIn (fun before c => c.pair = pair ∧ c.converter? (registrations before) = some e)
    (fun c => c.pair ≠ pair) calls

theorem runCalls_concat (r : ConverterRegistry κ) (calls : List (Call κ)) (c : Call κ) :
    r.runCalls (calls ++ [c]) = (r.runCalls calls).call c := by
  rw [runCalls, List.foldl_concat, runCalls]

theorem registrations_concat (calls : List (Call κ)) (c : Call κ) :
    registrations (calls ++ [c]) = registrations calls + c.registers.toNat := by
  rw [registrations, List.countP_append, List.countP_singleton, registrations]
  cases c.registers <;> rfl

/-! ## The latest converter of a pair -/

/-- A call decides about its own pair, and about no other one. -/
theorem find?_call (r : ConverterRegistry κ) (c : Call κ) (producer : ProducerType)
    (target : TypeId) :
    (r.call c).find? producer target =
      if c.pair = (producer, target) then c.converter? r.nextSequence
      else r.find? producer target := by
  cases c with
  | register p t action priority =>
    simp only [call, Call.pair, Call.converter?, find?_register, Prod.mk.injEq, eq_comm (a := p),
      eq_comm (a := t.id)]
  | deregister p t =>
    simp only [call, Call.pair, Call.converter?, find?_deregister, Prod.mk.injEq, eq_comm (a := p),
      eq_comm (a := t)]

theorem nextSequence_call (r : ConverterRegistry κ) (c : Call κ) :
    (r.call c).nextSequence = r.nextSequence + c.registers.toNat := by
  cases c with
  | register => rfl
  | deregister producer target =>
    simp only [call, deregister]
    split <;> rfl

theorem nextSequence_runCalls (calls : List (Call κ)) :
    (runCalls {} calls).nextSequence = registrations calls := by
  induction calls using List.reverseRecOn with
  | nil => rfl
  | append_singleton calls c ih =>
    rw [runCalls_concat, nextSequence_call, ih, registrations_concat]

/-- **The converter of a pair is the latest one**: that of the latest call for the pair, if this is a
registration. -/
theorem find?_runCalls (calls : List (Call κ)) (producer : ProducerType) (target : TypeId) :
    (runCalls {} calls).find? producer target = some e ↔ Latest calls (producer, target) e := by
  induction calls using List.reverseRecOn with
  | nil =>
    have hnone : (runCalls {} []).find? producer target = (none : Option (ConverterEntry κ)) := rfl
    simp [hnone, Latest, not_latestIn_nil]
  | append_singleton calls c ih =>
    rw [Latest] at ih
    rw [runCalls_concat, find?_call, nextSequence_runCalls, Latest, latestIn_concat]
    by_cases hpair : c.pair = (producer, target)
    · simp [hpair]
    · simp [hpair, ih]

/-! ## One converter for each pair, numbered in order -/

/-- The converters are for different pairs, and their numbers grow in the order of registration. -/
structure Numbered (r : ConverterRegistry κ) : Prop where
  pairs : (r.active.map ConverterEntry.pair).Nodup
  ascending : (r.active.map ConverterEntry.sequence).Pairwise (· < ·)
  below : ∀ e ∈ r.active, e.sequence < r.nextSequence

theorem numbered_empty : Numbered ({} : ConverterRegistry κ) where
  pairs := .nil
  ascending := .nil
  below := by simp

theorem without_sublist (r : ConverterRegistry κ) (producer : ProducerType) (target : TypeId) :
    (r.without producer target).Sublist r.active :=
  List.filter_sublist

/-- The new converter has the highest number, and the only place for its pair. -/
theorem Numbered.register (h : r.Numbered) (producer : ProducerType) (target : CanonicalType)
    (action : ConverterAction κ) (priority : ConverterPriority) :
    (r.register producer target action priority).2.Numbered := by
  have hkept := r.without_sublist producer target.id
  refine ⟨?_, ?_, ?_⟩
  · refine nodup_keys_concat h.pairs hkept fun e he => ?_
    simpa [ConverterEntry.pair] using (mem_without_iff.1 he).2
  · simp only [ConverterRegistry.register, List.map_append, List.map_singleton]
    refine List.pairwise_append.2 ⟨h.ascending.sublist (hkept.map _), by simp, ?_⟩
    intro sequence hsequence sequence' hsequence'
    obtain ⟨e, he, rfl⟩ := List.mem_map.1 hsequence
    obtain rfl := List.mem_singleton.1 hsequence'
    exact h.below e (hkept.subset he)
  · intro e he
    simp only [ConverterRegistry.register] at he ⊢
    rcases List.mem_append.1 he with he | he
    · have hbelow := h.below e (hkept.subset he)
      omega
    · rw [List.mem_singleton.1 he]
      exact Nat.lt_succ_self _

theorem Numbered.deregister (h : r.Numbered) (producer : ProducerType) (target : TypeId) :
    (r.deregister producer target).2.Numbered := by
  have hkept := r.without_sublist producer target
  unfold ConverterRegistry.deregister
  split
  · exact h
  · exact ⟨h.pairs.sublist (hkept.map _), h.ascending.sublist (hkept.map _),
      fun e he => h.below e (hkept.subset he)⟩

theorem numbered_runCalls (calls : List (Call κ)) : (runCalls {} calls).Numbered := by
  induction calls using List.reverseRecOn with
  | nil => exact numbered_empty
  | append_singleton calls c ih =>
    rw [runCalls_concat]
    cases c with
    | register producer target action priority =>
      exact ih.register producer target action priority
    | deregister producer target => exact ih.deregister producer target

/-- The converter that is found for a pair is the one that has it. -/
theorem Numbered.find?_eq_some_iff (h : r.Numbered) {producer : ProducerType} {target : TypeId} :
    r.find? producer target = some e ↔ e ∈ r.active ∧ e.producer = producer ∧ e.target = target := by
  simp only [find?, ConverterEntry.isFor_eq]
  rw [find?_key_eq_some_iff h.pairs, ConverterEntry.pair, Prod.mk.injEq]

/-! ## Listings -/

/-- Converters with different numbers are listed in a strict order. -/
theorem pairwise_listing {order : List (ConverterEntry κ)}
    (hdistinct : (order.map ConverterEntry.sequence).Nodup) :
    (order.mergeSort ConverterEntry.listedBefore).Pairwise ConverterEntry.StandsBefore := by
  have hsorted := List.pairwise_mergeSort ConverterEntry.listedBefore_trans
    ConverterEntry.listedBefore_total order
  have hkept : ((order.mergeSort ConverterEntry.listedBefore).map ConverterEntry.sequence).Nodup :=
    ((List.mergeSort_perm order _).map _).nodup_iff.2 hdistinct
  rw [List.Nodup, List.pairwise_map] at hkept
  exact hkept.imp₂ (fun _ _ => ConverterEntry.standsBefore_of_listedBefore) hsorted

/-- **A listing does not depend on the order in which the table is walked through.** -/
theorem listing_unique {order order' : List (ConverterEntry κ)} (hperm : order.Perm order')
    (hdistinct : (order.map ConverterEntry.sequence).Nodup) :
    order.mergeSort ConverterEntry.listedBefore = order'.mergeSort ConverterEntry.listedBefore := by
  have hdistinct' : (order'.map ConverterEntry.sequence).Nodup :=
    (hperm.map _).nodup_iff.1 hdistinct
  have hlisted : (order.mergeSort ConverterEntry.listedBefore).Perm
      (order'.mergeSort ConverterEntry.listedBefore) :=
    (List.mergeSort_perm _ _).trans (hperm.trans (List.mergeSort_perm _ _).symm)
  -- A strict order leaves a permutation no choice.
  exact hlisted.eq_of_pairwise (fun _ _ _ _ h h' => absurd h' h.asymm)
    (pairwise_listing hdistinct) (pairwise_listing hdistinct')

/-! ## The registry as a whole -/

/-- A look-up asks for the producer and then for its supertypes, and takes the first that has a
converter to the target. -/
theorem lookup_eq_some_iff {producer : ProducerType} {supertypes : List ProducerType}
    {target : TypeId} :
    r.lookup producer supertypes target = some e ↔
      ∃ before p after, producer :: supertypes = before ++ p :: after ∧
        (∀ q ∈ before, r.find? q target = none) ∧ r.find? p target = some e := by
  rw [lookup, List.findSome?_eq_some_iff]
  constructor
  · rintro ⟨before, p, after, hsplit, hfound, hbefore⟩
    exact ⟨before, p, after, hsplit, hbefore, hfound⟩
  · rintro ⟨before, p, after, hsplit, hbefore, hfound⟩
    exact ⟨before, p, after, hsplit, hfound, hbefore⟩

/-- **A registry keeps the latest converter of each pair, and lists them in one order.** After every
sequence of registrations and removals on a new registry, the converters are for different pairs, and
each is found under its own. It is the one of the latest registration of its pair that no removal
follows. The numbers of converters are different, and less than the number of registrations. A look-up
finds the converter of the first of the producer and its supertypes that has one. A listing has each
converter once, strictly ordered by priority and then by number, and comes out the same in whatever
order the table is walked through. -/
theorem registry_keeps_latest (calls : List (Call κ)) :
    let r : ConverterRegistry κ := runCalls {} calls
    ((r.active.map ConverterEntry.pair).Nodup ∧
      ∀ producer target e, r.find? producer target = some e ↔
        e ∈ r.active ∧ e.producer = producer ∧ e.target = target) ∧
    (∀ producer target e,
      r.find? producer target = some e ↔ Latest calls (producer, target) e) ∧
    ((r.active.map ConverterEntry.sequence).Nodup ∧
      ∀ e ∈ r.active, e.sequence < registrations calls) ∧
    (∀ producer supertypes target e, r.lookup producer supertypes target = some e ↔
      ∃ before p after, producer :: supertypes = before ++ p :: after ∧
        (∀ q ∈ before, r.find? q target = none) ∧ r.find? p target = some e) ∧
    r.entries.Perm r.active ∧ r.entries.Pairwise ConverterEntry.StandsBefore ∧
    ∀ order : List (ConverterEntry κ), order.Perm r.active →
      order.mergeSort ConverterEntry.listedBefore = r.entries := by
  intro r
  have hr : r.Numbered := numbered_runCalls calls
  have hdistinct : (r.active.map ConverterEntry.sequence).Nodup := hr.ascending.imp Nat.ne_of_lt
  refine ⟨⟨hr.pairs, fun _ _ _ => hr.find?_eq_some_iff⟩, fun _ _ _ => find?_runCalls calls _ _,
    ⟨hdistinct, fun e he => ?_⟩, fun _ _ _ _ => lookup_eq_some_iff, List.mergeSort_perm _ _,
    pairwise_listing hdistinct, fun order hperm => ?_⟩
  · rw [← nextSequence_runCalls]
    exact hr.below e he
  · exact (listing_unique hperm.symm hdistinct).symm

/-- A converter that replaces another has a number of its own, and is listed by its own priority. -/
example :
    let tensor : CanonicalType := ⟨⟨0⟩, "Tensor", none, {}, none⟩
    let calls : List (Call Unit) := [
      .register ⟨"a"⟩ tensor .scalar .override,
      .register ⟨"b"⟩ tensor .scalar .default,
      .register ⟨"a"⟩ tensor .scalar .legacy,
      .deregister ⟨"c"⟩ tensor.id]
    (runCalls {} calls).entries.map (fun e => (e.producer.name, e.sequence)) =
      [("b", 1), ("a", 2)] := by
  cbv

end ConverterRegistry

end CanonicalTypes
