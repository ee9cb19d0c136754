import CanonicalTypes.Proofs.History
import CanonicalTypes.Proofs.Resolution.Cache
import Mathlib.Data.List.Induction
import Mathlib.Data.Set.Card

/-!
# The cache of strategies by its history

Calls may carry generations in any order. What the cache answers can be told from the calls alone: it
is in the latest generation that an insert or a look has carried (`seen`), and it gives for a pair what
was last inserted for it in the asked generation, since it was last emptied (`Stored`), unless it has
seen a later generation by then (`Tells`). Each kind of call keeps that, and asking for the number of
entries changes nothing.

The main result is `answers_by_history`.
-/
namespace CanonicalTypes

namespace ResolutionCache

variable {κ : Type} {c : ResolutionCache κ} {producer p : ProducerType} {target t : TypeId}
  {strategy : CachedStrategy κ} {generation : Nat}

inductive Call (κ : Type) where
  | insert (producer : ProducerType) (target : TypeId) (strategy : CachedStrategy κ)
      (generation : Nat)
  | get (producer : ProducerType) (target : TypeId) (generation : Nat)
  | size (generation : Nat)
  | invalidate

namespace Call

/-- The generation that an insert or a look carries. -/
def generation? : Call κ → Option Nat
  | insert _ _ _ generation => some generation
  | get _ _ generation => some generation
  | size _ => none
  | invalidate => none

def asksSize : Call κ → Bool
  | size _ => true
  | _ => false

end Call

def call (c : ResolutionCache κ) : Call κ → ResolutionCache κ
  | .insert producer target strategy generation => c.insert producer target strategy generation
  | .get producer target generation => (c.get producer target generation).2
  | .size _ => c
  | .invalidate => c.invalidate

def runCalls (c : ResolutionCache κ) (calls : List (Call κ)) : ResolutionCache κ :=
  calls.foldl call c

/-- The latest generation that an insert or a look has carried, or zero. -/
def seen (calls : List (Call κ)) : Nat := (calls.filterMap Call.generation?).foldl max 0

/-- The latest insert for a pair in exactly this generation was of this strategy, and the cache has not
been emptied by an invalidation since. -/
def Stored (calls : List (Call κ)) (producer : ProducerType) (target : TypeId) (generation : Nat)
    (strategy : CachedStrategy κ) : Prop :=
  LatestIn (fun _ c => c = .insert producer target strategy generation)
    (fun c => c ≠ .invalidate ∧ ∀ strategy', c ≠ .insert producer target strategy' generation) calls

variable {calls : List (Call κ)}

theorem runCalls_concat (c : ResolutionCache κ) (calls : List (Call κ)) (k : Call κ) :
    c.runCalls (calls ++ [k]) = (c.runCalls calls).call k := by
  rw [runCalls, List.foldl_concat, runCalls]

theorem seen_concat (calls : List (Call κ)) (k : Call κ) :
    seen (calls ++ [k]) = max (seen calls) (k.generation?.getD 0) := by
  rw [seen, List.filterMap_append, List.foldl_append, seen]
  cases h : k.generation? <;> simp [h]

theorem seen_le_iff : seen calls ≤ generation ↔
    ∀ k ∈ calls, ∀ g, k.generation? = some g → g ≤ generation := by
  induction calls using List.reverseRecOn with
  | nil => simp [seen]
  | append_singleton calls k ih =>
    rw [seen_concat, Nat.max_le, ih]
    cases h : k.generation? <;> simp [or_imp, forall_and, h]

/-! ## Answers after each kind of call -/

theorem get_snd (c : ResolutionCache κ) (producer : ProducerType) (target : TypeId)
    (generation : Nat) : (c.get producer target generation).2 = c.advance generation := by
  unfold get
  split
  next h => simp [advance, h]
  · rfl

/-- A cache that moves on in two steps is empty after the first one that moves it. -/
theorem advance_advance (c : ResolutionCache κ) {generation now : Nat} (hle : generation ≤ now) :
    (c.advance generation).advance now = c.advance now := by
  by_cases hlt : c.generation < generation
  · rcases Nat.eq_or_lt_of_le hle with rfl | hlater
    · simp [advance, hlt]
    · have hnow : c.generation < now := by omega
      simp [advance, hlt, hlater, hnow]
  · simp [advance, hlt]

/-- A look changes no answer of its generation or a later one. -/
theorem get_get_of_le (c : ResolutionCache κ) (producer : ProducerType) (target : TypeId)
    (p : ProducerType) (t : TypeId) {generation now : Nat} (hle : generation ≤ now) :
    ((c.get producer target generation).2.get p t now).1 = (c.get p t now).1 := by
  rw [get_snd]
  by_cases hcache : c.generation ≤ now
  · rw [get_eq_find? c p t hcache, get_eq_find? _ p t, advance_advance c hle]
    rw [generation_advance]
    omega
  · rw [get_of_ne (by rw [generation_advance]; omega), get_of_ne (by omega)]

theorem generation_call (c : ResolutionCache κ) (k : Call κ) :
    (c.call k).generation = max c.generation (k.generation?.getD 0) := by
  cases k with
  | insert => exact generation_insert ..
  | get => exact generation_get ..
  | size => simp [call, Call.generation?]
  | invalidate => simp [call, Call.generation?, invalidate]

/-- A cache that has seen a later generation has no answer. -/
theorem generation_le_of_get (h : (c.get p t generation).1 = some strategy) :
    c.generation ≤ generation :=
  Nat.le_of_eq (mem_of_get h).1

/-- A cache without entries has no answer either. -/
theorem get_of_no_entries (hempty : c.entries = []) : (c.get p t generation).1 ≠ some strategy := by
  intro hsome
  have hmem := (mem_of_get hsome).2
  rw [hempty] at hmem
  cases hmem

/-- What a cache answers after a call has been inserted by this call, or was its answer before, and
the call neither replaces it nor empties the cache. -/
theorem get_call (c : ResolutionCache κ) (k : Call κ) (p : ProducerType) (t : TypeId) (now : Nat)
    (strategy : CachedStrategy κ) :
    ((c.call k).get p t now).1 = some strategy ↔
      max c.generation (k.generation?.getD 0) ≤ now ∧
        (k = .insert p t strategy now ∨
          (k ≠ .invalidate ∧ ∀ strategy', k ≠ .insert p t strategy' now) ∧
            (c.get p t now).1 = some strategy) := by
  -- Once a later generation than `now` has been seen, neither side has an answer.
  by_cases hseen : max c.generation (k.generation?.getD 0) ≤ now
  · rw [and_iff_right hseen]
    obtain ⟨hcache, hcall⟩ := Nat.max_le.1 hseen
    cases k with
    | insert producer target inserted generation =>
      have hcall : generation ≤ now := hcall
      rw [call, get_insert hcall]
      by_cases hsame : (p = producer ∧ t = target) ∧ generation = now
      · obtain ⟨⟨rfl, rfl⟩, rfl⟩ := hsame
        simp [hcache]
      · have hother : ∀ strategy', Call.insert producer target inserted generation ≠
            .insert p t strategy' now := by
          intro strategy' heq
          cases heq
          exact hsame ⟨⟨rfl, rfl⟩, rfl⟩
        rw [if_neg fun hpair => hsame ⟨hpair.1, hpair.2.1⟩]
        simp [hother]
    | get producer target generation =>
      have hcall : generation ≤ now := hcall
      simp [call, get_get_of_le c producer target p t hcall]
    | size => simp [call]
    | invalidate =>
      have hnone : (c.invalidate.get p t now).1 ≠ some strategy := get_of_no_entries rfl
      simp [call, hnone]
  · have hnone : ((c.call k).get p t now).1 ≠ some strategy := by
      intro hsome
      have hle := generation_le_of_get hsome
      rw [generation_call] at hle
      exact hseen hle
    simp [hseen, hnone]

/-! ## One entry for each pair -/

theorem advance_sublist (c : ResolutionCache κ) (generation : Nat) :
    (c.advance generation).entries.Sublist c.entries := by
  unfold advance
  split
  · exact List.nil_sublist _
  · exact .refl _

/-- No call gives a pair a second entry. -/
theorem nodup_call (h : (c.entries.map CacheEntry.pair).Nodup) (k : Call κ) :
    ((c.call k).entries.map CacheEntry.pair).Nodup := by
  cases k with
  | insert producer target strategy generation =>
    simp only [call, insert]
    split
    · exact h
    · refine nodup_keys_concat h (List.filter_sublist.trans (c.advance_sublist generation)) ?_
      intro e he
      have hpair : e.pair ≠ (producer, target) := by
        simpa [CacheEntry.isFor_eq] using (List.mem_filter.1 he).2
      exact hpair
  | get producer target generation =>
    rw [call, get_snd]
    exact h.sublist ((c.advance_sublist generation).map _)
  | size => exact h
  | invalidate => exact .nil

/-! ## What calls lead to -/

theorem stored_concat {k : Call κ} :
    Stored (calls ++ [k]) p t generation strategy ↔ k = .insert p t strategy generation ∨
      (k ≠ .invalidate ∧ ∀ strategy', k ≠ .insert p t strategy' generation) ∧
        Stored calls p t generation strategy :=
  latestIn_concat

/-- What a cache tells after these calls. -/
structure Tells (c : ResolutionCache κ) (calls : List (Call κ)) : Prop where
  generation : c.generation = seen calls
  answers : ∀ p t generation strategy, (c.get p t generation).1 = some strategy ↔
    seen calls ≤ generation ∧ Stored calls p t generation strategy
  pairs : (c.entries.map CacheEntry.pair).Nodup

theorem tells_nil : Tells ({} : ResolutionCache κ) [] where
  generation := rfl
  answers p t generation strategy := by
    have hnone : (({} : ResolutionCache κ).get p t generation).1 ≠ some strategy :=
      get_of_no_entries rfl
    simp [hnone, Stored, not_latestIn_nil]
  pairs := .nil

theorem Tells.call (h : c.Tells calls) (k : Call κ) : (c.call k).Tells (calls ++ [k]) where
  generation := by rw [generation_call, h.generation, seen_concat]
  answers p t generation strategy := by
    rw [get_call, h.answers, h.generation, seen_concat, stored_concat]
    constructor
    · rintro ⟨hseen, hnew | ⟨hkept, -, hold⟩⟩
      · exact ⟨hseen, .inl hnew⟩
      · exact ⟨hseen, .inr ⟨hkept, hold⟩⟩
    · rintro ⟨hseen, hnew | ⟨hkept, hold⟩⟩
      · exact ⟨hseen, .inl hnew⟩
      · exact ⟨hseen, .inr ⟨hkept, (Nat.max_le.1 hseen).1, hold⟩⟩
  pairs := nodup_call h.pairs k

theorem tells_runCalls (calls : List (Call κ)) : (runCalls {} calls).Tells calls := by
  induction calls using List.reverseRecOn with
  | nil => exact tells_nil
  | append_singleton calls k ih =>
    rw [runCalls_concat]
    exact ih.call k

/-- In the generation of the cache, the entries are the pairs that have an answer. -/
theorem Tells.mem_pairs_iff (h : c.Tells calls) :
    (p, t) ∈ c.entries.map CacheEntry.pair ↔ ∃ strategy, Stored calls p t (seen calls) strategy := by
  have hanswer : ∀ strategy, (c.get p t (seen calls)).1 = some strategy ↔
      ∃ e ∈ c.entries, e.pair = (p, t) ∧ e.strategy = strategy := by
    intro strategy
    simp only [get, h.generation, if_pos, find?, CacheEntry.isFor_eq, Option.map_eq_some_iff,
      find?_key_eq_some_iff h.pairs, and_assoc]
  have hstored : ∀ strategy, Stored calls p t (seen calls) strategy ↔
      ∃ e ∈ c.entries, e.pair = (p, t) ∧ e.strategy = strategy := by
    intro strategy
    rw [← hanswer, h.answers, and_iff_right (Nat.le_refl _)]
  simp only [hstored, List.mem_map]
  constructor
  · rintro ⟨e, he, hpair⟩
    exact ⟨e.strategy, e, he, hpair, rfl⟩
  · rintro ⟨-, e, he, hpair, -⟩
    exact ⟨e, he, hpair⟩

/-- In its own generation a cache has as many entries as pairs have been stored. -/
theorem Tells.size (h : c.Tells calls) (generation : Nat) :
    (c.size generation : ℕ∞) = if generation = seen calls then
      {pair : ProducerType × TypeId |
        ∃ strategy, Stored calls pair.1 pair.2 generation strategy}.encard else 0 := by
  rw [ResolutionCache.size, h.generation]
  by_cases hg : generation = seen calls
  · subst hg
    have hpairs : {pair : ProducerType × TypeId |
        ∃ strategy, Stored calls pair.1 pair.2 (seen calls) strategy} =
        ((c.entries.map CacheEntry.pair).toFinset : Set (ProducerType × TypeId)) := by
      ext ⟨p, t⟩
      simp [← h.mem_pairs_iff]
    rw [if_pos rfl, if_pos rfl, hpairs, Set.encard_coe_eq_coe_finsetCard,
      List.toFinset_card_of_nodup h.pairs, List.length_map]
  · rw [if_neg hg, if_neg (Ne.symm hg)]
    rfl

/-- Asking for the number of entries leaves no trace. -/
theorem runCalls_filter_asksSize (c : ResolutionCache κ) (calls : List (Call κ)) :
    c.runCalls (calls.filter fun k => !k.asksSize) = c.runCalls calls := by
  induction calls generalizing c with
  | nil => rfl
  | cons k calls ih =>
    cases k with
    | size => exact ih c
    | insert => exact ih _
    | get => exact ih _
    | invalidate => exact ih _

/-- **What a cache answers is told by its history.** After every sequence of calls on a new cache,
whatever generations they carry: a look gets a strategy for a pair if and only if no insert or look has
carried a later generation than the asked one, and the latest insert for the pair in exactly this
generation, since the last invalidation, was of this strategy. The number of entries is the number of
pairs with such an insert, if the asked generation is the latest that an insert or a look has carried
(zero, if none has), and zero for any other one. Asking for the number changes nothing. -/
theorem answers_by_history (calls : List (Call κ)) :
    let c : ResolutionCache κ := runCalls {} calls
    (∀ producer target generation strategy,
      (c.get producer target generation).1 = some strategy ↔
        (∀ k ∈ calls, ∀ g, k.generation? = some g → g ≤ generation) ∧
          Stored calls producer target generation strategy) ∧
    (∀ generation, (c.size generation : ℕ∞) = if generation = seen calls then
      {pair : ProducerType × TypeId |
        ∃ strategy, Stored calls pair.1 pair.2 generation strategy}.encard else 0) ∧
    runCalls {} (calls.filter fun k => !k.asksSize) = c := by
  intro c
  have hc : c.Tells calls := tells_runCalls calls
  refine ⟨fun producer target generation strategy => ?_, hc.size, runCalls_filter_asksSize {} calls⟩
  rw [hc.answers, seen_le_iff]

/-- An insert for an earlier generation is dropped, and a look into a later one ends the present. -/
example :
    let calls : List (Call Unit) := [.insert ⟨"a"⟩ ⟨0⟩ .protocol 5, .insert ⟨"b"⟩ ⟨0⟩ .protocol 4]
    let c := runCalls {} calls
    c.size 5 = 1 ∧ (c.get ⟨"a"⟩ ⟨0⟩ 5).1 = some .protocol ∧ (c.get ⟨"b"⟩ ⟨0⟩ 4).1 = none ∧
      ((c.get ⟨"b"⟩ ⟨0⟩ 6).2.get ⟨"a"⟩ ⟨0⟩ 5).1 = none :=
  ⟨rfl, rfl, rfl, rfl⟩

end ResolutionCache

end CanonicalTypes
