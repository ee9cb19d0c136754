import CanonicalTypes.Proofs.Converters.Lookup
import CanonicalTypes.Proofs.Resolution.Cache
import Mathlib.Data.List.Induction

/-!
# The cache under interleaved look-ups, inserts and changes

A resolution reads the generation, asks the cache, looks a converter up and remembers the answer in
four separate steps, and any number of them may be under way at once. `Shared` is what they share: a
converter registry, a cache, and the answers that look-ups have given so far. An `Act` is one atomic
step. An insert stores any answer given so far, however long ago, under the generation that it was
given in.

`Shared.Sound` is kept by every step: what the cache holds was answered in the cache's generation.
`run_converters_precedes` says that a generation has only one contents. Together they make a hit the
answer of a look-up in the registry of its generation.
-/
namespace CanonicalTypes

/-- An answer of the registry, with the generation that it was read in. -/
structure LookupAnswer (κ : Type) where
  producer : ProducerType
  target : TypeId
  strategy : CachedStrategy κ
  generation : Nat

/-- What concurrent resolutions share. -/
structure Shared (κ : Type) where
  converters : ConverterRegistry κ := {}
  cache : ResolutionCache κ := {}
  /-- The answers of all look-ups so far, in order. -/
  answers : List (LookupAnswer κ) := []

/-- One atomic step of anyone. -/
inductive Act (κ : Type) where
  | register (producer : ProducerType) (target : CanonicalType) (action : ConverterAction κ)
      (priority : ConverterPriority)
  | deregister (producer : ProducerType) (target : TypeId)
  | lookup (producer : ProducerType) (target : TypeId)
  | get (producer : ProducerType) (target : TypeId) (generation : Nat)
  /-- Stores the answer of the look-up with this number, if that many have taken place. -/
  | insert (number : Nat)
  | invalidate

namespace Shared

variable {κ : Type} (supertypes : ProducerType → List ProducerType)

def answer (s : Shared κ) (producer : ProducerType) (target : TypeId) : LookupAnswer κ :=
  let (found, generation) :=
    s.converters.lookupWithGeneration producer (supertypes producer) target
  ⟨producer, target, .ofLookup found, generation⟩

def step (s : Shared κ) : Act κ → Shared κ
  | .register producer target action priority =>
    { s with converters := (s.converters.register producer target action priority).2 }
  | .deregister producer target =>
    { s with converters := (s.converters.deregister producer target).2 }
  | .lookup producer target => { s with answers := s.answers ++ [s.answer supertypes producer target] }
  | .get producer target generation =>
    { s with cache := (s.cache.get producer target generation).2 }
  | .insert number =>
    match s.answers[number]? with
    | some a => { s with cache := s.cache.insert a.producer a.target a.strategy a.generation }
    | none => s
  | .invalidate => { s with cache := s.cache.invalidate }

/-- What is shared after steps on a new registry and a new cache. -/
def run (acts : List (Act κ)) : Shared κ := acts.foldl (step supertypes) {}

variable {supertypes}

theorem run_append (acts : List (Act κ)) (act : Act κ) :
    run supertypes (acts ++ [act]) = (run supertypes acts).step supertypes act := by
  simp [run]

theorem run_take_succ {acts : List (Act κ)} {i : Nat} {act : Act κ} (h : acts[i]? = some act) :
    run supertypes (acts.take (i + 1)) = (run supertypes (acts.take i)).step supertypes act := by
  rw [List.take_add_one, h, Option.toList_some, run_append]

/-! ## A generation has one contents -/

theorem step_converters_precedes (s : Shared κ) (act : Act κ) :
    s.converters.Precedes (s.step supertypes act).converters := by
  cases act with
  | register producer target action priority =>
    exact s.converters.register_precedes producer target action priority
  | deregister producer target => exact s.converters.deregister_precedes producer target
  | lookup => exact .refl _
  | get => exact .refl _
  | insert number =>
    simp only [step]
    split <;> exact .refl _
  | invalidate => exact .refl _

/-- The registry only moves on during a run. -/
theorem run_converters_precedes (acts : List (Act κ)) {i j : Nat} (hij : i ≤ j) :
    (run supertypes (acts.take i)).converters.Precedes
      (run supertypes (acts.take j)).converters := by
  induction hij with
  | refl => exact .refl _
  | @step j _ ih =>
    refine ih.trans ?_
    cases h : acts[j]? with
    | none =>
      rw [List.take_add_one, h, Option.toList_none, List.append_nil]
      exact .refl _
    | some act =>
      rw [run_take_succ h]
      exact step_converters_precedes _ act

/-- At two moments of the same generation the registry is the same. -/
theorem run_converters_eq (acts : List (Act κ)) {i j : Nat}
    (h : (run supertypes (acts.take i)).converters.generation =
      (run supertypes (acts.take j)).converters.generation) :
    (run supertypes (acts.take i)).converters = (run supertypes (acts.take j)).converters := by
  rcases Nat.le_total i j with hij | hij
  · exact (run_converters_precedes acts hij).2 h
  · exact ((run_converters_precedes acts hij).2 h.symm).symm

/-! ## What the cache holds was answered in its generation -/

/-- Every entry of the cache is one of the answers, given in the cache's generation. -/
def Sound (s : Shared κ) : Prop :=
  ∀ e ∈ s.cache.entries, ⟨e.producer, e.target, e.strategy, s.cache.generation⟩ ∈ s.answers

theorem Sound.step {s : Shared κ} (h : s.Sound) (act : Act κ) : (s.step supertypes act).Sound := by
  cases act with
  | register => exact h
  | deregister => exact h
  | lookup => exact fun e he => List.mem_append_left _ (h e he)
  | get producer target generation =>
    intro e he
    obtain ⟨he, hg⟩ := ResolutionCache.mem_get.1 he
    rw [Shared.step, ResolutionCache.generation_get, Nat.max_eq_left hg]
    exact h e he
  | insert number =>
    simp only [Shared.step]
    split
    next a ha =>
      intro e he
      simp only [ResolutionCache.generation_insert]
      -- What was there stays only if the insert is no later, and what is new counts for the
      -- generation of the insert.
      rcases ResolutionCache.mem_insert he with ⟨he, hg⟩ | ⟨rfl, hg⟩
      · rw [Nat.max_eq_left hg]
        exact h e he
      · rw [Nat.max_eq_right hg]
        exact List.mem_of_getElem? ha
    · exact h
  | invalidate =>
    intro e he
    simp [Shared.step, ResolutionCache.invalidate] at he

theorem sound_run (acts : List (Act κ)) : (run supertypes acts).Sound := by
  induction acts using List.reverseRecOn with
  | nil => simp [Sound, run]
  | append_singleton acts act ih =>
    rw [run_append]
    exact ih.step act

/-- Each answer was given by a look-up at an earlier step. -/
theorem mem_answers_run (acts : List (Act κ)) {i : Nat} {a : LookupAnswer κ}
    (ha : a ∈ (run supertypes (acts.take i)).answers) :
    ∃ k < i, acts[k]? = some (.lookup a.producer a.target) ∧
      (run supertypes (acts.take k)).answer supertypes a.producer a.target = a := by
  induction i with
  | zero => simp [run] at ha
  | succ i ih =>
    -- Only a look-up adds an answer. After any other step the earlier look-ups account for all.
    have before : a ∈ (run supertypes (acts.take i)).answers →
        ∃ k < i + 1, acts[k]? = some (.lookup a.producer a.target) ∧
          (run supertypes (acts.take k)).answer supertypes a.producer a.target = a := by
      intro ha
      obtain ⟨k, hk, h⟩ := ih ha
      exact ⟨k, Nat.lt_succ_of_lt hk, h⟩
    cases h : acts[i]? with
    | none =>
      rw [List.take_add_one, h, Option.toList_none, List.append_nil] at ha
      exact before ha
    | some act =>
      rw [run_take_succ h] at ha
      cases act with
      | lookup producer target =>
        rcases List.mem_append.1 ha with ha | ha
        · exact before ha
        · obtain rfl := List.mem_singleton.1 ha
          exact ⟨i, Nat.lt_succ_self i, h, rfl⟩
      | insert number =>
        simp only [step] at ha
        split at ha <;> exact before ha
      | register => exact before ha
      | deregister => exact before ha
      | get => exact before ha
      | invalidate => exact before ha

/-! ## Hits -/

/-- **Coherence of cache and registry.** Let any steps be taken in any order, and let the cache then
give an answer for a pair and a generation. Whenever the registry was or will be in that generation
during the run, a look-up for the pair gives the same answer; and the answer was computed by an
earlier look-up for the pair in that very generation, so never before a change that the generation
comes after. -/
theorem hit_eq_lookup (supertypes : ProducerType → List ProducerType) (acts : List (Act κ))
    (i : Nat) (producer : ProducerType) (target : TypeId) (generation : Nat)
    (strategy : CachedStrategy κ)
    (hit : ((run supertypes (acts.take i)).cache.get producer target generation).1 =
      some strategy) :
    (∀ j, (run supertypes (acts.take j)).converters.generation = generation →
      strategy = .ofLookup ((run supertypes (acts.take j)).converters.lookup producer
        (supertypes producer) target)) ∧
    ∃ k < i, acts[k]? = some (.lookup producer target) ∧
      (run supertypes (acts.take k)).converters.generation = generation ∧
      strategy = .ofLookup ((run supertypes (acts.take k)).converters.lookup producer
        (supertypes producer) target) := by
  obtain ⟨hg, he⟩ := ResolutionCache.mem_of_get hit
  have ha := sound_run (acts.take i) _ he
  rw [hg] at ha
  obtain ⟨k, hk, hact, hans⟩ := mem_answers_run acts ha
  simp only [answer, ConverterRegistry.lookupWithGeneration, LookupAnswer.mk.injEq, true_and]
    at hans
  obtain ⟨hstrategy, hgen⟩ := hans
  refine ⟨fun j hj => ?_, k, hk, hact, hgen, hstrategy.symm⟩
  -- The registry of a generation is the same at all of its moments.
  rw [← run_converters_eq acts (hgen.trans hj.symm), hstrategy]

/-- Two look-ups of one pair, before and after a registration. Their answers are inserted in the
wrong order, and the earlier one is dropped. -/
def lateInsert : List (Act Unit) := [
  .lookup ⟨"Widget"⟩ ⟨0⟩,
  .register ⟨"Widget"⟩ ⟨⟨0⟩, "Tensor", none, {}, none⟩ .scalar .default,
  .lookup ⟨"Widget"⟩ ⟨0⟩,
  .insert 1,
  .insert 0]

theorem hit_eq_lookup_lateInsert :
    let strategy : CachedStrategy Unit :=
      .registry ⟨⟨"Widget"⟩, ⟨0⟩, "Tensor", 0, .default, .scalar⟩
    ((run (fun _ => []) (lateInsert.take 5)).cache.get ⟨"Widget"⟩ ⟨0⟩ 1).1 = some strategy ∧
    (run (fun _ => []) (lateInsert.take 2)).converters.generation = 1 ∧
    strategy = .ofLookup ((run (fun _ => []) (lateInsert.take 2)).converters.lookup ⟨"Widget"⟩ []
      ⟨0⟩) ∧
    ∃ k < 5, lateInsert[k]? = some (.lookup ⟨"Widget"⟩ ⟨0⟩) ∧
      (run (fun _ => []) (lateInsert.take k)).converters.generation = 1 ∧
      strategy = .ofLookup ((run (fun _ => []) (lateInsert.take k)).converters.lookup ⟨"Widget"⟩ []
        ⟨0⟩) := by
  intro strategy
  obtain ⟨hj, hk⟩ := hit_eq_lookup (fun _ => []) lateInsert 5 ⟨"Widget"⟩ ⟨0⟩ 1 strategy rfl
  exact ⟨rfl, rfl, hj 2 rfl, hk⟩

end Shared

end CanonicalTypes
