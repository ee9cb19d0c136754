import CanonicalTypes.Proofs.Converters.Lookup
import CanonicalTypes.Resolution.Cache

/-!
# What the cache of strategies can hold

Each operation of the cache by its two effects: the generation that it leaves the cache in, and the
entries that can be there afterwards. An entry survives only as long as the generation does, and a
hit is an entry of the asked generation (`mem_of_get`). For a generation that is not over, an insert
changes no answer but its own pair's (`get_insert`).

`Valid` puts the cache beside a registry that moves on: entries of the registry's present generation
have a property that belongs to the registry's present contents. Every operation keeps that, and
so does every change of the registry.
-/
namespace CanonicalTypes

/-- The strategy that an answer of the registry stands for. -/
def CachedStrategy.ofLookup {κ : Type} : Option (ConverterEntry κ) → CachedStrategy κ
  | some entry => .registry entry
  | none => .protocol

namespace CacheEntry

variable {κ : Type}

def pair (e : CacheEntry κ) : ProducerType × TypeId := (e.producer, e.target)

theorem isFor_eq (e : CacheEntry κ) (producer : ProducerType) (target : TypeId) :
    e.isFor producer target = decide (e.pair = (producer, target)) := by
  simp [isFor, pair]

end CacheEntry

namespace ResolutionCache

variable {κ : Type} {c : ResolutionCache κ} {e : CacheEntry κ} {producer p : ProducerType}
  {target t : TypeId} {strategy : CachedStrategy κ} {generation : Nat}

/-- A hit is an entry of the cache, and the generation is the cache's. -/
theorem mem_of_get (h : (c.get producer target generation).1 = some strategy) :
    c.generation = generation ∧ ⟨producer, target, strategy⟩ ∈ c.entries := by
  unfold get at h
  split at h
  next hg =>
    obtain ⟨⟨p, t, s⟩, he, rfl⟩ := Option.map_eq_some_iff.1 h
    have hfor := List.find?_some he
    simp only [CacheEntry.isFor, Bool.and_eq_true, decide_eq_true_eq] at hfor
    obtain ⟨rfl, rfl⟩ := hfor
    exact ⟨hg, List.mem_of_find?_eq_some he⟩
  · cases h

/-! ## Moving on and looking -/

theorem generation_advance (c : ResolutionCache κ) (generation : Nat) :
    (c.advance generation).generation = max c.generation generation := by
  unfold advance
  split
  next h => exact (Nat.max_eq_right (Nat.le_of_lt h)).symm
  next h => exact (Nat.max_eq_left (Nat.not_lt.1 h)).symm

theorem mem_advance :
    e ∈ (c.advance generation).entries ↔ e ∈ c.entries ∧ generation ≤ c.generation := by
  unfold advance
  split
  next h => simp [Nat.not_le.2 h]
  next h => simp [Nat.not_lt.1 h]

/-- Looking moves the cache on to a later generation, and changes nothing else. -/
theorem generation_get (c : ResolutionCache κ) (producer : ProducerType) (target : TypeId)
    (generation : Nat) :
    (c.get producer target generation).2.generation = max c.generation generation := by
  unfold get
  split
  next h => simp [h]
  · exact generation_advance c generation

theorem mem_get :
    e ∈ (c.get producer target generation).2.entries ↔
      e ∈ c.entries ∧ generation ≤ c.generation := by
  unfold get
  split
  next h => simp [h]
  · exact mem_advance

/-! ## Inserting -/

theorem generation_insert (c : ResolutionCache κ) (producer : ProducerType) (target : TypeId)
    (strategy : CachedStrategy κ) (generation : Nat) :
    (c.insert producer target strategy generation).generation = max c.generation generation := by
  unfold insert
  split
  next h => exact (Nat.max_eq_left (Nat.le_of_lt h)).symm
  · exact generation_advance c generation

/-- What is there after an insert was there before, for no earlier generation, or has just been
inserted, for no later generation. -/
theorem mem_insert (h : e ∈ (c.insert producer target strategy generation).entries) :
    e ∈ c.entries ∧ generation ≤ c.generation ∨
      e = ⟨producer, target, strategy⟩ ∧ c.generation ≤ generation := by
  unfold insert at h
  split at h
  next hlt => exact .inl ⟨h, Nat.le_of_lt hlt⟩
  next hlt =>
    rcases List.mem_append.1 h with h | h
    · exact .inl (mem_advance.1 (List.mem_filter.1 h).1)
    · exact .inr ⟨List.mem_singleton.1 h, Nat.not_lt.1 hlt⟩

/-! ## Answers -/

/-- An answer is read from the cache as it is after moving on to the generation. -/
theorem get_eq_find? (c : ResolutionCache κ) (producer : ProducerType) (target : TypeId)
    {generation : Nat} (hle : c.generation ≤ generation) :
    (c.get producer target generation).1 = (c.advance generation).find? producer target := by
  rcases Nat.eq_or_lt_of_le hle with heq | hlt
  · simp [get, advance, heq]
  · have hne : c.generation ≠ generation := Nat.ne_of_lt hlt
    simp [get, advance, hne, hlt, find?]

theorem get_of_ne (hne : c.generation ≠ generation) :
    (c.get producer target generation).1 = none := by
  simp [get, hne]

/-- Looking does not change the answers of the generation. -/
theorem get_get (c : ResolutionCache κ) (producer : ProducerType) (target : TypeId)
    (generation : Nat) (p : ProducerType) (t : TypeId) :
    ((c.get producer target generation).2.get p t generation).1 = (c.get p t generation).1 := by
  by_cases heq : c.generation = generation
  · simp [get, heq]
  · rw [get_of_ne heq]
    by_cases hlt : c.generation < generation <;> simp [get, advance, heq, hlt, find?]

/-- Of the answers of a generation, an insert for no later one changes at most that of its own pair,
and that only if it is for the generation itself. -/
theorem get_insert {now : Nat} (hle : generation ≤ now) :
    ((c.insert producer target strategy generation).get p t now).1 =
      if (p = producer ∧ t = target) ∧ generation = now ∧ c.generation ≤ now then some strategy
      else (c.get p t now).1 := by
  unfold insert
  split
  next hlt => rw [if_neg (by omega)]
  next hge =>
  rcases Nat.eq_or_lt_of_le hle with rfl | hlt
  · have hcache : c.generation ≤ generation := Nat.not_lt.1 hge
    have hgeneration : (c.advance generation).generation = generation := by
      rw [generation_advance]
      omega
    rw [get_eq_find? c p t hcache]
    simp only [get, if_pos hgeneration, find?, List.find?_append, CacheEntry.isFor_eq,
      find?_filter_key, Prod.mk.injEq]
    by_cases hpair : p = producer ∧ t = target
    · simp [hpair, hcache, CacheEntry.pair]
    · have hnew : ¬ (producer = p ∧ target = t) := fun heq => hpair ⟨heq.1.symm, heq.2.symm⟩
      simp [hpair, hnew, CacheEntry.pair]
  · rw [if_neg (by omega), get_of_ne (by rw [generation_advance]; omega), get_of_ne (by omega)]

/-! ## A cache beside a registry -/

variable {r r' : ConverterRegistry κ} {J J' : ConverterRegistry κ → CacheEntry κ → Prop}

/-- The cache is not ahead of the registry, and if it is level with it, its entries are what `J`
asks of entries beside the registry. -/
structure Valid (c : ResolutionCache κ) (r : ConverterRegistry κ)
    (J : ConverterRegistry κ → CacheEntry κ → Prop) : Prop where
  generation_le : c.generation ≤ r.generation
  entry : c.generation = r.generation → ∀ e ∈ c.entries, J r e

theorem valid_empty (r : ConverterRegistry κ) : Valid {} r J where
  generation_le := Nat.zero_le _
  entry _ _ he := by cases he

theorem Valid.imp (h : c.Valid r J) (hJ : ∀ e, J r e → J' r e) : c.Valid r J' where
  generation_le := h.generation_le
  entry hg e he := hJ e (h.entry hg e he)

/-- A hit in the present generation is what `J` asks. -/
theorem Valid.hit (h : c.Valid r J) (hit : (c.get producer target r.generation).1 = some strategy) :
    J r ⟨producer, target, strategy⟩ := by
  obtain ⟨hg, he⟩ := mem_of_get hit
  exact h.entry hg _ he

/-- A change of the registry leaves the cache behind, with nothing to be level with. -/
theorem Valid.of_precedes (h : c.Valid r J) (hp : r.Precedes r') : c.Valid r' J where
  generation_le := Nat.le_trans h.generation_le hp.1
  entry hg e he := by
    have hle := h.generation_le
    have hle' := hp.1
    obtain rfl := hp.2 (by omega)
    exact h.entry hg e he

theorem Valid.get (h : c.Valid r J) (producer : ProducerType) (target : TypeId) :
    (c.get producer target r.generation).2.Valid r J where
  generation_le := by
    rw [generation_get]
    exact Nat.max_le.2 ⟨h.generation_le, Nat.le_refl _⟩
  entry _ e he := by
    obtain ⟨he, hle⟩ := mem_get.1 he
    exact h.entry (Nat.le_antisymm h.generation_le hle) e he

/-- What was right beside an earlier registry is only taken in if that is still the present one. -/
theorem Valid.insert {now : ConverterRegistry κ} (h : c.Valid r J) (hp : now.Precedes r)
    (hJ : J now ⟨producer, target, strategy⟩) :
    (c.insert producer target strategy now.generation).Valid r J where
  generation_le := by
    rw [generation_insert]
    exact Nat.max_le.2 ⟨h.generation_le, hp.1⟩
  entry hg e he := by
    rw [generation_insert] at hg
    rcases mem_insert he with ⟨he, hle⟩ | ⟨rfl, hle⟩
    · exact h.entry (by omega) e he
    -- The cache was no further than `now`, and is level with the registry: nothing has changed.
    · obtain rfl := hp.2 (by omega)
      exact hJ

theorem Valid.invalidate (h : c.Valid r J) : c.invalidate.Valid r J where
  generation_le := h.generation_le
  entry _ _ he := by cases he

end ResolutionCache

end CanonicalTypes
