import CanonicalTypes.Ledger.Basic
import Mathlib.Data.List.DropRight
import Mathlib.Data.List.Induction

/-!
# What a ledger keeps and what it loses

A ledger is a bounded queue: of the records that were added since it was last drained it holds the
last ones, as many as it has room for (`Holds`), which every call keeps. A record that is added is
held until it is dropped or drained, and nothing else takes records away, so the records that were
ever added are accounted for (`runCalls_accounts`).

The main result is `ledger_conserves`.
-/
namespace CanonicalTypes.EventLedger

inductive Call where
  | append (record : LedgerRecord)
  | recordResolution (record : ResolutionRecord)
  | recordRegistry (event : RegistryEvent)
  | drain

def Call.record? : Call → Option LedgerRecord
  | append record => some record
  | recordResolution record => some (.resolution record)
  | recordRegistry event => some (.registry event)
  | drain => none

/-- The records that a call returns, and the ledger after it. -/
def call (l : EventLedger) : Call → List LedgerRecord × EventLedger
  | .append record => ([], l.append record)
  | .recordResolution record => ([], l.recordResolution record)
  | .recordRegistry event => ([], l.recordRegistry event)
  | .drain => l.drain

def runCalls (l : EventLedger) (calls : List Call) : EventLedger :=
  calls.foldl (fun l c => (l.call c).2) l

def replies (l : EventLedger) : List Call → List (List LedgerRecord)
  | [] => []
  | c :: calls => (l.call c).1 :: replies (l.call c).2 calls

def added (calls : List Call) : List LedgerRecord := calls.filterMap Call.record?

/-- The calls after the last drain. -/
def sinceDrain (calls : List Call) : List Call := calls.rtakeWhile fun c => c.record?.isSome

variable {l : EventLedger} {calls : List Call}

theorem runCalls_concat (l : EventLedger) (calls : List Call) (c : Call) :
    l.runCalls (calls ++ [c]) = ((l.runCalls calls).call c).2 := by
  rw [runCalls, List.foldl_concat, runCalls]

theorem replies_append (l : EventLedger) (calls calls' : List Call) :
    l.replies (calls ++ calls') = l.replies calls ++ (l.runCalls calls).replies calls' := by
  induction calls generalizing l with
  | nil => rfl
  | cons c calls ih =>
    rw [List.cons_append, replies, ih, replies, List.cons_append]
    rfl

theorem length_replies (l : EventLedger) (calls : List Call) :
    (l.replies calls).length = calls.length := by
  induction calls generalizing l with
  | nil => rfl
  | cons c calls ih => rw [replies, List.length_cons, ih, List.length_cons]

@[simp] theorem added_concat (calls : List Call) (c : Call) :
    added (calls ++ [c]) = added calls ++ c.record?.toList := by
  rw [added, List.filterMap_append, added, List.append_cancel_left_eq]
  cases h : c.record? <;> simp [h]

/-- A call either adds a record or is a drain. -/
theorem call_cases (l : EventLedger) (c : Call) :
    (∃ record, c.record? = some record ∧ l.call c = ([], l.append record)) ∨
      c = .drain ∧ l.call c = l.drain := by
  cases c with
  | append record => exact .inl ⟨record, rfl, rfl⟩
  | recordResolution record => exact .inl ⟨_, rfl, rfl⟩
  | recordRegistry event => exact .inl ⟨_, rfl, rfl⟩
  | drain => exact .inr ⟨rfl, rfl⟩

@[simp] theorem append_capacity (l : EventLedger) (record : LedgerRecord) :
    (l.append record).capacity = l.capacity := by
  unfold append
  split <;> rfl

/-! ## The last records -/

/-- A ledger with room holds the last of these records, as many as it has room for. -/
structure Holds (l : EventLedger) (records : List LedgerRecord) : Prop where
  room : 0 < l.capacity
  records : l.records = records.rtake l.capacity

theorem Holds.length {records : List LedgerRecord} (h : l.Holds records) :
    l.length = min records.length l.capacity := by
  rw [EventLedger.length, h.records, List.rtake, List.length_drop]
  omega

theorem Holds.append {records : List LedgerRecord} (h : l.Holds records) (record : LedgerRecord) :
    (l.append record).Holds (records ++ [record]) where
  room := by simpa using h.room
  records := by
    obtain ⟨n, hn⟩ := Nat.exists_eq_add_one_of_ne_zero (Nat.ne_of_gt h.room)
    have hlength := h.length
    rw [append_capacity, hn, List.rtake_concat_succ, EventLedger.append]
    split
    next hfull =>
      -- The oldest of the records makes room, so one less of the former ones is held.
      have hdrop : records.length - (n + 1) + 1 = records.length - n := by omega
      simp only [h.records, hn, List.rtake, List.tail_drop, hdrop]
    next hroom =>
      -- All of the former records are held.
      have hall : records.length - (n + 1) = 0 ∧ records.length - n = 0 := by omega
      simp only [h.records, hn, List.rtake, hall]

theorem Holds.drain {records : List LedgerRecord} (h : l.Holds records) : l.drain.2.Holds [] where
  room := h.room
  records := by simp [EventLedger.drain]

/-- After any calls, the last records added since the last drain are held. -/
theorem holds_runCalls (h : l.Holds []) (calls : List Call) :
    (l.runCalls calls).Holds (added (sinceDrain calls)) := by
  induction calls using List.reverseRecOn with
  | nil => exact h
  | append_singleton calls c ih =>
    rw [runCalls_concat]
    obtain ⟨record, hrecord, hcall⟩ | ⟨rfl, hcall⟩ := call_cases (l.runCalls calls) c
    · rw [hcall, sinceDrain, List.rtakeWhile_concat_pos _ _ _ (by simp [hrecord]), added_concat,
        hrecord]
      exact ih.append record
    · rw [hcall, sinceDrain, List.rtakeWhile_concat_neg _ _ _ (by simp [Call.record?])]
      exact ih.drain

/-! ## All records -/

theorem append_accounts (hroom : 0 < l.capacity) (record : LedgerRecord) :
    (l.append record).dropped + (l.append record).length = l.dropped + l.length + 1 := by
  unfold append
  split
  next hfull =>
    simp only [length, List.length_append, List.length_tail, List.length_singleton] at hfull ⊢
    omega
  next => simp only [length, List.length_append, List.length_singleton, Nat.add_assoc]

/-- What a call adds to a ledger is held after it, or dropped or returned by it. -/
theorem call_accounts (hroom : 0 < l.capacity) (c : Call) :
    (l.call c).2.dropped + (l.call c).1.length + (l.call c).2.length =
      l.dropped + l.length + c.record?.toList.length := by
  obtain ⟨record, hrecord, hcall⟩ | ⟨rfl, hcall⟩ := call_cases l c
  · have hone := append_accounts hroom record
    simpa [hcall, hrecord] using hone
  · simp [hcall, Call.record?, drain, length]

/-- Every record that was ever added is held, or has been dropped or returned. -/
theorem runCalls_accounts (h : l.Holds []) (calls : List Call) :
    (l.runCalls calls).dropped + (l.replies calls).flatten.length + (l.runCalls calls).length =
      l.dropped + (added calls).length := by
  induction calls using List.reverseRecOn with
  | nil =>
    have hempty : l.length = 0 := by simpa using h.length
    simp [added, replies, runCalls, hempty]
  | append_singleton calls c ih =>
    have hstep := call_accounts (holds_runCalls h calls).room c
    have hreplies : (l.replies (calls ++ [c])).flatten =
        (l.replies calls).flatten ++ ((l.runCalls calls).call c).1 := by
      simp [replies_append, replies]
    rw [runCalls_concat, hreplies, added_concat, List.length_append, List.length_append]
    omega

/-! ## The two kinds of records -/

theorem registryEvents_map (l : EventLedger) :
    l.registryEvents.map .registry = l.records.filter fun record => record.event?.isSome := by
  rw [registryEvents]
  induction l.records with
  | nil => rfl
  | cons record records ih =>
    cases record with
    | resolution record => exact ih
    | registry event => exact congrArg (.registry event :: ·) ih

theorem resolutions_map (l : EventLedger) :
    l.resolutions.map .resolution = l.records.filter fun record => record.event?.isNone := by
  rw [resolutions]
  induction l.records with
  | nil => rfl
  | cons record records ih =>
    cases record with
    | resolution record => exact congrArg (.resolution record :: ·) ih
    | registry event => exact ih

/-! ## The queue as a whole -/

theorem holds_ofCapacity (capacity : Nat) : (ofCapacity capacity).Holds [] where
  room := by
    simp only [ofCapacity]
    omega
  records := by simp [ofCapacity]

@[simp] theorem call_capacity (l : EventLedger) (c : Call) : (l.call c).2.capacity = l.capacity := by
  obtain ⟨record, -, hcall⟩ | ⟨rfl, hcall⟩ := call_cases l c
  · rw [hcall, append_capacity]
  · rw [hcall, drain]

theorem runCalls_capacity (l : EventLedger) (calls : List Call) :
    (l.runCalls calls).capacity = l.capacity := by
  induction calls using List.reverseRecOn with
  | nil => rfl
  | append_singleton calls c ih => rw [runCalls_concat, call_capacity, ih]

/-- **A ledger is a bounded queue that loses no record unnoticed.** For every capacity, of which zero
counts as one, and after every sequence of calls on a new ledger: it holds the last of the records
that were added since it was last drained, oldest first, as many as its capacity allows. A drain,
whatever calls come later, returns what was held before it, and leaves nothing. The registry events
and the resolutions are the records held, split by kind in their order. And the records that were
ever added are as many as those dropped, returned and held together. -/
theorem ledger_conserves (capacity : Nat) (calls : List Call) :
    let new := ofCapacity capacity
    let l := new.runCalls calls
    let recent := added (sinceDrain calls)
    (l.capacity = max capacity 1 ∧ l.records = recent.rtake (max capacity 1) ∧
      l.length = min recent.length (max capacity 1)) ∧
    ((∀ later, (new.replies (calls ++ .drain :: later))[calls.length]? = some l.records) ∧
      (new.runCalls (calls ++ [.drain])).records = []) ∧
    (l.registryEvents.map .registry = l.records.filter (fun record => record.event?.isSome) ∧
      l.resolutions.map .resolution = l.records.filter fun record => record.event?.isNone) ∧
    (added calls).length = l.dropped + (new.replies calls).flatten.length + l.length ∧
    l.length ≤ l.capacity := by
  intro new l recent
  have hnew : new.Holds [] := holds_ofCapacity capacity
  have hholds : l.Holds recent := holds_runCalls hnew calls
  have hcapacity : l.capacity = max capacity 1 := runCalls_capacity new calls
  have haccounts : l.dropped + (new.replies calls).flatten.length + l.length =
      0 + (added calls).length := runCalls_accounts hnew calls
  refine ⟨⟨hcapacity, hcapacity ▸ hholds.records, hcapacity ▸ hholds.length⟩, ?_,
    ⟨registryEvents_map l, resolutions_map l⟩, ?_, ?_⟩
  · constructor
    · intro later
      have hplace := length_replies new calls
      rw [replies_append, List.getElem?_append_right (Nat.le_of_eq hplace), hplace, Nat.sub_self]
      rfl
    · rw [runCalls_concat]
      rfl
  · omega
  · rw [hholds.length]
    exact Nat.min_le_right _ _

/-- A ledger without room keeps one record, and counts the others until it is drained. -/
example (a b c : LedgerRecord) :
    let calls : List Call := [.append a, .append b, .drain, .append c]
    (ofCapacity 0).runCalls calls = ⟨1, [c], 1⟩ ∧ (ofCapacity 0).replies calls = [[], [], [b], []] :=
  ⟨rfl, rfl⟩

end CanonicalTypes.EventLedger
