import CanonicalTypes.Proofs.Descriptor.Evolution
import CanonicalTypes.Proofs.History
import Mathlib.Data.List.Induction

/-!
# Descriptors built clause by clause

What a built descriptor asks for can be told from its clauses alone. Clauses mention members
(`DescriptorClause.mention?`), and of all mentions of a name only the first one counts: the members are
the first mentions, in the order in which they were made. With entry points and sequence fallbacks it is
the other way round, the last one counts. Naming an entry point mentions it as a method, so it is always
required.

One equation says what a clause does to a descriptor (`add_eq`). It carries `Follows`, the relation
between a descriptor and the clauses so far, from clause to clause. The main result is
`built_from_first_mentions`.
-/
namespace CanonicalTypes

namespace DescriptorClause

/-- The member that a clause mentions. An entry point is mentioned as a method without arguments. -/
def mention? : DescriptorClause → Option RequiredMember
  | property name => some ⟨name, .property⟩
  | method name arity => some ⟨name, .method (some arity)⟩
  | member name kind => some ⟨name, kind⟩
  | entryPoint name => some ⟨name, .method (some 0)⟩
  | sequence _ => none

def entryPoint? : DescriptorClause → Option String
  | entryPoint name => some name
  | _ => none

def fallback? : DescriptorClause → Option SequenceFallback
  | sequence element => some ⟨element⟩
  | _ => none

/-- Whether a clause requires a member and does nothing else. -/
def isRequirement : DescriptorClause → Bool
  | property _ | method _ _ | member _ _ => true
  | entryPoint _ | sequence _ => false

def mentions (clauses : List DescriptorClause) : List RequiredMember := clauses.filterMap mention?

/-- The names that clauses mention, in order and as often as they do. -/
def mentionedNames (clauses : List DescriptorClause) : List String :=
  (mentions clauses).map RequiredMember.name

def firstMention? (clauses : List DescriptorClause) (name : String) : Option RequiredMember :=
  (mentions clauses).find? fun m => m.name = name

/-- Both names are mentioned, and the first mention of `a` comes before the first mention of `b`. -/
def MentionedBefore (clauses : List DescriptorClause) (a b : String) : Prop :=
  a ∈ mentionedNames clauses ∧ b ∈ mentionedNames clauses ∧
    (mentionedNames clauses).idxOf a < (mentionedNames clauses).idxOf b

variable {clauses : List DescriptorClause} {k : DescriptorClause} {m : RequiredMember}
  {name a b : String}

theorem mentions_concat (clauses : List DescriptorClause) (k : DescriptorClause) :
    mentions (clauses ++ [k]) = mentions clauses ++ k.mention?.toList := by
  rw [mentions, List.filterMap_append, mentions]
  cases h : k.mention? <;> simp [h]

theorem mentionedNames_concat (clauses : List DescriptorClause) (k : DescriptorClause) :
    mentionedNames (clauses ++ [k]) =
      mentionedNames clauses ++ k.mention?.toList.map RequiredMember.name := by
  rw [mentionedNames, mentions_concat, List.map_append, mentionedNames]

theorem firstMention?_concat (clauses : List DescriptorClause) (k : DescriptorClause)
    (name : String) : firstMention? (clauses ++ [k]) name =
      (firstMention? clauses name).or (k.mention?.filter fun m => m.name = name) := by
  rw [firstMention?, mentions_concat, List.find?_append, firstMention?]
  cases k.mention? with
  | none => rfl
  | some m => rw [Option.toList_some, List.find?_singleton, Option.filter_some]

theorem name_of_firstMention? (h : firstMention? clauses name = some m) : m.name = name := by
  have hname := List.find?_some h
  exact of_decide_eq_true hname

theorem mem_mentionedNames_iff :
    name ∈ mentionedNames clauses ↔ ∃ m, firstMention? clauses name = some m := by
  rw [← Option.isSome_iff_exists, firstMention?, List.find?_isSome]
  simp [mentionedNames]

theorem name_mem_mentionedNames (hk : k ∈ clauses) (hm : k.mention? = some m) :
    m.name ∈ mentionedNames clauses :=
  List.mem_map_of_mem (List.mem_filterMap.2 ⟨k, hk, hm⟩)

theorem MentionedBefore.ne (h : MentionedBefore clauses a b) : a ≠ b := by
  rintro rfl
  exact Nat.lt_irrefl _ h.2.2

/-- Later clauses do not move a first mention. -/
theorem MentionedBefore.concat (h : MentionedBefore clauses a b) (k : DescriptorClause) :
    MentionedBefore (clauses ++ [k]) a b := by
  obtain ⟨ha, hb, hlt⟩ := h
  rw [MentionedBefore, mentionedNames_concat, List.idxOf_append_of_mem ha,
    List.idxOf_append_of_mem hb]
  exact ⟨List.mem_append_left _ ha, List.mem_append_left _ hb, hlt⟩

/-- A name that is mentioned for the first time comes after all names so far. -/
theorem mentionedBefore_concat (ha : a ∈ mentionedNames clauses)
    (hb : m.name ∉ mentionedNames clauses) (hm : k.mention? = some m) :
    MentionedBefore (clauses ++ [k]) a m.name := by
  rw [MentionedBefore, mentionedNames_concat, hm, List.idxOf_append_of_mem ha,
    List.idxOf_append_of_notMem hb]
  refine ⟨List.mem_append_left _ ha, List.mem_append_right _ (by simp), ?_⟩
  exact Nat.lt_add_right _ (List.idxOf_lt_length_of_mem ha)

theorem mention?_of_entryPoint? (h : k.entryPoint? = some name) :
    k.mention? = some ⟨name, .method (some 0)⟩ := by
  cases k with
  | entryPoint name' => rw [mention?, Option.some.inj h]
  | property | method | member | sequence => cases h

/-- A clause that only requires a member adds what it mentions, if it is not required already. -/
theorem add_of_isRequirement (h : k.isRequirement = true) :
    ∃ m, k.mention? = some m ∧ ∀ d : CapabilityDescriptor, d.add k = d.withMember m.name m.kind := by
  cases k with
  | property | method | member => exact ⟨_, rfl, fun _ => rfl⟩
  | entryPoint | sequence => cases h

end DescriptorClause

namespace CapabilityDescriptor

open DescriptorClause

variable {d : CapabilityDescriptor} {clauses : List DescriptorClause} {k : DescriptorClause}
  {m : RequiredMember} {name : String}

/-! ## What a clause does -/

theorem withMember_eq (d : CapabilityDescriptor) (name : String) (kind : MemberKind) :
    d.withMember name kind =
      { d with members := d.members ++ [⟨name, kind⟩].filter fun m => !d.requires m.name } := by
  unfold withMember
  split
  next h => simp [h]
  next h => simp [h]

/-- A clause adds the member that it mentions, if its name is not required already. An entry point or a
fallback takes the place of the one before. -/
theorem add_eq (d : CapabilityDescriptor) (k : DescriptorClause) : d.add k =
    { members := d.members ++ k.mention?.toList.filter fun m => !d.requires m.name
      entryPoint := k.entryPoint?.or d.entryPoint
      sequenceFallback := k.fallback?.or d.sequenceFallback } := by
  cases k with
  | property name => exact withMember_eq d name _
  | method name arity => exact withMember_eq d name _
  | member name kind => exact withMember_eq d name kind
  | entryPoint name =>
    rw [add, withEntryPoint, withMember_eq]
    rfl
  | sequence element =>
    rw [add, withSequence]
    simp [mention?, DescriptorClause.entryPoint?, fallback?]

theorem mem_members_add : m ∈ (d.add k).members ↔
    m ∈ d.members ∨ k.mention? = some m ∧ m.name ∉ d.names := by
  rw [add_eq, List.mem_append, List.mem_filter, Option.mem_toList, Bool.not_eq_true',
    ← Bool.not_eq_true, requires_iff]

theorem names_add (d : CapabilityDescriptor) (k : DescriptorClause) : (d.add k).names =
    d.names ++ (k.mention?.toList.filter fun m => !d.requires m.name).map RequiredMember.name := by
  rw [add_eq, names, List.map_append, names]

theorem ofClauses_append (clauses later : List DescriptorClause) :
    ofClauses (clauses ++ later) = later.foldl add (ofClauses clauses) :=
  List.foldl_append

/-! ## What clauses lead to -/

/-- A descriptor follows clauses if its members are what they mention first of each name, in the order
of these mentions, and its entry point and its fallback are the last that they give. -/
structure Follows (d : CapabilityDescriptor) (clauses : List DescriptorClause) : Prop where
  mem_members_iff : ∀ m, m ∈ d.members ↔ firstMention? clauses m.name = some m
  names_pairwise : d.names.Pairwise (MentionedBefore clauses)
  entryPoint_eq : d.entryPoint = (clauses.filterMap DescriptorClause.entryPoint?).getLast?
  sequenceFallback_eq : d.sequenceFallback = (clauses.filterMap fallback?).getLast?

theorem follows_nil : Follows {} [] where
  mem_members_iff m := by simp [firstMention?, mentions]
  names_pairwise := .nil
  entryPoint_eq := rfl
  sequenceFallback_eq := rfl

/-- The names that are required are those that are mentioned. -/
theorem Follows.mem_names_iff (h : d.Follows clauses) :
    name ∈ d.names ↔ name ∈ mentionedNames clauses := by
  rw [mem_mentionedNames_iff, names, List.mem_map]
  constructor
  · rintro ⟨m, hm, rfl⟩
    exact ⟨m, (h.mem_members_iff m).1 hm⟩
  · rintro ⟨m, hm⟩
    obtain rfl := name_of_firstMention? hm
    exact ⟨m, (h.mem_members_iff m).2 hm, rfl⟩

theorem Follows.mem_members_add_iff (h : d.Follows clauses) (k : DescriptorClause)
    (m : RequiredMember) :
    m ∈ (d.add k).members ↔ firstMention? (clauses ++ [k]) m.name = some m := by
  rw [mem_members_add, h.mem_members_iff, h.mem_names_iff, mem_mentionedNames_iff,
    firstMention?_concat]
  cases firstMention? clauses m.name with
  | none => simp [Option.filter_eq_some_iff]
  | some first => simp

theorem Follows.names_pairwise_add (h : d.Follows clauses) (k : DescriptorClause) :
    (d.add k).names.Pairwise (MentionedBefore (clauses ++ [k])) := by
  rw [names_add, List.pairwise_append]
  refine ⟨h.names_pairwise.imp fun hbefore => hbefore.concat k, ?_, ?_⟩
  · -- At most one name is added.
    refine List.Pairwise.map _ (fun _ _ h => h) (List.Pairwise.filter _ ?_)
    cases k.mention? <;> simp
  · intro a ha b hb
    obtain ⟨m, hm, rfl⟩ := List.mem_map.1 hb
    obtain ⟨hmention, hfree⟩ := List.mem_filter.1 hm
    have hnew : m.name ∉ mentionedNames clauses := by
      rw [← h.mem_names_iff, ← requires_iff]
      simpa using hfree
    exact mentionedBefore_concat (h.mem_names_iff.1 ha) hnew (Option.mem_toList.1 hmention)

theorem Follows.add (h : d.Follows clauses) (k : DescriptorClause) :
    (d.add k).Follows (clauses ++ [k]) where
  mem_members_iff := h.mem_members_add_iff k
  names_pairwise := h.names_pairwise_add k
  entryPoint_eq := by rw [add_eq, h.entryPoint_eq, getLast?_filterMap_concat]
  sequenceFallback_eq := by rw [add_eq, h.sequenceFallback_eq, getLast?_filterMap_concat]

theorem follows_ofClauses (clauses : List DescriptorClause) : (ofClauses clauses).Follows clauses := by
  induction clauses using List.reverseRecOn with
  | nil => exact follows_nil
  | append_singleton clauses k ih =>
    rw [ofClauses_append]
    exact ih.add k

/-! ## What follows from the mentions -/

theorem Follows.nodup_names (h : d.Follows clauses) : d.names.Nodup :=
  h.names_pairwise.imp MentionedBefore.ne

/-- The entry point is among the required members. -/
theorem Follows.entryPoint_mem_names (h : d.Follows clauses) (hentry : d.entryPoint = some name) :
    name ∈ d.names := by
  rw [h.entryPoint_eq] at hentry
  obtain ⟨k, hk, hname⟩ := List.mem_filterMap.1 (List.mem_of_getLast? hentry)
  exact h.mem_names_iff.2 (name_mem_mentionedNames hk (mention?_of_entryPoint? hname))

/-- To require again what has been required changes nothing. -/
theorem Follows.add_of_mem (h : d.Follows clauses) (hk : k ∈ clauses)
    (hrequirement : k.isRequirement = true) : d.add k = d := by
  obtain ⟨m, hm, hadd⟩ := add_of_isRequirement hrequirement
  have hname : m.name ∈ d.names := h.mem_names_iff.2 (name_mem_mentionedNames hk hm)
  rw [hadd, withMember, if_pos ((d.requires_iff m.name).2 hname)]

theorem conformsObject_of_lacking {ω : Type} [ForeignObject ω] {o : ω} (hname : name ∈ d.names)
    (hlacks : ForeignObject.hasMember o name = false) : conformsObject o d = false := by
  rw [Bool.eq_false_iff] at hlacks ⊢
  exact fun hconforms => hlacks (conformsObject_iff.1 hconforms name hname)

/-- **Of each member a builder keeps the first mention, and the last of all entry points and fallbacks.**
Whatever the clauses and their order: the names of the members are distinct and stand in the order in
which they are first mentioned, each with the kind of its first mention, where an entry point is
mentioned as a method without arguments. The entry point is the one that is named last, if any is, and
it is always a member, so that no object without it conforms. The sequence fallback is the last one
given. A clause that only requires a member changes nothing when it is repeated, then or later. -/
theorem built_from_first_mentions (clauses : List DescriptorClause) :
    let d := ofClauses clauses
    d.names.Nodup ∧
    (∀ name, name ∈ d.names ↔ name ∈ mentionedNames clauses) ∧
    d.names.Pairwise (MentionedBefore clauses) ∧
    (∀ m, m ∈ d.members ↔ firstMention? clauses m.name = some m) ∧
    d.entryPoint = (clauses.filterMap DescriptorClause.entryPoint?).getLast? ∧
    (∀ name, d.entryPoint = some name → name ∈ d.names ∧
      ∀ (ω : Type) [ForeignObject ω] (o : ω),
        ForeignObject.hasMember o name = false → conformsObject o d = false) ∧
    d.sequenceFallback = (clauses.filterMap fallback?).getLast? ∧
    ∀ k ∈ clauses, k.isRequirement = true → ∀ later,
      ofClauses (clauses ++ k :: later) = ofClauses (clauses ++ later) := by
  intro d
  have hd : d.Follows clauses := follows_ofClauses clauses
  refine ⟨hd.nodup_names, fun name => hd.mem_names_iff, hd.names_pairwise, hd.mem_members_iff,
    hd.entryPoint_eq, fun name hentry => ?_, hd.sequenceFallback_eq, fun k hk hreq later => ?_⟩
  · have hname : name ∈ d.names := hd.entryPoint_mem_names hentry
    exact ⟨hname, fun ω _ o hlacks => conformsObject_of_lacking hname hlacks⟩
  · rw [ofClauses_append, ofClauses_append, List.foldl_cons, hd.add_of_mem hk hreq]

/-- Clauses that mention two names as different kinds, name two entry points and give two fallbacks. The
property that is asked for in vain may be asked for again. -/
theorem built_from_first_mentions_contested :
    let clauses : List DescriptorClause := [.method "shape" 1, .sequence "Tensor", .entryPoint "dtype",
      .property "shape", .member "dtype" (.method none), .entryPoint "shape", .sequence "Symbol"]
    ofClauses clauses =
      ⟨[⟨"shape", .method (some 1)⟩, ⟨"dtype", .method (some 0)⟩], some "shape", some ⟨"Symbol"⟩⟩ ∧
    conformsObject (⟨["dtype"]⟩ : BareObject) (ofClauses clauses) = false ∧
    ∀ later, ofClauses (clauses ++ .property "shape" :: later) = ofClauses (clauses ++ later) := by
  intro clauses
  obtain ⟨-, -, -, -, -, hentry, -, hrepeated⟩ := built_from_first_mentions clauses
  exact ⟨rfl, (hentry "shape" rfl).2 BareObject ⟨["dtype"]⟩ rfl,
    hrepeated (.property "shape") (by simp [clauses]) rfl⟩

end CapabilityDescriptor

end CanonicalTypes
