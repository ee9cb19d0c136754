import CanonicalTypes.Proofs.Types.Registration
import CanonicalTypes.Types.Fingerprint
import Mathlib.Data.List.Basic

/-!
# What a fingerprint tells

A fingerprint is the hash of a text, so it tells registries apart as far as the text does. The text
joins names without escaping them and writes an absent name as `none`, so it has more than one
reading as soon as a name holds a separator or is `none` itself (`surfaceText_not_injective`).

`PublishedType.Unmistakable` rules out just that, field by field. Each record can then be read back
from the left (`record_append_injective`), so the text determines what is published, and with it the
whole registry: `eq_of_surfaceText_eq`.
-/
namespace CanonicalTypes

/-- What a registry publishes of one type. -/
structure PublishedType where
  name : String
  parent : Option String
  descriptor : CapabilityDescriptor
  deriving DecidableEq

namespace TypeRegistry

variable {r r' : TypeRegistry}

def parentName? (r : TypeRegistry) (t : CanonicalType) : Option String :=
  (t.parent.bind r.get?).map CanonicalType.name

def published (r : TypeRegistry) : List PublishedType :=
  r.types.map fun t => ⟨t.name, r.parentName? t, t.descriptor⟩

end TypeRegistry

/-! ## Fields -/

/-- The text of a name that may be absent. -/
def shownName (name? : Option String) : List Char := (name?.getD "none").toList

/-- A name that may be absent is read back from its field: it is not the text of an absent one, and
the character that ends the field does not occur in it. -/
def ShownWell (stop : Char) (name? : Option String) : Prop :=
  ∀ name ∈ name?, name ≠ "none" ∧ stop ∉ name.toList

instance (stop : Char) (name? : Option String) : Decidable (ShownWell stop name?) :=
  inferInstanceAs (Decidable (∀ name ∈ name?, name ≠ "none" ∧ stop ∉ name.toList))

section

variable {stop : Char} {name? name?' : Option String}

theorem ShownWell.notMem (h : ShownWell stop name?) (hnone : stop ∉ "none".toList) :
    stop ∉ shownName name? := by
  cases name? with
  | none => exact hnone
  | some name => exact (h name rfl).2

theorem ShownWell.injective (h : ShownWell stop name?) (h' : ShownWell stop name?')
    (heq : shownName name? = shownName name?') : name? = name?' := by
  have hname : name?.getD "none" = name?'.getD "none" := String.toList_inj.1 heq
  cases name? with
  | none =>
    cases name?' with
    | none => rfl
    | some name' => exact absurd hname.symm (h' name' rfl).1
  | some name =>
    cases name?' with
    | none => exact absurd hname (h name rfl).1
    | some name' => exact congrArg some hname

/-- A field that does not hold the character after it ends at its first occurrence. -/
theorem field_injective {a a' b b' : List Char} (h : stop ∉ a) (h' : stop ∉ a')
    (heq : a ++ stop :: b = a' ++ stop :: b') : a = a' ∧ b = b' := by
  induction a generalizing a' with
  | nil =>
    cases a' with
    | nil => simpa using heq
    | cons x a' =>
      obtain ⟨rfl, -⟩ := List.cons.inj heq
      exact absurd List.mem_cons_self h'
  | cons x a ih =>
    cases a' with
    | nil =>
      obtain ⟨rfl, -⟩ := List.cons.inj heq
      exact absurd List.mem_cons_self h
    | cons x' a' =>
      obtain ⟨rfl, htail⟩ := List.cons.inj heq
      obtain ⟨rfl, rfl⟩ := ih (List.not_mem_of_not_mem_cons h) (List.not_mem_of_not_mem_cons h') htail
      exact ⟨rfl, rfl⟩

theorem notMem_intercalate {sep : List Char} {ls : List (List Char)} (hsep : stop ∉ sep)
    (hls : ∀ l ∈ ls, stop ∉ l) : stop ∉ sep.intercalate ls := by
  induction ls with
  | nil => simp
  | cons l rest ih =>
    obtain ⟨hl, hrest⟩ := List.forall_mem_cons.1 hls
    cases rest with
    | nil => simpa using hl
    | cons l' rest =>
      simp only [List.intercalate_cons_cons, List.mem_append, not_or]
      exact ⟨⟨hl, hsep⟩, ih hrest⟩

/-- Texts that do not hold the separator, and are not empty, are read back from what joins them. -/
theorem intercalate_injective {ls ls' : List (List Char)} (h : ∀ l ∈ ls, stop ∉ l ∧ l ≠ [])
    (h' : ∀ l ∈ ls', stop ∉ l ∧ l ≠ []) (heq : [stop].intercalate ls = [stop].intercalate ls') :
    ls = ls' := by
  -- The text of no texts is empty, and that of some is not.
  have hnil : ∀ {ls : List (List Char)}, (∀ l ∈ ls, stop ∉ l ∧ l ≠ []) →
      [stop].intercalate ls = [] → ls = [] := by
    intro ls hls hempty
    match ls, hls, hempty with
    | [], _, _ => rfl
    | [l], hls, hempty => exact absurd (by simpa using hempty) (hls l List.mem_cons_self).2
    | l :: l' :: rest, _, hempty => simp [List.intercalate_cons_cons] at hempty
  by_cases hls : ls = []
  · subst hls
    exact (hnil h' (by simpa using heq.symm)).symm
  · have hls' : ls' ≠ [] := by
      rintro rfl
      exact hls (hnil h (by simpa using heq))
    rw [← List.splitOn_intercalate stop (fun l hl => (h l hl).1) hls, heq,
      List.splitOn_intercalate stop (fun l hl => (h' l hl).1) hls']

end

/-! ## Members -/

def arityText : Option UInt8 → List Char
  | some arity => Nat.toDigits 10 arity.toNat
  | none => ['*']

theorem isDigit_or_eq_of_mem_arityText {arity : Option UInt8} {c : Char}
    (hc : c ∈ arityText arity) : c.isDigit = true ∨ c = '*' := by
  cases arity with
  | none => exact .inr (List.mem_singleton.1 hc)
  | some arity => exact .inl (Nat.isDigit_of_mem_toDigits (by decide) (by decide) hc)

theorem slash_notMem_arityText (arity : Option UInt8) : '/' ∉ arityText arity := by
  intro hslash
  have hslash := isDigit_or_eq_of_mem_arityText hslash
  revert hslash
  decide

theorem arityText_injective : Function.Injective arityText := by
  have hstar : ∀ arity : UInt8, ¬ arityText (some arity) = ['*'] := by
    intro arity heq
    have hdigit : ('*').isDigit = true :=
      Nat.isDigit_of_mem_toDigits (b := 10) (n := arity.toNat) (by decide) (by decide)
        (by rw [show Nat.toDigits 10 arity.toNat = ['*'] from heq]; exact List.mem_singleton_self _)
    revert hdigit
    decide
  intro arity arity' heq
  cases arity with
  | none =>
    cases arity' with
    | none => rfl
    | some arity' => exact absurd heq.symm (hstar arity')
  | some arity =>
    cases arity' with
    | none => exact absurd heq (hstar arity)
    | some arity' =>
      have hread : ∀ n : Nat, Nat.ofDigitChars 10 (Nat.toDigits 10 n) 0 = n := fun n =>
        Nat.ofDigitChars_toDigits (by decide) (by decide)
      have hnat : arity.toNat = arity'.toNat := by
        rw [← hread arity.toNat, show Nat.toDigits 10 arity.toNat = Nat.toDigits 10 arity'.toNat
          from heq, hread]
      rw [UInt8.toNat_inj.1 hnat]

namespace RequiredMember

variable {m m' : RequiredMember}

theorem surfaceText_toList (m : RequiredMember) :
    m.surfaceText.toList = match m.kind with
      | .property => "attr:".toList ++ m.name.toList
      | .method arity => "method:".toList ++ (m.name.toList ++ '/' :: arityText arity) := by
  obtain ⟨name, _ | _ | arity⟩ := m
  · simp only [surfaceText, toString, String.toList_append]
  · simp only [surfaceText, toString, String.toList_append, List.append_assoc]
    rfl
  · simp only [surfaceText, toString, String.toList_append, List.append_assoc, Nat.toList_repr]
    rfl

/-- A member is read back from its text whatever its name is: no arity holds a slash. -/
theorem surfaceText_injective : Function.Injective surfaceText := by
  intro m m' heq
  have htext := congrArg String.toList heq
  rw [surfaceText_toList, surfaceText_toList] at htext
  obtain ⟨name, _ | arity⟩ := m <;> obtain ⟨name', _ | arity'⟩ := m'
  · obtain rfl := String.toList_inj.1 (List.append_cancel_left htext)
    rfl
  · simp at htext
  · simp at htext
  · have hreversed := congrArg List.reverse (List.append_cancel_left htext)
    simp only [List.reverse_append, List.reverse_cons, List.append_assoc, List.singleton_append]
      at hreversed
    have hslash : ∀ arity, '/' ∉ (arityText arity).reverse := by
      simpa using slash_notMem_arityText
    obtain ⟨harity, hname⟩ := field_injective (hslash arity) (hslash arity') hreversed
    obtain rfl := arityText_injective (List.reverse_injective harity)
    obtain rfl := String.toList_inj.1 (List.reverse_injective hname)
    rfl

theorem surfaceText_ne_nil (m : RequiredMember) : m.surfaceText.toList ≠ [] := by
  rw [surfaceText_toList]
  split <;> simp

/-- Only its name can bring a separator into the text of a member. -/
theorem notMem_surfaceText {stop : Char} (hstop : stop = '|' ∨ stop = ',')
    (hname : stop ∉ m.name.toList) : stop ∉ m.surfaceText.toList := by
  have harity : ∀ arity, stop ∉ arityText arity := by
    intro arity hmem
    have hmem := isDigit_or_eq_of_mem_arityText hmem
    revert hmem
    rcases hstop with rfl | rfl <;> decide
  have hwords : stop ∉ "attr:".toList ∧ stop ∉ "method:".toList ∧ stop ≠ '/' := by
    rcases hstop with rfl | rfl <;> decide
  rw [surfaceText_toList]
  split
  · simp only [List.mem_append, not_or]
    exact ⟨hwords.1, hname⟩
  · simp only [List.mem_append, List.mem_cons, not_or]
    exact ⟨hwords.2.1, hname, hwords.2.2, harity _⟩

end RequiredMember

/-! ## Records -/

namespace PublishedType

variable {p p' : PublishedType}

/-- The texts of the required members, joined, and the bracket after them. -/
def membersText (p : PublishedType) : List Char :=
  [','].intercalate (p.descriptor.members.map fun m => m.surfaceText.toList) ++ [']']

def element? (p : PublishedType) : Option String :=
  p.descriptor.sequenceFallback.map SequenceFallback.element

def record (p : PublishedType) : List Char :=
  ("type=".toList ++ p.name.toList) ++ '|' :: (("parent=".toList ++ shownName p.parent) ++ '|' ::
    (("members=[".toList ++ p.membersText) ++ '|' ::
      (("entry=".toList ++ shownName p.descriptor.entryPoint) ++ '|' ::
        (("sequence=".toList ++ shownName p.element?) ++ [';']))))

/-- No field of the surface record can be mistaken for another, or for an absent one. -/
structure Unmistakable (p : PublishedType) : Prop where
  name : '|' ∉ p.name.toList
  parent : ShownWell '|' p.parent
  members : ∀ m ∈ p.descriptor.members, '|' ∉ m.name.toList ∧ ',' ∉ m.name.toList
  entry : ShownWell '|' p.descriptor.entryPoint
  element : ShownWell ';' p.element?

instance (p : PublishedType) : Decidable p.Unmistakable :=
  decidable_of_iff ('|' ∉ p.name.toList ∧ ShownWell '|' p.parent ∧
      (∀ m ∈ p.descriptor.members, '|' ∉ m.name.toList ∧ ',' ∉ m.name.toList) ∧
      ShownWell '|' p.descriptor.entryPoint ∧ ShownWell ';' p.element?)
    ⟨fun ⟨name, parent, members, entry, element⟩ => ⟨name, parent, members, entry, element⟩,
      fun h => ⟨h.name, h.parent, h.members, h.entry, h.element⟩⟩

theorem Unmistakable.bar_notMem_membersText (h : p.Unmistakable) : '|' ∉ p.membersText := by
  simp only [membersText, List.mem_append, not_or]
  refine ⟨notMem_intercalate (by decide) ?_, by decide⟩
  rw [List.forall_mem_map]
  exact fun m hm => m.notMem_surfaceText (.inl rfl) (h.members m hm).1

theorem Unmistakable.members_eq (h : p.Unmistakable) (h' : p'.Unmistakable)
    (heq : p.membersText = p'.membersText) : p.descriptor.members = p'.descriptor.members := by
  have htexts : ∀ {p : PublishedType}, p.Unmistakable →
      ∀ text ∈ p.descriptor.members.map fun m => m.surfaceText.toList, ',' ∉ text ∧ text ≠ [] := by
    intro p h
    rw [List.forall_mem_map]
    exact fun m hm => ⟨m.notMem_surfaceText (.inr rfl) (h.members m hm).2, m.surfaceText_ne_nil⟩
  refine List.map_injective_iff.2 (fun m m' hm => ?_)
    (intercalate_injective (htexts h) (htexts h') (List.append_cancel_right heq))
  exact RequiredMember.surfaceText_injective (String.toList_inj.1 hm)

/-- A record is read back from the front of a text. -/
theorem record_append_injective (h : p.Unmistakable) (h' : p'.Unmistakable) {rest rest' : List Char}
    (heq : p.record ++ rest = p'.record ++ rest') : p = p' ∧ rest = rest' := by
  unfold record at heq
  simp only [List.append_assoc, List.cons_append, List.nil_append, -String.reduceToList] at heq
  -- Each field ends at the first delimiter, so the fields are read off from the left.
  obtain ⟨hname, heq⟩ := field_injective h.name h'.name (List.append_cancel_left heq)
  obtain ⟨hparent, heq⟩ := field_injective (h.parent.notMem (by decide))
    (h'.parent.notMem (by decide)) (List.append_cancel_left heq)
  obtain ⟨hmembers, heq⟩ := field_injective h.bar_notMem_membersText h'.bar_notMem_membersText
    (List.append_cancel_left heq)
  obtain ⟨hentry, heq⟩ := field_injective (h.entry.notMem (by decide))
    (h'.entry.notMem (by decide)) (List.append_cancel_left heq)
  obtain ⟨helement, hrest⟩ := field_injective (h.element.notMem (by decide))
    (h'.element.notMem (by decide)) (List.append_cancel_left heq)
  have hname := String.toList_inj.1 hname
  have hparent := h.parent.injective h'.parent hparent
  have hmembers := h.members_eq h' hmembers
  have hentry := h.entry.injective h'.entry hentry
  have helement := h.element.injective h'.element helement
  obtain ⟨name, parent, members, entryPoint, fallback⟩ := p
  obtain ⟨name', parent', members', entryPoint', fallback'⟩ := p'
  obtain rfl : name = name' := hname
  obtain rfl : parent = parent' := hparent
  obtain rfl : members = members' := hmembers
  obtain rfl : entryPoint = entryPoint' := hentry
  obtain rfl : fallback = fallback' :=
    Option.map_injective (fun f f' hf => congrArg SequenceFallback.mk hf) helement
  exact ⟨rfl, hrest⟩

theorem record_ne_nil (p : PublishedType) : p.record ≠ [] :=
  List.append_ne_nil_of_right_ne_nil _ (List.cons_ne_nil _ _)

/-- Records are read back one after another. -/
theorem records_injective {ps ps' : List PublishedType} (h : ∀ p ∈ ps, p.Unmistakable)
    (h' : ∀ p ∈ ps', p.Unmistakable) (heq : ps.flatMap record = ps'.flatMap record) : ps = ps' := by
  induction ps generalizing ps' with
  | nil =>
    cases ps' with
    | nil => rfl
    | cons p' rest' => simp [record_ne_nil] at heq
  | cons p rest ih =>
    cases ps' with
    | nil => simp [record_ne_nil] at heq
    | cons p' rest' =>
      obtain ⟨hp, hrest⟩ := List.forall_mem_cons.1 h
      obtain ⟨hp', hrest'⟩ := List.forall_mem_cons.1 h'
      rw [List.flatMap_cons, List.flatMap_cons] at heq
      obtain ⟨rfl, htail⟩ := record_append_injective hp hp' heq
      rw [ih hrest hrest' htail]

end PublishedType

/-! ## Registries -/

namespace TypeRegistry

variable {r r' : TypeRegistry}

/-- The surface text is made of the records of what is published. -/
theorem surfaceText_toList (r : TypeRegistry) :
    r.surfaceText.toList = r.published.flatMap PublishedType.record := by
  have hrecord : ∀ t, (r.recordText t).toList =
      PublishedType.record ⟨t.name, r.parentName? t, t.descriptor⟩ := by
    intro t
    unfold recordText CapabilityDescriptor.surfaceText PublishedType.record PublishedType.membersText
    simp only [toString, String.toList_append, String.toList_intercalate, List.map_map,
      List.append_assoc, -String.reduceToList]
    rfl
  rw [surfaceText, String.toList_join, published, List.flatMap_map, List.flatMap_map]
  exact List.flatMap_congr fun t _ => hrecord t

/-- In registries of the same names a name belongs to the same id. -/
theorem WellFormed.id_eq_of_names_eq (h : r.WellFormed) (hnames : r.names = r'.names) {id id' : TypeId}
    {t t' : CanonicalType} (ht : r.get? id = some t) (ht' : r'.get? id' = some t')
    (hname : t.name = t'.name) : id = id' := by
  have hplace : ∀ {r : TypeRegistry} {id : TypeId} {t : CanonicalType}, r.get? id = some t →
      r.names[id.index]? = some t.name := by
    intro r id t ht
    rw [names, List.getElem?_map, show r.types[id.index]? = some t from ht, Option.map_some]
  have hlt : id.index < r.names.length := (List.getElem?_eq_some_iff.1 (hplace ht)).1
  have hindex : id.index = id'.index := by
    rw [← List.getElem?_inj hlt h.names_nodup, hplace ht, hnames, hplace ht', hname]
  exact congrArg TypeId.mk hindex

section

variable {t t' : CanonicalType} (h : r.WellFormed) (h' : r'.WellFormed)
  (hnames : r.names = r'.names) (ht : t ∈ r.types) (ht' : t' ∈ r'.types)

include h ht in
theorem WellFormed.exists_parent {p : TypeId} (hp : t.parent = some p) :
    ∃ u, r.get? p = some u ∧ r.parentName? t = some u.name := by
  have hlt := h.parent_lt t ht p hp
  have hsize := h.index_lt ht
  obtain ⟨u, hu⟩ : ∃ u, r.get? p = some u := exists_get? (by omega)
  exact ⟨u, hu, by simp [parentName?, hp, hu]⟩

include h h' hnames ht ht'

/-- Parents of the same name are the same. -/
theorem parent_eq_of_parentName?_eq (hname : r.parentName? t = r'.parentName? t') :
    t.parent = t'.parent := by
  cases hp : t.parent with
  | none =>
    cases hp' : t'.parent with
    | none => rfl
    | some p' =>
      obtain ⟨u', -, hu'⟩ := h'.exists_parent ht' hp'
      rw [hu'] at hname
      simp [parentName?, hp] at hname
  | some p =>
    obtain ⟨u, hu, hun⟩ := h.exists_parent ht hp
    cases hp' : t'.parent with
    | none =>
      rw [hun] at hname
      simp [parentName?, hp'] at hname
    | some p' =>
      obtain ⟨u', hu', hun'⟩ := h'.exists_parent ht' hp'
      rw [hun, hun', Option.some.injEq] at hname
      rw [h.id_eq_of_names_eq hnames hu hu' hname]

/-- Types that declare the same sequence element have the same. -/
theorem sequenceElement_eq_of_descriptor_eq (hd : t.descriptor = t'.descriptor) :
    t.sequenceElement = t'.sequenceElement := by
  have he := h.element_declared t ht
  have he' := h'.element_declared t' ht'
  unfold ElementDeclared at he he'
  rw [← hd] at he'
  split at he
  next hf hs =>
    rw [hf] at he'
    split at he'
    next hs' => rw [hs, hs']
    next hf' _ => cases hf'
    · exact he'.elim
  next fallback e hf hs =>
    rw [hf] at he'
    split at he'
    next hf' _ => cases hf'
    next fallback' e' hf' hs' =>
      cases hf'
      obtain ⟨-, u, hu, hun⟩ := he
      obtain ⟨-, u', hu', hun'⟩ := he'
      rw [hs, hs', h.id_eq_of_names_eq hnames hu hu' (hun.trans hun'.symm)]
    · exact he'.elim
  · exact he.elim

end

/-- A registry is no more than what it publishes. -/
theorem WellFormed.eq_of_published_eq (h : r.WellFormed) (h' : r'.WellFormed)
    (heq : r.published = r'.published) : r = r' := by
  have hnames : r.names = r'.names := by
    have hmap : ∀ r : TypeRegistry, r.names = r.published.map PublishedType.name := by
      intro r
      rw [published, List.map_map]
      rfl
    rw [hmap, hmap, heq]
  -- Ids are places, and parents and elements are told by name: equal names are equal ids.
  have htypes : r.types = r'.types := by
    refine List.ext_getElem? fun i => ?_
    have hplace := congrArg (·[i]?) heq
    simp only [published, List.getElem?_map] at hplace
    cases hi : r.types[i]? with
    | none =>
      cases hi' : r'.types[i]? with
      | none => rfl
      | some t' => simp [hi, hi'] at hplace
    | some t =>
      cases hi' : r'.types[i]? with
      | none => simp [hi, hi'] at hplace
      | some t' =>
        simp only [hi, hi', Option.map_some, Option.some.injEq, PublishedType.mk.injEq] at hplace
        obtain ⟨hname, hparent, hd⟩ := hplace
        have ht := List.mem_of_getElem? hi
        have ht' := List.mem_of_getElem? hi'
        have hid : t.id = t'.id := (h.id_eq i t hi).trans (h'.id_eq i t' hi').symm
        have hparent := parent_eq_of_parentName?_eq h h' hnames ht ht' hparent
        have helement := sequenceElement_eq_of_descriptor_eq h h' hnames ht ht' hd
        obtain ⟨_, _, _, _, _⟩ := t
        obtain ⟨_, _, _, _, _⟩ := t'
        simp only at hid hname hparent hd helement
        rw [hid, hname, hparent, hd, helement]
  -- The index follows from the list.
  have hbyName : r.byName = r'.byName := by rw [h.byName_eq, h'.byName_eq, htypes]
  obtain ⟨types, byName⟩ := r
  obtain ⟨types', byName'⟩ := r'
  rw [show types = types' from htypes, show byName = byName' from hbyName]

/-- **The text that is hashed determines the registry, if no record can be mistaken.** Two registries
that any calls have led to, and whose published names neither hold a separator nor read like an
absent name, are the same as soon as the bytes that their fingerprints hash are the same: the same
names in the same order, with the same parents and the same descriptors. -/
theorem eq_of_surfaceText_eq (calls calls' : List Call)
    (h : ∀ p ∈ (runCalls {} calls).published, p.Unmistakable)
    (h' : ∀ p ∈ (runCalls {} calls').published, p.Unmistakable)
    (hbytes : (runCalls {} calls).surfaceText.toUTF8 = (runCalls {} calls').surfaceText.toUTF8) :
    (runCalls {} calls).published = (runCalls {} calls').published ∧
      runCalls {} calls = runCalls {} calls' := by
  have htext := congrArg String.toList (String.toByteArray_inj.1 hbytes)
  rw [surfaceText_toList, surfaceText_toList] at htext
  have hpublished := PublishedType.records_injective h h' htext
  exact ⟨hpublished, (runCalls_wellFormed calls).eq_of_published_eq (runCalls_wellFormed calls')
    hpublished⟩

/-- A batch that goes through, and the same types one by one around a batch that does not. -/
theorem eq_of_surfaceText_eq_shapes :
    let tensor : TypeDeclaration :=
      ⟨"Tensor", none, .ofClauses [.property "shape", .entryPoint "__tensor__", .sequence "Tensor"]⟩
    let symbol : TypeDeclaration := ⟨"Symbol", some "Tensor", .ofClauses [.method "name" 0]⟩
    let calls : List Call := [.batch [tensor, symbol]]
    let calls' : List Call := [.one tensor, .batch [⟨"Eager", none, {}⟩, tensor], .one symbol]
    (∀ p ∈ (runCalls {} calls).published, p.Unmistakable) ∧
    (runCalls {} calls).surfaceText.toUTF8 = (runCalls {} calls').surfaceText.toUTF8 ∧
    runCalls {} calls = runCalls {} calls' := by
  intro tensor symbol calls calls'
  have h : ∀ p ∈ (runCalls {} calls).published, p.Unmistakable := by decide +kernel
  have h' : ∀ p ∈ (runCalls {} calls').published, p.Unmistakable := by decide +kernel
  have htext : (runCalls {} calls).surfaceText = (runCalls {} calls').surfaceText := by
    decide +kernel
  have hbytes := congrArg String.toUTF8 htext
  exact ⟨h, hbytes, (eq_of_surfaceText_eq calls calls' h h' hbytes).2⟩

/-- **The text has more than one reading.** An entry point and a parent of the name `none` are
written like absent ones, and a name that holds a comma like two names: registries that publish
different surfaces have the same text, and the same fingerprint. -/
theorem surfaceText_not_injective :
    let entered := runCalls {} [.one ⟨"Tensor", none, .ofClauses [.entryPoint "none"]⟩]
    let plain := runCalls {} [.one ⟨"Tensor", none, .ofClauses [.method "none" 0]⟩]
    let child := runCalls {} [.one ⟨"none", none, {}⟩, .one ⟨"Tensor", some "none", {}⟩]
    let root := runCalls {} [.one ⟨"none", none, {}⟩, .one ⟨"Tensor", none, {}⟩]
    let joined := runCalls {} [.one ⟨"Tensor", none, .ofClauses [.property "shape,attr:dtype"]⟩]
    let parted :=
      runCalls {} [.one ⟨"Tensor", none, .ofClauses [.property "shape", .property "dtype"]⟩]
    (entered.surfaceText = plain.surfaceText ∧ entered.fingerprint = plain.fingerprint ∧
      entered.published ≠ plain.published) ∧
    (child.surfaceText = root.surfaceText ∧ child.published ≠ root.published) ∧
    (joined.surfaceText = parted.surfaceText ∧ joined.published ≠ parted.published) := by
  intro entered plain child root joined parted
  have hentered : entered.surfaceText = plain.surfaceText := by decide +kernel
  refine ⟨⟨hentered, by rw [fingerprint, hentered, fingerprint], by decide +kernel⟩, ?_, ?_⟩
  · exact ⟨by decide +kernel, by decide +kernel⟩
  · exact ⟨by decide +kernel, by decide +kernel⟩

end TypeRegistry

end CanonicalTypes
