import CanonicalTypes.Json.Codec
import CanonicalTypes.Proofs.Json.Reading
import Mathlib.Data.List.Nodup

/-!
# Codecs that lose nothing

A codec is `Lossless` on values that fit if it decodes what it encodes, wherever it takes it from,
and encodes to an integral value, which no other value than a missing one is written as. The text of
a value that fits is then read back as this value (`Lossless.ofText?_toText`).

The lemmas here are the steps of decoders, each on what the encoder has written: the fields of a
record (`components_object`), and labels outside, inside and beside their content. Content that
stands with its label inside it is set aside before it is decoded, so all of it has to be readable,
as integral values are (`readable_of_integral`).
-/
namespace CanonicalTypes

open Json

/-! ## Integral values -/

namespace Json

theorem integralItems_iff {items : List Json} :
    integralItems items = true ↔ ∀ j ∈ items, j.integral = true := by
  induction items with
  | nil => simp [integralItems]
  | cons j rest ih => simp [integralItems, ih]

theorem integralFields_iff {fields : List (String × Json)} :
    integralFields fields = true ↔ ∀ f ∈ fields, f.2.integral = true := by
  induction fields with
  | nil => simp [integralFields]
  | cons f rest ih => simp [integralFields, ih]

theorem integral_object {fields : List (String × Json)} (h : ∀ f ∈ fields, f.2.integral = true) :
    (object fields).integral = true :=
  integralFields_iff.2 h

/-- A label in front of integral fields keeps them so. -/
theorem integral_labelled {fields : List (String × Json)} (tag label : String)
    (h : (object fields).integral = true) :
    (object ((tag, .string label) :: fields)).integral = true :=
  h

mutual

/-- All of an integral value can be read. -/
theorem readable_of_integral : ∀ {j : Json}, j.integral = true → j.readable = true
  | .null, _ => rfl
  | .bool _, _ => rfl
  | .string _, _ => rfl
  | .number (.integer v), h => by
    have hv : v.natAbs < significandLimit := of_decide_eq_true h
    simp [readable, Number.toFloatBits?, hv]
  | .array items, h => readableItems_of_integral h
  | .object fields, h => readableFields_of_integral h

theorem readableItems_of_integral : ∀ {items : List Json}, integralItems items = true →
    readableItems items = true
  | [], _ => rfl
  | _ :: _, h => by
    simp only [integralItems, Bool.and_eq_true] at h
    simp only [readableItems, Bool.and_eq_true]
    exact ⟨readable_of_integral h.1, readableItems_of_integral h.2⟩

theorem readableFields_of_integral : ∀ {fields : List (String × Json)},
    integralFields fields = true → readableFields fields = true
  | [], _ => rfl
  | (_, _) :: _, h => by
    simp only [integralFields, Bool.and_eq_true] at h
    simp only [readableFields, Bool.and_eq_true]
    exact ⟨readable_of_integral h.1, readableFields_of_integral h.2⟩

end

/-! ## Records -/

/-- Among fields with distinct keys, the key of one finds just that one. -/
theorem filter_key_eq {fields : List (String × Json)} (h : (fields.map Prod.fst).Nodup)
    {f : String × Json} (hf : f ∈ fields) : fields.filter (fun g => g.1 = f.1) = [f] := by
  induction fields with
  | nil => cases hf
  | cons g rest ih =>
    simp only [List.map_cons, List.nodup_cons, List.mem_map, not_exists, not_and] at h
    rcases List.mem_cons.1 hf with rfl | hf
    · have hrest : rest.filter (fun g => g.1 = f.1) = [] :=
        List.filter_eq_nil_iff.2 fun g hg => by simpa using h.1 g hg
      simp [hrest]
    · have hne : g.1 ≠ f.1 := fun heq => h.1 f hf heq.symm
      simp [hne, ih h.2 hf]

/-- The names of distinct fields find all of them, in order. -/
theorem namedFields_self {fields : List (String × Json)} (h : (fields.map Prod.fst).Nodup) :
    namedFields (fields.map Prod.fst) fields = some (fields.map fun f => some f.2) := by
  -- The induction is on the fields that are still to be found.
  suffices hsome : ∀ wanted ⊆ fields,
      namedFields (wanted.map Prod.fst) fields = some (wanted.map fun f => some f.2) from
    hsome fields (List.Subset.refl fields)
  intro wanted hwanted
  induction wanted with
  | nil => rfl
  | cons f rest ih =>
    obtain ⟨hf, hrest⟩ := List.cons_subset.1 hwanted
    have hrest := ih hrest
    simp only [namedFields] at hrest ⊢
    simp [List.mapM_cons, filter_key_eq h hf, hrest]

theorem components_object {names : List String} {fields : List (String × Json)}
    (hnames : fields.map Prod.fst = names) (h : names.Nodup) :
    components names (object fields) = some (fields.map fun f => some f.2) := by
  subst hnames
  exact namedFields_self h

/-- Decoding a record that was encoded goes on with the values of its fields. -/
theorem bind_components {β : Type} {names : List String} {fields : List (String × Json)}
    (hnames : fields.map Prod.fst = names) (h : names.Nodup)
    (read : List (Option Json) → Option β) :
    (components names (object fields)).bind read = read (fields.map fun f => some f.2) := by
  rw [components_object hnames h, Option.bind_some]

/-! ## Labels -/

section

variable {α : Type} {label : α → String} {all : List α} {a : α}
  (hinj : ∀ b ∈ all, label b = label a → b = a) (ha : a ∈ all)

include hinj ha

theorem labelled_label : labelled label all (label a) = some a := by
  have hsome : (labelled label all (label a)).isSome := by
    simp only [labelled, List.find?_isSome, decide_eq_true_eq]
    exact ⟨a, ha, rfl⟩
  obtain ⟨b, hb⟩ := Option.isSome_iff_exists.1 hsome
  have heq : label b = label a := by simpa using List.find?_some hb
  rw [hb, hinj b (List.mem_of_find?_eq_some hb) heq]

theorem unitLabel_string (source : Source) :
    unitLabel label all source (.string (label a)) = some a := by
  simp only [unitLabel, outerLabel, isUnit, if_true, labelled_label hinj ha]

end

theorem splitInner_object {tag label : String} {labels : List String} (source : Source)
    {rest : List (String × Json)} (hlabel : label ∈ labels) (htag : tag ∉ rest.map Prod.fst)
    (hrest : (object rest).integral = true) :
    splitInner tag labels source (.object ((tag, .string label) :: rest)) =
      some (label, .object rest) := by
  have hothers : ∀ f ∈ rest, f.1 ≠ tag := fun f hf heq => htag (List.mem_map.2 ⟨f, hf, heq⟩)
  have htagged : ((tag, Json.string label) :: rest).filter (fun f => f.1 = tag) =
      [(tag, .string label)] := by
    simpa using hothers
  have huntagged : ((tag, Json.string label) :: rest).filter (fun f => f.1 ≠ tag) = rest := by
    simpa using hothers
  have hreadable : readableFields rest = true := readableFields_of_integral hrest
  simp only [splitInner, htagged, huntagged, hreadable, if_true]
  simp [innerLabel, hlabel]

theorem splitBeside_label {tag content label : String} {labels : List String} (source : Source)
    (hlabel : label ∈ labels) :
    splitBeside tag content labels source (.object [(tag, .string label)]) =
      some (label, source, none) := by
  have hunit : unitLabel id labels source (.string label) = some label :=
    unitLabel_string (fun _ _ heq => heq) hlabel source
  simp [splitBeside, hunit]

theorem splitBeside_content {tag content label : String} {labels : List String} (source : Source)
    (hlabel : label ∈ labels) (j : Json) :
    splitBeside tag content labels source (.object [(tag, .string label), (content, j)]) =
      some (label, source, some j) := by
  have hunit : unitLabel id labels source (.string label) = some label :=
    unitLabel_string (fun _ _ heq => heq) hlabel source
  simp [splitBeside, hunit]

end Json

/-! ## Lossless codecs -/

/-- Encoding values that fit and decoding them again gives the same values. They are integral, and
not written as a missing value is. -/
structure Lossless (α : Type) [Codec α] (Fits : α → Prop) : Prop where
  decode : ∀ (source : Source) {a : α}, Fits a → Codec.decode source (Codec.encode a) = some a
  integral : ∀ {a : α}, Fits a → (Codec.encode a).integral = true
  notNull : ∀ {a : α}, Fits a → Codec.encode a ≠ .null

namespace Lossless

variable {α : Type} [Codec α] {Fits : α → Prop} {a : α} {source : Source}

/-- **What fits is read back from its text**, unless the text is nested too deeply. -/
theorem ofText?_toText (h : Lossless α Fits) (ha : Fits a)
    (hdepth : (Codec.encode a).depth ≤ maxDepth) : Codec.ofText? (Codec.toText a) = some a := by
  rw [Codec.ofText?, Codec.toText, parse?_compact (h.integral ha) hdepth, Option.bind_some,
    h.decode .text ha]

theorem required (h : Lossless α Fits) (ha : Fits a) :
    required source (some (Codec.encode a)) = some a := by
  rw [Json.required, Option.bind_some, h.decode source ha]

theorem optional_some (h : Lossless α Fits) (ha : Fits a) :
    optional source (some (Codec.encode a)) = some (some a) := by
  have hnull := h.notNull ha
  have hdecode := h.decode source ha
  unfold Json.optional
  split
  next heq => cases heq
  next heq => exact absurd (Option.some.inj heq) hnull
  next heq =>
    cases heq
    rw [hdecode, Option.map_some]

/-- A missing value is written as null, and null is read as missing. -/
theorem optional (h : Lossless α Fits) {o : Option α} (ho : ∀ a ∈ o, Fits a) :
    optional source (some (Codec.encode o)) = some o := by
  cases o with
  | none => rfl
  | some a => exact h.optional_some (ho a rfl)

theorem integral_option (h : Lossless α Fits) {o : Option α} (ho : ∀ a ∈ o, Fits a) :
    (Codec.encode o).integral = true := by
  cases o with
  | none => rfl
  | some a => exact h.integral (ho a rfl)

theorem list (h : Lossless α Fits) : Lossless (List α) fun as => ∀ a ∈ as, Fits a where
  decode source as has := by
    show (as.map Codec.encode).mapM (Codec.decode source) = some as
    induction as with
    | nil => rfl
    | cons a as ih =>
      obtain ⟨ha, has⟩ := List.forall_mem_cons.1 has
      simp [List.mapM_cons, h.decode source ha, ih has]
  integral has := by
    refine integralItems_iff.2 fun j hj => ?_
    obtain ⟨a, ha, rfl⟩ := List.mem_map.1 hj
    exact h.integral (has a ha)
  notNull _ := by simp [Codec.encode]

/-- A codec that writes another label for each of finitely many values. -/
theorem of_label {label : α → String} {all : List α} (hlabels : (all.map label).Nodup)
    (hall : ∀ a, a ∈ all) (hencode : ∀ a : α, Codec.encode a = .string (label a))
    (hdecode : ∀ source j, (Codec.decode source j : Option α) = unitLabel label all source j) :
    Lossless α fun _ => True where
  decode source a _ := by
    have hinj : ∀ b ∈ all, label b = label a → b = a := fun b hb =>
      List.inj_on_of_nodup_map hlabels hb (hall a)
    rw [hencode, hdecode, unitLabel_string hinj (hall a)]
  integral _ := by
    rw [hencode]
    rfl
  notNull _ := by simp [hencode]

end Lossless

end CanonicalTypes
