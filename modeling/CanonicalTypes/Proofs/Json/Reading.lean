import CanonicalTypes.Json.Parser
import CanonicalTypes.Json.Printer
import CanonicalTypes.Proofs.Text.Digits

/-!
# Texts are read as they are written

A value with integers as its only numbers, in which everything can be read, is what its compact text
denotes (`parse?_compact`), provided that it is not nested too deeply.

Tokens first: strings come back through their escapes (`stringBody_escape`), integers through their
digits (`readNumber_render`); what follows a number must not go on with it (`EndsToken`). Then the
induction over values, items and fields, in which the length of the text bounds the steps that the
reader needs.
-/
namespace CanonicalTypes.Json

/-! ## Strings -/

/-- The characters that are escaped by a letter or by themselves. -/
def shortEscaped : List Char := ['"', '\\', '\n', '\r', '\t', '\x08', '\x0c']

theorem escapeChar_of_not_mem {c : Char} (h : c ∉ shortEscaped) :
    escapeChar c = if c.toNat < 0x20 then '\\' :: 'u' :: Text.hex 4 c.toNat else [c] := by
  simp only [shortEscaped, List.mem_cons, List.not_mem_nil, not_or] at h
  obtain ⟨h₁, h₂, h₃, h₄, h₅, h₆, h₇, -⟩ := h
  simp only [escapeChar, if_neg h₁, if_neg h₂, if_neg h₃, if_neg h₄, if_neg h₅, if_neg h₆,
    if_neg h₇]

/-- Any other character stands for itself. -/
theorem stringCodes_cons {c : Char} (hquote : c ≠ '"') (hbackslash : c ≠ '\\')
    (hcontrol : ¬ c.toNat < 0x20) (rest : List Char) :
    stringCodes (c :: rest) = consCode c.toNat (stringCodes rest) := by
  rw [stringCodes.eq_def]
  split
  next heq => cases heq
  next heq => exact absurd (List.cons.inj heq).1 hquote
  next heq => exact absurd (List.cons.inj heq).1 hbackslash
  next heq => exact absurd (List.cons.inj heq).1 hbackslash
  next heq =>
    obtain ⟨rfl, rfl⟩ := List.cons.inj heq
    rw [if_neg hcontrol]

theorem stringCodes_escapeChar (c : Char) (rest : List Char) :
    stringCodes (escapeChar c ++ rest) = consCode c.toNat (stringCodes rest) := by
  by_cases hshort : c ∈ shortEscaped
  · simp only [shortEscaped, List.mem_cons, List.not_mem_nil, or_false] at hshort
    rcases hshort with rfl | rfl | rfl | rfl | rfl | rfl | rfl <;> rfl
  rw [escapeChar_of_not_mem hshort]
  split
  next hcontrol =>
    have hunit : codeUnit? (Text.digitChar (c.toNat / 16 / 16 / 16 % 16))
        (Text.digitChar (c.toNat / 16 / 16 % 16)) (Text.digitChar (c.toNat / 16 % 16))
        (Text.digitChar (c.toNat % 16)) = some c.toNat := Text.hexNatural?_hex hcontrol
    simp only [Text.hex, List.nil_append, List.cons_append]
    rw [stringCodes, hunit]
  next hcontrol =>
    have hquote : c ≠ '"' := fun heq => hshort (by simp [heq, shortEscaped])
    have hbackslash : c ≠ '\\' := fun heq => hshort (by simp [heq, shortEscaped])
    exact stringCodes_cons hquote hbackslash hcontrol rest

theorem stringCodes_escape (cs rest : List Char) :
    stringCodes (escape cs ++ '"' :: rest) = some (cs.map Char.toNat, rest) := by
  induction cs with
  | nil => rfl
  | cons c cs ih =>
    simp only [escape, List.append_assoc]
    rw [stringCodes_escapeChar, ih]
    rfl

theorem not_isHighSurrogate (c : Char) : isHighSurrogate c.toNat = false := by
  have hvalid := c.valid
  simp only [UInt32.isValidChar, Nat.isValidChar] at hvalid
  simp only [isHighSurrogate, Char.toNat, Bool.and_eq_false_iff, decide_eq_false_iff_not]
  omega

theorem not_isLowSurrogate (c : Char) : isLowSurrogate c.toNat = false := by
  have hvalid := c.valid
  simp only [UInt32.isValidChar, Nat.isValidChar] at hvalid
  simp only [isLowSurrogate, Char.toNat, Bool.and_eq_false_iff, decide_eq_false_iff_not]
  omega

/-- Characters are no surrogates, so their codes stand for themselves. -/
theorem charsOfCodes_toNat (cs : List Char) : charsOfCodes (cs.map Char.toNat) = some cs := by
  induction cs with
  | nil => rfl
  | cons c cs ih =>
    cases cs with
    | nil =>
      simp [charsOfCodes, not_isHighSurrogate, not_isLowSurrogate, Char.ofNat_toNat]
    | cons d ds =>
      simp only [List.map_cons] at ih ⊢
      simp only [charsOfCodes, not_isHighSurrogate, not_isLowSurrogate, Bool.false_eq_true,
        if_false, ih, Option.map_some, Char.ofNat_toNat]

theorem stringBody_escape (s : String) (rest : List Char) :
    stringBody (escape s.toList ++ '"' :: rest) = some (some s, rest) := by
  simp only [stringBody, stringCodes_escape, charsOfCodes_toNat, Option.map_some,
    String.ofList_toList]

/-! ## Integers -/

/-- Whether a text ends the number before it. -/
def EndsToken (rest : List Char) : Prop :=
  ∀ c cs, rest = c :: cs → c = ',' ∨ c = ']' ∨ c = '}'

theorem endsToken_nil : EndsToken [] := by
  rintro c cs ⟨⟩

theorem endsToken_cons {c : Char} {rest : List Char} (hc : c = ',' ∨ c = ']' ∨ c = '}') :
    EndsToken (c :: rest) := by
  rintro c' cs ⟨⟩
  exact hc

theorem spanDigits_map {ds : List Nat} (hds : ∀ d ∈ ds, d < 10) {rest : List Char}
    (hrest : EndsToken rest) : spanDigits (ds.map Text.digitChar ++ rest) = (ds, rest) := by
  induction ds with
  | nil =>
    cases rest with
    | nil => rfl
    | cons c cs => rcases hrest c cs rfl with rfl | rfl | rfl <;> rfl
  | cons d ds ih =>
    obtain ⟨hd, hds⟩ := List.forall_mem_cons.1 hds
    simp only [List.map_cons, List.cons_append, spanDigits, Text.digitValue?_digitChar hd, ih hds]

theorem wholePart_decimal (n : Nat) {rest : List Char} (hrest : EndsToken rest) :
    wholePart (Text.decimal n ++ rest) = some (n, rest) := by
  have hspan := spanDigits_map (fun d => Text.lt_of_mem_digits (n := n)) hrest
  have hvalue := Text.ofDigits_digits n
  rw [wholePart, Text.decimal, hspan]
  rcases Text.digits_cases n with ⟨-, hone⟩ | ⟨d, ds, hd, hds, hmore⟩
  · rw [hone]
  · obtain ⟨d', ds, rfl⟩ := List.exists_cons_of_ne_nil hds
    simp only [hmore, if_neg hd] at hvalue ⊢
    rw [hvalue]

theorem unsignedNumber_decimal (negative : Bool) (n : Nat) {rest : List Char}
    (hrest : EndsToken rest) :
    unsignedNumber negative (Text.decimal n ++ rest) =
      some (.number (Number.ofParts negative n [] none), rest) := by
  have hfraction : fractionPart rest = some ([], rest) := by
    cases rest with
    | nil => rfl
    | cons c cs => rcases hrest c cs rfl with rfl | rfl | rfl <;> rfl
  have hexponent : exponentPart rest = some (none, rest) := by
    cases rest with
    | nil => rfl
    | cons c cs => rcases hrest c cs rfl with rfl | rfl | rfl <;> rfl
  simp only [unsignedNumber, wholePart_decimal n hrest, hfraction, hexponent]

/-- The text of a natural starts with a digit. -/
theorem exists_decimal_eq (n : Nat) : ∃ d cs, d < 10 ∧ Text.decimal n = Text.digitChar d :: cs := by
  rcases Text.digits_cases n with ⟨hn, hone⟩ | ⟨d, ds, -, -, hmore⟩
  · exact ⟨n, [], hn, by rw [Text.decimal, hone]; rfl⟩
  · have hd : d < 10 := Text.lt_of_mem_digits (n := n) (by simp [hmore])
    exact ⟨d, ds.map Text.digitChar, hd, by rw [Text.decimal, hmore]; rfl⟩

theorem readNumber_render (v : Int) {rest : List Char} (hrest : EndsToken rest) :
    readNumber ((Number.integer v).render ++ rest) = some (.number (.integer v), rest) := by
  simp only [Number.render, Text.signedDecimal]
  split
  next hneg =>
    have hv : -(v.natAbs : Int) = v := by omega
    have hne : v.natAbs ≠ 0 := by omega
    rw [List.cons_append, readNumber, unsignedNumber_decimal true v.natAbs hrest,
      Number.ofParts, if_pos ⟨rfl, rfl, fun hzero => hne hzero.2⟩, if_pos rfl, hv]
  next hneg =>
    have hv : (v.natAbs : Int) = v := by omega
    have hunsigned := unsignedNumber_decimal false v.natAbs hrest
    obtain ⟨d, cs, hd, hcs⟩ := exists_decimal_eq v.natAbs
    have hminus : Text.digitChar d ≠ '-' := by interval_cases d <;> decide
    rw [hcs] at hunsigned ⊢
    rw [List.cons_append] at hunsigned ⊢
    rw [readNumber.eq_def]
    split
    next heq => exact absurd (List.cons.inj heq).1 hminus
    · rw [hunsigned, Number.ofParts, if_pos ⟨rfl, rfl, by simp⟩, if_neg (by simp), hv]

/-! ## Values -/

mutual

/-- Whether all of a value can be read, and integers of 64 bits are its only numbers. -/
def integral : Json → Bool
  | number (.integer v) => v.natAbs < significandLimit
  | number (.decimal _) => false
  | array items => integralItems items
  | object fields => integralFields fields
  | unreadable => false
  | _ => true

def integralItems : List Json → Bool
  | [] => true
  | j :: rest => j.integral && integralItems rest

def integralFields : List (String × Json) → Bool
  | [] => true
  | (_, j) :: rest => j.integral && integralFields rest

end

/-- An integer's text starts with its sign or a digit. -/
theorem exists_integer_render_eq (v : Int) :
    ∃ c cs, (Number.integer v).render = c :: cs ∧ (c = '-' ∨ ∃ d < 10, c = Text.digitChar d) := by
  simp only [Number.render, Text.signedDecimal]
  split
  · exact ⟨'-', _, rfl, .inl rfl⟩
  · obtain ⟨d, cs, hd, hcs⟩ := exists_decimal_eq v.natAbs
    exact ⟨_, cs, hcs, .inr ⟨d, hd, rfl⟩⟩

/-- A value's text starts with no blank, and with no closing bracket. -/
theorem exists_render_eq {j : Json} (hj : j.integral = true) :
    ∃ c cs, j.render = c :: cs ∧ isBlank c = false ∧ c ≠ ']' := by
  match j with
  | null => exact ⟨_, _, rfl, by decide, by decide⟩
  | bool true => exact ⟨_, _, rfl, by decide, by decide⟩
  | bool false => exact ⟨_, _, rfl, by decide, by decide⟩
  | string _ => exact ⟨_, _, rfl, by decide, by decide⟩
  | array [] => exact ⟨_, _, rfl, by decide, by decide⟩
  | array (_ :: _) => exact ⟨_, _, rfl, by decide, by decide⟩
  | object [] => exact ⟨_, _, rfl, by decide, by decide⟩
  | object (_ :: _) => exact ⟨_, _, rfl, by decide, by decide⟩
  | number (.decimal _) => cases hj
  | unreadable => cases hj
  | number (.integer v) =>
    obtain ⟨c, cs, hcs, rfl | ⟨d, hd, rfl⟩⟩ := exists_integer_render_eq v
    · exact ⟨_, cs, hcs, by decide, by decide⟩
    · exact ⟨_, cs, hcs, by interval_cases d <;> decide, by interval_cases d <;> decide⟩

theorem skipBlanks_cons {c : Char} (hc : isBlank c = false) (rest : List Char) :
    skipBlanks (c :: rest) = c :: rest := by
  simp [skipBlanks, hc]

theorem skipBlanks_render {j : Json} (hj : j.integral = true) (rest : List Char) :
    skipBlanks (j.render ++ rest) = j.render ++ rest := by
  obtain ⟨c, cs, hcs, hblank, -⟩ := exists_render_eq hj
  rw [hcs, List.cons_append, skipBlanks_cons hblank]

theorem value_number (fuel depth : Nat) (v : Int) {rest : List Char} (hrest : EndsToken rest) :
    value (fuel + 1) depth ((Number.integer v).render ++ rest) =
      some (.number (.integer v), rest) := by
  have hread := readNumber_render v hrest
  obtain ⟨c, cs, hcs, hc⟩ := exists_integer_render_eq v
  have hother : c ≠ 'n' ∧ c ≠ 't' ∧ c ≠ 'f' ∧ c ≠ '"' ∧ c ≠ '[' ∧ c ≠ '{' := by
    rcases hc with rfl | ⟨d, hd, rfl⟩
    · decide
    · interval_cases d <;> decide
  obtain ⟨hn, ht, hf, hquote, hbracket, hbrace⟩ := hother
  rw [hcs, List.cons_append] at hread ⊢
  rw [value.eq_def]
  simp only
  split
  next heq => exact absurd (List.cons.inj heq).1 hn
  next heq => exact absurd (List.cons.inj heq).1 ht
  next heq => exact absurd (List.cons.inj heq).1 hf
  next heq => exact absurd (List.cons.inj heq).1 hquote
  next heq => exact absurd (List.cons.inj heq).1 hbracket
  next heq => exact absurd (List.cons.inj heq).1 hbrace
  · exact hread

/-- An array whose first item is written next is read as its items are. -/
theorem value_array {j : Json} (hj : j.integral = true) (fuel depth : Nat) (rest : List Char) :
    value (fuel + 1) depth ('[' :: (j.render ++ rest)) =
      (items fuel (depth + 1) (j.render ++ rest)).map fun p =>
        (container depth (.array p.1), p.2) := by
  have hskip := skipBlanks_render hj rest
  obtain ⟨c, cs, hcs, -, hclose⟩ := exists_render_eq hj
  rw [hcs, List.cons_append] at hskip ⊢
  rw [value.eq_def]
  simp only [hskip]
  split
  next heq => exact absurd (List.cons.inj heq).1 hclose
  · cases items fuel (depth + 1) (c :: (cs ++ rest)) <;> rfl

/-- An object whose first field is written next is read as its fields are. -/
theorem value_object (fuel depth : Nat) (key : String) (rest : List Char) :
    value (fuel + 1) depth ('{' :: (quote key ++ rest)) =
      (fields fuel (depth + 1) (quote key ++ rest)).map fun p =>
        (container depth (objectOf p.1), p.2) := by
  have hquote : isBlank '"' = false := by decide
  rw [value.eq_def]
  simp only [quote, List.cons_append, skipBlanks_cons hquote]
  split
  next heq => exact absurd (List.cons.inj heq).1 (by decide)
  · cases fields fuel (depth + 1) ('"' :: (escape key.toList ++ ['"'] ++ rest)) <;> rfl

theorem container_of_lt {depth : Nat} (h : depth < maxDepth) (j : Json) : container depth j = j :=
  if_pos h

/-- Keys that have texts make an object. -/
theorem objectOf_some (fields : List (String × Json)) :
    objectOf (fields.map fun f => (some f.1, f.2)) = .object fields := by
  have hfields : (fields.map fun f => (some f.1, f.2)).mapM (fun f : Option String × Json =>
      f.1.map fun key => (key, f.2)) = some fields := by
    induction fields with
    | nil => rfl
    | cons f rest ih => simp [List.mapM_cons, ih]
  simp only [objectOf, hfields]

theorem endsToken_renderItems (items : List Json) (rest : List Char) :
    EndsToken (renderItems items ++ rest) := by
  cases items <;> exact endsToken_cons (by simp)

theorem endsToken_renderFields (fields : List (String × Json)) (rest : List Char) :
    EndsToken (renderFields fields ++ rest) := by
  cases fields <;> exact endsToken_cons (by simp)

mutual

/-- A value is read from its text. Each step takes a character at least half of the time. -/
theorem value_render : ∀ (j : Json) (fuel depth : Nat) (rest : List Char), j.integral = true →
    depth + j.depth ≤ maxDepth → 2 * j.render.length ≤ fuel → EndsToken rest →
      value fuel depth (j.render ++ rest) = some (j, rest)
  | j, 0, depth, rest, hj, _, hfuel, _ => by
    obtain ⟨c, cs, hcs, -, -⟩ := exists_render_eq hj
    simp [hcs] at hfuel
  | .null, fuel + 1, depth, rest, _, _, _, _ => rfl
  | .bool true, fuel + 1, depth, rest, _, _, _, _ => rfl
  | .bool false, fuel + 1, depth, rest, _, _, _, _ => rfl
  | .string s, fuel + 1, depth, rest, _, _, _, _ => by
    simp only [render, quote, List.cons_append, List.append_assoc, List.nil_append, value,
      stringBody_escape]
  | .number (.integer v), fuel + 1, depth, rest, _, _, _, hrest => value_number fuel depth v hrest
  | .number (.decimal _), _ + 1, _, _, hj, _, _, _ => by cases hj
  | .unreadable, _ + 1, _, _, hj, _, _, _ => by cases hj
  | .array [], fuel + 1, depth, rest, _, hdepth, _, _ => by
    have hlt : depth < maxDepth := by
      simp only [Json.depth, depthOfItems] at hdepth
      omega
    show some (container depth (.array []), rest) = _
    rw [container_of_lt hlt]
  | .array (j :: js), fuel + 1, depth, rest, hj, hdepth, hfuel, _ => by
    simp only [integral, integralItems, Bool.and_eq_true] at hj
    simp only [Json.depth] at hdepth
    simp only [render, List.length_cons, List.length_append] at hfuel
    have hitems := items_render j js fuel (depth + 1) rest hj.1 hj.2 (by omega) (by omega)
    simp only [render, List.cons_append, List.append_assoc] at hitems ⊢
    rw [value_array hj.1, hitems, Option.map_some, container_of_lt (by omega)]
  | .object [], fuel + 1, depth, rest, _, hdepth, _, _ => by
    have hlt : depth < maxDepth := by
      simp only [Json.depth, depthOfFields] at hdepth
      omega
    show some (container depth (.object []), rest) = _
    rw [container_of_lt hlt]
  | .object ((key, j) :: fs), fuel + 1, depth, rest, hj, hdepth, hfuel, _ => by
    simp only [integral, integralFields, Bool.and_eq_true] at hj
    simp only [Json.depth] at hdepth
    simp only [render, List.length_cons, List.length_append] at hfuel
    have hfields := fields_render key j fs fuel (depth + 1) rest hj.1 hj.2 (by omega) (by omega)
    simp only [render, List.cons_append, List.append_assoc] at hfields ⊢
    rw [value_object, hfields, Option.map_some, objectOf_some, container_of_lt (by omega)]

/-- Items are read from their text, the first without a comma. -/
theorem items_render : ∀ (j : Json) (js : List Json) (fuel depth : Nat) (rest : List Char),
    j.integral = true → integralItems js = true → depth + depthOfItems (j :: js) ≤ maxDepth →
      2 * (j.render.length + (renderItems js).length) ≤ fuel →
        items fuel depth (j.render ++ renderItems js ++ rest) = some (j :: js, rest)
  | j, js, 0, depth, rest, _, _, _, hfuel => by
    cases js <;> simp [renderItems] at hfuel
  | j, js, fuel + 1, depth, rest, hj, hjs, hdepth, hfuel => by
    simp only [depthOfItems] at hdepth
    -- Even the last item is followed by a bracket, which makes up for this step.
    have hlength : 1 ≤ (renderItems js).length := by
      cases js <;> simp [renderItems]
    have hvalue := value_render j fuel depth (renderItems js ++ rest) hj (by omega) (by omega)
      (endsToken_renderItems js rest)
    rw [items, List.append_assoc, skipBlanks_render hj, hvalue]
    cases js with
    | nil => rfl
    | cons k ks =>
      simp only [integralItems, Bool.and_eq_true] at hjs
      simp only [renderItems, List.length_cons, List.length_append] at hfuel
      have hrest := items_render k ks fuel depth rest hjs.1 hjs.2 (by omega) (by omega)
      have hcomma : isBlank ',' = false := by decide
      simp only [renderItems, List.cons_append, skipBlanks_cons hcomma, hrest]

/-- Fields are read from their text, the first without a comma. -/
theorem fields_render : ∀ (key : String) (j : Json) (fs : List (String × Json)) (fuel depth : Nat)
    (rest : List Char), j.integral = true → integralFields fs = true →
      depth + depthOfFields ((key, j) :: fs) ≤ maxDepth →
        2 * ((quote key).length + j.render.length + (renderFields fs).length) ≤ fuel →
          fields fuel depth (quote key ++ ':' :: (j.render ++ renderFields fs) ++ rest) =
            some (((key, j) :: fs).map (fun f => (some f.1, f.2)), rest)
  | key, j, fs, 0, depth, rest, _, _, _, hfuel => by
    simp [quote] at hfuel
  | key, j, fs, fuel + 1, depth, rest, hj, hfs, hdepth, hfuel => by
    simp only [depthOfFields] at hdepth
    -- The quotes of the key make up for this step.
    have hquote : 1 ≤ (quote key).length := by simp [quote]
    have hvalue := value_render j fuel depth (renderFields fs ++ rest) hj (by omega) (by omega)
      (endsToken_renderFields fs rest)
    have hopen : isBlank '"' = false := by decide
    have hcolon : isBlank ':' = false := by decide
    simp only [quote, List.append_assoc, List.cons_append, List.nil_append]
    rw [fields]
    simp only [skipBlanks_cons hopen, stringBody_escape, skipBlanks_cons hcolon,
      skipBlanks_render hj, hvalue]
    cases fs with
    | nil => rfl
    | cons f gs =>
      obtain ⟨key', k⟩ := f
      simp only [integralFields, Bool.and_eq_true] at hfs
      simp only [renderFields, List.length_cons, List.length_append] at hfuel
      have hrest := fields_render key' k gs fuel depth rest hfs.1 hfs.2 (by omega) (by omega)
      have hcomma : isBlank ',' = false := by decide
      simp only [renderFields, List.cons_append, skipBlanks_cons hcomma, hrest, List.map_cons]

end

/-- **The compact text of an integral value denotes it**, unless it is nested too deeply. -/
theorem parse?_compact {j : Json} (hj : j.integral = true) (hdepth : j.depth ≤ maxDepth) :
    parse? j.compact = some j := by
  have hvalue := value_render j (2 * j.render.length + 2) 0 [] hj (by omega) (by omega)
    endsToken_nil
  rw [List.append_nil] at hvalue
  have hskip := skipBlanks_render hj []
  rw [List.append_nil] at hskip
  simp only [parse?, compact, String.toList_ofList, hskip, hvalue]
  rfl

end CanonicalTypes.Json
