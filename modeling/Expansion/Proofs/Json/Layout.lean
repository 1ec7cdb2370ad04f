import Expansion.Json.Decode
import Expansion.Proofs.Json.Scalars

/-!
# What is written is read

`Spells room j text` is the grammar of values: `text` is a way to write the value `j`, with blanks
between the tokens or without, with any escapes in its texts, and with at most `room` levels of arrays
and objects.

* **`readValue_of_spells`**: the reader finds the value in every such text, whatever follows it, by
  induction on the grammar.
* **`spells_compact`** and **`spells_pretty`**: both layouts spell every value that `Fits`, which is
  all of it there, with natural numbers that 64 bits hold, and not too deep.
* So a decoder that is given the printed text does what it does with the value
  (`decodeText_compact`, `decodeText_pretty`).
-/

namespace Expansion.Json

variable {room level budget n : Nat} {j item value : Json} {items : List Json}
variable {members : List (String × Json)} {isFirst : Bool} {key : String}
variable {text inner name gap before behind between more tail : List Char}

/-! ## The grammar -/

/-- What stands in front of an item: a comma behind a gap, unless it is the first one. -/
def lead (isFirst : Bool) (gap : List Char) : List Char := if isFirst then [] else gap ++ [',']

@[simp] theorem lead_true (gap : List Char) : lead true gap = [] := rfl

@[simp] theorem lead_false (gap : List Char) : lead false gap = gap ++ [','] := rfl

/-- Nothing but blanks. -/
def IsGap (cs : List Char) : Prop := cs.all isGap = true

theorem isGap_nil : IsGap [] := rfl

theorem isGap_space : IsGap [' '] := rfl

mutual

/-- A text of a value. -/
inductive Spells : Nat → Json → List Char → Prop
  | null {room : Nat} : Spells room .null "null".toList
  | yes {room : Nat} : Spells room (.bool true) "true".toList
  | no {room : Nat} : Spells room (.bool false) "false".toList
  | natural {room n : Nat} : n < UInt64.size → Spells room (.natural n) (Nat.toDigits 10 n)
  | string {room : Nat} {s : String} {inner : List Char} : WritesAll s.toList inner →
      Spells room (.string s) ('"' :: inner ++ ['"'])
  | array {room : Nat} {items : List Json} {inner : List Char} : SpellsItems room true items inner →
      Spells (room + 1) (.array items) ('[' :: inner ++ [']'])
  | object {room : Nat} {members : List (String × Json)} {inner : List Char} :
      SpellsMembers room true members inner →
      Spells (room + 1) (.object members) ('\x7b' :: inner ++ ['\x7d'])

/-- A text of the items of an array up to its end, from the first one on or behind one. -/
inductive SpellsItems : Nat → Bool → List Json → List Char → Prop
  | nil {room : Nat} {isFirst : Bool} {gap : List Char} : IsGap gap →
      SpellsItems room isFirst [] gap
  | cons {room : Nat} (isFirst : Bool) {item : Json} {items : List Json}
      {gap before text more : List Char} : IsGap gap → IsGap before → Spells room item text →
      SpellsItems room false items more →
      SpellsItems room isFirst (item :: items) (lead isFirst gap ++ before ++ text ++ more)

/-- A text of the members of an object up to its end. -/
inductive SpellsMembers : Nat → Bool → List (String × Json) → List Char → Prop
  | nil {room : Nat} {isFirst : Bool} {gap : List Char} : IsGap gap →
      SpellsMembers room isFirst [] gap
  | cons {room : Nat} (isFirst : Bool) {key : String} {value : Json}
      {members : List (String × Json)} {gap before name behind between text more : List Char} :
      IsGap gap → IsGap before → WritesAll key.toList name → IsGap behind → IsGap between →
      Spells room value text → SpellsMembers room false members more →
      SpellsMembers room isFirst ((key, value) :: members)
        (lead isFirst gap ++ before ++ '"' :: name ++ '"' :: behind ++ ':' :: between ++ text ++
          more)

end

/-! ## Blanks -/

theorem skipGap_append (hgap : IsGap gap) (rest : List Char) :
    skipGap (gap ++ rest) = skipGap rest := by
  unfold IsGap at hgap
  rw [List.all_eq_true] at hgap
  exact List.dropWhile_append_of_pos hgap

theorem skipGap_cons {c : Char} (hc : isGap c = false) (rest : List Char) :
    skipGap (c :: rest) = c :: rest := by
  unfold skipGap
  rw [List.dropWhile_cons_of_neg (by simp [hc])]

/-- A token stands behind a gap. -/
theorem skipGap_token {c : Char} (hgap : IsGap gap) (hc : isGap c = false) (rest : List Char) :
    skipGap (gap ++ c :: rest) = c :: rest := by
  rw [skipGap_append hgap, skipGap_cons hc]

theorem stops_cons {c : Char} (hdigit : c.isDigit = false) (hpoint : c ≠ '.') (he : c ≠ 'e')
    (hE : c ≠ 'E') (rest : List Char) : Stops (c :: rest) := by
  intro first hfirst
  obtain rfl : c = first := Option.some.inj hfirst
  exact ⟨hdigit, hpoint, he, hE⟩

theorem stops_nil : Stops [] := by
  intro c hc
  cases hc

/-- What begins with a blank does not go on as a number. -/
theorem stops_gap (hgap : IsGap gap) (hrest : Stops tail) : Stops (gap ++ tail) := by
  cases gap with
  | nil => exact hrest
  | cons c others =>
      unfold IsGap at hgap
      rw [List.all_cons, Bool.and_eq_true] at hgap
      have hc := hgap.1
      unfold isGap at hc
      simp only [Bool.or_eq_true, beq_iff_eq] at hc
      rcases hc with ((rfl | rfl) | rfl) | rfl <;>
        exact stops_cons (by decide) (by decide) (by decide) (by decide) _

/-- Behind an item comes a comma, a blank, or what ends the array. -/
theorem SpellsItems.stops (h : SpellsItems room false items more) (tail : List Char) :
    Stops (more ++ ']' :: tail) := by
  cases h with
  | nil hgap =>
      exact stops_gap hgap (stops_cons (by decide) (by decide) (by decide) (by decide) _)
  | cons _ hgap =>
      rw [lead_false]
      simp only [List.append_assoc, List.singleton_append]
      exact stops_gap hgap (stops_cons (by decide) (by decide) (by decide) (by decide) _)

theorem SpellsMembers.stops (h : SpellsMembers room false members more) (tail : List Char) :
    Stops (more ++ '\x7d' :: tail) := by
  cases h with
  | nil hgap =>
      exact stops_gap hgap (stops_cons (by decide) (by decide) (by decide) (by decide) _)
  | cons _ hgap =>
      rw [lead_false]
      simp only [List.append_assoc, List.singleton_append]
      exact stops_gap hgap (stops_cons (by decide) (by decide) (by decide) (by decide) _)

/-! ## Reading -/

/-- A text of a value begins with its first token, and no array ends there. -/
theorem Spells.head (h : Spells room j text) :
    ∃ c others, text = c :: others ∧ isGap c = false ∧ c ≠ ']' := by
  cases h with
  | null => exact ⟨_, _, rfl, by decide, by decide⟩
  | yes => exact ⟨_, _, rfl, by decide, by decide⟩
  | no => exact ⟨_, _, rfl, by decide, by decide⟩
  | string => exact ⟨'"', _, rfl, by decide, by decide⟩
  | array => exact ⟨'[', _, rfl, by decide, by decide⟩
  | object => exact ⟨'\x7b', _, rfl, by decide, by decide⟩
  | @natural _ n hn =>
      cases hdigits : Nat.toDigits 10 n with
      | nil => exact absurd hdigits Nat.toDigits_ne_nil
      | cons c others =>
          have hdigit : c.isDigit = true := by
            refine Nat.isDigit_of_mem_toDigits (b := 10) (n := n) (by decide) (by decide) ?_
            rw [hdigits]
            exact List.mem_cons_self
          refine ⟨c, others, rfl, ?_, ?_⟩
          · rw [Bool.eq_false_iff]
            intro hgap
            unfold isGap at hgap
            simp only [Bool.or_eq_true, beq_iff_eq] at hgap
            rcases hgap with ((rfl | rfl) | rfl) | rfl <;> revert hdigit <;> decide
          · rintro rfl
            revert hdigit
            decide

/-- A value that is all there can be skipped. -/
theorem Spells.skipFault? (h : Spells room j text) : skipFault? j = none := by
  cases h <;> rfl

/-- A word is read behind its first letter. -/
theorem readWord_append (value : Json) (letters tail : List Char) :
    readWord value letters (letters ++ tail) = (value, tail) := by
  have hskip : skipWord letters (letters ++ tail) = .ok tail := by
    induction letters with
    | nil => rfl
    | cons c others ih => simp [skipWord, ih]
  unfold readWord
  rw [hskip]

section

variable (budget level : Nat) (rest : List Char)

theorem readValue_gap {c : Char} (hgap : IsGap gap) (hc : isGap c = false) :
    readValue (budget + 1) level (gap ++ c :: rest) = readValue (budget + 1) level (c :: rest) := by
  rw [readValue, readValue, skipGap_token hgap hc, skipGap_cons hc]

/-- The first token decides how a value is read. -/
theorem readValue_cons {c : Char} (hc : isGap c = false) :
    readValue (budget + 1) level (c :: rest) =
      if c = '"' then readString rest
      else if c = '[' then
        let (items, stop, rest) := readItems budget (level + 1) true rest
        (if level < nestingLimit then arrayOf items stop else tooDeep (arrayOf items stop), rest)
      else if c = '\x7b' then
        let (members, stop, rest) := readMembers budget (level + 1) true rest
        (if level < nestingLimit then objectOf members stop else tooDeep (objectOf members stop),
          rest)
      else if c = 'n' then readWord .null "ull".toList rest
      else if c = 't' then readWord (.bool true) "rue".toList rest
      else if c = 'f' then readWord (.bool false) "alse".toList rest
      else if c = '-' || c.isDigit then readNumber (c :: rest)
      else (.cut (.of .malformed), []) := by
  rw [readValue, skipGap_cons hc]

theorem readValue_n : readValue (budget + 1) level ('n' :: rest) =
    readWord .null "ull".toList rest :=
  readValue_cons budget level rest rfl

theorem readValue_t : readValue (budget + 1) level ('t' :: rest) =
    readWord (.bool true) "rue".toList rest :=
  readValue_cons budget level rest rfl

theorem readValue_f : readValue (budget + 1) level ('f' :: rest) =
    readWord (.bool false) "alse".toList rest :=
  readValue_cons budget level rest rfl

theorem readValue_quote : readValue (budget + 1) level ('"' :: rest) = readString rest :=
  readValue_cons budget level rest rfl

theorem readValue_digit {c : Char} (hc : isGap c = false) (hdigit : c.isDigit = true) :
    readValue (budget + 1) level (c :: rest) = readNumber (c :: rest) := by
  have hother : ∀ d : Char, d.isDigit = false → c ≠ d := by
    rintro d hd rfl
    rw [hdigit] at hd
    cases hd
  rw [readValue_cons _ _ _ hc, if_neg (hother _ (by decide)), if_neg (hother _ (by decide)),
    if_neg (hother _ (by decide)), if_neg (hother _ (by decide)), if_neg (hother _ (by decide)),
    if_neg (hother _ (by decide)), if_pos (by simp [hdigit])]

/-- An array that is not too deep, all of whose items are there. -/
theorem readValue_bracket {rest tail : List Char} (hlevel : level < nestingLimit)
    (h : readItems budget (level + 1) true rest = (items, none, tail)) :
    readValue (budget + 1) level ('[' :: rest) = (.array items, tail) := by
  rw [readValue_cons _ _ _ (by decide), if_neg (by decide), if_pos rfl, h]
  dsimp only
  rw [if_pos hlevel]
  rfl

theorem readValue_brace {rest tail : List Char} (hlevel : level < nestingLimit)
    (h : readMembers budget (level + 1) true rest = (members, none, tail)) :
    readValue (budget + 1) level ('\x7b' :: rest) = (.object members, tail) := by
  rw [readValue_cons _ _ _ (by decide), if_neg (by decide), if_neg (by decide), if_pos rfl, h]
  dsimp only
  rw [if_pos hlevel]
  rfl

end

theorem readString_of_writesAll {s : String} (h : WritesAll s.toList inner) (tail : List Char) :
    readString (inner ++ '"' :: tail) = (.string s, tail) := by
  unfold readString
  rw [takeString_of_writesAll h]

/-- An item in front, and then the others. -/
theorem readItems_cons {rest more tail : List Char} (hgap : IsGap gap) (hbefore : IsGap before)
    (hhead : ∃ c others, rest = c :: others ∧ isGap c = false ∧ c ≠ ']')
    (hitem : readValue budget level rest = (item, more)) (hall : skipFault? item = none)
    (hmore : readItems budget level false more = (items, none, tail)) :
    readItems (budget + 1) level isFirst (lead isFirst gap ++ before ++ rest) =
      (item :: items, none, tail) := by
  obtain ⟨c, others, rfl, hc, hend⟩ := hhead
  cases isFirst with
  | true =>
      rw [readItems, lead_true, List.nil_append, skipGap_token hbefore hc]
      dsimp only
      rw [if_neg hend, if_pos rfl, hitem]
      dsimp only
      rw [hall, hmore]
  | false =>
      rw [readItems, lead_false, List.append_assoc, List.append_assoc, List.singleton_append,
        skipGap_token hgap (by decide)]
      dsimp only
      rw [if_neg (by decide), if_neg (by decide), if_pos rfl, skipGap_token hbefore hc]
      dsimp only
      rw [if_neg hend, hitem]
      dsimp only
      rw [hall, hmore]

/-- A member in front, and then the others. -/
theorem readMembers_cons (isFirst : Bool) {rest more tail : List Char} (hgap : IsGap gap)
    (hbefore : IsGap before) (hname : WritesAll key.toList name) (hbehind : IsGap behind)
    (hvalue : readValue budget level rest = (value, more)) (hall : skipFault? value = none)
    (hmore : readMembers budget level false more = (members, none, tail)) :
    readMembers (budget + 1) level isFirst
        (lead isFirst gap ++ (before ++ '"' :: (name ++ '"' :: (behind ++ ':' :: rest)))) =
      ((key, value) :: members, none, tail) := by
  have hkey := takeString_of_writesAll hname (behind ++ ':' :: rest)
  cases isFirst with
  | true =>
      rw [readMembers, lead_true, List.nil_append, skipGap_token hbefore (by decide)]
      dsimp only
      rw [if_neg (by decide), if_pos rfl, if_pos rfl, hkey]
      dsimp only
      rw [skipGap_token hbehind (by decide)]
      dsimp only
      rw [if_pos rfl, hvalue]
      dsimp only
      rw [hall, hmore]
  | false =>
      rw [readMembers, lead_false, List.append_assoc, List.singleton_append,
        skipGap_token hgap (by decide)]
      dsimp only
      rw [if_neg (by decide), if_neg (by decide), if_pos rfl, skipGap_token hbefore (by decide)]
      dsimp only
      rw [if_pos rfl, hkey]
      dsimp only
      rw [skipGap_token hbehind (by decide)]
      dsimp only
      rw [if_pos rfl, hvalue]
      dsimp only
      rw [hall, hmore]

/-- No text of a value is empty. -/
theorem Spells.length_pos (h : Spells room j text) : 0 < text.length := by
  obtain ⟨c, others, rfl, -⟩ := h.head
  exact Nat.succ_pos _

mutual

/-- **The reader finds the value** in each of its texts, and leaves what follows. Two calls are made
for every character at most. -/
theorem readValue_of_spells {room : Nat} {j : Json} {text : List Char} (h : Spells room j text)
    (budget level : Nat) {gap tail : List Char} (hbudget : 2 * text.length ≤ budget)
    (hlevel : level + room ≤ nestingLimit) (hgap : IsGap gap) (htail : Stops tail) :
    readValue budget level (gap ++ text ++ tail) = (j, tail) := by
  obtain ⟨c, others, htext, hc, -⟩ := h.head
  obtain ⟨budget, rfl⟩ : ∃ fewer, budget = fewer + 1 := by
    have hpos := h.length_pos
    exact ⟨budget - 1, by omega⟩
  have hstart : readValue (budget + 1) level (gap ++ text ++ tail) =
      readValue (budget + 1) level (text ++ tail) := by
    rw [htext, List.append_assoc, List.cons_append, readValue_gap _ _ _ hgap hc]
  rw [hstart]
  match h with
  | .null => exact (readValue_n budget level _).trans (readWord_append _ _ _)
  | .yes => exact (readValue_t budget level _).trans (readWord_append _ _ _)
  | .no => exact (readValue_f budget level _).trans (readWord_append _ _ _)
  | .natural (n := n) hn =>
      have hdigit : c.isDigit = true := by
        refine Nat.isDigit_of_mem_toDigits (b := 10) (n := n) (by decide) (by decide) ?_
        rw [htext]
        exact List.mem_cons_self
      have hread := readNumber_toDigits hn htail
      rw [htext] at hread ⊢
      exact (readValue_digit budget level _ hc hdigit).trans hread
  | .string hinner =>
      rw [List.cons_append, List.cons_append, List.append_assoc, List.singleton_append]
      exact (readValue_quote budget level _).trans (readString_of_writesAll hinner tail)
  | .array hitems =>
      rw [List.length_append, List.length_cons, List.length_singleton] at hbudget
      have hread := readItems_of_spells hitems budget (level + 1) tail (by omega) (by omega)
      rw [List.cons_append, List.cons_append, List.append_assoc, List.singleton_append]
      exact readValue_bracket budget level (by omega) hread
  | .object hmembers =>
      rw [List.length_append, List.length_cons, List.length_singleton] at hbudget
      have hread := readMembers_of_spells hmembers budget (level + 1) tail (by omega) (by omega)
      rw [List.cons_append, List.cons_append, List.append_assoc, List.singleton_append]
      exact readValue_brace budget level (by omega) hread

/-- The reader finds the items of an array. -/
theorem readItems_of_spells {room : Nat} {isFirst : Bool} {items : List Json} {inner : List Char}
    (h : SpellsItems room isFirst items inner) (budget level : Nat) (tail : List Char)
    (hbudget : 2 * inner.length + 3 ≤ budget) (hlevel : level + room ≤ nestingLimit) :
    readItems budget level isFirst (inner ++ ']' :: tail) = (items, none, tail) := by
  obtain ⟨budget, rfl⟩ : ∃ fewer, budget = fewer + 1 := ⟨budget - 1, by omega⟩
  match h with
  | .nil hgap =>
      rw [readItems, skipGap_token hgap (by decide)]
      rfl
  | .cons _ hgap hbefore hitem hmore =>
      simp only [List.length_append] at hbudget
      have hpos := hitem.length_pos
      have hread := readValue_of_spells hitem budget level (by omega) hlevel isGap_nil
        (hmore.stops tail)
      have hrest := readItems_of_spells hmore budget level tail (by omega) hlevel
      obtain ⟨c, others, htext, hc, hend⟩ := hitem.head
      rw [List.append_assoc, List.append_assoc]
      refine readItems_cons hgap hbefore ?_ hread hitem.skipFault? hrest
      exact ⟨c, _, by rw [htext, List.cons_append], hc, hend⟩

/-- The reader finds the members of an object. -/
theorem readMembers_of_spells {room : Nat} {isFirst : Bool} {members : List (String × Json)}
    {inner : List Char} (h : SpellsMembers room isFirst members inner) (budget level : Nat)
    (tail : List Char) (hbudget : 2 * inner.length + 3 ≤ budget)
    (hlevel : level + room ≤ nestingLimit) :
    readMembers budget level isFirst (inner ++ '\x7d' :: tail) = (members, none, tail) := by
  obtain ⟨budget, rfl⟩ : ∃ fewer, budget = fewer + 1 := ⟨budget - 1, by omega⟩
  match h with
  | .nil hgap =>
      rw [readMembers, skipGap_token hgap (by decide)]
      rfl
  | .cons _ hgap hbefore hname hbehind hbetween hvalue hmore =>
      simp only [List.length_append, List.length_cons] at hbudget
      have hread := readValue_of_spells hvalue budget level (by omega) hlevel hbetween
        (hmore.stops tail)
      have hrest := readMembers_of_spells hmore budget level tail (by omega) hlevel
      have hcons := readMembers_cons isFirst hgap hbefore hname hbehind hread hvalue.skipFault?
        hrest
      simp only [List.append_assoc, List.cons_append] at hcons ⊢
      exact hcons

end

/-! ## Printing -/

mutual

/-- Whether the value can be written and read back with `room` levels: all of it is there, its
numbers are natural ones of 64 bits, and it has no more levels. -/
def Fits : Nat → Json → Prop
  | _, .null => True
  | _, .bool _ => True
  | _, .natural n => n < UInt64.size
  | _, .string _ => True
  | room + 1, .array items => FitsItems room items
  | room + 1, .object members => FitsMembers room members
  | _, _ => False

/-- Whether all items of an array fit. -/
def FitsItems (room : Nat) : List Json → Prop
  | [] => True
  | item :: rest => Fits room item ∧ FitsItems room rest

/-- Whether the values of all members of an object fit. -/
def FitsMembers (room : Nat) : List (String × Json) → Prop
  | [] => True
  | (_, value) :: rest => Fits room value ∧ FitsMembers room rest

end

theorem fitsMembers_iff : FitsMembers room members ↔ ∀ member ∈ members, Fits room member.2 := by
  induction members with
  | nil => simp [FitsMembers]
  | cons member rest ih => rw [FitsMembers, ih, List.forall_mem_cons]

mutual

/-- A text of a value has as few levels as the value. -/
theorem Spells.of_fits {room other : Nat} {j : Json} {text : List Char} (h : Spells room j text)
    (hfits : Fits other j) : Spells other j text := by
  match h, other, hfits with
  | .null, _, _ => exact .null
  | .yes, _, _ => exact .yes
  | .no, _, _ => exact .no
  | .natural hn, _, _ => exact .natural hn
  | .string hinner, _, _ => exact .string hinner
  | .array hitems, _ + 1, hfits => exact .array (hitems.of_fits hfits)
  | .object hmembers, _ + 1, hfits => exact .object (hmembers.of_fits hfits)

theorem SpellsItems.of_fits {room other : Nat} {isFirst : Bool} {items : List Json}
    {inner : List Char} (h : SpellsItems room isFirst items inner) (hfits : FitsItems other items) :
    SpellsItems other isFirst items inner := by
  match h, hfits with
  | .nil hgap, _ => exact .nil hgap
  | .cons _ hgap hbefore hitem hmore, ⟨hfirst, hrest⟩ =>
      exact .cons _ hgap hbefore (hitem.of_fits hfirst) (hmore.of_fits hrest)

theorem SpellsMembers.of_fits {room other : Nat} {isFirst : Bool} {members : List (String × Json)}
    {inner : List Char} (h : SpellsMembers room isFirst members inner)
    (hfits : FitsMembers other members) : SpellsMembers other isFirst members inner := by
  match h, hfits with
  | .nil hgap, _ => exact .nil hgap
  | .cons _ hgap hbefore hname hbehind hbetween hvalue hmore, ⟨hfirst, hrest⟩ =>
      exact .cons _ hgap hbefore hname hbehind hbetween (hvalue.of_fits hfirst)
        (hmore.of_fits hrest)

end

mutual

/-- A value that fits can be read into memory. -/
theorem bufferFault?_of_fits {room : Nat} {j : Json} (h : Fits room j) : bufferFault? j = none := by
  match room, j, h with
  | _, .null, _ => rfl
  | _, .bool _, _ => rfl
  | _, .natural _, _ => rfl
  | _, .string _, _ => rfl
  | _ + 1, .array items, h => exact bufferFaultOfItems?_of_fits h
  | _ + 1, .object members, h => exact bufferFaultOfMembers?_of_fits h

theorem bufferFaultOfItems?_of_fits {room : Nat} {items : List Json} (h : FitsItems room items) :
    bufferFaultOfItems? items = none := by
  match items, h with
  | [], _ => rfl
  | item :: rest, ⟨hitem, hrest⟩ =>
      rw [bufferFaultOfItems?, bufferFault?_of_fits hitem, bufferFaultOfItems?_of_fits hrest]
      rfl

theorem bufferFaultOfMembers?_of_fits {room : Nat} {members : List (String × Json)}
    (h : FitsMembers room members) : bufferFaultOfMembers? members = none := by
  match members, h with
  | [], _ => rfl
  | (_, value) :: rest, ⟨hvalue, hrest⟩ =>
      rw [bufferFaultOfMembers?, bufferFault?_of_fits hvalue, bufferFaultOfMembers?_of_fits hrest]
      rfl

end

theorem spells_textChars (s : String) : Spells room (.string s) (textChars s) :=
  .string (writesAll_escaped s.toList)

/-- A member behind its key. -/
theorem SpellsMembers.textChars (isFirst : Bool) (key : String) (hbefore : IsGap before)
    (hbetween : IsGap between) (hvalue : Spells room value text)
    (hmore : SpellsMembers room false members more) :
    SpellsMembers room isFirst ((key, value) :: members)
      (lead isFirst [] ++ before ++ Json.textChars key ++ ':' :: between ++ text ++ more) := by
  have hcons := SpellsMembers.cons isFirst isGap_nil hbefore (writesAll_escaped key.toList)
    isGap_nil hbetween hvalue hmore
  simpa only [Json.textChars, List.append_assoc, List.cons_append, List.nil_append] using hcons

mutual

/-- The layout on one line spells every value that fits. -/
theorem spells_compact {room : Nat} {j : Json} (h : Fits room j) :
    Spells room j (compactChars j) := by
  match room, j, h with
  | _, .null, _ => exact .null
  | _, .bool true, _ => exact .yes
  | _, .bool false, _ => exact .no
  | _, .natural _, h => exact .natural h
  | _, .string value, _ => exact spells_textChars value
  | _ + 1, .array [], _ => exact .array (.nil isGap_nil)
  | _ + 1, .array (item :: rest), h =>
      exact .array (spells_compactItems true h (List.cons_ne_nil item rest))
  | _ + 1, .object [], _ => exact .object (.nil isGap_nil)
  | _ + 1, .object (member :: rest), h =>
      exact .object (spells_compactMembers true h (List.cons_ne_nil member rest))

theorem spells_compactItems {room : Nat} (isFirst : Bool) {items : List Json}
    (h : FitsItems room items) (hsome : items ≠ []) :
    SpellsItems room isFirst items (lead isFirst [] ++ compactItems items) := by
  match items, h with
  | [], _ => exact absurd rfl hsome
  | [item], ⟨hitem, _⟩ =>
      have hlast := SpellsItems.cons isFirst isGap_nil isGap_nil (spells_compact hitem) (.nil isGap_nil)
      simpa only [compactItems, List.append_nil] using hlast
  | item :: next :: others, ⟨hitem, hrest⟩ =>
      have hmore := SpellsItems.cons isFirst isGap_nil isGap_nil (spells_compact hitem)
        (spells_compactItems false hrest (List.cons_ne_nil next others))
      simpa only [compactItems, lead_false, List.append_nil, List.nil_append, List.append_assoc] using
        hmore

theorem spells_compactMembers {room : Nat} (isFirst : Bool) {members : List (String × Json)}
    (h : FitsMembers room members) (hsome : members ≠ []) :
    SpellsMembers room isFirst members (lead isFirst [] ++ compactMembers members) := by
  match members, h with
  | [], _ => exact absurd rfl hsome
  | [(key, value)], ⟨hvalue, _⟩ =>
      have hlast := SpellsMembers.textChars isFirst key isGap_nil isGap_nil (spells_compact hvalue)
        (.nil isGap_nil)
      simpa only [compactMembers, List.append_nil, List.nil_append, List.append_assoc,
        List.singleton_append] using hlast
  | (key, value) :: next :: others, ⟨hvalue, hrest⟩ =>
      have hmore := SpellsMembers.textChars isFirst key isGap_nil isGap_nil (spells_compact hvalue)
        (spells_compactMembers false hrest (List.cons_ne_nil next others))
      simpa only [compactMembers, lead_false, List.append_nil, List.nil_append, List.append_assoc,
        List.singleton_append] using hmore

end

theorem isGap_newline (level : Nat) : IsGap (newline level) := by
  unfold IsGap newline
  rw [List.all_cons, Bool.and_eq_true, List.all_eq_true]
  refine ⟨rfl, fun c hc => ?_⟩
  rw [List.eq_of_mem_replicate hc]
  rfl

mutual

/-- The layout with a line for every item and member spells every value that fits. -/
theorem spells_pretty {room : Nat} (level : Nat) {j : Json} (h : Fits room j) :
    Spells room j (prettyChars level j) := by
  match room, j, h with
  | _, .null, _ => exact .null
  | _, .bool true, _ => exact .yes
  | _, .bool false, _ => exact .no
  | _, .natural _, h => exact .natural h
  | _, .string value, _ => exact spells_textChars value
  | _ + 1, .array [], _ => exact .array (.nil isGap_nil)
  | _ + 1, .array (item :: rest), h =>
      have hinner := spells_prettyItems (level + 1) true (isGap_newline (level + 1))
        (isGap_newline level) h (List.cons_ne_nil item rest)
      simpa [prettyChars] using Spells.array hinner
  | _ + 1, .object [], _ => exact .object (.nil isGap_nil)
  | _ + 1, .object (member :: rest), h =>
      have hinner := spells_prettyMembers (level + 1) true (isGap_newline (level + 1))
        (isGap_newline level) h (List.cons_ne_nil member rest)
      simpa [prettyChars] using Spells.object hinner

theorem spells_prettyItems {room : Nat} (level : Nat) (isFirst : Bool) {items : List Json}
    {gap close : List Char} (hgap : IsGap gap) (hclose : IsGap close) (h : FitsItems room items)
    (hsome : items ≠ []) :
    SpellsItems room isFirst items
      (lead isFirst [] ++ gap ++ prettyItems level items ++ close) := by
  match items, h with
  | [], _ => exact absurd rfl hsome
  | [item], ⟨hitem, _⟩ =>
      exact .cons isFirst isGap_nil hgap (spells_pretty level hitem) (.nil hclose)
  | item :: next :: others, ⟨hitem, hrest⟩ =>
      have hmore := SpellsItems.cons isFirst isGap_nil hgap (spells_pretty level hitem)
        (spells_prettyItems level false (isGap_newline level) hclose hrest
          (List.cons_ne_nil next others))
      simpa only [prettyItems, lead_false, List.nil_append, List.append_assoc] using hmore

theorem spells_prettyMembers {room : Nat} (level : Nat) (isFirst : Bool)
    {members : List (String × Json)} {gap close : List Char} (hgap : IsGap gap)
    (hclose : IsGap close) (h : FitsMembers room members) (hsome : members ≠ []) :
    SpellsMembers room isFirst members
      (lead isFirst [] ++ gap ++ prettyMembers level members ++ close) := by
  match members, h with
  | [], _ => exact absurd rfl hsome
  | [(key, value)], ⟨hvalue, _⟩ =>
      have hlast := SpellsMembers.textChars isFirst key hgap isGap_space
        (spells_pretty level hvalue) (.nil hclose)
      simpa only [prettyMembers, List.append_assoc, List.cons_append, List.nil_append] using hlast
  | (key, value) :: next :: others, ⟨hvalue, hrest⟩ =>
      have hmore := SpellsMembers.textChars isFirst key hgap isGap_space
        (spells_pretty level hvalue)
        (spells_prettyMembers level false (isGap_newline level) hclose hrest
          (List.cons_ne_nil next others))
      simpa only [prettyMembers, lead_false, List.append_assoc, List.cons_append, List.nil_append]
        using hmore

end

/-! ## Whole texts -/

theorem read_of_spells (hgap : IsGap gap) (h : Spells nestingLimit j text) (htail : IsGap tail) :
    read (String.ofList (gap ++ text ++ tail)) = ⟨j, false⟩ := by
  have hlength : (String.ofList (gap ++ text ++ tail)).length =
      gap.length + text.length + tail.length := by simp [Nat.add_assoc]
  have hstops : Stops tail := by simpa using stops_gap htail stops_nil
  have hread := readValue_of_spells h (2 * (gap.length + text.length + tail.length) + 2) 0 (by omega)
    (by omega) hgap hstops
  have hrest : skipGap tail = [] := by
    simpa [skipGap] using skipGap_append htail []
  unfold read
  rw [hlength, String.toList_ofList, hread]
  dsimp only
  rw [hrest]
  rfl

/-- A decoder finds in the text of a value what it finds in the value. -/
theorem decodeText_of_spells {α : Type} (decode : Decoder α) (hgap : IsGap gap)
    (h : Spells nestingLimit j text) (htail : IsGap tail) :
    decodeText decode (String.ofList (gap ++ text ++ tail)) = decode j := by
  unfold decodeText
  rw [read_of_spells hgap h htail]
  dsimp only
  cases decode j <;> rfl

theorem decodeText_compact {α : Type} (decode : Decoder α) (h : Fits nestingLimit j)
    (htail : IsGap tail) : decodeText decode (j.compact ++ String.ofList tail) = decode j := by
  have hread := decodeText_of_spells decode isGap_nil (spells_compact h) htail
  rw [List.nil_append, String.ofList_append] at hread
  unfold compact
  exact hread

theorem decodeText_pretty {α : Type} (decode : Decoder α) (h : Fits nestingLimit j) :
    decodeText decode j.pretty = decode j := by
  have hread := decodeText_of_spells decode isGap_nil (spells_pretty 0 h) isGap_nil
  rw [List.nil_append, List.append_nil] at hread
  unfold pretty
  exact hread

end Expansion.Json
