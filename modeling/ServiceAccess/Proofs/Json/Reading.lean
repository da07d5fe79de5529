import ServiceAccess.Proofs.Json.Numbers
import ServiceAccess.Proofs.Table

/-! # Reading JSON back

What `Json.render` writes is read back as it was, so that the text of a value determines the value.
Infinities are out of this: they are written as null. Objects have to have distinct names.

* **`readString_quote`**: a quoted text is read up to its closing quote.
* **`Plain`**: a value without infinities, its objects with distinct names.
* **`readValue_render`**: the text of a plain value is read as the value.
* **`render_inj`**: plain values with the same text are the same. -/

namespace ServiceAccess.Json

open Text

/-! ## Texts -/

/-- A hexadecimal digit has its value. -/
theorem hexValue_hexDigit : ∀ n < 16, hexValue? (hexDigit n) = some n := by decide

/-- Four hexadecimal digits have the value that they are made of. -/
theorem hexUnit_hex4 {n : Nat} (small : n < 65536) :
    hexUnit? (hexDigit (n / 4096 % 16)) (hexDigit (n / 256 % 16)) (hexDigit (n / 16 % 16))
      (hexDigit (n % 16)) = some n := by
  have digit := fun m => hexValue_hexDigit (m % 16) (Nat.mod_lt m (by decide))
  simp only [hexUnit?, digit, Option.bind_eq_bind, Option.bind_some, Option.pure_def, Option.some.injEq]
  omega

/-- One character between quotes is read as its code point. -/
theorem readString_escape (c : Char) (rest : List Char) :
    readString (escape c ++ rest) = (readString rest).map fun p => (c.toNat :: p.1, p.2) := by
  -- the two marks, the five short escapes, the other control characters, and the rest
  unfold escape
  split
  · next same =>
    subst same
    simp [readString, shortEscape?]
  split
  · next same =>
    subst same
    simp [readString, shortEscape?]
  split
  · next same => simp [readString, shortEscape?, same]
  split
  · next same => simp [readString, shortEscape?, same]
  split
  · next same => simp [readString, shortEscape?, same]
  split
  · next same => simp [readString, shortEscape?, same]
  split
  · next same => simp [readString, shortEscape?, same]
  split
  · next control =>
    have unit := hexUnit_hex4 (n := c.toNat) (by omega)
    simp [readString, hex4, unit]
  · next _ backslash _ _ _ _ _ printable => simp [readString, backslash, printable]

/-- No character is a surrogate, so that the code points of a text stand for themselves. -/
theorem joinPairs_toNat (cs : List Char) : joinPairs (cs.map Char.toNat) = cs := by
  induction cs with
  | nil => rfl
  | cons c cs ih =>
    cases cs with
    | nil => simp [joinPairs]
    | cons d cs =>
      -- a pair would need a character between the two ranges of characters
      have apart : ¬ (0xD800 ≤ c.toNat ∧ c.toNat < 0xDC00 ∧ 0xDC00 ≤ d.toNat ∧ d.toNat < 0xE000) := by
        rintro ⟨low, high, -⟩
        rcases c.valid with below | ⟨above, -⟩
        · have : c.toNat < 0xD800 := below
          omega
        · have : 0xDFFF < c.toNat := above
          omega
      rw [List.map_cons] at ih
      rw [List.map_cons, List.map_cons, joinPairs, if_neg apart, ih, Char.ofNat_toNat]

/-- **A quoted text is read up to its closing quote.** -/
theorem readString_quote (s : String) (rest : List Char) :
    ∃ body, (quote s).toList ++ rest = '"' :: body ∧
      (readString body).map (fun p => (textOf p.1, p.2)) = some (s, rest) := by
  have inner : ∀ cs : List Char, readString (cs.flatMap escape ++ '"' :: rest)
      = some (cs.map Char.toNat, rest) := by
    intro cs
    induction cs with
    | nil => simp [readString]
    | cons c cs ih => rw [List.flatMap_cons, List.append_assoc, readString_escape, ih]; rfl
  refine ⟨s.toList.flatMap escape ++ '"' :: rest, by simp [quote, quoteChars], ?_⟩
  rw [inner, Option.map_some, textOf, joinPairs_toNat, String.ofList_toList]

/-! ## Numbers -/

/-- What is read as a number begins with a digit. -/
theorem digit_of_readMagnitude {negative : Bool} {cs : List Char} {p : Number × List Char}
    (h : readMagnitude negative cs = some p) : ∃ c r, cs = c :: r ∧ c.isDigit = true := by
  cases cs with
  | nil => simp [readMagnitude, readDigits] at h
  | cons c r =>
    refine ⟨c, r, rfl, ?_⟩
    by_contra other
    simp [readMagnitude, readDigits, other] at h

/-- A digit is no blank. -/
theorem isGap_digit {c : Char} (digit : c.isDigit = true) : isGap c = false := by
  refine Bool.eq_false_iff.2 fun gap => ?_
  simp only [isGap, Bool.or_eq_true, beq_iff_eq] at gap
  rcases gap with ((rfl | rfl) | rfl) | rfl <;> simp at digit

/-- What begins with a digit is read as a number. -/
theorem readValue_digit (fuel : Nat) {c : Char} (digit : c.isDigit = true) (r : List Char) :
    readValue (fuel + 1) (c :: r)
      = (readMagnitude false (c :: r)).map fun p => (.num p.1, p.2) := by
  have other : c ≠ '"' ∧ c ≠ '[' ∧ c ≠ '\x7b' ∧ c ≠ 'n' ∧ c ≠ 't' ∧ c ≠ 'f' ∧ c ≠ '-' := by
    refine ⟨?_, ?_, ?_, ?_, ?_, ?_, ?_⟩ <;> rintro rfl <;> simp at digit
  have here : skip (c :: r) = c :: r := by simp [skip, isGap_digit digit]
  rw [readValue, here]
  simp [other]

/-- What follows a minus sign is read as a number. -/
theorem readValue_minus (fuel : Nat) (r : List Char) :
    readValue (fuel + 1) ('-' :: r) = (readMagnitude true r).map fun p => (.num p.1, p.2) := by
  have here : skip ('-' :: r) = '-' :: r := rfl
  rw [readValue, here]
  rfl

/-- The digit zero is read as the number without a significand. -/
theorem readMagnitude_zero (x : Finite) (zero : x.significand = 0) {rest : List Char}
    (stops : Stops rest) : readMagnitude false ('0' :: rest) = some (.finite x, rest) := by
  have read := readMagnitude_whole false ['0'] (by simp) (by simp) (by simp) stops.stopsDigits
    (fun r same => (stops '.' r same).2.1 rfl) (readExponent_none stops)
  have none : Nat.ofDigitChars 10 ['0'] 0 = 0 := rfl
  -- the canonical zero has the least exponent
  have least : x.exponent = 0 := by simpa [zero] using x.canonical
  have parts : Number.assemble false 0 0 = .finite x := by
    rw [Number.assemble, dif_pos (by simp)]
    obtain ⟨significand, exponent, bounded, canonical⟩ := x
    simp only [Bool.false_eq_true, if_false, Number.finite.injEq, Finite.mk.injEq]
    exact ⟨zero.symm, least.symm⟩
  rw [none, Number.ofDecimal, if_pos rfl, parts] at read
  exact read

/-- **A finite number is read back**, with its sign. -/
theorem readValue_number (fuel : Nat) (n : Number) (finite : n.isFinite = true) {rest : List Char}
    (stops : Stops rest) :
    readValue (fuel + 1) ((render (.num n)).toList ++ rest) = some (.num n, rest) := by
  rcases n with x | negative
  · rw [render, renderNumber, if_pos finite, Number.text]
    split
    · next zero =>
      have written : "0".toList ++ rest = '0' :: rest := rfl
      rw [written, readValue_digit fuel rfl, readMagnitude_zero x zero stops, Option.map_some]
    · next nonzero =>
      -- the sign is written and read apart from the digits
      have back := readMagnitude_text x nonzero stops
      obtain ⟨c, r, same, digit⟩ := digit_of_readMagnitude back
      split
      · next negative =>
        rw [decide_eq_true negative] at back
        have written : ("-" ++ x.shortest.layout).toList ++ rest
            = '-' :: (x.shortest.layout.toList ++ rest) := by
          rw [String.toList_append, List.append_assoc]
          rfl
        rw [written, readValue_minus, back, Option.map_some]
      · next positive =>
        rw [String.empty_append, same, readValue_digit fuel digit, ← same]
        rw [decide_eq_false positive] at back
        rw [back, Option.map_some]
  · simp [Number.isFinite] at finite

/-! ## Values -/

mutual
/-- A value without infinities, its objects with distinct names. -/
def Plain : Json → Prop
  | .num n => n.isFinite = true
  | .arr items => PlainItems items
  | .obj members => (members.map Prod.fst).Nodup ∧ PlainMembers members
  | _ => True

/-- Items without infinities. -/
def PlainItems : List Json → Prop
  | [] => True
  | v :: rest => v.Plain ∧ PlainItems rest

/-- Members without infinities. -/
def PlainMembers : List (String × Json) → Prop
  | [] => True
  | (_, v) :: rest => v.Plain ∧ PlainMembers rest
end

mutual
/-- The fuel that is needed to read a value. -/
def cost : Json → Nat
  | .arr items => costItems items + 1
  | .obj members => costMembers members + 1
  | _ => 1

/-- The fuel that is needed to read items. -/
def costItems : List Json → Nat
  | [] => 0
  | v :: rest => v.cost + costItems rest + 1

/-- The fuel that is needed to read members. -/
def costMembers : List (String × Json) → Nat
  | [] => 0
  | (_, v) :: rest => v.cost + costMembers rest + 1
end

/-- A quoted text is read as the text. -/
theorem readValue_quote (fuel : Nat) (s : String) (rest : List Char) :
    readValue (fuel + 1) ((quote s).toList ++ rest) = some (.str s, rest) := by
  obtain ⟨body, written, read⟩ := readString_quote s rest
  have here : skip ('"' :: body) = '"' :: body := rfl
  rw [written, readValue, here]
  obtain ⟨⟨ns, r⟩, inner, same⟩ := Option.map_eq_some_iff.1 read
  obtain ⟨rfl, rfl⟩ := Prod.mk.inj same
  simp [inner]

/-- The text of a value begins with a character that is no blank and closes nothing. -/
theorem render_head (v : Json) : ∃ c r, v.render.toList = c :: r ∧ isGap c = false ∧ c ≠ ']' := by
  cases v with
  | null => exact ⟨'n', _, rfl, rfl, by decide⟩
  | bool b => cases b <;> exact ⟨_, _, rfl, rfl, by decide⟩
  | str s => exact ⟨'"', _, by simp [render, quote, quoteChars]; rfl, rfl, by decide⟩
  | arr items => exact ⟨'[', _, by simp [render]; rfl, rfl, by decide⟩
  | obj members => exact ⟨'\x7b', _, by simp [render]; rfl, rfl, by decide⟩
  | num n =>
    by_cases finite : n.isFinite = true
    · rcases n with x | negative
      · rw [render, renderNumber, if_pos finite, Number.text]
        split
        · exact ⟨'0', [], rfl, rfl, by decide⟩
        · next nonzero =>
          have stops : Stops [] := by rintro c r ⟨⟩
          have back := readMagnitude_text x nonzero stops
          rw [List.append_nil] at back
          obtain ⟨c, r, same, digit⟩ := digit_of_readMagnitude back
          generalize x.shortest.layout = magnitude at same ⊢
          split
          · exact ⟨'-', magnitude.toList, by rw [String.toList_append]; rfl, rfl, by decide⟩
          · rw [String.empty_append, same]
            exact ⟨c, r, rfl, isGap_digit digit, by rintro rfl; simp at digit⟩
      · simp [Number.isFinite] at finite
    · exact ⟨'n', _, by simp [render, renderNumber, finite]; rfl, rfl, by decide⟩

/-- A mark between values stops a number. -/
theorem stops_mark {c : Char} (mark : c = ',' ∨ c = ']' ∨ c = '\x7d') (r : List Char) :
    Stops (c :: r) := by
  rintro c' r' ⟨⟩
  rcases mark with rfl | rfl | rfl <;> decide

/-- An array is read by its items. -/
theorem readValue_items {fuel : Nat} {cs : List Char} {items : List Json} {rest : List Char}
    (head : ∃ c r, cs = c :: r ∧ isGap c = false ∧ c ≠ ']')
    (read : readItems fuel cs = some (items, rest)) :
    readValue (fuel + 1) ('[' :: cs) = some (.arr items, rest) := by
  obtain ⟨c, r, rfl, solid, other⟩ := head
  have here : skip (c :: r) = c :: r := by simp [skip, solid]
  have bracket : skip ('[' :: c :: r) = '[' :: c :: r := rfl
  rw [readValue, bracket]
  simp [here, other, read]

/-- An object is read by its members. -/
theorem readValue_members {fuel : Nat} {cs : List Char} {members : List (String × Json)}
    {rest : List Char} (read : readMembers fuel ('"' :: cs) = some (members, rest)) :
    readValue (fuel + 1) ('\x7b' :: '"' :: cs) = some (.obj (Table.ofList members).entries, rest) := by
  have here : skip ('"' :: cs) = '"' :: cs := rfl
  have brace : skip ('\x7b' :: '"' :: cs) = '\x7b' :: '"' :: cs := rfl
  rw [readValue, brace]
  simp [here, read]

/-- The last item is followed by the closing bracket. -/
theorem readItems_last {fuel : Nat} {cs : List Char} {v : Json} {rest : List Char}
    (read : readValue fuel cs = some (v, ']' :: rest)) :
    readItems (fuel + 1) cs = some ([v], rest) := by
  have here : skip (']' :: rest) = ']' :: rest := rfl
  rw [readItems, read]
  simp [here]

/-- Every other item is followed by a comma. -/
theorem readItems_more {fuel : Nat} {cs r : List Char} {v : Json} {vs : List Json} {rest : List Char}
    (read : readValue fuel cs = some (v, ',' :: r)) (others : readItems fuel r = some (vs, rest)) :
    readItems (fuel + 1) cs = some (v :: vs, rest) := by
  have here : skip (',' :: r) = ',' :: r := rfl
  rw [readItems, read]
  simp [here, others]

/-- A member is read as its name and its value. The last one is followed by the closing brace. -/
theorem readMembers_last {fuel : Nat} {k : String} {cs : List Char} {v : Json} {rest : List Char}
    (read : readValue fuel cs = some (v, '\x7d' :: rest)) :
    readMembers (fuel + 1) ((quote k).toList ++ ':' :: cs) = some ([(k, v)], rest) := by
  obtain ⟨body, written, name⟩ := readString_quote k (':' :: cs)
  obtain ⟨⟨ns, r⟩, inner, same⟩ := Option.map_eq_some_iff.1 name
  obtain ⟨rfl, rfl⟩ := Prod.mk.inj same
  have quoted : skip ('"' :: body) = '"' :: body := rfl
  have colon : skip (':' :: cs) = ':' :: cs := rfl
  have brace : skip ('\x7d' :: rest) = '\x7d' :: rest := rfl
  rw [written, readMembers, quoted]
  simp [inner, colon, read, brace]

/-- Every other member is followed by a comma. -/
theorem readMembers_more {fuel : Nat} {k : String} {cs r : List Char} {v : Json}
    {ms : List (String × Json)} {rest : List Char}
    (read : readValue fuel cs = some (v, ',' :: r)) (others : readMembers fuel r = some (ms, rest)) :
    readMembers (fuel + 1) ((quote k).toList ++ ':' :: cs) = some ((k, v) :: ms, rest) := by
  obtain ⟨body, written, name⟩ := readString_quote k (':' :: cs)
  obtain ⟨⟨ns, r'⟩, inner, same⟩ := Option.map_eq_some_iff.1 name
  obtain ⟨rfl, rfl⟩ := Prod.mk.inj same
  have quoted : skip ('"' :: body) = '"' :: body := rfl
  have colon : skip (':' :: cs) = ':' :: cs := rfl
  have comma : skip (',' :: r) = ',' :: r := rfl
  rw [written, readMembers, quoted]
  simp [inner, colon, read, comma, others]

mutual
/-- **The text of a plain value is read as the value.** -/
theorem readValue_render : ∀ (v : Json), v.Plain → ∀ (fuel : Nat) (rest : List Char), v.cost ≤ fuel →
    Stops rest → readValue fuel (v.render.toList ++ rest) = some (v, rest)
  | v, plain, 0, rest, enough, stops => by cases v <;> simp [cost] at enough
  | .null, plain, fuel + 1, rest, enough, stops => by simp [render, readValue, skip, isGap]
  | .bool b, plain, fuel + 1, rest, enough, stops => by
    cases b <;> simp [render, readValue, skip, isGap]
  | .num n, plain, fuel + 1, rest, enough, stops => readValue_number fuel n plain stops
  | .str s, plain, fuel + 1, rest, enough, stops => readValue_quote fuel s rest
  | .arr [], plain, fuel + 1, rest, enough, stops => by
    simp [render, renderItems, readValue, skip, isGap]
  | .arr (v :: items), plain, fuel + 1, rest, enough, stops => by
    have read := readItems_render v items plain fuel rest (Nat.le_of_succ_le_succ enough)
    have written : (render (.arr (v :: items))).toList ++ rest
        = '[' :: ((renderItems (v :: items)).toList ++ ']' :: rest) := by
      simp [render]
    rw [written]
    refine readValue_items ?_ read
    obtain ⟨c, r, begins, solid, other⟩ := v.render_head
    rcases items with _ | ⟨w, items⟩
    · exact ⟨c, r ++ ']' :: rest, by simp [renderItems, begins], solid, other⟩
    · exact ⟨c, _, by simp [renderItems, begins]; rfl, solid, other⟩
  | .obj [], plain, fuel + 1, rest, enough, stops => by
    simp [render, renderMembers, readValue, skip, isGap]
  | .obj ((k, v) :: members), plain, fuel + 1, rest, enough, stops => by
    have read := readMembers_render k v members plain.2 fuel rest (Nat.le_of_succ_le_succ enough)
    have written : (render (.obj ((k, v) :: members))).toList ++ rest
        = '\x7b' :: ((renderMembers ((k, v) :: members)).toList ++ '\x7d' :: rest) := by
      simp [render]
    have begins : ∃ cs, (renderMembers ((k, v) :: members)).toList ++ '\x7d' :: rest = '"' :: cs := by
      cases members <;> exact ⟨_, by simp [renderMembers, quote, quoteChars]; rfl⟩
    obtain ⟨cs, begins⟩ := begins
    rw [begins] at read
    rw [written, begins, readValue_members read, Table.entries_ofList plain.1]

/-- The items of an array are read up to its closing bracket. -/
theorem readItems_render : ∀ (v : Json) (items : List Json), PlainItems (v :: items) →
    ∀ (fuel : Nat) (rest : List Char), costItems (v :: items) ≤ fuel →
    readItems fuel ((renderItems (v :: items)).toList ++ ']' :: rest) = some (v :: items, rest)
  | v, items, plain, 0, rest, enough => by simp [costItems] at enough
  | v, [], plain, fuel + 1, rest, enough => by
    have afford : v.cost ≤ fuel := by simpa [costItems] using enough
    exact readItems_last (readValue_render v plain.1 fuel _ afford (stops_mark (by simp) rest))
  | v, w :: items, plain, fuel + 1, rest, enough => by
    simp only [costItems] at enough
    have first := readValue_render v plain.1 fuel
      (',' :: ((renderItems (w :: items)).toList ++ ']' :: rest)) (by omega) (stops_mark (by simp) _)
    have others := readItems_render w items plain.2 fuel rest (by simp only [costItems]; omega)
    have written : (renderItems (v :: w :: items)).toList ++ ']' :: rest
        = v.render.toList ++ ',' :: ((renderItems (w :: items)).toList ++ ']' :: rest) := by
      simp [renderItems]
    rw [written, readItems_more first others]

/-- The members of an object are read up to its closing brace. -/
theorem readMembers_render : ∀ (k : String) (v : Json) (members : List (String × Json)),
    PlainMembers ((k, v) :: members) → ∀ (fuel : Nat) (rest : List Char),
    costMembers ((k, v) :: members) ≤ fuel →
    readMembers fuel ((renderMembers ((k, v) :: members)).toList ++ '\x7d' :: rest)
      = some ((k, v) :: members, rest)
  | k, v, members, plain, 0, rest, enough => by simp [costMembers] at enough
  | k, v, [], plain, fuel + 1, rest, enough => by
    have afford : v.cost ≤ fuel := by simpa [costMembers] using enough
    have only := readValue_render v plain.1 fuel _ afford (stops_mark (c := '\x7d') (by simp) rest)
    have written : (renderMembers [(k, v)]).toList ++ '\x7d' :: rest
        = (quote k).toList ++ ':' :: (v.render.toList ++ '\x7d' :: rest) := by
      simp [renderMembers]
    rw [written, readMembers_last only]
  | k, v, (l, w) :: members, plain, fuel + 1, rest, enough => by
    simp only [costMembers] at enough
    have first := readValue_render v plain.1 fuel
      (',' :: ((renderMembers ((l, w) :: members)).toList ++ '\x7d' :: rest)) (by omega)
      (stops_mark (by simp) _)
    have others := readMembers_render l w members plain.2 fuel rest (by simp only [costMembers]; omega)
    have written : (renderMembers ((k, v) :: (l, w) :: members)).toList ++ '\x7d' :: rest
        = (quote k).toList ++ ':' :: (v.render.toList
          ++ ',' :: ((renderMembers ((l, w) :: members)).toList ++ '\x7d' :: rest)) := by
      simp [renderMembers]
    rw [written, readMembers_more first others]
end

/-- **Plain values with the same text are the same.** -/
theorem render_inj {v w : Json} (plain : v.Plain) (plain' : w.Plain) (same : v.render = w.render) :
    v = w := by
  have stops : Stops [] := by rintro c r ⟨⟩
  -- one text is read as one value
  have read := readValue_render v plain (v.cost + w.cost) [] (by omega) stops
  have read' := readValue_render w plain' (v.cost + w.cost) [] (by omega) stops
  rw [same, read'] at read
  exact (Prod.mk.inj (Option.some.inj read)).1.symm

end ServiceAccess.Json
