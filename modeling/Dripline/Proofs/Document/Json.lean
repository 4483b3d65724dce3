import Dripline.Store.Table
import Dripline.Proofs.Document.Automation
import Dripline.Proofs.Number.Written

/-!
# JSON reads back what it wrote

A reader is right about a value when it takes the characters of the value off the front of a text,
wherever the value ends:

* `Ends`: what may follow a value inside a list, a mapping or a text; `Begins`: what tells it from the
  end of a list;
* `takeText_textChars`, `takeNumber_of_isWritten`: texts and numbers;
* `IsReadBack`, with a case for each form of a plain value. The fuel is more than the number of
  characters;
* **`read?_render_of_isPlain`**: a plain value is read from its text, and so a settled flow from the
  columns of its row (`AutomationTable.flowOfColumns_of_isSettled`).
-/

namespace Dripline.Json

open Text

/-! ## 1. Ends -/

/-- What may follow a value: nothing, or a character that ends it. -/
def Ends (rest : List Char) : Prop := ∀ c, rest.head? = some c → c = ',' ∨ c = ']' ∨ c = '\x7d'

theorem ends_nil : Ends [] := fun _ h => nomatch h

theorem ends_cons {c : Char} (h : c = ',' ∨ c = ']' ∨ c = '\x7d') (rest : List Char) :
    Ends (c :: rest) := fun _ hc => Option.some.inj hc ▸ h

theorem Ends.isDigit {rest : List Char} (h : Ends rest) : ∀ c, rest.head? = some c → isDigit c = false := by
  intro c hc
  rcases h c hc with rfl | rfl | rfl <;> rfl

/-- Digits up to the first character that is none. -/
theorem takeWhile_digits {ds rest : List Char} (hds : ∀ c ∈ ds, isDigit c = true)
    (hrest : ∀ c, rest.head? = some c → isDigit c = false) : (ds ++ rest).takeWhile isDigit = ds := by
  rw [List.takeWhile_append_of_pos hds]
  cases rest with
  | nil => exact List.append_nil ds
  | cons c rest =>
    rw [List.takeWhile_cons_of_neg (by rw [hrest c rfl]; decide), List.append_nil]

theorem dropWhile_digits {ds rest : List Char} (hds : ∀ c ∈ ds, isDigit c = true)
    (hrest : ∀ c, rest.head? = some c → isDigit c = false) : (ds ++ rest).dropWhile isDigit = rest := by
  rw [List.dropWhile_append_of_pos hds]
  cases rest with
  | nil => rfl
  | cons c rest => exact List.dropWhile_cons_of_neg (by rw [hrest c rfl]; decide)

/-! ## 2. Texts -/

theorem hexPadded_control : ∀ n < 32,
    (hexPadded 4 n).length = 4 ∧ readNat? 16 (hexPadded 4 n) = some n := by decide

/-- A control character is read from its number. -/
theorem takeUnicode_hexPadded {c : Char} (hc : c.toNat < 32) (rest : List Char) :
    takeUnicode (hexPadded 4 c.toNat ++ rest) = some (c, rest) := by
  obtain ⟨hlength, hread⟩ := hexPadded_control c.toNat hc
  have hhex : takeHex4 (hexPadded 4 c.toNat ++ rest) = some (c.toNat, rest) := by
    match hexPadded 4 c.toNat, hlength, hread with
    | [a, b, d, e], _, hread =>
      show (readNat? 16 [a, b, d, e]).map _ = _
      rw [hread]
      rfl
  unfold takeUnicode
  rw [hhex]
  show (if 0xD800 ≤ c.toNat ∧ c.toNat < 0xDC00 then _ else _) = _
  rw [if_neg (by omega), if_neg (by omega), Char.ofNat_toNat]

/-- A written character is read as the character. -/
theorem takeText_escaped (fuel : Nat) (acc : List Char) (c : Char) (rest : List Char) :
    takeText (fuel + 1) acc (escaped c ++ rest) = takeText fuel (c :: acc) rest := by
  unfold escaped
  by_cases hquote : c = '"'
  · rw [if_pos hquote, hquote]
    rfl
  · rw [if_neg hquote]
    by_cases hslash : c = '\\'
    · rw [if_pos hslash, hslash]
      rfl
    · rw [if_neg hslash]
      by_cases hcontrol : c.toNat < 0x20
      · rw [if_pos hcontrol]
        conv_lhs => rw [List.cons_append, List.cons_append, takeText]
        simp only [takeUnicode_hexPadded hcontrol]
        rfl
      · rw [if_neg hcontrol, List.singleton_append]
        conv_lhs => unfold takeText
        rw [if_neg hquote, if_neg hslash, if_neg hcontrol]

theorem takeText_flatMap (cs : List Char) (rest : List Char) : ∀ (fuel : Nat) (acc : List Char),
    cs.length < fuel →
      takeText fuel acc (cs.flatMap escaped ++ '"' :: rest) = some (String.ofList (acc.reverse ++ cs), rest) := by
  induction cs with
  | nil =>
    intro fuel acc hfuel
    obtain ⟨fuel, rfl⟩ : ∃ n, fuel = n + 1 := ⟨fuel - 1, by omega⟩
    rw [List.append_nil]
    rfl
  | cons c cs ih =>
    intro fuel acc hfuel
    obtain ⟨fuel, rfl⟩ : ∃ n, fuel = n + 1 := ⟨fuel - 1, by omega⟩
    rw [List.length_cons] at hfuel
    rw [List.flatMap_cons, List.append_assoc, takeText_escaped, ih fuel (c :: acc) (by omega),
      List.reverse_cons, List.append_assoc, List.singleton_append]

theorem length_flatMap_escaped (cs : List Char) : cs.length ≤ (cs.flatMap escaped).length := by
  induction cs with
  | nil => exact Nat.le_refl 0
  | cons c cs ih =>
    have hc : 1 ≤ (escaped c).length := by
      unfold escaped
      split
      · decide
      · split
        · decide
        · split
          · exact Nat.succ_le_succ (Nat.zero_le _)
          · exact Nat.le_refl 1
    rw [List.flatMap_cons, List.length_append, List.length_cons]
    omega

/-- **A text is read from its characters.** -/
theorem takeText_textChars (s : String) (rest : List Char) : ∃ more, textChars s ++ rest = '"' :: more ∧
    takeText (more.length + 1) [] more = some (s, rest) := by
  refine ⟨s.toList.flatMap escaped ++ '"' :: rest, ?_, ?_⟩
  · unfold textChars
    rw [List.cons_append, List.cons_append, List.append_assoc, List.singleton_append]
  · rw [takeText_flatMap, List.reverse_nil, List.nil_append, String.ofList_toList]
    have := length_flatMap_escaped s.toList
    rw [List.length_append]
    omega

/-! ## 3. Numbers -/

theorem isWholePart_of_isWhole {cs : List Char} (h : Double.IsWhole cs) : isWholePart cs = true := by
  rcases h.leads with rfl | ⟨c, rest, rfl, hc⟩
  · rfl
  · unfold isWholePart
    split
    · rename_i heq
      cases heq
    · rfl
    · rename_i heq
      cases heq
      exact bne_iff_ne.mpr hc

theorem takeExponent_ends {rest : List Char} (h : Ends rest) : takeExponent rest = none := by
  unfold takeExponent
  cases rest with
  | nil => rfl
  | cons c rest => rcases h c rfl with rfl | rfl | rfl <;> rfl

theorem takeExponent_digits {sign : Char} (hsign : sign = '+' ∨ sign = '-') {digits rest : List Char}
    (hdigits : ∀ c ∈ digits, isDigit c = true) (hsome : digits ≠ []) (h : Ends rest) :
    takeExponent ('e' :: sign :: digits ++ rest) =
      some (if sign = '-' then -(Double.digitsValue digits : Int) else Double.digitsValue digits, rest) := by
  have htake := takeWhile_digits hdigits h.isDigit
  have hdrop := dropWhile_digits hdigits h.isDigit
  have hempty : digits.isEmpty = false := List.isEmpty_eq_false_iff.mpr hsome
  rcases hsign with rfl | rfl <;>
    simp [takeExponent, Double.takeSign, htake, hdrop, hempty]

theorem takeExponent_exponentText (e : Int) {rest : List Char} (h : Ends rest) :
    takeExponent ('e' :: Double.exponentText e ++ rest) = some (e, rest) := by
  have hdigits : ∀ c ∈ padded 2 e.natAbs, isDigit c = true := fun c => Double.isDigit_of_mem_padded
  have hsome := Double.padded_ne_nil 2 e.natAbs
  unfold Double.exponentText
  by_cases he : e < 0
  · rw [if_pos he, takeExponent_digits (.inr rfl) hdigits hsome h, if_pos rfl, Double.digitsValue_padded,
      show -(e.natAbs : Int) = e by omega]
  · rw [if_neg he, takeExponent_digits (.inl rfl) hdigits hsome h, if_neg (by decide),
      Double.digitsValue_padded, show (e.natAbs : Int) = e by omega]

/-- **A number is read from its characters.** -/
theorem takeNumber_of_isWritten {value : ℚ} {cs rest : List Char} (hcs : Double.IsWritten value cs)
    (h : Ends rest) (negative : Bool) : ∃ (m : Nat) (e : Int), (m : ℚ) * (10 : ℚ) ^ e = value ∧
      takeNumber negative (cs ++ rest) = some (.float (.ofDecimal negative m e), rest) := by
  cases hcs with
  | @positional whole fraction hwhole hfraction hsome hvalue =>
    refine ⟨_, _, hvalue, ?_⟩
    have hpoint : ∀ c, ('.' :: fraction ++ rest).head? = some c → isDigit c = false :=
      fun c hc => Option.some.inj hc ▸ rfl
    have htake := takeWhile_digits hwhole.digits hpoint
    have hdrop := dropWhile_digits hwhole.digits hpoint
    have htake' := takeWhile_digits hfraction h.isDigit
    have hdrop' := dropWhile_digits hfraction h.isDigit
    obtain ⟨d, ds, rfl⟩ := List.exists_cons_of_ne_nil hsome
    have hd : isDigit d = true := hfraction d List.mem_cons_self
    simp only [List.cons_append] at htake hdrop htake' hdrop'
    simp only [takeNumber, List.append_assoc, List.cons_append, htake, hdrop, htake', hdrop',
      isWholePart_of_isWhole hwhole, hd, takeExponent_ends h, Bool.not_true, Bool.false_eq_true, if_false, if_true]
  | @scientific whole fraction exponent hwhole hfraction hvalue =>
    refine ⟨_, _, hvalue, ?_⟩
    have hexponent := takeExponent_exponentText exponent h
    obtain ⟨sign, digits, htext⟩ : ∃ sign digits, Double.exponentText exponent = sign :: digits :=
      ⟨_, _, rfl⟩
    rw [htext] at hexponent ⊢
    have hletter : ∀ c, ('e' :: (sign :: digits) ++ rest).head? = some c → isDigit c = false :=
      fun c hc => Option.some.inj hc ▸ rfl
    unfold Double.fractionChars
    by_cases hnone : fraction = []
    · have htake := takeWhile_digits hwhole.digits hletter
      have hdrop := dropWhile_digits hwhole.digits hletter
      subst hnone
      simp only [List.cons_append] at htake hdrop hexponent
      simp [takeNumber, htake, hdrop, isWholePart_of_isWhole hwhole, hexponent]
    · have hpoint : ∀ c, ('.' :: fraction ++ 'e' :: (sign :: digits) ++ rest).head? = some c →
          isDigit c = false := fun c hc => Option.some.inj hc ▸ rfl
      have htake := takeWhile_digits hwhole.digits hpoint
      have hdrop := dropWhile_digits hwhole.digits hpoint
      have htake' := takeWhile_digits hfraction hletter
      have hdrop' := dropWhile_digits hfraction hletter
      obtain ⟨d, ds, rfl⟩ := List.exists_cons_of_ne_nil hnone
      have hd : isDigit d = true := hfraction d List.mem_cons_self
      rw [if_neg hnone]
      simp only [List.cons_append, List.append_assoc] at htake hdrop htake' hdrop' hexponent
      simp only [takeNumber, List.append_assoc, List.cons_append, htake, hdrop, htake', hdrop',
        isWholePart_of_isWhole hwhole, hd, hexponent, Bool.not_true, Bool.false_eq_true, if_false, if_true]

/-- What a magnitude is written as begins with a digit. -/
theorem exists_digit_of_isWritten {value : ℚ} {cs : List Char} (h : Double.IsWritten value cs) :
    ∃ c rest, cs = c :: rest ∧ isDigit c = true := by
  have hwhole {whole : List Char} (h : Double.IsWhole whole) (more : List Char) :
      ∃ c rest, whole ++ more = c :: rest ∧ isDigit c = true := by
    obtain ⟨c, rest, hcons⟩ : ∃ c rest, whole = c :: rest := by
      rcases h.leads with h | ⟨c, rest, h, _⟩
      · exact ⟨_, _, h⟩
      · exact ⟨_, _, h⟩
    exact ⟨c, rest ++ more, by rw [hcons]; rfl, h.digits c (by rw [hcons]; exact List.mem_cons_self)⟩
  cases h with
  | positional h _ _ _ => exact hwhole h _
  | scientific h _ _ =>
    rw [List.append_assoc]
    exact hwhole h _

/-! ## 4. Values -/

theorem takeWord_eq_none {cs : List Char} (h : ∀ w ∈ words, w.1.toList.isPrefixOf cs = false) :
    takeWord cs = none := by
  unfold takeWord
  rw [List.findSome?_eq_none_iff]
  rintro ⟨word, value⟩ hw
  exact if_neg (by rw [h _ hw]; exact Bool.false_ne_true)

theorem isPrefixOf_of_ne {c d : Char} (h : d ≠ c) (ds cs : List Char) :
    (d :: ds).isPrefixOf (c :: cs) = false := by
  rw [List.isPrefixOf_cons_cons, beq_false_of_ne h, Bool.false_and]

/-- No word begins like a number. -/
theorem takeWord_number {c : Char} (hc : isDigit c = true) (cs : List Char) :
    takeWord (c :: cs) = none ∧ takeWord ('-' :: c :: cs) = none := by
  have hne (d : Char) (hd : isDigit d = false) : d ≠ c := fun heq => by
    rw [heq, hc] at hd
    cases hd
  constructor
  · refine takeWord_eq_none ?_
    simp only [words, List.forall_mem_cons, List.not_mem_nil, false_imp_iff, implies_true, and_true]
    exact ⟨isPrefixOf_of_ne (hne 'n' rfl) _ cs, isPrefixOf_of_ne (hne 't' rfl) _ cs,
      isPrefixOf_of_ne (hne 'f' rfl) _ cs, isPrefixOf_of_ne (hne 'N' rfl) _ cs,
      isPrefixOf_of_ne (hne 'I' rfl) _ cs, isPrefixOf_of_ne (hne '-' rfl) _ cs⟩
  · refine takeWord_eq_none ?_
    simp only [words, List.forall_mem_cons, List.not_mem_nil, false_imp_iff, implies_true, and_true]
    exact ⟨rfl, rfl, rfl, rfl, rfl, isPrefixOf_of_ne (hne 'I' rfl) _ cs⟩

/-- A value that begins like a number is read as one. -/
theorem takeValue_digit (fuel : Nat) {c : Char} (hc : isDigit c = true) (cs : List Char) :
    takeValue (fuel + 1) (c :: cs) = takeNumber false (c :: cs) ∧
      takeValue (fuel + 1) ('-' :: c :: cs) = takeNumber true (c :: cs) := by
  obtain ⟨hplain, hminus⟩ := takeWord_number hc cs
  constructor
  · unfold takeValue
    rw [hplain]
    dsimp only
    split
    all_goals first | rfl | (rename_i heq; cases heq; cases hc)
  · unfold takeValue
    rw [hminus]
    rfl

theorem floatChars_finite (negative : Bool) (units : Double.Units) :
    floatChars (.finite negative units) =
      if negative then '-' :: Double.magnitudeChars units else Double.magnitudeChars units := by
  cases negative <;> exact String.toList_ofList

/-- A finite number is read from its text. -/
theorem takeValue_finite (fuel : Nat) (negative : Bool) (units : Double.Units) {rest : List Char}
    (h : Ends rest) :
    takeValue (fuel + 1) (floatChars (.finite negative units) ++ rest) =
      some (.float (.finite negative units), rest) := by
  obtain ⟨value, hwritten, hread⟩ := Double.isWritten_magnitudeChars units
  obtain ⟨m, e, hvalue, htake⟩ := takeNumber_of_isWritten hwritten h negative
  obtain ⟨c, cs, hcs, hc⟩ := exists_digit_of_isWritten hwritten
  rw [hread negative m e hvalue, hcs] at htake
  rw [floatChars_finite, hcs]
  obtain ⟨hplain, hminus⟩ := takeValue_digit fuel hc (cs ++ rest)
  cases negative with
  | false => exact hplain.trans htake
  | true => exact hminus.trans htake

/-- What a value may begin with inside a list. -/
def Begins (cs : List Char) : Prop := ∃ c rest, cs = c :: rest ∧ isGap c = false ∧ c ≠ ']'

/-- **A value that is read back** from its characters, wherever they end. -/
structure IsReadBack (v : Value) : Prop where
  begins : Begins (chars v)
  read : ∀ fuel rest, (chars v).length < fuel → Ends rest → takeValue fuel (chars v ++ rest) = some (v, rest)

theorem Begins.skipGaps {cs : List Char} (h : Begins cs) (rest : List Char) :
    skipGaps (cs ++ rest) = cs ++ rest := by
  obtain ⟨c, more, rfl, hc, _⟩ := h
  exact List.dropWhile_cons_of_neg (by rw [hc]; decide)

theorem isReadBack_null : IsReadBack .null where
  begins := ⟨'n', _, rfl, rfl, by decide⟩
  read
    | 0, _, h, _ => absurd h (Nat.not_lt_zero _)
    | _ + 1, _, _, _ => rfl

theorem isReadBack_text (s : String) : IsReadBack (.text s) where
  begins := ⟨'"', _, rfl, rfl, by decide⟩
  read
    | 0, _, h, _ => absurd h (Nat.not_lt_zero _)
    | fuel + 1, rest, _, _ => by
      obtain ⟨more, hmore, htake⟩ := takeText_textChars s rest
      show takeValue (fuel + 1) (textChars s ++ rest) = _
      rw [hmore]
      show (takeText (more.length + 1) [] more).map _ = _
      rw [htake]
      rfl

theorem begins_digit {c : Char} (hc : isDigit c = true) (rest : List Char) : Begins (c :: rest) := by
  refine ⟨c, rest, rfl, ?_, ?_⟩
  · unfold isGap
    simp only [Bool.or_eq_false_iff, decide_eq_false_iff_not]
    refine ⟨⟨⟨?_, ?_⟩, ?_⟩, ?_⟩ <;> (rintro rfl; cases hc)
  · rintro rfl
    cases hc

theorem isReadBack_float (x : Double) : IsReadBack (.float x) := by
  refine ⟨?_, fun fuel rest hfuel hrest => ?_⟩
  · show Begins (floatChars x)
    cases x with
    | nan => exact ⟨'N', _, rfl, rfl, by decide⟩
    | infinite negative =>
      cases negative with
      | false => exact ⟨'I', _, rfl, rfl, by decide⟩
      | true => exact ⟨'-', _, rfl, rfl, by decide⟩
    | finite negative units =>
      obtain ⟨value, hwritten, _⟩ := Double.isWritten_magnitudeChars units
      obtain ⟨c, cs, hcs, hc⟩ := exists_digit_of_isWritten hwritten
      rw [floatChars_finite, hcs]
      cases negative with
      | false => exact begins_digit hc cs
      | true => exact ⟨'-', _, rfl, rfl, by decide⟩
  · obtain ⟨fuel, rfl⟩ : ∃ n, fuel = n + 1 := ⟨fuel - 1, by omega⟩
    cases x with
    | nan => rfl
    | infinite negative => cases negative <;> rfl
    | finite negative units => exact takeValue_finite fuel negative units hrest

/-! ## 5. Lists -/

theorem begins_itemChars {v : Value} {vs : List Value} (h : IsReadBack v) :
    Begins (itemChars (v :: vs)) := by
  obtain ⟨c, rest, hcs, hc⟩ := h.begins
  cases vs with
  | nil => exact ⟨c, rest, hcs, hc⟩
  | cons w ws => exact ⟨c, rest ++ ',' :: itemChars (w :: ws), by
      rw [itemChars, hcs, List.cons_append], hc⟩

theorem Begins.length_pos {cs : List Char} (h : Begins cs) : 0 < cs.length := by
  obtain ⟨c, rest, rfl, _⟩ := h
  exact Nat.succ_pos _

/-- The items of a list are read up to its end. -/
theorem takeItems_itemChars (rest : List Char) : ∀ (v : Value) (vs : List Value) (fuel : Nat),
    (∀ w ∈ v :: vs, IsReadBack w) → (itemChars (v :: vs)).length + 1 < fuel →
      takeItems fuel (itemChars (v :: vs) ++ ']' :: rest) = some (v :: vs, rest)
  | _, _, 0, _, hfuel => absurd hfuel (Nat.not_lt_zero _)
  | v, [], fuel + 1, hread, hfuel => by
    have hv : IsReadBack v := hread v List.mem_cons_self
    have hlength : (chars v).length < fuel := by
      rw [itemChars] at hfuel
      omega
    unfold takeItems
    rw [itemChars, hv.begins.skipGaps, hv.read fuel _ hlength (ends_cons (.inr (.inl rfl)) rest)]
    rfl
  | v, w :: ws, fuel + 1, hread, hfuel => by
    have hv : IsReadBack v := hread v List.mem_cons_self
    have hrest : ∀ u ∈ w :: ws, IsReadBack u := fun u hu => hread u (List.mem_cons_of_mem v hu)
    rw [itemChars, List.length_append, List.length_cons] at hfuel
    have hpos := hv.begins.length_pos
    unfold takeItems
    rw [itemChars, List.append_assoc, List.cons_append, hv.begins.skipGaps,
      hv.read fuel _ (by omega) (ends_cons (.inl rfl) _)]
    show (takeItems fuel (itemChars (w :: ws) ++ ']' :: rest)).map _ = _
    rw [takeItems_itemChars rest w ws fuel hrest (by omega)]
    rfl

theorem takeValue_bracket (fuel : Nat) (cs : List Char) :
    takeValue (fuel + 1) ('[' :: cs) =
      match skipGaps cs with
      | ']' :: rest => some (.list [], rest)
      | rest => (takeItems fuel rest).map fun (items, rest) => (.list items, rest) := by
  unfold takeValue
  rfl

/-- A list that is not empty is read item by item. -/
theorem takeValue_items (fuel : Nat) {cs : List Char} (h : Begins cs) (rest : List Char) :
    takeValue (fuel + 1) ('[' :: (cs ++ rest)) =
      (takeItems fuel (cs ++ rest)).map fun (items, rest) => (.list items, rest) := by
  rw [takeValue_bracket, h.skipGaps rest]
  obtain ⟨c, more, rfl, _, hc⟩ := h
  split
  · rename_i heq
    cases heq
    exact absurd rfl hc
  · rfl

theorem isReadBack_list {items : List Value} (h : ∀ v ∈ items, IsReadBack v) :
    IsReadBack (.list items) := by
  refine ⟨⟨'[', _, rfl, rfl, by decide⟩, fun fuel rest hfuel _ => ?_⟩
  obtain ⟨fuel, rfl⟩ : ∃ n, fuel = n + 1 := ⟨fuel - 1, by omega⟩
  cases items with
  | nil => rfl
  | cons v vs =>
    have hchars : chars (.list (v :: vs)) ++ rest = '[' :: (itemChars (v :: vs) ++ ']' :: rest) := by
      rw [chars, List.append_assoc, List.cons_append, List.singleton_append]
    have hlength : (chars (.list (v :: vs))).length = (itemChars (v :: vs)).length + 2 := by
      rw [chars, List.length_append, List.length_cons, List.length_singleton]
    rw [hchars, takeValue_items fuel (begins_itemChars (h v List.mem_cons_self)),
      takeItems_itemChars rest v vs fuel h (by omega)]
    rfl

/-! ## 6. Mappings -/

/-- The entries of an object. -/
def textEntries (entries : List (String × Value)) : List (Value × Value) :=
  entries.map fun (k, v) => (.text k, v)

/-- An entry is read up to the character behind its value. -/
theorem takeEntries_entry (fuel : Nat) (k : String) {v : Value} (hv : IsReadBack v)
    (hfuel : (chars v).length < fuel) (rest : List Char) :
    takeEntries (fuel + 1) (textChars k ++ ':' :: (chars v ++ ',' :: rest)) =
        (takeEntries fuel rest).map (fun (es, rest) => ((.text k, v) :: es, rest)) ∧
      takeEntries (fuel + 1) (textChars k ++ ':' :: (chars v ++ '\x7d' :: rest)) =
        some ([(.text k, v)], rest) := by
  have hquote : ∀ cs, skipGaps ('"' :: cs) = '"' :: cs := fun _ => rfl
  have hcolon : ∀ cs, skipGaps (':' :: cs) = ':' :: cs := fun _ => rfl
  constructor
  · obtain ⟨more, hmore, htake⟩ := takeText_textChars k (':' :: (chars v ++ ',' :: rest))
    have hvalue := hv.read fuel _ hfuel (ends_cons (.inl rfl) rest)
    rw [← hv.begins.skipGaps] at hvalue
    rw [hmore, takeEntries]
    simp only [hquote, htake, hcolon, hvalue]
    rfl
  · obtain ⟨more, hmore, htake⟩ := takeText_textChars k (':' :: (chars v ++ '\x7d' :: rest))
    have hvalue := hv.read fuel _ hfuel (ends_cons (.inr (.inr rfl)) rest)
    rw [← hv.begins.skipGaps] at hvalue
    rw [hmore, takeEntries]
    simp only [hquote, htake, hcolon, hvalue]
    rfl

/-- The entries of a mapping are read up to its end. -/
theorem takeEntries_entryChars (rest : List Char) : ∀ (e : String × Value) (es : List (String × Value))
    (fuel : Nat), (∀ f ∈ e :: es, IsReadBack f.2) → (entryChars (textEntries (e :: es))).length + 1 < fuel →
      takeEntries fuel (entryChars (textEntries (e :: es)) ++ '\x7d' :: rest) =
        some (textEntries (e :: es), rest)
  | _, _, 0, _, hfuel => absurd hfuel (Nat.not_lt_zero _)
  | (k, v), [], fuel + 1, hread, hfuel => by
    have hv : IsReadBack v := hread (k, v) List.mem_cons_self
    have hchars : entryChars (textEntries [(k, v)]) = textChars k ++ ':' :: chars v := rfl
    rw [hchars, List.length_append, List.length_cons] at hfuel
    rw [hchars, List.append_assoc, List.cons_append]
    exact (takeEntries_entry fuel k hv (by omega) rest).2
  | (k, v), f :: fs, fuel + 1, hread, hfuel => by
    have hv : IsReadBack v := hread (k, v) List.mem_cons_self
    have hrest : ∀ g ∈ f :: fs, IsReadBack g.2 := fun g hg => hread g (List.mem_cons_of_mem _ hg)
    have hchars : entryChars (textEntries ((k, v) :: f :: fs)) =
        textChars k ++ ':' :: chars v ++ ',' :: entryChars (textEntries (f :: fs)) := rfl
    rw [hchars, List.length_append, List.length_append, List.length_cons, List.length_cons] at hfuel
    have hkey : 0 < (textChars k).length := Nat.succ_pos _
    rw [hchars, List.append_assoc, List.append_assoc, List.cons_append, List.cons_append,
      (takeEntries_entry fuel k hv (by omega) _).1, takeEntries_entryChars rest f fs fuel hrest (by omega)]
    rfl

theorem putEntry_textEntries {k : String} (v : Value) {entries : List (String × Value)}
    (h : k ∉ entries.map Prod.fst) :
    Value.putEntry (.text k) v (textEntries entries) = textEntries (entries ++ [(k, v)]) := by
  induction entries with
  | nil => rfl
  | cons e es ih =>
    obtain ⟨q, w⟩ := e
    rw [List.map_cons, List.mem_cons, not_or] at h
    have hsame : Value.sameKey (.text q) (.text k) = false := beq_false_of_ne fun heq => h.1 heq.symm
    show (if Value.sameKey (.text q) (.text k) then _ else _) = _
    rw [hsame, if_neg Bool.false_ne_true, ← textEntries, ih h.2]
    rfl

theorem foldl_putEntry (entries : List (String × Value)) : ∀ before : List (String × Value),
    ((before ++ entries).map Prod.fst).Nodup →
      (textEntries entries).foldl (fun acc (k, v) => Value.putEntry k v acc) (textEntries before) =
        textEntries (before ++ entries) := by
  induction entries with
  | nil => intro before _; rw [List.append_nil]; rfl
  | cons e es ih =>
    intro before h
    obtain ⟨k, v⟩ := e
    have hsplit : before ++ (k, v) :: es = (before ++ [(k, v)]) ++ es := by
      rw [List.append_assoc, List.singleton_append]
    have hnew : k ∉ before.map Prod.fst := by
      rw [List.map_append, List.map_cons] at h
      exact fun hmem => (List.nodup_append.mp h).2.2 k hmem k List.mem_cons_self rfl
    show (textEntries es).foldl _ (Value.putEntry (.text k) v (textEntries before)) = _
    rw [putEntry_textEntries v hnew, hsplit]
    rw [hsplit] at h
    exact ih _ h

/-- **Entries under different texts are kept as they are.** -/
theorem collect_textEntries {entries : List (String × Value)} (h : (entries.map Prod.fst).Nodup) :
    Value.collect (textEntries entries) = textEntries entries :=
  foldl_putEntry entries [] h

theorem takeValue_brace (fuel : Nat) (cs : List Char) :
    takeValue (fuel + 1) ('\x7b' :: cs) =
      match skipGaps cs with
      | '\x7d' :: rest => some (.map [], rest)
      | rest => (takeEntries fuel rest).map fun (entries, rest) => (.map (Value.collect entries), rest) := by
  unfold takeValue
  rfl

theorem isReadBack_object {entries : List (String × Value)} (hkeys : (entries.map Prod.fst).Nodup)
    (h : ∀ e ∈ entries, IsReadBack e.2) : IsReadBack (.object entries) := by
  refine ⟨⟨'\x7b', _, rfl, rfl, by decide⟩, fun fuel rest hfuel _ => ?_⟩
  obtain ⟨fuel, rfl⟩ : ∃ n, fuel = n + 1 := ⟨fuel - 1, by omega⟩
  cases entries with
  | nil => rfl
  | cons e es =>
    have hchars : chars (.object (e :: es)) = '\x7b' :: entryChars (textEntries (e :: es)) ++ ['\x7d'] := by
      rw [Value.object, chars]
      rfl
    rw [hchars, List.length_append, List.length_cons, List.length_singleton] at hfuel
    rw [hchars, List.append_assoc, List.cons_append, List.singleton_append, takeValue_brace]
    obtain ⟨more, hmore⟩ : ∃ more, entryChars (textEntries (e :: es)) ++ '\x7d' :: rest = '"' :: more := by
      cases es with
      | nil => exact ⟨_, rfl⟩
      | cons f fs => exact ⟨_, rfl⟩
    have htake := takeEntries_entryChars rest e es fuel h (by omega)
    rw [hmore] at htake ⊢
    show (takeEntries fuel ('"' :: more)).map _ = _
    rw [htake]
    show some (Value.map (Value.collect (textEntries (e :: es))), rest) = _
    rw [collect_textEntries hkeys]
    rfl

/-- **Plain values are read back.** -/
theorem isReadBack_of_isPlain {v : Value} (h : v.IsPlain) : IsReadBack v := by
  induction h with
  | null => exact isReadBack_null
  | float x => exact isReadBack_float x
  | text s => exact isReadBack_text s
  | list _ ih => exact isReadBack_list ih
  | object hkeys _ ih => exact isReadBack_object hkeys ih

/-- **A plain value is read from its text.** -/
theorem read?_render_of_isPlain {v : Value} (h : v.IsPlain) : read? (render v) = some v := by
  have hv := isReadBack_of_isPlain h
  have hread := hv.read ((chars v).length + 1) [] (Nat.lt_succ_self _) ends_nil
  have hskip := hv.begins.skipGaps []
  rw [List.append_nil] at hread hskip
  unfold read? render
  rw [String.length_ofList, String.toList_ofList, hskip, hread]
  rfl

end Dripline.Json

namespace Dripline

/-- **A settled flow is read back from its columns.** -/
theorem AutomationTable.flowOfColumns_of_isSettled {f : Flow} (h : f.IsSettled) :
    flowOfColumns (Json.render f.nodesDocument) (Json.render f.edgesDocument) = .ok f := by
  unfold flowOfColumns
  rw [Json.read?_render_of_isPlain f.isPlain_nodesDocument,
    Json.read?_render_of_isPlain f.isPlain_edgesDocument]
  exact Flow.ofLists_documents h

end Dripline
