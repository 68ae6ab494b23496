import PromptLang.Json.Printer
import PromptLang.Json.Reader
import PromptLang.Proofs.WholeNumbers

/-! Compact JSON text read back. Reading stops where a value ends, so every value is followed by the text that comes after it. -/

namespace PromptLang.Json

/-- What may follow a value in compact text: the end, a comma or a closing bracket. -/
def Ends (rest : List Char) : Prop := rest = [] ∨ ∃ c tail, rest = c :: tail ∧ (c = ',' ∨ c = ']' ∨ c = '\x7d')

section Numbers

variable {n : Nat} {rest : List Char}

theorem Ends.takeWhile (h : Ends rest) : rest.takeWhile Char.isDigit = [] := by
  rcases h with rfl | ⟨c, tail, rfl, rfl | rfl | rfl⟩ <;> rfl

theorem Ends.dropWhile (h : Ends rest) : rest.dropWhile Char.isDigit = rest := by
  rcases h with rfl | ⟨c, tail, rfl, rfl | rfl | rfl⟩ <;> rfl

theorem Ends.fraction? (h : Ends rest) : fraction? rest = some ([], rest) := by
  rcases h with rfl | ⟨c, tail, rfl, rfl | rfl | rfl⟩ <;> rfl

theorem Ends.exponent? (h : Ends rest) : exponent? rest = some (0, rest) := by
  rcases h with rfl | ⟨c, tail, rfl, rfl | rfl | rfl⟩ <;> rfl

theorem isDigit_of_mem {c : Char} (h : c ∈ Nat.toDigits 10 n) : c.isDigit = true :=
  Nat.isDigit_of_mem_toDigits (by decide) (by decide) h

theorem splitMinus_digits (negative : Bool) :
    splitMinus ((if negative then ['-'] else []) ++ Nat.toDigits 10 n ++ rest) =
      (negative, Nat.toDigits 10 n ++ rest) := by
  cases negative with
  | true => rfl
  | false =>
    obtain ⟨c, cs, hdigits⟩ := List.exists_cons_of_ne_nil (@Nat.toDigits_ne_nil n 10)
    have hdigit : c.isDigit = true := isDigit_of_mem (hdigits ▸ List.mem_cons_self)
    have hminus : c ≠ '-' := by rintro rfl; cases hdigit
    simp only [hdigits, Bool.false_eq_true, if_false, List.nil_append, List.cons_append]
    rw [splitMinus]
    rintro cs' heq
    exact hminus (List.cons.inj heq).1

theorem number?_digits (negative : Bool) (hbound : n < 2 ^ 53) (hrest : Ends rest) :
    number? ((if negative then ['-'] else []) ++ Nat.toDigits 10 n ++ rest) =
      some (Number.applySign negative (Number.ofInt n), rest) := by
  have htake : (Nat.toDigits 10 n ++ rest).takeWhile Char.isDigit = Nat.toDigits 10 n := by
    rw [List.takeWhile_append_of_pos fun c hc => isDigit_of_mem hc, hrest.takeWhile, List.append_nil]
  have hdrop : (Nat.toDigits 10 n ++ rest).dropWhile Char.isDigit = rest := by
    rw [List.dropWhile_append_of_pos fun c hc => isDigit_of_mem hc, hrest.dropWhile]
  have hlead : (Nat.toDigits 10 n).head? = some '0' → (Nat.toDigits 10 n).length = 1 := fun hhead => by
    by_cases hzero : n = 0
    · rw [hzero]
      rfl
    · exact absurd hhead (Number.head?_toDigits hzero)
  have hvalue : Number.ofDecimal (Number.digitsValue (Nat.toDigits 10 n ++ [])) ((0 : Int) - ([] : List Char).length) =
      Number.ofInt n := by
    rw [List.append_nil, Number.digitsValue_toDigits]
    rfl
  have hwhole : Nat.toDigits 10 n ≠ [] ∧
      ((Nat.toDigits 10 n).head? = some '0' → (Nat.toDigits 10 n).length = 1) := ⟨Nat.toDigits_ne_nil, hlead⟩
  rw [number?]
  simp only [splitMinus_digits, htake, hdrop, guard, if_pos hwhole]
  show ((fraction? rest).bind _) = _
  rw [hrest.fraction?]
  show ((exponent? rest).bind _) = _
  rw [hrest.exponent?]
  simp only [Option.bind_some, hvalue, Number.isFinite_ofInt hbound]
  rfl

end Numbers

section Strings

theorem unit?_hexPair {n : Nat} (h : n < 32) : ∃ a b, hexPair n = [a, b] ∧ unit? '0' '0' a b = some n := by
  interval_cases n <;> exact ⟨_, _, rfl, rfl⟩

theorem stringBody?_control {c : Char} (h : c.toNat < 32) (cs : List Char) :
    stringBody? (['\\', 'u', '0', '0'] ++ hexPair c.toNat ++ cs) = consChar c (stringBody? cs) := by
  obtain ⟨a, b, hpair, hunit⟩ := unit?_hexPair h
  have hhigh : isHighSurrogate c.toNat = false := by simp [isHighSurrogate]; omega
  have hlow : isLowSurrogate c.toNat = false := by simp [isLowSurrogate]; omega
  simp [hpair, stringBody?, hunit, hhigh, hlow, Char.ofNat_toNat]

theorem stringBody?_short {kind c : Char} (h : shortEscape? kind = some c) (hkind : kind ≠ 'u') (cs : List Char) :
    stringBody? (['\\', kind] ++ cs) = consChar c (stringBody? cs) := by
  rw [List.cons_append, stringBody?.eq_def]
  simp [h, hkind]

theorem stringBody?_plain {c : Char} (hquote : c ≠ '"') (hslash : c ≠ '\\') (hprintable : ¬ c.toNat < 32)
    (cs : List Char) : stringBody? (c :: cs) = consChar c (stringBody? cs) := by
  rw [stringBody?.eq_def]
  simp only [if_neg hquote, if_neg hslash, if_neg hprintable]

theorem stringBody?_escapedChar (c : Char) (cs : List Char) :
    stringBody? (escapedChar c ++ cs) = consChar c (stringBody? cs) := by
  have hcode : ∀ n, c.toNat = n → c = Char.ofNat n := fun n h => h ▸ (Char.ofNat_toNat c).symm
  rw [escapedChar]
  split_ifs with hquote hslash hnewline hreturn htab hback hfeed hcontrol
  · rw [hquote]
    exact stringBody?_short rfl (by decide) cs
  · rw [hslash]
    exact stringBody?_short rfl (by decide) cs
  · rw [hnewline]
    exact stringBody?_short rfl (by decide) cs
  · rw [hreturn]
    exact stringBody?_short rfl (by decide) cs
  · rw [htab]
    exact stringBody?_short rfl (by decide) cs
  · rw [hcode 8 hback]
    exact stringBody?_short rfl (by decide) cs
  · rw [hcode 12 hfeed]
    exact stringBody?_short rfl (by decide) cs
  · exact stringBody?_control hcontrol cs
  · exact stringBody?_plain hquote hslash hcontrol cs

/-- A text comes back up to its closing quote. -/
theorem stringBody?_escaped (cs rest : List Char) :
    stringBody? (cs.flatMap escapedChar ++ '"' :: rest) = some (cs, rest) := by
  induction cs with
  | nil =>
    rw [List.flatMap_nil, List.nil_append, stringBody?.eq_def]
    rfl
  | cons c cs ih =>
    rw [List.flatMap_cons, List.append_assoc, stringBody?_escapedChar, ih]
    rfl

end Strings

/-- Trees whose compact text reads back: numbers are whole and of magnitude below `10^15`, a zero has no sign, no object repeats a
name, and containers nest at most so deep. -/
inductive Readable : Nat → Json → Prop where
  | null (depth : Nat) : Readable depth .null
  | bool (depth : Nat) (b : Bool) : Readable depth (.bool b)
  | number (depth : Nat) {x : Float} {n : Int} (h : Number.toInt? x = some n) (hzero : n = 0 → x = 0)
      (hbound : n.natAbs < Number.integerBound) : Readable depth (.number x)
  | string (depth : Nat) (s : String) : Readable depth (.string s)
  | array {depth : Nat} {items : List Json} (h : ∀ j ∈ items, Readable depth j) : Readable (depth + 1) (.array items)
  | object {depth : Nat} {members : List (String × Json)} (distinct : (Entries.keys members).Nodup)
      (h : ∀ kv ∈ members, Readable depth kv.2) : Readable (depth + 1) (.object members)

/-- A tree that is read back from the front of a text, given steps for each of its characters. -/
def ReadsBack (depth : Nat) (j : Json) : Prop :=
  ∀ fuel rest, (compactChars j).length ≤ fuel → Ends rest →
    readValue? fuel depth (compactChars j ++ rest) = some (j, rest)

theorem skipBlank_cons {c : Char} (h : isBlank c = false) (cs : List Char) : skipBlank (c :: cs) = c :: cs :=
  List.dropWhile_cons_of_neg (by simp [h])

theorem jsonText_whole {x : Float} {n : Int} (h : Number.toInt? x = some n)
    (hbound : n.natAbs < Number.integerBound) :
    (Number.jsonText x).toList = (if n < 0 then ['-'] else []) ++ Nat.toDigits 10 n.natAbs := by
  have hsmall : Number.smallInt? x = some n := by simp [Number.smallInt?, h, hbound]
  rw [Number.jsonText, hsmall, Number.toList_toString]

theorem jsonText_cons {x : Float} {n : Int} (h : Number.toInt? x = some n)
    (hbound : n.natAbs < Number.integerBound) : ∃ c cs, (Number.jsonText x).toList = c :: cs ∧
      isBlank c = false ∧ ∀ d : Char, d ≠ '-' → d.isDigit = false → c ≠ d := by
  obtain ⟨c, cs, htext, hc⟩ : ∃ c cs, (Number.jsonText x).toList = c :: cs ∧ (c = '-' ∨ c.isDigit = true) := by
    rw [jsonText_whole h hbound]
    obtain ⟨c, cs, hdigits⟩ := List.exists_cons_of_ne_nil (@Nat.toDigits_ne_nil n.natAbs 10)
    split
    · exact ⟨'-', _, rfl, .inl rfl⟩
    · exact ⟨c, cs, hdigits, .inr (isDigit_of_mem (hdigits ▸ List.mem_cons_self))⟩
  have hne : ∀ d : Char, d ≠ '-' → d.isDigit = false → c ≠ d := by
    rintro d hminus hdigit rfl
    rcases hc with rfl | hc
    · exact hminus rfl
    · rw [hdigit] at hc
      cases hc
  refine ⟨c, cs, htext, ?_, hne⟩
  simp [isBlank, hne ' ' (by decide) rfl, hne '\t' (by decide) rfl, hne '\n' (by decide) rfl,
    hne '\r' (by decide) rfl]

theorem number_readsBack (depth : Nat) {x : Float} {n : Int} (h : Number.toInt? x = some n)
    (hzero : n = 0 → x = 0) (hbound : n.natAbs < Number.integerBound) : ReadsBack depth (.number x) := by
  intro fuel rest hfuel hrest
  obtain ⟨c, cs, htext, hblank, hne⟩ := jsonText_cons h hbound
  have hread : number? ((Number.jsonText x).toList ++ rest) = some (x, rest) := by
    have hsmall : Number.integerBound < 2 ^ 52 := by decide
    have hnumber := number?_digits (decide (n < 0)) (show n.natAbs < 2 ^ 53 by omega) hrest
    rw [Number.applySign_ofInt h hzero (by omega)] at hnumber
    simpa only [jsonText_whole h hbound, decide_eq_true_eq] using hnumber
  have hchars : compactChars (.number x) = c :: cs := htext
  rw [htext, List.cons_append] at hread
  rw [hchars] at hfuel ⊢
  cases fuel with
  | zero => cases hfuel
  | succ fuel =>
    simp only [readValue?, List.cons_append, skipBlank_cons hblank, if_neg (hne '"' (by decide) rfl),
      if_neg (hne '[' (by decide) rfl), if_neg (hne '\x7b' (by decide) rfl), if_neg (hne 't' (by decide) rfl),
      if_neg (hne 'f' (by decide) rfl), if_neg (hne 'n' (by decide) rfl), hread]
    rfl

theorem string_readsBack (depth : Nat) (s : String) : ReadsBack depth (.string s) := by
  intro fuel rest hfuel _
  cases fuel with
  | zero => cases hfuel
  | succ fuel =>
    have hread := stringBody?_escaped s.toList rest
    have hchars : compactChars (.string s) ++ rest = '"' :: (s.toList.flatMap escapedChar ++ '"' :: rest) := by
      simp [compactChars, scalarChars, stringChars]
    rw [hchars, readValue?, skipBlank_cons (by decide)]
    simp only [if_true, hread, Option.map_some, String.ofList_toList]

theorem word_readsBack (depth : Nat) {j : Json} (h : j = .null ∨ ∃ b, j = .bool b) : ReadsBack depth j := by
  intro fuel rest hfuel _
  cases fuel with
  | zero => rcases h with rfl | ⟨_ | _, rfl⟩ <;> cases hfuel
  | succ fuel => rcases h with rfl | ⟨_ | _, rfl⟩ <;> rfl

theorem Readable.starts {depth : Nat} {j : Json} (h : Readable depth j) :
    ∃ c cs, compactChars j = c :: cs ∧ isBlank c = false ∧ c ≠ ']' := by
  cases h with
  | null => exact ⟨_, _, rfl, by decide, by decide⟩
  | bool _ b => cases b <;> exact ⟨_, _, rfl, by decide, by decide⟩
  | number _ h hzero hbound =>
    obtain ⟨c, cs, htext, hblank, hne⟩ := jsonText_cons h hbound
    exact ⟨c, cs, htext, hblank, hne ']' (by decide) rfl⟩
  | string _ s => exact ⟨_, _, rfl, by decide, by decide⟩
  | array h => exact ⟨_, _, rfl, by decide, by decide⟩
  | object distinct h => exact ⟨_, _, rfl, by decide, by decide⟩

theorem ends_itemsTail (items : List Json) (rest : List Char) : Ends (compactItemsTail items ++ ']' :: rest) := by
  cases items with
  | nil => exact .inr ⟨']', rest, rfl, .inr (.inl rfl)⟩
  | cons item items => exact .inr ⟨',', _, rfl, .inl rfl⟩

theorem readItems?_compact {depth : Nat} {item : Json} {items : List Json}
    (h : ∀ j ∈ item :: items, ReadsBack depth j) {fuel : Nat} (rest : List Char)
    (hfuel : (compactItems (item :: items)).length < fuel) :
    readItems? fuel depth (compactItems (item :: items) ++ ']' :: rest) = some (item :: items, rest) := by
  induction items generalizing item fuel with
  | nil =>
    obtain ⟨fuel, rfl⟩ := Nat.exists_eq_add_of_lt (Nat.zero_lt_of_lt hfuel)
    simp only [compactItems, compactItemsTail, List.append_nil] at hfuel ⊢
    have hitem := h item List.mem_cons_self fuel (']' :: rest) (by omega) (ends_itemsTail [] rest)
    rw [Nat.zero_add, readItems?, hitem]
    rfl
  | cons next items ih =>
    obtain ⟨fuel, rfl⟩ := Nat.exists_eq_add_of_lt (Nat.zero_lt_of_lt hfuel)
    have htail : compactItemsTail (next :: items) = ',' :: compactItems (next :: items) := rfl
    rw [compactItems, List.length_append, htail, List.length_cons] at hfuel
    have hitem := h item List.mem_cons_self fuel _ (by omega) (ends_itemsTail (next :: items) rest)
    have hitems := ih (fun j hj => h j (List.mem_cons_of_mem item hj)) (show _ < fuel by omega)
    rw [compactItems, List.append_assoc, Nat.zero_add, readItems?, hitem, htail]
    simp only [List.cons_append, skipBlank_cons (show isBlank ',' = false by decide), hitems]
    rfl

/-- A member is followed by the end of the object or by a comma and more members. -/
theorem readMembers?_first {depth fuel : Nat} {name : String} {value : Json} {tail : List Char}
    {result : Option (List (String × Json) × List Char)} (h : ReadsBack depth value)
    (hfuel : (compactChars value).length ≤ fuel)
    (htail : (∃ rest, tail = '\x7d' :: rest ∧ result = some ([(name, value)], rest)) ∨
      ∃ rest, tail = ',' :: rest ∧
        result = (readMembers? fuel depth rest).map fun more => ((name, value) :: more.1, more.2)) :
    readMembers? (fuel + 1) depth (stringChars name ++ ':' :: (compactChars value ++ tail)) = result := by
  have hends : Ends tail := by
    rcases htail with ⟨rest, rfl, _⟩ | ⟨rest, rfl, _⟩
    · exact .inr ⟨_, rest, rfl, .inr (.inr rfl)⟩
    · exact .inr ⟨_, rest, rfl, .inl rfl⟩
  have hname := stringBody?_escaped name.toList (':' :: (compactChars value ++ tail))
  have htext : stringChars name ++ ':' :: (compactChars value ++ tail) =
      '"' :: (name.toList.flatMap escapedChar ++ '"' :: ':' :: (compactChars value ++ tail)) := by
    simp [stringChars]
  rw [htext, readMembers?, skipBlank_cons (by decide)]
  simp only [hname, skipBlank_cons (show isBlank ':' = false by decide), h fuel tail hfuel hends,
    String.ofList_toList]
  rcases htail with ⟨rest, rfl, rfl⟩ | ⟨rest, rfl, rfl⟩
  · simp only [skipBlank_cons (show isBlank '\x7d' = false by decide)]
  · simp only [skipBlank_cons (show isBlank ',' = false by decide)]

theorem readMembers?_compact {depth : Nat} {member : String × Json} {members : List (String × Json)}
    (h : ∀ kv ∈ member :: members, ReadsBack depth kv.2) {fuel : Nat} (rest : List Char)
    (hfuel : (compactMembers (member :: members)).length < fuel) :
    readMembers? fuel depth (compactMembers (member :: members) ++ '\x7d' :: rest) =
      some (member :: members, rest) := by
  induction members generalizing member fuel with
  | nil =>
    obtain ⟨name, value⟩ := member
    have hvalue : ReadsBack depth value := h (name, value) List.mem_cons_self
    obtain ⟨fuel, rfl⟩ := Nat.exists_eq_add_of_lt (Nat.zero_lt_of_lt hfuel)
    simp only [compactMembers, compactMembersTail, List.append_nil, List.append_assoc, List.cons_append,
      List.length_append, List.length_cons, Nat.zero_add] at hfuel ⊢
    exact readMembers?_first hvalue (by omega) (.inl ⟨rest, rfl, rfl⟩)
  | cons next members ih =>
    obtain ⟨name, value⟩ := member
    have hvalue : ReadsBack depth value := h (name, value) List.mem_cons_self
    obtain ⟨fuel, rfl⟩ := Nat.exists_eq_add_of_lt (Nat.zero_lt_of_lt hfuel)
    have htail : compactMembersTail (next :: members) = ',' :: compactMembers (next :: members) := rfl
    rw [compactMembers, htail] at hfuel ⊢
    simp only [List.append_assoc, List.cons_append, List.length_append, List.length_cons, Nat.zero_add] at hfuel ⊢
    have hmembers := ih (fun kv hkv => h kv (List.mem_cons_of_mem _ hkv)) (show _ < fuel by omega)
    exact readMembers?_first hvalue (by omega) (.inr ⟨_, rfl, by rw [hmembers]; rfl⟩)

theorem readValue?_array {c : Char} (hblank : isBlank c = false) (hclose : c ≠ ']') (fuel depth : Nat)
    (cs : List Char) : readValue? (fuel + 1) (depth + 1) ('[' :: c :: cs) =
      (readItems? fuel depth (c :: cs)).map fun r => (.array r.1, r.2) := by
  rw [readValue?, skipBlank_cons (by decide)]
  simp only [skipBlank_cons hblank, if_true, if_neg (show '[' ≠ '"' by decide)]
  split
  case _ heq => exact absurd heq (Nat.succ_ne_zero depth)
  case _ heq => exact absurd (List.cons.inj heq).1 hclose
  case _ hdepth _ =>
    cases hdepth
    rfl

theorem readValue?_object (fuel depth : Nat) (cs : List Char) :
    readValue? (fuel + 1) (depth + 1) ('\x7b' :: '"' :: cs) =
      (readMembers? fuel depth ('"' :: cs)).map fun r => (.object (Entries.ofList r.1), r.2) := rfl

theorem array_readsBack {depth : Nat} {items : List Json} (h : ∀ j ∈ items, Readable depth j)
    (hback : ∀ j ∈ items, ReadsBack depth j) : ReadsBack (depth + 1) (.array items) := by
  intro fuel rest hfuel _
  cases fuel with
  | zero => cases hfuel
  | succ fuel =>
    cases items with
    | nil => rfl
    | cons item items =>
      obtain ⟨c, cs, hchars, hblank, hclose⟩ := (h item List.mem_cons_self).starts
      have hstart : compactItems (item :: items) ++ ']' :: rest =
          c :: (cs ++ (compactItemsTail items ++ ']' :: rest)) := by simp [compactItems, hchars]
      have hitems := readItems?_compact hback rest (show _ < fuel by simp [compactChars] at hfuel; omega)
      rw [compactChars, List.cons_append, List.cons_append, List.append_assoc, List.singleton_append]
      rw [hstart] at hitems ⊢
      rw [readValue?_array hblank hclose, hitems]
      rfl

theorem object_readsBack {depth : Nat} {members : List (String × Json)} (distinct : (Entries.keys members).Nodup)
    (hback : ∀ kv ∈ members, ReadsBack depth kv.2) : ReadsBack (depth + 1) (.object members) := by
  intro fuel rest hfuel _
  cases fuel with
  | zero => cases hfuel
  | succ fuel =>
    cases members with
    | nil => rfl
    | cons member members =>
      obtain ⟨cs, hstart⟩ : ∃ cs, compactMembers (member :: members) ++ '\x7d' :: rest = '"' :: cs := ⟨_, rfl⟩
      have hmembers := readMembers?_compact hback rest (show _ < fuel by simp [compactChars] at hfuel; omega)
      rw [compactChars, List.cons_append, List.cons_append, List.append_assoc, List.singleton_append]
      rw [hstart] at hmembers ⊢
      rw [readValue?_object, hmembers, Option.map_some, Entries.ofList_of_distinct distinct]

theorem Readable.readsBack {depth : Nat} {j : Json} (h : Readable depth j) : ReadsBack depth j := by
  induction h with
  | null depth => exact word_readsBack depth (.inl rfl)
  | bool depth b => exact word_readsBack depth (.inr ⟨b, rfl⟩)
  | number depth h hzero hbound => exact number_readsBack depth h hzero hbound
  | string depth s => exact string_readsBack depth s
  | array h ih => exact array_readsBack h ih
  | object distinct h ih => exact object_readsBack distinct ih

theorem read?_compact {depth : Nat} {j : Json} (h : Readable depth j) : read? depth j.compact = some j := by
  have hread := h.readsBack (2 * j.compact.length + 2) [] (by simp [compact]; omega) (.inl rfl)
  rw [read?, compact, String.toList_ofList]
  rw [List.append_nil, compact] at hread
  rw [hread]
  rfl

end PromptLang.Json
