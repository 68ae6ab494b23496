import PromptLang.Constraints
import PromptLang.Proofs.Computation
import PromptLang.Proofs.JsonNormalization
import PromptLang.Value.Text

/-! Settings are read key by key. Members go through JSON one after the other and the first that does not fit ends the reading, yet
success and the resulting record depend only on what each known key is given: not on the order of the members, not on unknown
keys, and not on members that JSON writes as null. -/

namespace PromptLang

namespace Number

theorem toInt?_ofInt {n : Nat} (hbound : n < 2 ^ 53) : toInt? (ofInt n) = some (n : Int) := by
  rcases Nat.eq_zero_or_pos n with rfl | hpos
  · rfl
  · have hlog := log2_lt_of_lt hpos hbound
    rw [toInt?, unpack_ofInt hpos hbound]
    by_cases hfull : n.log2 = 52
    · simp [hfull, fullMantissa, twoTo, Float.Model.UnpackedFloat.Sign.apply]
    · have hneg : ¬ (0 : Int) ≤ n.log2 - 52 := by omega
      have htwo : twoTo (-((n.log2 : Int) - 52)) = 2 ^ (52 - n.log2) := congrArg (Nat.pow 2) (by omega)
      have hmod : fullMantissa n % 2 ^ (52 - n.log2) = 0 := Nat.mul_mod_left _ _
      have hdiv : fullMantissa n / 2 ^ (52 - n.log2) = n := Nat.mul_div_cancel _ (Nat.two_pow_pos _)
      simp only [hneg, if_false, htwo, hmod, if_true, ← Int.natCast_ediv, hdiv]
      rfl

theorem smallInt?_unsigned (x : Float) : smallInt? (unsigned x) = smallInt? x := apply_unsigned smallInt? (by decide) x

theorem unsigned_beq {x : Float} (h : x.isFinite = true) : (x == unsigned x) = true :=
  beq_iff_unsigned.2 ⟨(unsigned_unsigned x).symm, isNaN_of_isFinite h⟩

theorem smallInt?_eq_count_iff {x : Float} {n : Nat} (hbound : n < 2 ^ 32) :
    smallInt? x = some (n : Int) ↔ (x == ofInt n) = true := by
  constructor
  · intro h
    rw [ofInt_of_smallInt? h]
    exact unsigned_beq (isFinite_of_smallInt? h)
  · intro h
    have hsmall : n < integerBound := Nat.lt_trans hbound (by decide)
    rw [← smallInt?_unsigned, (beq_iff_unsigned.1 h).1, smallInt?_unsigned, smallInt?, toInt?_ofInt (by omega),
      Option.filter_some, if_pos (by simpa using hsmall)]

end Number

namespace Entries

variable {α : Type}

theorem get?_of_perm {es fs : Entries α} (distinct : es.keys.Nodup) (h : fs.Perm es) (key : String) : fs.get? key = es.get? key := by
  have hkeys : fs.keys.Perm es.keys := h.map Prod.fst
  cases hget : es.get? key with
  | some value => exact get?_of_mem (hkeys.nodup_iff.2 distinct) (h.mem_iff.2 (mem_of_get? hget))
  | none => exact get?_eq_none fun hkey => notMem_keys_of_get? hget (hkeys.mem_iff.1 hkey)

theorem keys_filter_nodup {es : Entries α} (distinct : es.keys.Nodup) (keep : String × α → Bool) :
    (Entries.keys (es.filter keep)).Nodup :=
  distinct.sublist (List.filter_sublist.map Prod.fst)

theorem get?_filter {es : Entries α} (distinct : es.keys.Nodup) (keep : α → Bool) (key : String) :
    Entries.get? key (es.filter (keep ·.2)) = (es.get? key).filter keep := by
  cases hget : es.get? key with
  | none =>
    refine get?_eq_none fun hkey => notMem_keys_of_get? hget ?_
    exact (List.filter_sublist.map Prod.fst).mem hkey
  | some value =>
    have hmem := mem_of_get? hget
    cases hkeep : keep value with
    | true =>
      rw [Option.filter_some, if_pos hkeep]
      exact get?_of_mem (keys_filter_nodup distinct _) (List.mem_filter.2 ⟨hmem, hkeep⟩)
    | false =>
      rw [Option.filter_some, if_neg (by simp [hkeep])]
      refine get?_eq_none fun hkey => ?_
      obtain ⟨⟨other, kept⟩, hother, rfl⟩ := List.mem_map.1 hkey
      obtain ⟨hother, hkept⟩ := List.mem_filter.1 hother
      have hsame := get?_of_mem distinct hother
      rw [hget] at hsame
      cases hsame
      rw [hkeep] at hkept
      cases hkept

end Entries

/-- What JSON writes as null: null itself and the numbers that it lacks. -/
def Value.isAbsent : Value → Bool
  | .null => true
  | .num x => !x.isFinite
  | _ => false

namespace Setting

/-- What a setting is given. -/
inductive Content where
  | count (n : Nat)
  | number (x : Float)
  | text (s : String)

def numeric : List Setting := [temperature, topP, frequencyPenalty, presencePenalty]

inductive Takes : Setting → Value → Content → Prop where
  /-- A number equal to a count of 32 bits. -/
  | count {x : Float} {n : Nat} (whole : (x == Number.ofInt n) = true) (fits : n < 2 ^ 32) : Takes maxTokens (.num x) (.count n)
  /-- Any finite number; a zero loses its sign. -/
  | number {setting : Setting} {x : Float} (takes : setting ∈ numeric) (finite : x.isFinite = true) :
    Takes setting (.num x) (.number (Number.unsigned x))
  | text (s : String) : Takes model (.str s) (.text s)
  | function (hook : Hook) : Takes model (.function hook) (.text (Value.function hook).text)

/-- A value is read as nothing if it is absent, and otherwise as what it gives the setting. -/
def Reads (setting : Setting) (v : Value) (r : Option Content) : Prop :=
  v.isAbsent = true ∧ r = none ∨ ∃ content, setting.Takes v content ∧ r = some content

theorem Takes.not_absent {setting : Setting} {v : Value} {content : Content} (h : setting.Takes v content) : v.isAbsent = false := by
  cases h with
  | count whole fits =>
    rw [Value.isAbsent, Number.isFinite_of_smallInt? ((Number.smallInt?_eq_count_iff fits).2 whole)]
    rfl
  | number _ finite => rw [Value.isAbsent, finite]; rfl
  | text => rfl
  | function => rfl

theorem Takes.unique {setting : Setting} {v : Value} {a b : Content} (ha : setting.Takes v a) (hb : setting.Takes v b) : a = b := by
  cases ha with
  | count whole fits =>
    cases hb with
    | count whole' fits' =>
      have hm := (Number.smallInt?_eq_count_iff fits).2 whole
      have hn := (Number.smallInt?_eq_count_iff fits').2 whole'
      rw [hm, Option.some.injEq, Int.natCast_inj] at hn
      rw [hn]
    | number takes => exact absurd takes (by decide)
  | number takes =>
    cases hb with
    | count => exact absurd takes (by decide)
    | number => rfl
  | text => cases hb; rfl
  | function => cases hb; rfl

theorem reads_some_iff {setting : Setting} {v : Value} {content : Content} :
    setting.Reads v (some content) ↔ setting.Takes v content := by
  simp [Reads]

theorem reads_of_absent {setting : Setting} {v : Value} (h : v.isAbsent = true) {r : Option Content} :
    setting.Reads v r ↔ r = none := by
  constructor
  · rintro (⟨-, hr⟩ | ⟨content, htakes, -⟩)
    · exact hr
    · rw [htakes.not_absent] at h
      cases h
  · exact fun hr => .inl ⟨h, hr⟩

theorem Reads.unique {setting : Setting} {v : Value} {r s : Option Content} (hr : setting.Reads v r) (hs : setting.Reads v s) :
    r = s := by
  rcases hr with ⟨habsent, rfl⟩ | ⟨a, ha, rfl⟩
  · exact ((reads_of_absent habsent).1 hs).symm
  · rcases hs with ⟨habsent, -⟩ | ⟨b, hb, rfl⟩
    · rw [ha.not_absent] at habsent
      cases habsent
    · rw [ha.unique hb]

theorem key_injective {s t : Setting} (h : s.key = t.key) : s = t := by
  revert h
  cases s <;> cases t <;> decide

theorem ofKey?_key (setting : Setting) : ofKey? setting.key = some setting := by
  cases setting <;> decide

theorem key_of_ofKey? {key : String} {setting : Setting} (h : ofKey? key = some setting) : key = setting.key := by
  have hfound := List.find?_some (p := fun s : Setting => decide (s.key = key)) h
  exact (of_decide_eq_true hfound).symm

theorem mem_keys_iff {key : String} : key ∈ all.map Setting.key ↔ (ofKey? key).isSome = true := by
  simp [ofKey?]

end Setting

namespace Constraints

open Setting

/-- The field of a setting. -/
def field (c : Constraints) : Setting → Option Content
  | .maxTokens => c.maxTokens.map .count
  | .temperature => c.temperature.map .number
  | .topP => c.topP.map .number
  | .frequencyPenalty => c.frequencyPenalty.map .number
  | .presencePenalty => c.presencePenalty.map .number
  | .model => c.model.map .text

theorem field_empty (setting : Setting) : ({} : Constraints).field setting = none := by
  cases setting <;> rfl

theorem field_injective {c c' : Constraints} (h : ∀ setting, c.field setting = c'.field setting) : c = c' := by
  have hnumber : Function.Injective Content.number := fun _ _ h => Content.number.inj h
  have hmaxTokens := Option.map_injective (fun _ _ h => Content.count.inj h) (h .maxTokens)
  have htemperature := Option.map_injective hnumber (h .temperature)
  have htopP := Option.map_injective hnumber (h .topP)
  have hfrequency := Option.map_injective hnumber (h .frequencyPenalty)
  have hpresence := Option.map_injective hnumber (h .presencePenalty)
  have hmodel := Option.map_injective (fun _ _ h => Content.text.inj h) (h .model)
  cases c
  cases c'
  simp_all

/-! One setting: what its reader makes of a value is what the value gives the setting. -/

theorem toJson_of_finite {x : Float} (h : x.isFinite = true) : (Value.num x).toJson = .number (Number.unsigned x) := by
  rw [Value.toJson, Value.jsonNumber_eq, Json.ofFloat, Number.isFinite_unsigned, if_pos h]

theorem toJson_of_absent {v : Value} (h : v.isAbsent = true) : v.toJson = .null := by
  cases v with
  | null => rfl
  | num x =>
    have hx : ¬ x.isFinite = true := by simpa [Value.isAbsent] using h
    rw [Value.toJson, Value.jsonNumber_eq, Json.ofFloat, Number.isFinite_unsigned, if_neg hx]
  | _ => cases h

section Readers

variable {v : Value} (hpresent : v.isAbsent = false)
include hpresent

theorem readCount_eq_ok {r : Option Nat} (h : readCount v.toJson = .ok r) : Setting.maxTokens.Reads v (r.map .count) := by
  cases v with
  | null => cases hpresent
  | num x =>
    rw [toJson_of_finite (by simpa [Value.isAbsent] using hpresent), readCount, Number.smallInt?_unsigned] at h
    split at h
    · next n hn =>
      split at h
      · next hfits =>
        cases h
        exact reads_some_iff.2 (.count ((Number.smallInt?_eq_count_iff hfits).1 hn) hfits)
      · cases h
    · cases h
    · cases h
  | _ => cases h

theorem readNumber_eq_ok {setting : Setting} (hs : setting ∈ numeric) {r : Option Float} (h : readNumber v.toJson = .ok r) :
    setting.Reads v (r.map .number) := by
  cases v with
  | null => cases hpresent
  | num x =>
    have hfinite : x.isFinite = true := by simpa [Value.isAbsent] using hpresent
    rw [toJson_of_finite hfinite] at h
    cases h
    exact reads_some_iff.2 (.number hs hfinite)
  | _ => cases h

theorem readString_eq_ok {r : Option String} (h : readString v.toJson = .ok r) : Setting.model.Reads v (r.map .text) := by
  cases v with
  | null => cases hpresent
  | num x =>
    rw [toJson_of_finite (by simpa [Value.isAbsent] using hpresent)] at h
    cases h
  | str s => cases h; exact reads_some_iff.2 (.text s)
  | function hook => cases h; exact reads_some_iff.2 (.function hook)
  | _ => cases h

end Readers

variable {c c' : Constraints}

theorem set_null (c : Constraints) (setting : Setting) :
    ∃ c', c.set .null setting = .ok c' ∧ c'.field setting = none := by
  cases setting <;> exact ⟨_, rfl, rfl⟩

/-- A step keeps the other fields. -/
theorem field_of_set {j : Json} {setting : Setting} (h : c.set j setting = .ok c') {other : Setting} (hother : other ≠ setting) :
    c'.field other = c.field other := by
  cases setting <;> obtain ⟨r, -, rfl⟩ := map_eq_ok h <;> cases other <;> trivial

theorem reads_of_set {v : Value} {setting : Setting} (h : c.set v.toJson setting = .ok c') :
    setting.Reads v (c'.field setting) := by
  cases habsent : v.isAbsent with
  | true =>
    rw [toJson_of_absent habsent] at h
    obtain ⟨cleared, hset, hnone⟩ := set_null c setting
    rw [h] at hset
    cases hset
    exact .inl ⟨habsent, hnone⟩
  | false =>
    cases setting <;> obtain ⟨r, hread, rfl⟩ := map_eq_ok h
    case maxTokens => exact readCount_eq_ok habsent hread
    case model => exact readString_eq_ok habsent hread
    all_goals exact readNumber_eq_ok habsent (by decide) hread

theorem exists_set {v : Value} {setting : Setting} {r : Option Content} (h : setting.Reads v r) (c : Constraints) :
    ∃ c', c.set v.toJson setting = .ok c' := by
  rcases h with ⟨habsent, -⟩ | ⟨content, htakes, -⟩
  · rw [toJson_of_absent habsent]
    obtain ⟨c', hset, -⟩ := set_null c setting
    exact ⟨c', hset⟩
  · cases htakes with
    | @count x n whole fits =>
      have hint := (Number.smallInt?_eq_count_iff fits).2 whole
      have hread : readCount (.number (Number.unsigned x)) = .ok (some n) := by
        rw [readCount, Number.smallInt?_unsigned, hint]
        exact if_pos fits
      rw [toJson_of_finite (Number.isFinite_of_smallInt? hint), set, hread]
      exact ⟨_, rfl⟩
    | number takes finite =>
      rw [toJson_of_finite finite]
      simp only [numeric, List.mem_cons, List.not_mem_nil, or_false] at takes
      rcases takes with rfl | rfl | rfl | rfl <;> exact ⟨_, rfl⟩
    | text => exact ⟨_, rfl⟩
    | function => exact ⟨_, rfl⟩

/-! All members: the invariant is what each field of the record comes from. -/

/-- Every field comes from the member under its key, or is as before if there is none. -/
def Follows (c : Constraints) (members : Entries Value) (c' : Constraints) : Prop :=
  ∀ setting : Setting,
    (members.get? setting.key).elim (c'.field setting = c.field setting) fun v => setting.Reads v (c'.field setting)

theorem Follows.unique {members : Entries Value} {c₁ c₂ : Constraints} (h₁ : Follows c members c₁) (h₂ : Follows c members c₂) :
    c₁ = c₂ := by
  refine field_injective fun setting => ?_
  have hfirst := h₁ setting
  have hsecond := h₂ setting
  cases hget : members.get? setting.key with
  | none =>
    rw [hget] at hfirst hsecond
    exact hfirst.trans hsecond.symm
  | some v =>
    rw [hget] at hfirst hsecond
    exact hfirst.unique hsecond

theorem setMembers_unknown {key : String} (h : ofKey? key = none) (c : Constraints) (j : Json) (rest : List (String × Json)) :
    c.setMembers ((key, j) :: rest) = c.setMembers rest := by
  simp only [setMembers, h]
  rfl

theorem setMembers_known (setting : Setting) (c : Constraints) (j : Json) (rest : List (String × Json)) :
    c.setMembers ((setting.key, j) :: rest) = c.set j setting >>= fun c => c.setMembers rest := by
  simp only [setMembers, ofKey?_key]

theorem follows_of_setMembers {members : Entries Value} (distinct : members.keys.Nodup)
    (h : c.setMembers (Value.toJsonMembers members) = .ok c') : Follows c members c' := by
  induction members generalizing c with
  | nil =>
    cases h
    exact fun _ => rfl
  | cons entry rest ih =>
    obtain ⟨key, v⟩ := entry
    obtain ⟨hkey, hrest⟩ := List.nodup_cons.1 distinct
    rw [Value.toJsonMembers] at h
    intro setting
    cases hknown : ofKey? key with
    | none =>
      have hne : key ≠ setting.key := fun heq => by
        rw [heq, ofKey?_key] at hknown
        cases hknown
      rw [setMembers_unknown hknown] at h
      rw [Entries.get?, if_neg hne]
      exact ih hrest h setting
    | some known =>
      obtain rfl := key_of_ofKey? hknown
      rw [setMembers_known] at h
      obtain ⟨c₁, hset, h⟩ := bind_eq_ok.1 h
      have hfollows := ih hrest h setting
      by_cases heq : setting = known
      · subst heq
        -- no later member has the key, so the field stays as it was read here
        rw [Entries.get?_eq_none hkey, Option.elim_none] at hfollows
        rw [Entries.get?, if_pos rfl, Option.elim_some, hfollows]
        exact reads_of_set hset
      · rw [Entries.get?, if_neg fun hkeys => heq (key_injective hkeys).symm, ← field_of_set hset heq]
        exact hfollows

theorem exists_setMembers {members : Entries Value} (distinct : members.keys.Nodup)
    (h : ∀ (setting : Setting) v, members.get? setting.key = some v → ∃ r, setting.Reads v r) (c : Constraints) :
    ∃ c', c.setMembers (Value.toJsonMembers members) = .ok c' := by
  induction members generalizing c with
  | nil => exact ⟨c, rfl⟩
  | cons entry rest ih =>
    obtain ⟨key, v⟩ := entry
    obtain ⟨hkey, hrest⟩ := List.nodup_cons.1 distinct
    have hlater : ∀ (setting : Setting) w, Entries.get? setting.key rest = some w → ∃ r, setting.Reads w r := by
      intro setting w hw
      have hne : key ≠ setting.key := by
        rintro rfl
        rw [Entries.get?_eq_none hkey] at hw
        cases hw
      exact h setting w (by rw [Entries.get?, if_neg hne, hw])
    rw [Value.toJsonMembers]
    cases hknown : ofKey? key with
    | none =>
      rw [setMembers_unknown hknown]
      exact ih hrest hlater c
    | some known =>
      obtain rfl := key_of_ofKey? hknown
      obtain ⟨r, hreads⟩ := h known v (by rw [Entries.get?, if_pos rfl])
      obtain ⟨c₁, hset⟩ := exists_set hreads c
      obtain ⟨c', hc'⟩ := ih hrest hlater c₁
      rw [setMembers_known]
      exact ⟨c', bind_eq_ok.2 ⟨c₁, hset, hc'⟩⟩

/-- The record of an object is the one that follows its members. -/
theorem setMembers_eq_ok_iff {members : Entries Value} (distinct : members.keys.Nodup) :
    c.setMembers (Value.toJsonMembers members) = .ok c' ↔ Follows c members c' := by
  refine ⟨follows_of_setMembers distinct, fun h => ?_⟩
  have hreads : ∀ (setting : Setting) v, members.get? setting.key = some v → ∃ r, setting.Reads v r := by
    intro setting v hv
    have hsetting := h setting
    rw [hv] at hsetting
    exact ⟨_, hsetting⟩
  obtain ⟨c₁, hc₁⟩ := exists_setMembers distinct hreads c
  rw [hc₁, (follows_of_setMembers distinct hc₁).unique h]

theorem setMembers_filter_known (members : Entries Value) (c : Constraints) :
    c.setMembers (Value.toJsonMembers (members.filter fun entry => entry.1 ∈ Setting.all.map Setting.key)) =
      c.setMembers (Value.toJsonMembers members) := by
  induction members generalizing c with
  | nil => rfl
  | cons entry rest ih =>
    obtain ⟨key, v⟩ := entry
    cases hknown : ofKey? key with
    | none => rw [List.filter_cons_of_neg (by simp [mem_keys_iff, hknown]), ih, Value.toJsonMembers, setMembers_unknown hknown]
    | some known =>
      obtain rfl := key_of_ofKey? hknown
      rw [List.filter_cons_of_pos (by simp [mem_keys_iff, ofKey?_key]), Value.toJsonMembers, Value.toJsonMembers,
        setMembers_known, setMembers_known]
      exact congrArg (c.set v.toJson known >>= ·) (funext ih)

/-- An absent member might as well be left out. -/
theorem follows_filter_present {members : Entries Value} (distinct : members.keys.Nodup) :
    Follows {} (members.filter fun entry => !entry.2.isAbsent) c' ↔ Follows {} members c' := by
  refine forall_congr' fun setting => ?_
  rw [Entries.get?_filter distinct (fun v => !v.isAbsent)]
  cases members.get? setting.key with
  | none => rfl
  | some v =>
    cases habsent : v.isAbsent with
    | true =>
      rw [Option.filter_some, if_neg (by simp [habsent]), Option.elim_none, Option.elim_some, field_empty, reads_of_absent habsent]
    | false => rw [Option.filter_some, if_pos (by simp [habsent])]

/-! An object as a whole. -/

theorem setMembers_succeeds_iff {members : Entries Value} (distinct : members.keys.Nodup) :
    (∃ c, setMembers {} (Value.toJsonMembers members) = .ok c) ↔
      ∀ (setting : Setting) v, members.get? setting.key = some v → v.isAbsent = true ∨ ∃ content, setting.Takes v content := by
  constructor
  · rintro ⟨c, hc⟩ setting v hv
    have hsetting := follows_of_setMembers distinct hc setting
    rw [hv] at hsetting
    rcases hsetting with ⟨habsent, -⟩ | ⟨content, htakes, -⟩
    · exact .inl habsent
    · exact .inr ⟨content, htakes⟩
  · intro h
    refine exists_setMembers distinct (fun setting v hv => ?_) {}
    rcases h setting v hv with habsent | ⟨content, htakes⟩
    · exact ⟨none, .inl ⟨habsent, rfl⟩⟩
    · exact ⟨some content, reads_some_iff.2 htakes⟩

theorem Follows.field_iff {members : Entries Value} (h : Follows {} members c) {setting : Setting} {content : Content} :
    c.field setting = some content ↔ ∃ v, members.get? setting.key = some v ∧ setting.Takes v content := by
  have hsetting := h setting
  cases hget : members.get? setting.key with
  | none =>
    rw [hget, Option.elim_none, field_empty] at hsetting
    simp [hsetting]
  | some v =>
    rw [hget, Option.elim_some] at hsetting
    constructor
    · intro hfield
      rw [hfield] at hsetting
      exact ⟨v, rfl, reads_some_iff.1 hsetting⟩
    · rintro ⟨_, ⟨⟩, htakes⟩
      exact hsetting.unique (reads_some_iff.2 htakes)

theorem toOption_setMembers_congr {xs ys : Entries Value} (hxs : xs.keys.Nodup) (hys : ys.keys.Nodup)
    (h : ∀ c, Follows {} xs c ↔ Follows {} ys c) :
    (setMembers {} (Value.toJsonMembers xs)).toOption = (setMembers {} (Value.toJsonMembers ys)).toOption :=
  toOption_congr fun c => (setMembers_eq_ok_iff hxs).trans ((h c).trans (setMembers_eq_ok_iff hys).symm)

/-- Reading an object is reading its known keys. It succeeds exactly if each of them is given an absent value or one that its setting takes,
and the record then holds what the values give. Neither the order of the members nor unknown or absent ones change the record
or whether there is one. -/
theorem settings_are_read_per_key (members : Entries Value) (hdistinct : members.keys.Nodup) :
    ((∃ c, ofValue? (some (.object members)) = .ok c) ↔
      ∀ (setting : Setting) v, members.get? setting.key = some v → v.isAbsent = true ∨ ∃ content, setting.Takes v content) ∧
    (∀ c, ofValue? (some (.object members)) = .ok c → ∀ (setting : Setting) content,
      c.field setting = some content ↔ ∃ v, members.get? setting.key = some v ∧ setting.Takes v content) ∧
    (∀ other : Entries Value, other.Perm members →
      (ofValue? (some (.object other))).toOption = (ofValue? (some (.object members))).toOption) ∧
    (∀ other : Entries Value,
      other.filter (fun entry => entry.1 ∈ Setting.all.map Setting.key) =
        members.filter (fun entry => entry.1 ∈ Setting.all.map Setting.key) →
          ofValue? (some (.object other)) = ofValue? (some (.object members))) ∧
    ∀ other : Entries Value, other.keys.Nodup →
      other.filter (fun entry => !entry.2.isAbsent) = members.filter (fun entry => !entry.2.isAbsent) →
        (ofValue? (some (.object other))).toOption = (ofValue? (some (.object members))).toOption := by
  have hread (entries : Entries Value) : ofValue? (some (.object entries)) = setMembers {} (Value.toJsonMembers entries) := rfl
  simp only [hread]
  refine ⟨setMembers_succeeds_iff hdistinct, ?_, ?_, ?_, ?_⟩
  · intro c hc setting content
    exact (follows_of_setMembers hdistinct hc).field_iff
  · intro other hperm
    refine toOption_setMembers_congr ((hperm.map Prod.fst).nodup_iff.2 hdistinct) hdistinct fun c => ?_
    simp only [Follows, Entries.get?_of_perm hdistinct hperm]
  · intro other hknown
    rw [← setMembers_filter_known other, hknown, setMembers_filter_known]
  · intro other hother hpresent
    refine toOption_setMembers_congr hother hdistinct fun c => ?_
    rw [← follows_filter_present hother, hpresent, follows_filter_present hdistinct]

/-- A count, a negative zero, a number that JSON lacks, an unknown key and a function for the model. -/
def sampling : Entries Value :=
  [("maxTokens", .num 256), ("temperature", .num (-0)), ("topP", .num Number.nan), ("seed", .str "7"),
    ("model", .function ⟨"large", "given", []⟩)]

/-- The members can be read, also backwards, and the temperature is a zero without sign. -/
theorem sampling_is_read : sampling.keys.Nodup ∧ ∃ c, ofValue? (some (.object sampling)) = .ok c ∧
    c.field .maxTokens = some (.count 256) ∧ c.field .temperature = some (.number 0) ∧ c.field .topP = none ∧
    c.field .model = some (.text "[hook large]") ∧
    (ofValue? (some (.object sampling.reverse))).toOption = some c := by
  have hdistinct : sampling.keys.Nodup := by decide
  obtain ⟨-, hfields, horder, -, -⟩ := settings_are_read_per_key sampling hdistinct
  obtain ⟨c, hc⟩ : ∃ c, ofValue? (some (.object sampling)) = .ok c := ⟨_, rfl⟩
  have htopP : ∀ content, c.field .topP ≠ some content := by
    intro content hcontent
    obtain ⟨v, hv, htakes⟩ := (hfields c hc .topP content).1 hcontent
    cases hv
    cases htakes.not_absent
  refine ⟨hdistinct, c, hc, ?_, ?_, Option.eq_none_iff_forall_ne_some.2 htopP, ?_, ?_⟩
  · exact (hfields c hc .maxTokens _).2 ⟨.num 256, rfl, .count (by decide) (by decide)⟩
  · exact (hfields c hc .temperature _).2 ⟨.num (-0), rfl, .number (by decide) (by decide)⟩
  · exact (hfields c hc .model _).2 ⟨_, rfl, .function _⟩
  · rw [horder _ (List.reverse_perm _), hc]
    rfl

end Constraints

end PromptLang
