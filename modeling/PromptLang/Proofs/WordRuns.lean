import PromptLang.Proofs.FirstOccurrences
import PromptLang.Text.Basic

/-! Words as runs. A word of a text is a run of characters that do not separate and that cannot be made longer at either end. Cutting a
text at its separators lists its words in the order of their positions. -/

namespace PromptLang.Text

variable {sep : Char → Bool}

/-- At position `pos` a word begins: no character of it separates, and those around it do. -/
structure WordAt (sep : Char → Bool) (text : List Char) (pos : Nat) (word : List Char) : Prop where
  notEmpty : word ≠ []
  inside : ∀ c ∈ word, sep c = false
  around : ∃ before after, text = before ++ word ++ after ∧ before.length = pos ∧
    (∀ c, before.getLast? = some c → sep c = true) ∧ ∀ c, after.head? = some c → sep c = true

/-- A text is a front without separators, or such a front with a separator and a further text behind it. -/
theorem separated_induction (sep : Char → Bool) {motive : List Char → Prop} (plain : ∀ text, (∀ c ∈ text, sep c = false) → motive text)
    (cut : ∀ front c rest, (∀ d ∈ front, sep d = false) → sep c = true → motive rest → motive (front ++ c :: rest))
    (text : List Char) : motive text := by
  suffices hfront : ∀ front, (∀ c ∈ front, sep c = false) → motive (front ++ text) from hfront [] (by simp)
  induction text with
  | nil =>
    intro front hfront
    rw [List.append_nil]
    exact plain front hfront
  | cons c rest ih =>
    intro front hfront
    by_cases hc : sep c = true
    · exact cut front c rest hfront hc (ih [] (by simp))
    · rw [List.append_cons]
      refine ih (front ++ [c]) fun d hd => ?_
      rcases List.mem_append.1 hd with hd | hd
      · exact hfront d hd
      · rw [List.mem_singleton.1 hd]
        exact Bool.eq_false_iff.2 hc

theorem pieces_ne_nil (sep : Char → Bool) (text : List Char) : pieces sep text ≠ [] := by
  cases text with
  | nil => simp [pieces]
  | cons c rest =>
    unfold pieces
    split
    · simp
    · cases pieces sep rest <;> simp [consFirst]

theorem pieces_separated {c : Char} (hc : sep c = true) (front rest : List Char) :
    pieces sep (front ++ c :: rest) = pieces sep front ++ pieces sep rest := by
  induction front with
  | nil => simp [pieces, hc]
  | cons d front ih =>
    simp only [List.cons_append, pieces, ih]
    split
    · rfl
    · rw [consFirst_append d (pieces_ne_nil sep front)]

/-- No word reaches across a separator. -/
theorem words_separated {c : Char} (hc : sep c = true) (front rest : List Char) :
    words sep (front ++ c :: rest) = words sep front ++ words sep rest := by
  rw [words, pieces_separated hc, List.filter_append]
  rfl

theorem pieces_plain {text : List Char} (h : ∀ c ∈ text, sep c = false) : pieces sep text = [text] := by
  induction text with
  | nil => rfl
  | cons c rest ih =>
    obtain ⟨hc, hrest⟩ := List.forall_mem_cons.1 h
    simp [pieces, hc, ih hrest, consFirst]

namespace WordAt

variable {text word : List Char} {pos : Nat}

theorem of_plain (h : ∀ c ∈ text, sep c = false) (hword : WordAt sep text pos word) : pos = 0 ∧ word = text := by
  obtain ⟨before, after, rfl, rfl, hbefore, hafter⟩ := hword.around
  have hnoBefore : before = [] := by
    by_contra hne
    have hlast := hbefore _ (List.getLast?_eq_some_getLast hne)
    rw [h _ (by simp)] at hlast
    cases hlast
  have hnoAfter : after = [] := by
    by_contra hne
    have hhead := hafter _ (List.head?_eq_some_head hne)
    rw [h _ (by simp)] at hhead
    cases hhead
  simp [hnoBefore, hnoAfter]

theorem plain (h : ∀ c ∈ text, sep c = false) (hne : text ≠ []) : WordAt sep text 0 text :=
  ⟨hne, h, [], [], by simp, rfl, by simp, by simp⟩

theorem before_separator {front : List Char} {c : Char} (hc : sep c = true) (rest : List Char) (h : WordAt sep front pos word) :
    WordAt sep (front ++ c :: rest) pos word := by
  obtain ⟨before, after, rfl, hpos, hbefore, hafter⟩ := h.around
  refine ⟨h.notEmpty, h.inside, before, after ++ c :: rest, by simp, hpos, hbefore, ?_⟩
  intro d hd
  rw [List.head?_append] at hd
  rcases Option.or_eq_some_iff.1 hd with hd | ⟨-, hd⟩
  · exact hafter d hd
  · cases hd
    exact hc

theorem behind_separator {c : Char} (hc : sep c = true) (front : List Char) {rest : List Char} (h : WordAt sep rest pos word) :
    WordAt sep (front ++ c :: rest) (front.length + 1 + pos) word := by
  obtain ⟨before, after, rfl, rfl, hbefore, hafter⟩ := h.around
  refine ⟨h.notEmpty, h.inside, front ++ c :: before, after, by simp, by simp; omega, ?_, hafter⟩
  intro d hd
  rw [List.append_cons, List.getLast?_append] at hd
  rcases Option.or_eq_some_iff.1 hd with hd | ⟨-, hd⟩
  · exact hbefore d hd
  · rw [List.getLast?_concat] at hd
    cases hd
    exact hc

theorem split_of_separator {c : Char} (hc : sep c = true) (hinside : ∀ d ∈ word, sep d = false) {bs rest after : List Char}
    (h : word ++ after = bs ++ c :: rest) : ∃ gap, bs = word ++ gap ∧ after = gap ++ c :: rest := by
  obtain hgap | ⟨cs, rfl, hcs⟩ := List.append_eq_append_iff.1 h
  · exact hgap
  · obtain ⟨rfl, rfl⟩ | ⟨cs', rfl, -⟩ := List.cons_eq_append_iff.1 hcs
    · exact ⟨[], by simp, rfl⟩
    · rw [hinside c (by simp)] at hc
      cases hc

theorem separated_iff {c : Char} (hc : sep c = true) (front rest : List Char) :
    WordAt sep (front ++ c :: rest) pos word ↔
      WordAt sep front pos word ∨ ∃ n, WordAt sep rest n word ∧ front.length + 1 + n = pos := by
  constructor
  · rintro ⟨hne, hinside, before, after, htext, rfl, hbefore, hafter⟩
    rw [List.append_assoc] at htext
    obtain ⟨as, rfl, has⟩ | ⟨bs, rfl, hbs⟩ := List.append_eq_append_iff.1 htext
    · obtain ⟨rfl, hword⟩ | ⟨as', rfl, rfl⟩ := List.cons_eq_append_iff.1 has
      · have hstart : word ++ after = [] ++ c :: rest := hword
        obtain ⟨gap, hempty, -⟩ := split_of_separator hc hinside hstart
        exact absurd (List.append_eq_nil_iff.1 hempty.symm).1 hne
      · refine .inr ⟨as'.length, ⟨hne, hinside, as', after, by simp, rfl, fun d hd => hbefore d ?_, hafter⟩, by simp; omega⟩
        rw [List.append_cons, List.getLast?_append, hd, Option.some_or]
    · obtain ⟨gap, rfl, rfl⟩ := split_of_separator hc hinside hbs
      refine .inl ⟨hne, hinside, before, gap, by simp, rfl, hbefore, fun d hd => hafter d ?_⟩
      rw [List.head?_append, hd, Option.some_or]
  · rintro (h | ⟨n, h, rfl⟩)
    · exact h.before_separator hc rest
    · exact h.behind_separator hc front

end WordAt

theorem listed_words_plain {text : List Char} (h : ∀ c ∈ text, sep c = false) :
    Listed (· < ·) (WordAt sep text) (words sep text) := by
  by_cases hne : text = []
  · subst hne
    exact .nil _ fun pos word hword => hword.notEmpty (hword.of_plain h).2
  · have hwords : words sep text = [text] := by simp [words, pieces_plain h, hne]
    rw [hwords]
    refine ⟨[(0, text)], rfl, List.pairwise_singleton _ _, fun pos word => ?_⟩
    rw [List.mem_singleton, Prod.mk.injEq]
    constructor
    · rintro ⟨rfl, rfl⟩
      exact .plain h hne
    · exact WordAt.of_plain h

/-- Cutting at the separators lists all words, in the order of their positions. -/
theorem listed_words (sep : Char → Bool) (text : List Char) : Listed (· < ·) (WordAt sep text) (words sep text) := by
  induction text using separated_induction sep with
  | plain text h => exact listed_words_plain h
  | cut front c rest hfront hc ih =>
    have hshift : ∀ m n, m < n → front.length + 1 + m < front.length + 1 + n := by omega
    rw [words_separated hc]
    refine ((listed_words_plain hfront).append (ih.move hshift) ?_).congr ?_
    · rintro m _ word other hword ⟨n, -, rfl⟩
      obtain ⟨rfl, -⟩ := hword.of_plain hfront
      omega
    · intro pos word
      exact (WordAt.separated_iff hc front rest).symm

end PromptLang.Text
