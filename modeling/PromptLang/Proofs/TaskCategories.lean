import Mathlib.Order.Bounds.Basic
import PromptLang.Proofs.WordRuns
import PromptLang.Strategy.Task

/-! The category of a task. It is the first of the categories that the words of the text mention, where math comes before writing and
writing before analysis, and the default category counts as mentioned by every text. So only the words in lower case matter: a
text that is put together at a separator has the earlier one of the categories of its parts, and further words can only lead to
an earlier category. -/

namespace PromptLang

namespace Category

def place : Category → Nat
  | math => 0
  | writing => 1
  | analysis => 2
  | other => 3

theorem place_injective : Function.Injective place := by
  intro a b h
  cases a <;> cases b <;> cases h <;> rfl

/-- The less of two categories is the one that is tried first. -/
instance : LinearOrder Category := LinearOrder.lift' place place_injective

end Category

/-- A form of a keyword: the keyword itself, or its stem with an inflection. -/
def IsForm (keyword word : String) : Prop :=
  word = keyword ∨ ∃ ending ∈ inflections, word.toList = stem keyword ++ ending.toList

/-- The text has a run of letters and digits, not longer on either side, that is the word in lower case. -/
def HasWord (text word : String) : Prop :=
  ∃ pos run, Text.WordAt (fun c => !Text.isAlphanumeric c) text.toList pos run ∧ Text.lowercase (String.ofList run) = word

def Mentions (text : String) (category : Category) : Prop :=
  ∃ word, HasWord text word ∧ ∃ keyword ∈ category.keywords, IsForm keyword word

def eligible (text : String) : Set Category := {category | category = .other ∨ Mentions text category}

theorem matchesKeyword_iff (word keyword : String) : matchesKeyword word.toList keyword = true ↔ IsForm keyword word := by
  have hform (ending : List Char) :
      stem keyword <+: word.toList ∧ word.toList.drop (stem keyword).length = ending ↔ word.toList = stem keyword ++ ending := by
    constructor
    · rintro ⟨⟨rest, hrest⟩, rfl⟩
      rw [← hrest, List.drop_left]
    · intro hword
      rw [hword]
      exact ⟨List.prefix_append _ _, List.drop_left⟩
  simp only [matchesKeyword, IsForm, Bool.or_eq_true, decide_eq_true_eq, String.toList_inj, Bool.and_eq_true, List.isPrefixOf_iff_prefix,
    List.any_eq_true, ← hform]
  refine or_congr_right ⟨?_, ?_⟩
  · rintro ⟨hstem, ending, hmem, hending⟩
    exact ⟨ending, hmem, hstem, hending⟩
  · rintro ⟨ending, hmem, hstem, hending⟩
    exact ⟨hstem, ending, hmem, hending⟩

theorem mem_taskWords {text word : String} : word.toList ∈ taskWords text ↔ HasWord text word := by
  have hlisted := (Text.listed_words (fun c => !Text.isAlphanumeric c) text.toList).map
    fun run => (Text.lowercase (String.ofList run)).toList
  refine hlisted.mem_iff.trans (exists_congr fun pos => exists_congr fun run => ?_)
  rw [String.toList_inj]

theorem mentionedIn_taskWords (text : String) (category : Category) :
    category.mentionedIn (taskWords text) = true ↔ Mentions text category := by
  simp only [Category.mentionedIn, List.any_eq_true]
  constructor
  · rintro ⟨keyword, hkeyword, word, hword, hmatch⟩
    rw [← String.toList_ofList (l := word)] at hword hmatch
    exact ⟨String.ofList word, mem_taskWords.1 hword, keyword, hkeyword, (matchesKeyword_iff _ keyword).1 hmatch⟩
  · rintro ⟨word, hword, keyword, hkeyword, hform⟩
    exact ⟨keyword, hkeyword, word.toList, mem_taskWords.2 hword, (matchesKeyword_iff word keyword).2 hform⟩

/-- The categories before the default one. -/
def Category.tried : List Category := [math, writing, analysis]

theorem Category.mem_tried {category : Category} {words : List (List Char)} (h : category.mentionedIn words = true) :
    category ∈ tried := by
  cases category with
  | other => cases h
  | _ => decide

/-- The search for a category stops at the first one that is mentioned, as the categories are tried in their order. -/
theorem isLeast_classify (words : List (List Char)) :
    IsLeast {category | category = .other ∨ category.mentionedIn words = true} (classify words) := by
  have hclassify : classify words = (Category.tried.find? (·.mentionedIn words)).getD .other := rfl
  rw [hclassify]
  cases hfound : Category.tried.find? (·.mentionedIn words) with
  | none =>
    refine ⟨.inl rfl, ?_⟩
    rintro category (rfl | hmentioned)
    · exact le_rfl
    · exact absurd hmentioned (List.find?_eq_none.1 hfound category (Category.mem_tried hmentioned))
  | some first =>
    obtain ⟨hfirst, before, after, hsplit, hbefore⟩ := List.find?_eq_some_iff_append.1 hfound
    have hordered : (before ++ first :: after).Pairwise (· < ·) := hsplit ▸ (by decide : Category.tried.Pairwise (· < ·))
    refine ⟨.inr hfirst, ?_⟩
    rintro category (rfl | hmentioned)
    · cases first <;> decide
    · have hmem := Category.mem_tried hmentioned
      rw [hsplit, List.mem_append, List.mem_cons] at hmem
      rcases hmem with hmem | rfl | hmem
      · have hnot := hbefore category hmem
        rw [hmentioned] at hnot
        cases hnot
      · exact le_rfl
      · exact ((List.pairwise_cons.1 (List.pairwise_append.1 hordered).2.1).1 category hmem).le

theorem isLeast_classifyTask (text : String) : IsLeast (eligible text) (classifyTask text) := by
  have hleast := isLeast_classify (taskWords text)
  simp only [mentionedIn_taskWords] at hleast
  exact hleast

/-- At a separator no word of either part is cut and none reaches across. -/
theorem hasWord_separated {c : Char} (hc : Text.isAlphanumeric c = false) (p q word : String) :
    HasWord (p ++ String.singleton c ++ q) word ↔ HasWord p word ∨ HasWord q word := by
  have hseparates : (!Text.isAlphanumeric c) = true := by rw [hc]; rfl
  have htext : (p ++ String.singleton c ++ q).toList = p.toList ++ c :: q.toList := by simp
  rw [← mem_taskWords, ← mem_taskWords, ← mem_taskWords, taskWords, wordsOf, htext, Text.words_separated hseparates, List.map_append,
    List.mem_append]
  rfl

theorem Mentions.mono {p q : String} (h : ∀ word, HasWord p word → HasWord q word) {category : Category}
    (hmentions : Mentions p category) : Mentions q category := by
  obtain ⟨word, hword, hkeyword⟩ := hmentions
  exact ⟨word, h word hword, hkeyword⟩

theorem eligible_mono {p q : String} (h : ∀ word, HasWord p word → HasWord q word) : eligible p ⊆ eligible q :=
  fun _ hcategory => hcategory.imp id (Mentions.mono h)

theorem eligible_separated {c : Char} (hc : Text.isAlphanumeric c = false) (p q : String) :
    eligible (p ++ String.singleton c ++ q) = eligible p ∪ eligible q := by
  apply Set.Subset.antisymm
  · rintro category (rfl | ⟨word, hword, hkeyword⟩)
    · exact .inl (.inl rfl)
    · exact ((hasWord_separated hc p q word).1 hword).imp (fun hword => .inr ⟨word, hword, hkeyword⟩)
        fun hword => .inr ⟨word, hword, hkeyword⟩
  · refine Set.union_subset (eligible_mono fun word hword => ?_) (eligible_mono fun word hword => ?_)
    · exact (hasWord_separated hc p q word).2 (.inl hword)
    · exact (hasWord_separated hc p q word).2 (.inr hword)

/-- A task has the first of the categories that its words mention. A text that is put together at a separator has the earlier one of the
categories of its parts, texts with the same words in lower case have the same category, and further words lead to no later one. -/
theorem classification_is_by_words (p q : String) :
    IsLeast (eligible p) (classifyTask p) ∧
    (∀ c, Text.isAlphanumeric c = false → classifyTask (p ++ String.singleton c ++ q) = min (classifyTask p) (classifyTask q)) ∧
    ((∀ word, HasWord p word ↔ HasWord q word) → classifyTask p = classifyTask q) ∧
    ((∀ word, HasWord p word → HasWord q word) → classifyTask q ≤ classifyTask p) := by
  refine ⟨isLeast_classifyTask p, fun c hc => ?_, fun hsame => ?_, fun hmore => ?_⟩
  · have hwhole := isLeast_classifyTask (p ++ String.singleton c ++ q)
    rw [eligible_separated hc] at hwhole
    exact hwhole.unique ((isLeast_classifyTask p).union (isLeast_classifyTask q))
  · have heligible : eligible p = eligible q :=
      (eligible_mono fun word => (hsame word).1).antisymm (eligible_mono fun word => (hsame word).2)
    exact (isLeast_classifyTask p).unique (heligible ▸ isLeast_classifyTask q)
  · exact (isLeast_classifyTask p).mono (isLeast_classifyTask q) (eligible_mono hmore)

/-- A hyphen in the middle of a word makes a keyword of its first half, repetitions and capitals do not matter, and one more word can lead
to an earlier category. -/
theorem hyphen_uncovers_keyword :
    (classifyTask "A summer ESSAY" = .writing ∧ Text.isAlphanumeric '-' = false ∧
      classifyTask ("A sum" ++ String.singleton '-' ++ "mer ESSAY") = .math) ∧
    ((∀ word, HasWord "Assess drafts" word ↔ HasWord "DRAFTS, drafts: assess!" word) ∧
      classifyTask "Assess drafts" = classifyTask "DRAFTS, drafts: assess!") ∧
    ((∀ word, HasWord "Assess" word → HasWord "Assess drafts" word) ∧ classifyTask "Assess drafts" ≤ classifyTask "Assess" ∧
      classifyTask "Assess drafts" ≠ classifyTask "Assess") := by
  have hone : taskWords "Assess" = ["assess".toList] := by decide
  have htwo : taskWords "Assess drafts" = ["assess".toList, "drafts".toList] := by decide
  have hthree : taskWords "DRAFTS, drafts: assess!" = ["drafts".toList, "drafts".toList, "assess".toList] := by decide
  have hsame (word : String) : HasWord "Assess drafts" word ↔ HasWord "DRAFTS, drafts: assess!" word := by
    simp only [← mem_taskWords, htwo, hthree, List.mem_cons, List.not_mem_nil, or_false]
    exact ⟨fun h => .inr h.symm, fun h => h.elim .inr .symm⟩
  have hmore (word : String) (hword : HasWord "Assess" word) : HasWord "Assess drafts" word := by
    rw [← mem_taskWords, hone] at hword
    rw [← mem_taskWords, htwo]
    exact List.mem_cons.2 (.inl (List.mem_singleton.1 hword))
  obtain ⟨-, -, hequal, -⟩ := classification_is_by_words "Assess drafts" "DRAFTS, drafts: assess!"
  obtain ⟨-, -, -, hearlier⟩ := classification_is_by_words "Assess" "Assess drafts"
  refine ⟨⟨by decide, by decide, ?_⟩, ⟨hsame, hequal hsame⟩, hmore, hearlier hmore, by decide⟩
  rw [(classification_is_by_words "A sum" "mer ESSAY").2.1 '-' (by decide)]
  decide

end PromptLang
