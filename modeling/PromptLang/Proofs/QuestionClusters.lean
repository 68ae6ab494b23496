import Mathlib.Algebra.BigOperators.Ring.List
import Mathlib.Algebra.Order.BigOperators.Group.List
import Mathlib.Algebra.Order.Ring.Nat
import PromptLang.Proofs.WordRuns
import PromptLang.Strategy.Cluster

/-! Clusters of questions. A cluster holds the questions that fall under its key, in order and each as often as it was asked; the keys come
in the order in which they are first met. By keyword the keys are the longer words of the questions, by length a question is short
where it is not longer than the mean. -/

namespace PromptLang

namespace Clusters

/-- The questions under a key. -/
def members (clusters : Clusters) (key : String) : List String := (Entries.get? key clusters).getD []

/-- Adds a question under several keys. -/
def add (clusters : Clusters) (keys : List String) (question : String) : Clusters :=
  keys.foldl (fun clusters key => clusters.push key question) clusters

variable {clusters : Clusters} {key : String}

theorem get?_of_mem_keys (h : key ∈ Entries.keys clusters) : Entries.get? key clusters = some (clusters.members key) := by
  cases hget : Entries.get? key clusters with
  | none => exact absurd h (Entries.notMem_keys_of_get? hget)
  | some questions => simp [members, hget]

theorem members_push (clusters : Clusters) (key question k : String) :
    (clusters.push key question).members k = clusters.members k ++ if k = key then [question] else [] := by
  unfold push members
  by_cases hk : k = key
  · rw [hk, Entries.get?_insert_self, if_pos rfl]
    rfl
  · rw [Entries.get?_insert_of_ne hk, if_neg hk, List.append_nil]

theorem keys_push {seen : List String} (h : Entries.keys clusters = seen.eraseDups) (key question : String) :
    Entries.keys (clusters.push key question) = (seen ++ [key]).eraseDups :=
  Entries.keys_insert_of_eraseDups h key _

theorem members_add {keys : List String} (hkeys : keys.Nodup) (clusters : Clusters) (question k : String) :
    (clusters.add keys question).members k = clusters.members k ++ if k ∈ keys then [question] else [] := by
  induction keys generalizing clusters with
  | nil => simp [add]
  | cons key rest ih =>
    obtain ⟨hnew, hrest⟩ := List.nodup_cons.1 hkeys
    have hstep : clusters.add (key :: rest) question = (clusters.push key question).add rest question := rfl
    rw [hstep, ih hrest, members_push]
    by_cases hk : k = key
    · subst hk
      simp [hnew]
    · simp [hk]

theorem keys_add {seen : List String} (h : Entries.keys clusters = seen.eraseDups) (keys : List String) (question : String) :
    Entries.keys (clusters.add keys question) = (seen ++ keys).eraseDups := by
  induction keys generalizing clusters seen with
  | nil => simpa [add] using h
  | cons key rest ih =>
    have hstep : clusters.add (key :: rest) question = (clusters.push key question).add rest question := rfl
    rw [hstep, ih (keys_push h key question), List.append_assoc]
    rfl

variable {keysOf : String → List String}

theorem members_foldl_add (hkeys : ∀ q, (keysOf q).Nodup) (questions : List String) (clusters : Clusters) (k : String) :
    (questions.foldl (fun clusters q => clusters.add (keysOf q) q) clusters).members k =
      clusters.members k ++ questions.filter fun q => k ∈ keysOf q := by
  induction questions generalizing clusters with
  | nil => simp
  | cons question rest ih =>
    rw [List.foldl_cons, ih, members_add (hkeys question), List.append_assoc, List.filter_cons]
    by_cases hk : k ∈ keysOf question <;> simp [hk]

theorem keys_foldl_add {seen : List String} (h : Entries.keys clusters = seen.eraseDups) (questions : List String) :
    Entries.keys (questions.foldl (fun (clusters : Clusters) q => clusters.add (keysOf q) q) clusters) =
      (seen ++ questions.flatMap keysOf).eraseDups := by
  induction questions generalizing clusters seen with
  | nil => simpa using h
  | cons question rest ih =>
    rw [List.foldl_cons, ih (keys_add h (keysOf question) question), List.append_assoc, List.flatMap_cons]

end Clusters

namespace ClusterRule

theorem nodup_keys (rule : ClusterRule) (questions : List String) (q : String) : (rule.keys questions q).Nodup := by
  cases rule with
  | keyword => exact nodup_eraseDups _
  | length => exact List.nodup_singleton _

theorem members_cluster (rule : ClusterRule) (questions : List String) (k : String) :
    (rule.cluster questions).members k = questions.filter fun q => k ∈ rule.keys questions q :=
  Clusters.members_foldl_add (rule.nodup_keys questions) questions [] k

theorem keys_cluster (rule : ClusterRule) (questions : List String) :
    Entries.keys (rule.cluster questions) = (questions.flatMap (rule.keys questions)).eraseDups := by
  have hstart : Entries.keys ([] : Clusters) = [].eraseDups := rfl
  exact Clusters.keys_foldl_add hstart questions

theorem nodup_keys_cluster (rule : ClusterRule) (questions : List String) : (Entries.keys (rule.cluster questions)).Nodup := by
  rw [keys_cluster]
  exact nodup_eraseDups _

/-- No cluster is empty. -/
theorem mem_keys_cluster (rule : ClusterRule) (questions : List String) (key : String) :
    key ∈ Entries.keys (rule.cluster questions) ↔ (rule.cluster questions).members key ≠ [] := by
  rw [keys_cluster, List.mem_eraseDups, List.mem_flatMap, members_cluster, ne_eq, List.filter_eq_nil_iff]
  simp

end ClusterRule

section Keywords

/-- At position `pos` of the question a word of four characters or more begins, and the key is that word in lower case. -/
def KeywordAt (question : String) (pos : Nat) (key : String) : Prop :=
  ∃ word, Text.WordAt (fun c => !Text.isAlphanumeric c) question.toList pos word ∧ 4 ≤ word.length ∧
    Text.lowercase (String.ofList word) = key

/-- The question contains the keyword. -/
def HasKeyword (question key : String) : Prop := ∃ pos, KeywordAt question pos key

def KeywordMet (questions : List String) (spot : Nat × Nat) (key : String) : Prop :=
  ∃ q, questions[spot.1]? = some q ∧ KeywordAt q spot.2 key

def keywordRuns (question : String) : List String :=
  ((wordsOf question).filter fun word => minKeyword ≤ word.length).map fun word => Text.lowercase (String.ofList word)

theorem keywordsOf_eq (question : String) : keywordsOf question = (keywordRuns question).eraseDups := rfl

theorem listed_keywordRuns (question : String) : Listed (· < ·) (KeywordAt question) (keywordRuns question) := by
  have hwords := Text.listed_words (fun c => !Text.isAlphanumeric c) question.toList
  refine ((hwords.filter fun word => minKeyword ≤ word.length).map _).congr fun pos key => ?_
  simp only [KeywordAt, and_assoc, decide_eq_true_eq]
  rfl

theorem mem_keywordsOf {question key : String} : key ∈ keywordsOf question ↔ HasKeyword question key := by
  rw [keywordsOf_eq, List.mem_eraseDups, (listed_keywordRuns question).mem_iff]
  rfl

instance (question key : String) : Decidable (HasKeyword question key) := decidable_of_iff _ mem_keywordsOf

/-- What clusters by keyword are: each keyword of the questions is a key once. Of two keys the first one is met before all meetings with
the second. Under a key stand the questions that contain it. -/
structure ByKeyword (questions : List String) (clusters : Clusters) : Prop where
  distinct : (Entries.keys clusters).Nodup
  mem_keys : ∀ key, key ∈ Entries.keys clusters ↔ ∃ q ∈ questions, HasKeyword q key
  order : (Entries.keys clusters).Pairwise fun a b =>
    ∃ spot, KeywordMet questions spot a ∧ ∀ other, KeywordMet questions other b → Prod.Lex (· < ·) (· < ·) spot other
  members : ∀ key ∈ Entries.keys clusters, Entries.get? key clusters = some (questions.filter fun q => HasKeyword q key)

theorem byKeyword_cluster (questions : List String) : ByKeyword questions (ClusterRule.keyword.cluster questions) := by
  have hkeys := ClusterRule.keyword.keys_cluster questions
  have hruns : (questions.flatMap keywordsOf).eraseDups = (questions.flatMap keywordRuns).eraseDups :=
    eraseDups_flatMap_eraseDups keywordRuns questions
  refine ⟨ClusterRule.nodup_keys_cluster _ _, ?_, ?_, ?_⟩
  · intro key
    rw [hkeys, List.mem_eraseDups, List.mem_flatMap]
    simp only [ClusterRule.keys, mem_keywordsOf]
  · -- a question lists each of its keywords once, which leaves the first meetings as they are
    rw [hkeys]
    exact hruns ▸ (Listed.flatMap listed_keywordRuns).pairwise_eraseDups
  · intro key hkey
    rw [Clusters.get?_of_mem_keys hkey, ClusterRule.members_cluster]
    simp only [ClusterRule.keys, mem_keywordsOf]

end Keywords

section Lengths

/-- The question is not longer than the questions are in the mean. -/
def AtMostMean (questions : List String) (q : String) : Prop := q.length * questions.length ≤ (questions.map String.length).sum

instance (questions : List String) (q : String) : Decidable (AtMostMean questions q) := inferInstanceAs (Decidable (_ ≤ _))

theorem totalLength_eq (questions : List String) : ClusterRule.totalLength questions = (questions.map String.length).sum := by
  induction questions with
  | nil => rfl
  | cons question rest ih =>
    rw [List.map_cons, List.sum_cons, ← ih]
    rfl

theorem mem_lengthKeys {questions : List String} {q key : String} :
    key ∈ ClusterRule.length.keys questions q ↔
      AtMostMean questions q ∧ key = "short" ∨ ¬ AtMostMean questions q ∧ key = "long" := by
  simp only [ClusterRule.keys, ClusterRule.lengthKey, totalLength_eq, List.mem_singleton, AtMostMean]
  split <;> simp [*]

theorem exists_atMostMean {questions : List String} (h : questions ≠ []) : ∃ q ∈ questions, AtMostMean questions q := by
  have hsum : (questions.map fun q => q.length * questions.length).sum =
      (questions.map fun _ => (questions.map String.length).sum).sum := by
    rw [List.sum_map_mul_right, List.map_const', List.sum_replicate_nat, Nat.mul_comm]
  exact List.exists_le_of_sum_le h _ _ (Nat.le_of_eq hsum)

/-- What clusters by length are: short questions and long ones. A cluster is there if it has members, and the short one is there if there
are questions. -/
structure ByLength (questions : List String) (clusters : Clusters) : Prop where
  distinct : (Entries.keys clusters).Nodup
  keys : ∀ key ∈ Entries.keys clusters, key = "short" ∨ key = "long"
  filled : ∀ key, key ∈ Entries.keys clusters ↔ clusters.members key ≠ []
  short : clusters.members "short" = questions.filter fun q => AtMostMean questions q
  long : clusters.members "long" = questions.filter fun q => ¬ AtMostMean questions q
  some_short : questions ≠ [] → clusters.members "short" ≠ []

theorem byLength_cluster (questions : List String) : ByLength questions (ClusterRule.length.cluster questions) := by
  have hshort : (ClusterRule.length.cluster questions).members "short" = questions.filter fun q => AtMostMean questions q := by
    simp [ClusterRule.members_cluster, mem_lengthKeys]
  have hlong : (ClusterRule.length.cluster questions).members "long" = questions.filter fun q => ¬ AtMostMean questions q := by
    simp [ClusterRule.members_cluster, mem_lengthKeys]
  refine ⟨ClusterRule.nodup_keys_cluster _ _, ?_, ClusterRule.mem_keys_cluster _ _, hshort, hlong, ?_⟩
  · intro key hkey
    rw [ClusterRule.keys_cluster, List.mem_eraseDups, List.mem_flatMap] at hkey
    obtain ⟨q, -, hq⟩ := hkey
    exact (mem_lengthKeys.1 hq).imp And.right And.right
  · intro hne
    obtain ⟨q, hq, hmean⟩ := exists_atMostMean hne
    rw [hshort]
    exact List.ne_nil_of_mem (List.mem_filter.2 ⟨hq, decide_eq_true hmean⟩)

end Lengths

/-- Clusters by keyword hold the questions that contain it, clusters by length the short ones and the long ones. -/
theorem clusters_hold_questions (text : String) :
    (∃ clusters, clusterQuestions "keyword" text = .ok clusters ∧ ByKeyword (splitQuestions text) clusters) ∧
      ∃ clusters, clusterQuestions "length" text = .ok clusters ∧ ByLength (splitQuestions text) clusters :=
  ⟨⟨_, rfl, byKeyword_cluster _⟩, _, rfl, byLength_cluster _⟩

def tides : String := "Do tides rise? Moons pull tides, and Tides fall! Do tides rise?"

/-- The word brings the question in the middle once, and the question around it twice. -/
theorem tides_clustered :
    (∃ clusters, clusterQuestions "keyword" tides = .ok clusters ∧ Entries.get? "tides" clusters =
      some ["Do tides rise?", "Moons pull tides, and Tides fall!", "Do tides rise?"]) ∧
    ∃ clusters, clusterQuestions "length" tides = .ok clusters ∧ clusters.members "short" ≠ [] ∧
      clusters.members "long" = ["Moons pull tides, and Tides fall!"] := by
  obtain ⟨⟨byWord, hword, hkeywords⟩, byLength, hlength, hlengths⟩ := clusters_hold_questions tides
  have hquestions : splitQuestions tides = ["Do tides rise?", "Moons pull tides, and Tides fall!", "Do tides rise?"] := by decide
  rw [hquestions] at hkeywords hlengths
  refine ⟨⟨byWord, hword, ?_⟩, byLength, hlength, hlengths.some_short (by simp), ?_⟩
  · have hkey := (hkeywords.mem_keys "tides").2 ⟨"Do tides rise?", by simp, by decide⟩
    rw [hkeywords.members "tides" hkey]
    decide
  · rw [hlengths.long]
    decide

end PromptLang
