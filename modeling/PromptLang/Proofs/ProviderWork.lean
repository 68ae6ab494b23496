import PromptLang.Proofs.Batches
import PromptLang.Proofs.StrategyResults
import PromptLang.Proofs.TreeSizes
import PromptLang.Technique.Apply

/-! The work that a technique gives the provider. A technique driven by fields reads and checks its settings first, which asks nothing. What
follows is work of a size that is known in advance: so many calls if it succeeds and no more than that if it fails, and nothing is
refused any more. The sizes stand in `Settings.plannedCalls`. -/

namespace PromptLang

/-- A construct or the name of a strategy was refused. -/
def Error.isRefusal : Error → Bool
  | .invalid _ | .unknownStrategy .. => true
  | _ => false

theorem Error.isRefusal_iff (e : Error) : e.isRefusal = true ↔ e.code = "validation" ∨ e.code = "unknown_strategy" := by
  cases e <;> simp [isRefusal, code]

namespace Run

variable {α β : Type}

/-- Work for the provider: `n` calls for a result with the property `Q`, or at most `n` calls and a failure that refuses nothing. -/
structure Works (n : Nat) (Q : α → Prop) (x : Run α) : Prop where
  done : ∀ {log a log'}, x log = (.ok a, log') → Q a ∧ ∃ made, log'.calls = log.calls ++ made ∧ made.length = n
  failed : ∀ {log e log'}, x log = (.error e, log') →
    e.isRefusal = false ∧ ∃ made, log'.calls = log.calls ++ made ∧ made.length ≤ n

namespace Works

theorem ofExcept {x : Except Error α} {Q : α → Prop} (hok : ∀ a, x = .ok a → Q a)
    (herror : ∀ e, x = .error e → e.isRefusal = false) : (ofExcept x).Works 0 Q where
  done h := by
    obtain ⟨ha, rfl⟩ := ofExcept_eq_ok.1 h
    exact ⟨hok _ ha, [], by simp⟩
  failed h := by
    cases h
    exact ⟨herror _ rfl, [], by simp⟩

theorem pure {Q : α → Prop} {a : α} (h : Q a) : (Pure.pure a : Run α).Works 0 Q :=
  Works.ofExcept (fun _ ha => by cases ha; exact h) (fun _ he => by cases he)

theorem bind {m n : Nat} {x : Run α} {P : α → Prop} {f : α → Run β} {Q : β → Prop} (hx : x.Works m P)
    (hf : ∀ a, P a → (f a).Works n Q) : (x >>= f).Works (m + n) Q where
  done h := by
    obtain ⟨a, log₁, ha, hb⟩ := bind_eq_ok.1 h
    obtain ⟨hresult, first, hfirst, rfl⟩ := hx.done ha
    obtain ⟨hQ, rest, hrest, rfl⟩ := (hf a hresult).done hb
    exact ⟨hQ, first ++ rest, by rw [hrest, hfirst, List.append_assoc], List.length_append⟩
  failed h := by
    rcases bind_eq_error.1 h with hfail | ⟨a, log₁, ha, hfail⟩
    · obtain ⟨he, first, hfirst, hle⟩ := hx.failed hfail
      exact ⟨he, first, hfirst, by omega⟩
    · obtain ⟨hresult, first, hfirst, rfl⟩ := hx.done ha
      obtain ⟨he, rest, hrest, hle⟩ := (hf a hresult).failed hfail
      refine ⟨he, first ++ rest, by rw [hrest, hfirst, List.append_assoc], ?_⟩
      rw [List.length_append]
      omega

theorem bind_zero {n : Nat} {x : Run α} {P : α → Prop} {f : α → Run β} {Q : β → Prop} (hx : x.Works n P)
    (hf : ∀ a, P a → (f a).Works 0 Q) : (x >>= f).Works n Q := hx.bind hf

end Works

/-- Fails at once, or is work of one of the sizes. -/
def Planned (N : Nat → Prop) (x : Run α) : Prop := (∃ e, x = fail e) ∨ ∃ n, N n ∧ x.Works n fun _ => True

/-- Reading a setting fails at once, or leaves what is planned with its value. -/
theorem Planned.setting {N : Nat → Prop} {x : Except Error α} {f : α → Run β} (h : ∀ a, x = .ok a → (f a).Planned N) :
    ((liftM x : Run α) >>= f).Planned N := by
  cases x with
  | error e => exact .inl ⟨e, rfl⟩
  | ok a => exact h a rfl

theorem Planned.of_ok {N : Nat → Prop} {x : Run α} (hx : x.Planned N) {log log' : Log} {a : α}
    (h : x log = (.ok a, log')) : ∃ made, log'.calls = log.calls ++ made ∧ N made.length := by
  rcases hx with ⟨e, rfl⟩ | ⟨n, hn, hwork⟩
  · cases h
  · obtain ⟨-, made, hmade, rfl⟩ := hwork.done h
    exact ⟨made, hmade, hn⟩

/-- A failure comes before the first call, or during the work and without a refusal. -/
theorem Planned.of_error {N : Nat → Prop} {x : Run α} (hx : x.Planned N) {log log' : Log} {e : Error}
    (h : x log = (.error e, log')) :
    log' = log ∨ e.isRefusal = false ∧ ∃ n made, N n ∧ log'.calls = log.calls ++ made ∧ made.length ≤ n := by
  rcases hx with ⟨cause, rfl⟩ | ⟨n, hn, hwork⟩
  · exact .inl (Prod.mk.inj h).2.symm
  · obtain ⟨he, made, hmade, hle⟩ := hwork.failed h
    exact .inr ⟨he, n, made, hn, hmade, hle⟩

end Run

section Batches

variable (host : Host) (limit : Nat) (constraints : Constraints)

theorem generate_works (prompt : String) : (generate host constraints prompt).Works 1 fun _ => True where
  done h := by
    obtain ⟨-, rfl⟩ := Prod.mk.inj h
    exact ⟨trivial, [⟨prompt, constraints⟩], rfl, rfl⟩
  failed h := by
    obtain ⟨⟨cause, -, rfl⟩, rfl⟩ := generate_eq_error.1 h
    exact ⟨rfl, [⟨prompt, constraints⟩], rfl, Nat.le_refl 1⟩

theorem annotate_works (question : String) : (annotate host question).Works 0 fun _ => True where
  done h := by
    obtain ⟨-, rfl⟩ := Prod.mk.inj h
    exact ⟨trivial, [], by simp⟩
  failed h := by
    obtain ⟨⟨cause, -, rfl⟩, rfl⟩ := annotate_eq_error.1 h
    exact ⟨rfl, [], by simp⟩

theorem generateAll_works (prompts : List String) :
    (generateAll host limit constraints prompts).Works prompts.length fun answers => answers.length = prompts.length where
  done h := by
    obtain ⟨hreplies, rfl⟩ := (generateAll_eq_ok ..).1 h
    have hlength := congrArg List.length hreplies
    rw [length_replies, List.length_map] at hlength
    exact ⟨hlength.symm, prompts.map (⟨·, constraints⟩), rfl, List.length_map _⟩
  failed h := by
    obtain ⟨cause, rfl, k, m, -, -, -, rfl, -⟩ := generateAll_eq_error (.inl (Nat.le_refl _)) h
    refine ⟨rfl, (prompts.take m).map (⟨·, constraints⟩), rfl, ?_⟩
    rw [List.length_map, List.length_take]
    exact Nat.min_le_right _ _

theorem annotateAll_works (questions : List String) : (annotateAll host questions).Works 0 fun _ => True := by
  induction questions with
  | nil => exact .pure trivial
  | cons question rest ih => exact (annotate_works host question).bind fun _ _ => ih.bind fun _ _ => .pure trivial

/-- Each level is `breadth` times as large as the one before it. -/
theorem expandThoughts_works (context : String) (breadth levels : Nat) (thoughts : List String) :
    (expandThoughts host limit constraints context breadth levels thoughts).Works
      (∑ level ∈ Finset.range levels, thoughts.length * breadth ^ (level + 1))
      fun leaves => leaves.length = thoughts.length * breadth ^ levels := by
  induction levels generalizing thoughts with
  | zero => exact .pure (by simp)
  | succ n ih =>
    have hlevel : (thoughts.flatMap fun thought => List.replicate breadth (expansionPrompt context thought)).length =
        thoughts.length * breadth := by
      simp [List.length_flatMap]
    rw [Finset.sum_range_succ', Nat.zero_add, pow_one, Nat.add_comm, ← hlevel]
    refine (generateAll_works host limit constraints _).bind fun next hnext => ?_
    have hrest := ih next
    rw [hnext, hlevel] at hrest
    simpa only [pow_succ', mul_assoc] using hrest

end Batches

theorem Settings.count_bounds {s : Settings} {name : String} {n : Nat} (h : s.count name = .ok n) :
    1 ≤ n ∧ n ≤ s.opts.maxTechniqueCalls := by
  obtain ⟨v, -, hv⟩ := bind_eq_ok.1 h
  split at hv
  · split at hv
    · next hle =>
      cases hv
      exact ⟨Nat.le_add_left 1 _, hle⟩
    · cases hv
  · cases hv

namespace Settings

/-- The calls of a successful application, by its settings and the current prompt. -/
def plannedCalls (s : Settings) (body : String) : Method → Except Error Nat
  | .zeroShot | .expertPrompting => .ok 0
  | .reflection => .ok 1
  | .art => .ok 5
  | .selfConsistency => s.count "generations"
  | .treeOfThoughts => do
    let breadth ← s.count "breadth"
    let depth ← s.count "depth"
    return ∑ level ∈ Finset.range depth, breadth ^ (level + 1)
  | .ape => do
    let pool ← s.count "candidatePool"
    let function ← s.text "scoreFunction"
    return if function ∈ ["length", "keyword_match"] then pool else 2 * pool
  | .activePrompting => do
    let process ← s.text "annotationProcess"
    return if process = "auto" then min 5 (splitQuestions (compose s.env body)).length + 1 else 1
  | .autoCot => do
    let method ← s.text "clusteringMethod"
    let representation ← s.text "representativeSelection" >>= Representation.ofName
    let clusters ← clusterQuestions method (compose s.env body)
    return (representation.picks (clusters.map Prod.snd) s.opts.randomWords).toFinset.card

/-- Every call of the method is counted against the limit: the samples, the thoughts of the tree, and candidates that are scored
without the provider. -/
def IsCapped (s : Settings) : Method → Prop
  | .zeroShot | .expertPrompting | .selfConsistency | .treeOfThoughts => True
  | .ape => ∃ function ∈ ["length", "keyword_match"], s.text "scoreFunction" = .ok function
  | .activePrompting | .reflection | .autoCot | .art => False

/-- The planned number of calls, which is within the limit where all calls count. -/
def Plans (s : Settings) (body : String) (method : Method) (n : Nat) : Prop :=
  s.plannedCalls body method = .ok n ∧ (s.IsCapped method → n ≤ s.opts.maxTechniqueCalls)

end Settings

section Techniques

variable (host : Host) (s : Settings) (body : String)

theorem runSelfConsistency_planned : (runSelfConsistency host s body).Planned (s.Plans body .selfConsistency) := by
  refine .setting fun generations hgenerations => ?_
  refine .setting fun strategy _ => .setting fun _ hstrategy => .setting fun constraints _ => ?_
  obtain ⟨hpos, hle⟩ := Settings.count_bounds hgenerations
  have hwork := generateAll_works host s.opts.maxConcurrentCalls constraints (List.replicate generations (compose s.env body))
  rw [List.length_replicate] at hwork
  refine .inr ⟨generations, ⟨hgenerations, fun _ => hle⟩, hwork.bind_zero fun answers hanswers => ?_⟩
  refine .ofExcept (fun _ _ => trivial) fun e he => ?_
  have hsome : answers.map Value.str ≠ [] := by
    intro hnil
    rw [List.map_eq_nil_iff.1 hnil, List.length_nil] at hanswers
    omega
  obtain ⟨cause, rfl⟩ := selectMostConsistent_error (mem_of_ensureStrategy hstrategy) hsome he
  rfl

theorem thoughtTree_works (limit : Nat) (constraints : Constraints) {strategy : String}
    (hstrategy : strategy ∈ ["length", "keyword_match"]) (prompt context : String) {breadth : Nat} (hbreadth : 1 ≤ breadth)
    (levels : Nat) :
    (do
      let first ← generateAll host limit constraints (List.replicate breadth prompt)
      let leaves ← expandThoughts host limit constraints context breadth levels first
      let best ← bestThought strategy leaves
      return Value.str best : Run Value).Works (∑ level ∈ Finset.range (levels + 1), breadth ^ (level + 1)) fun _ => True := by
  have hfirst := generateAll_works host limit constraints (List.replicate breadth prompt)
  rw [List.length_replicate] at hfirst
  rw [Finset.sum_range_succ', Nat.zero_add, pow_one, Nat.add_comm]
  refine hfirst.bind fun first hlength => ?_
  have hrest := expandThoughts_works host limit constraints context breadth levels first
  rw [hlength] at hrest
  simp only [pow_succ' breadth (_ + 1)]
  refine hrest.bind_zero fun leaves hleaves => ?_
  have hsome : leaves ≠ [] := by
    rintro rfl
    have hpos := Nat.mul_pos hbreadth (Nat.pow_pos (n := levels) hbreadth)
    rw [List.length_nil] at hleaves
    omega
  obtain ⟨best, hbest⟩ := (bestThought_knows hsome).accepted strategy hstrategy
  rw [hbest]
  exact .pure trivial

theorem runTreeOfThoughts_planned : (runTreeOfThoughts host s body).Planned (s.Plans body .treeOfThoughts) := by
  refine .setting fun breadth hbreadth => .setting fun depth hdepth => ?_
  refine .setting fun strategy _ => .setting fun _ hstrategy => ?_
  dsimp only
  split
  · exact .inl ⟨_, rfl⟩
  · next hguard =>
    refine .setting fun constraints _ => ?_
    obtain ⟨size, hsize, hle⟩ : ∃ size, treeSize? breadth depth = some size ∧ size ≤ s.opts.maxTechniqueCalls := by
      simpa [Option.any_eq_true] using hguard
    rw [treeSize?_eq_some hsize] at hle
    have hplan : s.plannedCalls body .treeOfThoughts = .ok (∑ level ∈ Finset.range depth, breadth ^ (level + 1)) :=
      bind_eq_ok.2 ⟨breadth, hbreadth, bind_eq_ok.2 ⟨depth, hdepth, rfl⟩⟩
    refine .inr ⟨_, ⟨hplan, fun _ => hle⟩, ?_⟩
    obtain ⟨levels, rfl⟩ : ∃ levels, depth = levels + 1 := ⟨depth - 1, by
      have hpos := (Settings.count_bounds hdepth).1
      omega⟩
    exact thoughtTree_works host _ constraints (mem_of_ensureStrategy hstrategy) _ _ (Settings.count_bounds hbreadth).1 levels

theorem readScores_error {function : String} {replies : List String} {e : Error}
    (h : replies.mapM (readScore function) = .error e) : e.isRefusal = false := by
  induction replies with
  | nil => cases h
  | cons reply rest ih =>
    rw [List.mapM_cons] at h
    cases hreply : readScore function reply with
    | error cause =>
      rw [hreply] at h
      cases h
      unfold readScore at hreply
      split at hreply
      · cases hreply
      · cases hreply
        rfl
    | ok score =>
      rw [hreply] at h
      cases hrest : rest.mapM (readScore function) with
      | error cause => rw [hrest] at h; cases h; exact ih hrest
      | ok scores => rw [hrest] at h; cases h

theorem bestByProvider_works (limit : Nat) (constraints : Constraints) (function : String) (candidates : List String) :
    (bestByProvider host limit constraints function candidates).Works candidates.length fun _ => True := by
  have hwork := generateAll_works host limit constraints (candidates.map (scorePrompt function))
  rw [List.length_map] at hwork
  refine hwork.bind_zero fun replies _ => ?_
  refine Run.Works.bind_zero (.ofExcept (fun _ _ => trivial) fun e he => readScores_error he) fun scores _ => ?_
  exact .pure trivial

theorem runApe_planned : (runApe host s body).Planned (s.Plans body .ape) := by
  refine .setting fun pool hpool => .setting fun function hfunction => .setting fun constraints _ => ?_
  have hplan : s.plannedCalls body .ape = .ok (if function ∈ ["length", "keyword_match"] then pool else 2 * pool) :=
    bind_eq_ok.2 ⟨pool, hpool, bind_eq_ok.2 ⟨function, hfunction, rfl⟩⟩
  have hwork := generateAll_works host s.opts.maxConcurrentCalls constraints (List.replicate pool (compose s.env body))
  rw [List.length_replicate] at hwork
  cases hscorer : Scorer.ofName? function with
  | some scorer =>
    have hlocal : function ∈ ["length", "keyword_match"] := by
      by_contra hother
      rw [(Scorer.ofName?_eq_none_iff function).2 hother] at hscorer
      cases hscorer
    rw [if_pos hlocal] at hplan
    refine .inr ⟨pool, ⟨hplan, fun _ => (Settings.count_bounds hpool).2⟩, ?_⟩
    exact hwork.bind_zero fun _ _ => .pure trivial
  | none =>
    have hremote := (Scorer.ofName?_eq_none_iff function).1 hscorer
    rw [if_neg hremote, Nat.two_mul] at hplan
    refine .inr ⟨pool + pool, ⟨hplan, fun hcapped => ?_⟩, hwork.bind fun candidates hcandidates => ?_⟩
    · obtain ⟨other, hlocal, hother⟩ := hcapped
      rw [hfunction] at hother
      cases hother
      exact absurd hlocal hremote
    · rw [← hcandidates]
      exact (bestByProvider_works host _ constraints function candidates).bind_zero fun _ _ => .pure trivial

theorem runActivePrompting_planned : (runActivePrompting host s body).Planned (s.Plans body .activePrompting) := by
  refine .setting fun estimation _ => .setting fun selection _ => .setting fun process hprocess => ?_
  refine .setting fun _ _ => .setting fun _ _ => .setting fun _ _ => .setting fun constraints _ => ?_
  refine .setting fun candidates hcandidates => .setting fun selected hselected => ?_
  have hplan : s.plannedCalls body .activePrompting =
      .ok (if process = "auto" then min 5 (splitQuestions (compose s.env body)).length + 1 else 1) :=
    bind_eq_ok.2 ⟨process, hprocess, rfl⟩
  have hlast (prompt : String) (f : String → Value) :
      (do
        let response ← generate host constraints prompt
        return f response : Run Value).Works 1 fun _ => True :=
    (generate_works host constraints prompt).bind_zero fun _ _ => .pure trivial
  unfold annotateQuestions
  split
  · next hauto =>
    rw [if_pos hauto] at hplan
    refine .inr ⟨_, ⟨hplan, False.elim⟩, ?_⟩
    have hnotes := generateAll_works host s.opts.maxConcurrentCalls constraints (selected.map ScoredQuestion.text)
    have hcount := congrArg List.length (text_scoreQuestions hcandidates)
    rw [List.length_map] at hcount
    rw [List.length_map, length_selectQuestions hselected, hcount] at hnotes
    exact hnotes.bind fun _ _ => hlast _ _
  · next hhuman =>
    rw [if_neg hhuman] at hplan
    refine .inr ⟨_, ⟨hplan, False.elim⟩, ?_⟩
    exact (annotateAll_works host _).bind fun _ _ => hlast _ _

theorem runReflection_planned : (runReflection host s).Planned (s.Plans body .reflection) := by
  refine .setting fun prompt _ => .setting fun buffer _ => ?_
  split
  · exact .inl ⟨_, rfl⟩
  · refine .setting fun constraints _ => .inr ⟨1, ⟨rfl, False.elim⟩, ?_⟩
    exact (generate_works host constraints prompt).bind_zero fun _ _ => .pure trivial

theorem runAutoCot_planned : (runAutoCot host s body).Planned (s.Plans body .autoCot) := by
  refine .setting fun method hmethod => .setting fun selection hselection => ?_
  refine .setting fun _ _ => .setting fun _ hknown => .setting fun constraints _ => ?_
  refine .setting fun clusters hclusters => .setting fun questions hquestions => ?_
  obtain ⟨r, hr⟩ := chooseStrategy_of_mem "autoCot representative selection" Representation.table (mem_of_ensureStrategy hknown)
  rw [representatives_eq hr, Except.ok.injEq] at hquestions
  subst hquestions
  have hplan : s.plannedCalls body .autoCot = .ok (r.picks (clusters.map Prod.snd) s.opts.randomWords).toFinset.card :=
    bind_eq_ok.2 ⟨method, hmethod, bind_eq_ok.2 ⟨r, bind_eq_ok.2 ⟨selection, hselection, hr⟩,
      bind_eq_ok.2 ⟨clusters, hclusters, rfl⟩⟩⟩
  rw [← length_eraseDups, ← List.length_map chainPrompt] at hplan
  exact .inr ⟨_, ⟨hplan, False.elim⟩, (generateAll_works host _ constraints _).bind_zero fun _ _ => .pure trivial⟩

theorem runArt_planned : (runArt host s body).Planned (s.Plans body .art) := by
  refine .setting fun tasks _ => .setting fun tools _ => .setting fun strategy _ => ?_
  refine .setting fun _ _ => .setting fun constraints _ => ?_
  dsimp only
  split
  · exact .inl ⟨_, rfl⟩
  · next task _ =>
    refine .setting fun steps hsteps => .inr ⟨5, ⟨rfl, False.elim⟩, ?_⟩
    have hwork := generateAll_works host s.opts.maxConcurrentCalls constraints steps
    rw [length_decomposeTask hsteps] at hwork
    exact hwork.bind_zero fun _ _ => .pure trivial

end Techniques

theorem Run.Planned.ofExcept {α : Type} {N : Nat → Prop} (hN : N 0) (x : Except Error α) : (ofExcept x).Planned N := by
  cases x with
  | error e => exact .inl ⟨e, rfl⟩
  | ok a => exact .inr ⟨0, hN, .pure trivial⟩

theorem keeping_planned {N : Nat → Prop} {x : Run Value} (h : x.Planned N) (env : Env) : (keeping env x).Planned N := by
  rcases h with ⟨e, rfl⟩ | ⟨n, hn, hwork⟩
  · exact .inl ⟨e, rfl⟩
  · exact .inr ⟨n, hn, hwork.bind_zero fun _ _ => .pure trivial⟩

/-- Every application of a method fails at once or is work of the planned size. -/
theorem Method.apply_planned (opts : Options) (host : Host) (method : Method) (fields : List Field) (body : String) (env : Env) :
    (method.apply opts host fields body env).Planned ((Settings.mk opts env method fields).Plans body method) := by
  cases method with
  | zeroShot => exact .ofExcept ⟨rfl, fun _ => Nat.zero_le _⟩ _
  | selfConsistency => exact keeping_planned (runSelfConsistency_planned host _ body) env
  | treeOfThoughts => exact keeping_planned (runTreeOfThoughts_planned host _ body) env
  | activePrompting => exact keeping_planned (runActivePrompting_planned host _ body) env
  | reflection => exact runReflection_planned host _ body
  | expertPrompting => exact keeping_planned (.ofExcept ⟨rfl, fun _ => Nat.zero_le _⟩ _) env
  | ape => exact keeping_planned (runApe_planned host _ body) env
  | autoCot => exact keeping_planned (runAutoCot_planned host _ body) env
  | art => exact keeping_planned (runArt_planned host _ body) env

end PromptLang
