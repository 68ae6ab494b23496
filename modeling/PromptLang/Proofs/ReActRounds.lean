import PromptLang.Proofs.BlockScoping
import PromptLang.Proofs.Computation
import PromptLang.Technique.Blocks

/-! The loop of observation, thought and action. It runs to the first round whose action mentions the word that ends it, or fails where one
of its blocks fails or where the rounds are used up. A round starts from the environment of the technique and the three texts of the
round before it. What a block assigns is dropped with the environment in which it ends. -/

namespace PromptLang

def Env.within (env : Env) (bindings : Entries Value) : Env := { env with frames := bindings :: env.frames }

namespace Round

/-- The names under which the next round finds the texts of this one. The first round finds nothing. -/
def carried : Option Round → Entries Value
  | none => []
  | some r => [("observation", .str r.observation), ("thought", .str r.thought), ("action", .str r.action)]

def Finishes (r : Round) : Prop := "finish".toList <:+: (Text.lowercase r.action).toList

theorem isFinal_iff (r : Round) : r.isFinal = true ↔ r.Finishes := Text.contains_iff_infix _ _

theorem bindIn_within (r : Round) (env : Env) (before : Option Round) :
    r.bindIn (env.within (carried before)) = env.within (carried (some r)) := by
  cases before <;> rfl

end Round

section Rounds

variable (opts : Options) (resolve : Resolver) (observation thought action : Block) (env : Env)

/-- A block gives a text, and the environment in which it ends does not matter. -/
def Yields (block : Block) (env : Env) (log : Log) (text : String) (log' : Log) : Prop :=
  ∃ last, Stmt.runBlock opts resolve block env log = (.ok (text, last), log')

def roundEnv (before : Option Round) (texts : Entries Value) : Env := (env.within (Round.carried before)).within texts

/-- A round after the round `before`: each block sees the texts that were carried over and those of the blocks before it. -/
def RoundRuns (before : Option Round) (log : Log) (r : Round) (log' : Log) : Prop :=
  ∃ log₁ log₂,
    Yields opts resolve observation (roundEnv env before []) log r.observation log₁ ∧
    Yields opts resolve thought (roundEnv env before [("observation", .str r.observation)]) log₁ r.thought log₂ ∧
    Yields opts resolve action (roundEnv env before [("observation", .str r.observation), ("thought", .str r.thought)])
      log₂ r.action log'

/-- A block of the round after `before` fails, and the blocks behind it do not run. -/
inductive RoundFails (before : Option Round) (log : Log) (e : Error) (log' : Log) : Prop where
  | observation (h : Stmt.runBlock opts resolve observation (roundEnv env before []) log = (.error e, log'))
  | thought {seen : String} {log₁ : Log} (hseen : Yields opts resolve observation (roundEnv env before []) log seen log₁)
      (h : Stmt.runBlock opts resolve thought (roundEnv env before [("observation", .str seen)]) log₁ = (.error e, log'))
  | action {seen idea : String} {log₁ log₂ : Log}
      (hseen : Yields opts resolve observation (roundEnv env before []) log seen log₁)
      (hidea : Yields opts resolve thought (roundEnv env before [("observation", .str seen)]) log₁ idea log₂)
      (h : Stmt.runBlock opts resolve action (roundEnv env before [("observation", .str seen), ("thought", .str idea)]) log₂ =
        (.error e, log'))

inductive RoundsRun : Option Round → Log → List Round → Log → Prop where
  | nil (before : Option Round) (log : Log) : RoundsRun before log [] log
  | next {before : Option Round} {r : Round} {rest : List Round} {log mid log' : Log}
      (first : RoundRuns opts resolve observation thought action env before log r mid)
      (later : RoundsRun (some r) mid rest log') : RoundsRun before log (r :: rest) log'

variable {opts resolve observation thought action env} {before : Option Round} {log log' : Log}

theorem blockText_eq_ok {block : Block} {env : Env} {text : String} :
    blockText opts resolve block env log = (.ok text, log') ↔ Yields opts resolve block env log text log' := by
  constructor
  · intro h
    obtain ⟨out, mid, hrun, h⟩ := Run.bind_eq_ok.1 h
    cases h
    exact ⟨out.2, hrun⟩
  · rintro ⟨last, hrun⟩
    exact Run.bind_eq_ok.2 ⟨(text, last), log', hrun, rfl⟩

theorem blockText_eq_error {block : Block} {env : Env} {e : Error} :
    blockText opts resolve block env log = (.error e, log') ↔ Stmt.runBlock opts resolve block env log = (.error e, log') := by
  refine Run.bind_eq_error.trans (or_iff_left ?_)
  rintro ⟨out, mid, -, h⟩
  cases h

theorem reActRound_eq_ok {r : Round} :
    reActRound opts resolve observation thought action (env.within (Round.carried before)) log = (.ok r, log') ↔
      RoundRuns opts resolve observation thought action env before log r log' := by
  constructor
  · intro h
    obtain ⟨seen, log₁, hseen, h⟩ := Run.bind_eq_ok.1 h
    obtain ⟨idea, log₂, hidea, h⟩ := Run.bind_eq_ok.1 h
    obtain ⟨act, log₃, hact, h⟩ := Run.bind_eq_ok.1 h
    cases h
    exact ⟨log₁, log₂, blockText_eq_ok.1 hseen, blockText_eq_ok.1 hidea, blockText_eq_ok.1 hact⟩
  · rintro ⟨log₁, log₂, hseen, hidea, hact⟩
    refine Run.bind_eq_ok.2 ⟨_, log₁, blockText_eq_ok.2 hseen, ?_⟩
    refine Run.bind_eq_ok.2 ⟨_, log₂, blockText_eq_ok.2 hidea, ?_⟩
    exact Run.bind_eq_ok.2 ⟨_, log', blockText_eq_ok.2 hact, rfl⟩

theorem reActRound_eq_error {e : Error} :
    reActRound opts resolve observation thought action (env.within (Round.carried before)) log = (.error e, log') ↔
      RoundFails opts resolve observation thought action env before log e log' := by
  constructor
  · intro h
    rcases Run.bind_eq_error.1 h with h | ⟨seen, log₁, hseen, h⟩
    · exact .observation (blockText_eq_error.1 h)
    rcases Run.bind_eq_error.1 h with h | ⟨idea, log₂, hidea, h⟩
    · exact .thought (blockText_eq_ok.1 hseen) (blockText_eq_error.1 h)
    rcases Run.bind_eq_error.1 h with h | ⟨act, log₃, -, h⟩
    · exact .action (blockText_eq_ok.1 hseen) (blockText_eq_ok.1 hidea) (blockText_eq_error.1 h)
    · cases h
  · intro h
    cases h with
    | observation h => exact Run.bind_eq_error.2 (.inl (blockText_eq_error.2 h))
    | thought hseen h =>
      refine Run.bind_eq_error.2 (.inr ⟨_, _, blockText_eq_ok.2 hseen, ?_⟩)
      exact Run.bind_eq_error.2 (.inl (blockText_eq_error.2 h))
    | action hseen hidea h =>
      refine Run.bind_eq_error.2 (.inr ⟨_, _, blockText_eq_ok.2 hseen, ?_⟩)
      refine Run.bind_eq_error.2 (.inr ⟨_, _, blockText_eq_ok.2 hidea, ?_⟩)
      exact Run.bind_eq_error.2 (.inl (blockText_eq_error.2 h))

theorem reActLoop_succ_eq_ok {n : Nat} {steps : List Value} :
    reActLoop opts resolve observation thought action (n + 1) (env.within (Round.carried before)) log = (.ok steps, log') ↔
      ∃ r mid, RoundRuns opts resolve observation thought action env before log r mid ∧
        ((r.Finishes ∧ steps = [r.toValue] ∧ mid = log') ∨
          (¬ r.Finishes ∧ ∃ later, steps = r.toValue :: later ∧
            reActLoop opts resolve observation thought action n (env.within (Round.carried (some r))) mid = (.ok later, log'))) := by
  rw [reActLoop, Run.bind_eq_ok]
  refine exists_congr fun r => exists_congr fun mid => and_congr reActRound_eq_ok ?_
  by_cases hr : r.Finishes
  · rw [if_pos (r.isFinal_iff.2 hr), Run.pure_apply]
    simp [hr, eq_comm]
  · rw [if_neg (mt r.isFinal_iff.1 hr), Run.bind_eq_ok, Round.bindIn_within]
    constructor
    · rintro ⟨later, log₁, hlater, h⟩
      cases h
      exact .inr ⟨hr, later, rfl, hlater⟩
    · rintro (⟨hfinal, -⟩ | ⟨-, later, rfl, hlater⟩)
      · exact absurd hfinal hr
      · exact ⟨later, log', hlater, rfl⟩

theorem reActLoop_succ_eq_error {n : Nat} {e : Error} :
    reActLoop opts resolve observation thought action (n + 1) (env.within (Round.carried before)) log = (.error e, log') ↔
      RoundFails opts resolve observation thought action env before log e log' ∨
      ∃ r mid, RoundRuns opts resolve observation thought action env before log r mid ∧ ¬ r.Finishes ∧
        reActLoop opts resolve observation thought action n (env.within (Round.carried (some r))) mid = (.error e, log') := by
  rw [reActLoop, Run.bind_eq_error]
  refine or_congr reActRound_eq_error (exists_congr fun r => exists_congr fun mid => and_congr reActRound_eq_ok ?_)
  by_cases hr : r.Finishes
  · rw [if_pos (r.isFinal_iff.2 hr), Run.pure_apply]
    simp [hr]
  · rw [if_neg (mt r.isFinal_iff.1 hr), Run.bind_eq_error, Round.bindIn_within]
    constructor
    · rintro (h | ⟨later, log₁, -, h⟩)
      · exact ⟨hr, h⟩
      · cases h
    · rintro ⟨-, h⟩
      exact .inl h

theorem reActLoop_eq_ok {n : Nat} {steps : List Value} :
    reActLoop opts resolve observation thought action n (env.within (Round.carried before)) log = (.ok steps, log') ↔
      ∃ rounds last, steps = (rounds ++ [last]).map Round.toValue ∧ rounds.length + 1 ≤ n ∧
        (∀ r ∈ rounds, ¬ r.Finishes) ∧ last.Finishes ∧
        RoundsRun opts resolve observation thought action env before log (rounds ++ [last]) log' := by
  induction n generalizing before log steps with
  | zero =>
    refine iff_of_false (fun h => nomatch h) ?_
    rintro ⟨rounds, last, -, hlength, -⟩
    omega
  | succ n ih =>
    rw [reActLoop_succ_eq_ok]
    constructor
    · rintro ⟨r, mid, hr, ⟨hfinal, rfl, rfl⟩ | ⟨hgoes, later, rfl, hlater⟩⟩
      · exact ⟨[], r, rfl, by simp, by simp, hfinal, .next hr (.nil _ _)⟩
      · obtain ⟨rounds, last, rfl, hlength, hrounds, hlast, hruns⟩ := ih.1 hlater
        refine ⟨r :: rounds, last, rfl, by simpa using hlength, ?_, hlast, .next hr hruns⟩
        exact List.forall_mem_cons.2 ⟨hgoes, hrounds⟩
    · rintro ⟨rounds, last, rfl, hlength, hrounds, hlast, hruns⟩
      cases rounds with
      | nil =>
        obtain - | ⟨hr, hrest⟩ := hruns
        cases hrest
        exact ⟨last, log', hr, .inl ⟨hlast, rfl, rfl⟩⟩
      | cons r rounds =>
        obtain - | ⟨hr, hrest⟩ := hruns
        obtain ⟨hgoes, hrounds⟩ := List.forall_mem_cons.1 hrounds
        refine ⟨r, _, hr, .inr ⟨hgoes, _, rfl, ih.2 ?_⟩⟩
        exact ⟨rounds, last, rfl, by simpa using hlength, hrounds, hlast, hrest⟩

theorem reActLoop_eq_error {n : Nat} {e : Error} :
    reActLoop opts resolve observation thought action n (env.within (Round.carried before)) log = (.error e, log') ↔
      ∃ rounds mid, (∀ r ∈ rounds, ¬ r.Finishes) ∧
        RoundsRun opts resolve observation thought action env before log rounds mid ∧
        ((rounds.length = n ∧ e = .depthExceeded .rounds opts.maxReactIterations ∧ mid = log') ∨
          (rounds.length < n ∧
            RoundFails opts resolve observation thought action env (rounds.getLast?.or before) mid e log')) := by
  induction n generalizing before log with
  | zero =>
    constructor
    · intro h
      cases h
      exact ⟨[], log', by simp, .nil _ _, .inl ⟨rfl, rfl, rfl⟩⟩
    · rintro ⟨rounds, mid, -, hruns, ⟨hlength, rfl, rfl⟩ | ⟨hlength, -⟩⟩
      · cases List.length_eq_zero_iff.1 hlength
        cases hruns
        rfl
      · omega
  | succ n ih =>
    rw [reActLoop_succ_eq_error]
    have hgetLast (r : Round) (rounds : List Round) : (r :: rounds).getLast?.or before = rounds.getLast?.or (some r) := by
      cases h : rounds.getLast? <;> simp [List.getLast?_cons, h]
    constructor
    · rintro (hfails | ⟨r, mid, hr, hgoes, hlater⟩)
      · exact ⟨[], log, by simp, .nil _ _, .inr ⟨Nat.succ_pos n, hfails⟩⟩
      · obtain ⟨rounds, last, hrounds, hruns, hend⟩ := ih.1 hlater
        refine ⟨r :: rounds, last, List.forall_mem_cons.2 ⟨hgoes, hrounds⟩, .next hr hruns, ?_⟩
        rw [hgetLast]
        simpa using hend
    · rintro ⟨rounds, mid, hrounds, hruns, hend⟩
      cases rounds with
      | nil =>
        cases hruns
        rcases hend with ⟨hlength, -⟩ | ⟨-, hfails⟩
        · cases hlength
        · exact .inl hfails
      | cons r rounds =>
        obtain - | ⟨hr, hrest⟩ := hruns
        obtain ⟨hgoes, hrounds⟩ := List.forall_mem_cons.1 hrounds
        rw [hgetLast] at hend
        exact .inr ⟨r, _, hr, hgoes, ih.2 ⟨rounds, mid, hrounds, hrest, by simpa using hend⟩⟩

end Rounds

/-- The technique succeeds exactly if its rounds run up to a first one that finishes, within the limit, and its result lists them. It fails
exactly if as many rounds run as the limit allows and none finishes, or if after some rounds a block of the next one fails; in the
latter case the error is that of the block. Each round after the first starts from the environment of the technique and the texts of
the round before it. -/
theorem reAct_runs_to_first_finish (opts : Options) (resolve : Resolver) (observation thought action : Block) (env : Env)
    (log log' : Log) :
    (∀ result, runReAct opts resolve observation thought action env log = (.ok result, log') ↔
      ∃ rounds last, result = .array ((rounds ++ [last]).map fun r =>
          .object [("observation", .str r.observation), ("thought", .str r.thought), ("action", .str r.action)]) ∧
        rounds.length + 1 ≤ opts.maxReactIterations ∧ (∀ r ∈ rounds, ¬ r.Finishes) ∧ last.Finishes ∧
        RoundsRun opts resolve observation thought action env none log (rounds ++ [last]) log') ∧
    (∀ e, runReAct opts resolve observation thought action env log = (.error e, log') ↔
      ∃ rounds mid, (∀ r ∈ rounds, ¬ r.Finishes) ∧ RoundsRun opts resolve observation thought action env none log rounds mid ∧
        ((rounds.length = opts.maxReactIterations ∧ e = .depthExceeded .rounds opts.maxReactIterations ∧ mid = log') ∨
          (rounds.length < opts.maxReactIterations ∧
            RoundFails opts resolve observation thought action env rounds.getLast? mid e log'))) ∧
    (Error.depthExceeded .rounds opts.maxReactIterations).code = "depth_exceeded" ∧
    (Error.depthExceeded .rounds opts.maxReactIterations).message =
      "reAct iterations exceeded the limit of " ++ toString opts.maxReactIterations := by
  have hstart : env.child = env.within (Round.carried none) := rfl
  refine ⟨fun result => ?_, fun e => ?_, rfl, rfl⟩
  · rw [runReAct, Run.bind_eq_ok, hstart]
    constructor
    · rintro ⟨steps, mid, hsteps, h⟩
      cases h
      obtain ⟨rounds, last, rfl, hrest⟩ := reActLoop_eq_ok.1 hsteps
      exact ⟨rounds, last, rfl, hrest⟩
    · rintro ⟨rounds, last, rfl, hrest⟩
      exact ⟨_, log', reActLoop_eq_ok.2 ⟨rounds, last, rfl, hrest⟩, rfl⟩
  · have hloop := @reActLoop_eq_error opts resolve observation thought action env none log log' opts.maxReactIterations e
    simp only [Option.or_none] at hloop
    rw [runReAct, Run.bind_eq_error, hstart, hloop]
    refine or_iff_left ?_
    rintro ⟨steps, mid, -, h⟩
    cases h

def lookAround : Block := [
  .assign (.ident "mood") (.str "calm"),
  .assign (.ident "thought") (.str "none"),
  .text [.text "after ", .hole (.ident "action")]]

def ponder : Block := [.text [.hole (.ident "mood"), .hole (.ident "thought"), .text "<", .hole (.ident "observation"), .text ">"]]

def searchOnce : Block := [.ifElse (.ident "action") [.text [.text "FINISH ", .hole (.ident "thought")]] [.text [.text "search"]]]

/-- The second thought sees the first one and neither of the two assignments. -/
def searchSteps : List Value := [
  .object [("observation", .str "after "), ("thought", .str "<after >"), ("action", .str "search")],
  .object [("observation", .str "after search"), ("thought", .str "<after ><after search>"),
    ("action", .str "FINISH <after ><after search>")]]

/-- The search finishes in its second round. With one round it is cut off, and a block that fails ends it at once. -/
theorem search_rounds :
    (runReAct {} noPrompts lookAround ponder searchOnce Env.empty {} = (.ok (.array searchSteps), {}) ∧
      ∃ first last, last.Finishes ∧ RoundsRun {} noPrompts lookAround ponder searchOnce Env.empty none {} [first, last] {}) ∧
    runReAct { maxReactIterations := 1 } noPrompts lookAround ponder searchOnce Env.empty {} =
      (.error (.depthExceeded .rounds 1), {}) ∧
    runReAct {} noPrompts lookAround ponder [.ret .null] Env.empty {} = (.error (.invalid .returnOutsideHook), {}) := by
  refine ⟨?_, ?_, ?_⟩
  · have hrun : runReAct {} noPrompts lookAround ponder searchOnce Env.empty {} = (.ok (.array searchSteps), {}) := rfl
    obtain ⟨hok, -⟩ := reAct_runs_to_first_finish {} noPrompts lookAround ponder searchOnce Env.empty {} {}
    obtain ⟨rounds, last, hsteps, -, -, hlast, hruns⟩ := (hok _).1 hrun
    obtain ⟨first, rfl⟩ : ∃ first, rounds = [first] := by
      have hlength := congrArg List.length (Value.array.inj hsteps)
      exact List.length_eq_one_iff.1 (by simpa [searchSteps] using hlength)
    exact ⟨hrun, first, last, hlast, hruns⟩
  · have hgoes : ¬ (⟨"after ", "<after >", "search"⟩ : Round).Finishes := fun h => nomatch (Round.isFinal_iff _).2 h
    obtain ⟨-, herror, -⟩ := reAct_runs_to_first_finish { maxReactIterations := 1 } noPrompts lookAround ponder searchOnce
      Env.empty {} {}
    refine (herror _).2 ⟨[⟨"after ", "<after >", "search"⟩], {}, by simpa using hgoes, ?_, .inl ⟨rfl, rfl, rfl⟩⟩
    exact .next ⟨{}, {}, ⟨_, rfl⟩, ⟨_, rfl⟩, ⟨_, rfl⟩⟩ (.nil _ _)
  · obtain ⟨-, herror, -⟩ := reAct_runs_to_first_finish {} noPrompts lookAround ponder [.ret .null] Env.empty {} {}
    refine (herror _).2 ⟨[], {}, by simp, .nil _ _, .inr ⟨by decide, ?_⟩⟩
    exact .action ⟨_, rfl⟩ ⟨_, rfl⟩ rfl

end PromptLang
