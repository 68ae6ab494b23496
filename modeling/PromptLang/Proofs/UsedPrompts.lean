import PromptLang.Technique.Apply

/-! Which prompts a block can use. The names stand in its `use` statements, at any depth, and a run depends on what the uses find through
these names alone. So a block or technique runs in the same way when no other prompt can be found. -/

namespace PromptLang

mutual

/-- The prompts that a statement uses, at any depth. -/
def Stmt.uses : Stmt → List String
  | .use prompt _ => [prompt]
  | .ifThen _ yes => Stmt.usesIn yes
  | .ifElse _ yes no => Stmt.usesIn yes ++ Stmt.usesIn no
  | .forEach _ _ body => Stmt.usesIn body
  | .text _ | .code .. | .image .. | .assign .. | .ret _ | .expr _ => []
termination_by structural s => s

def Stmt.usesIn : List Stmt → List String
  | [] => []
  | s :: rest => s.uses ++ Stmt.usesIn rest
termination_by structural ss => ss

end

namespace Technique

/-- The blocks of a technique, in the order in which they first run. -/
def blocks : Technique → List Block
  | chainOfThought steps => steps.map Prod.snd
  | fewShot examples => examples.flatMap fun pair => [pair.1, pair.2]
  | reWOO planner worker solver => [planner, worker, solver]
  | reAct observation thought action => [observation, thought, action]
  | byFields .. => []

def uses (t : Technique) : List String := t.blocks.flatMap Stmt.usesIn

theorem mem_uses {t : Technique} {block : Block} (hblock : block ∈ t.blocks) {name : String}
    (hname : name ∈ Stmt.usesIn block) : name ∈ t.uses :=
  List.mem_flatMap.2 ⟨block, hblock, hname⟩

end Technique

def Resolver.Agree (names : List String) (r r' : Resolver) : Prop := ∀ name ∈ names, r name = r' name

theorem Resolver.Agree.mono {names fewer : List String} {r r' : Resolver} (h : Resolver.Agree names r r')
    (hsub : ∀ name ∈ fewer, name ∈ names) : Resolver.Agree fewer r r' := fun name hname => h name (hsub name hname)

section Blocks

variable (opts : Options) {r r' : Resolver}

mutual

theorem Stmt.run_agree : ∀ s : Stmt, Resolver.Agree s.uses r r' → s.run opts r = s.run opts r'
  | .use prompt args, h => by
    funext env
    simp only [Stmt.run, h prompt (by simp [Stmt.uses])]
  | .ifThen condition yes, h => by
    funext env
    simp only [Stmt.run, Stmt.runBlock_agree yes h]
  | .ifElse condition yes no, h => by
    have hyes : Resolver.Agree (Stmt.usesIn yes) r r' := h.mono fun name hname => by simp [Stmt.uses, hname]
    have hno : Resolver.Agree (Stmt.usesIn no) r r' := h.mono fun name hname => by simp [Stmt.uses, hname]
    funext env
    simp only [Stmt.run, Stmt.runBlock_agree yes hyes, Stmt.runBlock_agree no hno]
  | .forEach binding iterable body, h => by
    funext env
    simp only [Stmt.run, Stmt.runBlock_agree body h]
  | .text _, _ | .code .., _ | .image .., _ | .assign .., _ | .ret _, _ | .expr _, _ => by
    funext env
    simp only [Stmt.run]

theorem Stmt.runBlock_agree :
    ∀ ss : List Stmt, Resolver.Agree (Stmt.usesIn ss) r r' → Stmt.runBlock opts r ss = Stmt.runBlock opts r' ss
  | [], _ => rfl
  | s :: rest, h => by
    have hfirst : Resolver.Agree s.uses r r' := h.mono fun name hname => by simp [Stmt.usesIn, hname]
    have hrest : Resolver.Agree (Stmt.usesIn rest) r r' := h.mono fun name hname => by simp [Stmt.usesIn, hname]
    funext env
    simp only [Stmt.runBlock, Stmt.run_agree s hfirst, Stmt.runBlock_agree rest hrest]

end

theorem blockText_agree {block : Block} (h : Resolver.Agree (Stmt.usesIn block) r r') :
    blockText opts r block = blockText opts r' block := by
  funext env
  simp only [blockText, Stmt.runBlock_agree opts block h]

theorem chainSteps_agree {steps : List (String × Block)} (h : ∀ step ∈ steps, Resolver.Agree (Stmt.usesIn step.2) r r')
    (env : Env) : chainSteps opts r env steps = chainSteps opts r' env steps := by
  induction steps with
  | nil => rfl
  | cons step rest ih =>
    simp only [chainSteps, blockText_agree opts (h step List.mem_cons_self),
      ih fun other hother => h other (List.mem_cons_of_mem step hother)]

theorem examplePairs_agree {examples : List (Block × Block)}
    (h : ∀ pair ∈ examples, Resolver.Agree (Stmt.usesIn pair.1) r r' ∧ Resolver.Agree (Stmt.usesIn pair.2) r r') (env : Env) :
    examplePairs opts r env examples = examplePairs opts r' env examples := by
  induction examples with
  | nil => rfl
  | cons pair rest ih =>
    obtain ⟨hinput, houtput⟩ := h pair List.mem_cons_self
    simp only [examplePairs, blockText_agree opts hinput, blockText_agree opts houtput,
      ih fun other hother => h other (List.mem_cons_of_mem pair hother)]

theorem reActLoop_agree {observation thought action : Block} (hseen : Resolver.Agree (Stmt.usesIn observation) r r')
    (hidea : Resolver.Agree (Stmt.usesIn thought) r r') (hact : Resolver.Agree (Stmt.usesIn action) r r') (rounds : Nat)
    (base : Env) :
    reActLoop opts r observation thought action rounds base = reActLoop opts r' observation thought action rounds base := by
  induction rounds generalizing base with
  | zero => rfl
  | succ n ih =>
    simp only [reActLoop, reActRound, blockText_agree opts hseen, blockText_agree opts hidea, blockText_agree opts hact, ih]

end Blocks

namespace Technique

theorem apply_agree (opts : Options) (host : Host) {r r' : Resolver} (body : String) (env : Env) (t : Technique)
    (h : Resolver.Agree t.uses r r') : t.apply opts host r body env = t.apply opts host r' body env := by
  have hblock (block : Block) (hmem : block ∈ t.blocks) : Resolver.Agree (Stmt.usesIn block) r r' :=
    h.mono fun name hname => mem_uses hmem hname
  cases t with
  | chainOfThought steps =>
    have hsteps := chainSteps_agree opts (fun step hstep => hblock step.2 (List.mem_map_of_mem hstep)) env
    simp only [apply, runChainOfThought, hsteps]
  | fewShot examples =>
    have hpairs : ∀ pair ∈ examples,
        Resolver.Agree (Stmt.usesIn pair.1) r r' ∧ Resolver.Agree (Stmt.usesIn pair.2) r r' := fun pair hpair =>
      ⟨hblock _ (List.mem_flatMap.2 ⟨pair, hpair, by simp⟩), hblock _ (List.mem_flatMap.2 ⟨pair, hpair, by simp⟩)⟩
    simp only [apply, runFewShot, examplePairs_agree opts hpairs env]
  | reWOO planner worker solver =>
    simp only [apply, runReWOO, blockText_agree opts (hblock planner (by simp [blocks])),
      blockText_agree opts (hblock worker (by simp [blocks])), blockText_agree opts (hblock solver (by simp [blocks]))]
  | reAct observation thought action =>
    have hloop := reActLoop_agree opts (hblock observation (by simp [blocks])) (hblock thought (by simp [blocks]))
      (hblock action (by simp [blocks]))
    simp only [apply, runReAct, hloop]
  | byFields method fields => rfl

end Technique

/-- Finds the prompts of the given names only. -/
def Resolver.only (names : List String) (r : Resolver) : Resolver := fun name =>
  if name ∈ names then r name else .error (.unresolvedPrompt name)

theorem Resolver.agree_only (names : List String) (r : Resolver) : Resolver.Agree names r (r.only names) :=
  fun _ hname => (if_pos hname).symm

end PromptLang
