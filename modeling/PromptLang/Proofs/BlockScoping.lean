import PromptLang.Interpreter.Block
import PromptLang.Proofs.Computation

/-! Which names a block of statements can leave behind. A block creates no slot and removes none, keeps the names of every frame, and can
add names to the innermost frame only. A loop adds no name at all: its variable and whatever its body binds first live in a frame
that is dropped after each item. Both hold for bodies and for hooks, also when a hook returns from inside a loop. -/

namespace PromptLang

namespace Entries

variable {α : Type}

theorem has_iff_mem_keys (key : String) (es : Entries α) : es.has key = true ↔ key ∈ es.keys := by
  induction es with
  | nil => simp [has, keys]
  | cons kv rest ih =>
    obtain ⟨k, v⟩ := kv
    simp only [has, keys] at ih
    by_cases hk : k = key
    · simp [has, keys, get?, hk]
    · simp [has, keys, get?, hk, ih, Ne.symm hk]

theorem keys_insert_of_has {key : String} {es : Entries α} (h : es.has key = true) (value : α) :
    (es.insert key value).keys = es.keys := by
  rw [keys_insert, if_pos ((has_iff_mem_keys key es).1 h)]

theorem keys_prefix_insert (key : String) (value : α) (es : Entries α) : es.keys <+: (es.insert key value).keys := by
  rw [keys_insert]
  split
  · exact List.prefix_refl _
  · exact List.prefix_append _ _

end Entries

namespace Env

/-- The names bound in each frame, innermost first. -/
def frameNames (env : Env) : List (List String) := env.frames.map Entries.keys

/-- The same slots and in every frame the same names, in the same order. -/
structure SameNames (env env' : Env) : Prop where
  slots : env'.slots.keys = env.slots.keys
  frames : env'.frameNames = env.frameNames

/-- The same slots, and frames in which only the innermost may have gained names, after those it had. Where there is no
frame, a first one may appear. -/
structure Scoped (env env' : Env) : Prop where
  slots : env'.slots.keys = env.slots.keys
  outer : env'.frameNames.tail = env.frameNames.tail
  inner : env.frameNames.headD [] <+: env'.frameNames.headD []
  count : env'.frames.length = env.frames.length ∨ env.frames.length = 0 ∧ env'.frames.length = 1

theorem SameNames.refl (env : Env) : SameNames env env := ⟨rfl, rfl⟩

theorem SameNames.trans {a b c : Env} (h₁ : SameNames a b) (h₂ : SameNames b c) : SameNames a c :=
  ⟨h₂.slots.trans h₁.slots, h₂.frames.trans h₁.frames⟩

theorem SameNames.scoped {env env' : Env} (h : SameNames env env') : Scoped env env' := by
  refine ⟨h.slots, by rw [h.frames], h.frames ▸ List.prefix_refl _, .inl ?_⟩
  have hlength := congrArg List.length h.frames
  simpa [frameNames] using hlength

theorem Scoped.refl (env : Env) : Scoped env env := (SameNames.refl env).scoped

theorem Scoped.trans {a b c : Env} (h₁ : Scoped a b) (h₂ : Scoped b c) : Scoped a c := by
  refine ⟨h₂.slots.trans h₁.slots, h₂.outer.trans h₁.outer, h₁.inner.trans h₂.inner, ?_⟩
  have := h₁.count
  have := h₂.count
  omega

theorem setSlot_sameNames {env : Env} {name : String} (h : env.slots.has name = true) (value : Value) :
    SameNames env (env.setSlot name value) :=
  ⟨Entries.keys_insert_of_has h value, rfl⟩

theorem bind_scoped (env : Env) (name : String) (value : Value) : Scoped env (env.bind name value) := by
  unfold bind
  cases hf : env.frames with
  | nil => exact ⟨rfl, by simp [frameNames, hf], by simp [frameNames, hf], .inr (by simp [hf])⟩
  | cons frame outer =>
    refine ⟨rfl, by simp [frameNames, hf], ?_, .inl (by simp [hf])⟩
    simpa [frameNames, hf] using Entries.keys_prefix_insert name value frame

theorem updateFrames_names {name : String} {value : Value} {frames frames' : List (Entries Value)}
    (h : updateFrames name value frames = some frames') : frames'.map Entries.keys = frames.map Entries.keys := by
  induction frames generalizing frames' with
  | nil => simp [updateFrames] at h
  | cons frame outer ih =>
    simp only [updateFrames] at h
    split at h
    · next hhas =>
      cases h
      simp [Entries.keys_insert_of_has hhas]
    · obtain ⟨outer', houter, rfl⟩ := Option.map_eq_some_iff.1 h
      simp [ih houter]

/-- An assignment finds its name in a frame or in a slot, or binds it in the innermost frame. -/
theorem assign_scoped (env : Env) (name : String) (value : Value) : Scoped env (env.assign name value) := by
  unfold assign
  cases hf : updateFrames name value env.frames with
  | some frames => exact SameNames.scoped ⟨rfl, updateFrames_names hf⟩
  | none =>
    by_cases hs : env.slots.has name
    · simpa [hs] using (setSlot_sameNames hs value).scoped
    · simpa [hs] using bind_scoped env name value

theorem assignPath_scoped (env : Env) (root : String) (path : List Step) (value : Value) :
    Ensures (env.assignPath root path value) (Scoped env) := by
  unfold assignPath
  split
  · exact .ok (assign_scoped env root value)
  · dsimp only
    split
    · exact .ok (assign_scoped env root _)
    · exact .error _ _

/-- One turn of a loop: whatever the body leaves, the frame of the turn is dropped and all other names are as before. -/
theorem Scoped.parent_of_extend {env inner : Env} {binding : String} {item : Value}
    (h : Scoped (env.extend binding item) inner) : SameNames env inner.parent := by
  refine ⟨h.slots, ?_⟩
  simpa [frameNames, parent, extend, child, bind, List.map_tail] using h.outer

end Env

theorem assignTarget_scoped (opts : Options) (call : Caller) (env : Env) (target : Expr) (value : Value) :
    Ensures (assignTarget opts call env target value) (Env.Scoped env) :=
  .bind_any fun ⟨root, path⟩ => env.assignPath_scoped root path value

/-- A loop keeps all names, if its body is scoped from every environment. The invariant is on the environment between two
turns, where the frame of a turn is already dropped. -/
theorem bodyLoop_sameNames {body : Env → Run (String × Env)}
    (hbody : ∀ env, (body env).Ensures fun out => env.Scoped out.2) (binding : String) (items : List Value) (env : Env) :
    (bodyLoop body binding items env).Ensures fun out => env.SameNames out.2 := by
  induction items generalizing env with
  | nil => exact .pure (Env.SameNames.refl env)
  | cons item rest ih =>
    refine (hbody _).bind fun ⟨_, inner⟩ hturn => ?_
    have hkept := hturn.parent_of_extend
    exact (ih inner.parent).bind fun ⟨_, _⟩ hrest => .pure (hkept.trans hrest)

theorem hookLoop_sameNames {body : Env → Except Error HookResult}
    (hbody : ∀ env, Ensures (body env) fun out => env.Scoped out.1) (binding : String) (items : List Value) (env : Env) :
    Ensures (hookLoop body binding items env) fun out => env.SameNames out.1 := by
  induction items generalizing env with
  | nil => exact .ok (Env.SameNames.refl env)
  | cons item rest ih =>
    refine (hbody _).bind fun ⟨inner, returned?⟩ hturn => ?_
    have hkept := hturn.parent_of_extend
    cases returned? with
    | some v => exact .ok hkept
    | none => exact fun out hout => hkept.trans (ih inner.parent out hout)

section Body

variable (opts : Options) (resolve : Resolver)

theorem forEach_sameNames {body : Block}
    (hbody : ∀ env, (Stmt.runBlock opts resolve body env).Ensures fun out => env.Scoped out.2)
    (binding : String) (iterable : Expr) (env : Env) :
    (Stmt.run opts resolve (.forEach binding iterable body) env).Ensures fun out => env.SameNames out.2 := by
  simp only [Stmt.run]
  exact .bind_any fun v => .bind_any fun items => bodyLoop_sameNames hbody binding items env

mutual

theorem Stmt.run_scoped : ∀ (s : Stmt) (env : Env), (s.run opts resolve env).Ensures fun out => env.Scoped out.2
  | .text _, env => .bind_any fun _ => .pure (.refl env)
  | .code .., env => .bind_any fun _ => .pure (.refl env)
  | .image .., env => .bind_any fun _ => .bind_any fun _ => .pure (.refl env)
  | .ifThen condition yes, env => by
    simp only [Stmt.run]
    refine .bind_any fun c => ?_
    split
    · exact Stmt.runBlock_scoped yes env
    · exact .pure (.refl env)
  | .ifElse condition yes no, env => by
    simp only [Stmt.run]
    refine .bind_any fun c => ?_
    split
    · exact Stmt.runBlock_scoped yes env
    · exact Stmt.runBlock_scoped no env
  | .forEach binding iterable body, env => fun log out log' hrun =>
    (forEach_sameNames opts resolve (fun env => Stmt.runBlock_scoped body env) binding iterable env log out log' hrun).scoped
  | .use .., env => .bind_any fun _ => .bind_any fun _ => .bind_any fun _ => .pure (.refl env)
  | .assign target value, env => by
    simp only [Stmt.run]
    refine .bind_any fun v => ?_
    exact (Run.Ensures.ofExcept (assignTarget_scoped opts _ env target v)).bind fun _ h => .pure h
  | .expr _, env => .bind_any fun _ => .pure (.refl env)
  | .ret _, _ => .fail _ _

theorem Stmt.runBlock_scoped :
    ∀ (ss : List Stmt) (env : Env), (Stmt.runBlock opts resolve ss env).Ensures fun out => env.Scoped out.2
  | [], env => .pure (.refl env)
  | s :: rest, env => by
    simp only [Stmt.runBlock]
    refine (Stmt.run_scoped s env).bind fun ⟨_, mid⟩ hfirst => ?_
    exact (Stmt.runBlock_scoped rest mid).bind fun _ hrest => .pure (hfirst.trans hrest)

end

end Body

section InHook

variable (opts : Options) (call : Caller) (hook : String)

theorem forEachInHook_sameNames {body : Block}
    (hbody : ∀ env, Ensures (Stmt.runBlockInHook opts call hook body env) fun out => env.Scoped out.1)
    (binding : String) (iterable : Expr) (env : Env) :
    Ensures (Stmt.runInHook opts call hook (.forEach binding iterable body) env) fun out => env.SameNames out.1 := by
  simp only [Stmt.runInHook]
  exact .bind_any fun v => .bind_any fun items => hookLoop_sameNames hbody binding items env

mutual

theorem Stmt.runInHook_scoped :
    ∀ (s : Stmt) (env : Env), Ensures (s.runInHook opts call hook env) fun out => env.Scoped out.1
  | .assign target value, env => by
    simp only [Stmt.runInHook]
    refine .bind_any fun v => ?_
    exact (assignTarget_scoped opts call env target v).bind fun _ h => .ok h
  | .ret _, env => .bind_any fun _ => .ok (.refl env)
  | .expr _, env => .bind_any fun _ => .ok (.refl env)
  | .ifThen condition yes, env => by
    simp only [Stmt.runInHook]
    refine .bind_any fun c => ?_
    split
    · exact Stmt.runBlockInHook_scoped yes env
    · exact .ok (.refl env)
  | .ifElse condition yes no, env => by
    simp only [Stmt.runInHook]
    refine .bind_any fun c => ?_
    split
    · exact Stmt.runBlockInHook_scoped yes env
    · exact Stmt.runBlockInHook_scoped no env
  | .forEach binding iterable body, env => fun out hrun =>
    (forEachInHook_sameNames opts call hook (fun env => Stmt.runBlockInHook_scoped body env) binding iterable env
      out hrun).scoped
  | .text _, _ => .error _ _
  | .code .., _ => .error _ _
  | .image .., _ => .error _ _
  | .use .., _ => .error _ _

theorem Stmt.runBlockInHook_scoped :
    ∀ (ss : List Stmt) (env : Env), Ensures (Stmt.runBlockInHook opts call hook ss env) fun out => env.Scoped out.1
  | [], env => .ok (.refl env)
  | s :: rest, env => by
    simp only [Stmt.runBlockInHook]
    refine (Stmt.runInHook_scoped s env).bind fun ⟨mid, returned?⟩ hfirst => ?_
    cases returned? with
    | some v => exact .ok hfirst
    | none => exact fun out hout => hfirst.trans (Stmt.runBlockInHook_scoped rest mid out hout)

end

end InHook

/-- Blocks of bodies and of hooks are scoped, and loops of both leave every name as it was. -/
theorem blocks_are_scoped :
    (∀ (opts : Options) (resolve : Resolver) (block : Block) (env env' : Env) (log log' : Log) (text : String),
      Stmt.runBlock opts resolve block env log = (.ok (text, env'), log') → env.Scoped env') ∧
    (∀ (opts : Options) (resolve : Resolver) (binding : String) (iterable : Expr) (body : Block) (env env' : Env)
      (log log' : Log) (text : String),
      Stmt.run opts resolve (.forEach binding iterable body) env log = (.ok (text, env'), log') → env.SameNames env') ∧
    (∀ (opts : Options) (call : Caller) (hook : String) (block : Block) (env env' : Env) (returned? : Option Value),
      Stmt.runBlockInHook opts call hook block env = .ok (env', returned?) → env.Scoped env') ∧
    (∀ (opts : Options) (call : Caller) (hook binding : String) (iterable : Expr) (body : Block) (env env' : Env)
      (returned? : Option Value),
      Stmt.runInHook opts call hook (.forEach binding iterable body) env = .ok (env', returned?) →
        env.SameNames env') := by
  refine ⟨?_, ?_, ?_, ?_⟩
  · intro opts resolve block env env' log log' text hrun
    exact Stmt.runBlock_scoped opts resolve block env log (text, env') log' hrun
  · intro opts resolve binding iterable body env env' log log' text hrun
    exact forEach_sameNames opts resolve (Stmt.runBlock_scoped opts resolve body) binding iterable env
      log (text, env') log' hrun
  · intro opts call hook block env env' returned? hrun
    exact Stmt.runBlockInHook_scoped opts call hook block env (env', returned?) hrun
  · intro opts call hook binding iterable body env env' returned? hrun
    exact forEachInHook_sameNames opts call hook (Stmt.runBlockInHook_scoped opts call hook body) binding iterable env
      (env', returned?) hrun

/-- A loop that writes an outer name, binds a new one and, inside an inner loop, another. -/
def scratchLoop (last : Stmt) : Stmt :=
  .forEach "x" (.array [.str "a", .str "b"]) [
    .assign (.ident "total") (.ident "x"),
    .assign (.ident "scratch") (.ident "x"),
    .forEach "y" (.array [.ident "scratch"]) [.assign (.ident "deep") (.ident "y"), last]]

def noPrompts : Resolver := fun name => .error (.unresolvedPrompt name)

/-- After the loop a block keeps only what it binds itself, and a hook that returns out of both loops keeps nothing of them. -/
theorem scratchLoop_scoped :
    (∃ text env', Stmt.runBlock {} noPrompts [scratchLoop (.expr .null), .assign (.ident "last") (.ident "total")]
        (Env.empty.bind "total" .null) {} = (.ok (text, env'), {}) ∧
      env'.frameNames = [["total", "last"]] ∧ (Env.empty.bind "total" .null).Scoped env') ∧
    (∃ text env', Stmt.run {} noPrompts (scratchLoop (.expr .null)) Env.empty {} = (.ok (text, env'), {}) ∧
      Env.empty.SameNames env') ∧
    (∃ env', Stmt.runBlockInHook {} (callHookAt {} 1) "h" [.assign (.ident "first") .null, scratchLoop (.ret (.ident "deep"))]
        (Env.empty.extend "given" .null) = .ok (env', some (.str "a")) ∧
      env'.frameNames = [["given", "first"]] ∧ (Env.empty.extend "given" .null).Scoped env') ∧
    (∃ env', Stmt.runInHook {} (callHookAt {} 1) "h" (scratchLoop (.ret (.ident "deep"))) (Env.empty.extend "given" .null) =
        .ok (env', some (.str "a")) ∧ (Env.empty.extend "given" .null).SameNames env') := by
  obtain ⟨hblock, hloop, hhook, hhookLoop⟩ := blocks_are_scoped
  refine ⟨?_, ?_, ?_, ?_⟩
  · obtain ⟨text, env', hrun, hnames⟩ : ∃ text env', Stmt.runBlock {} noPrompts
        [scratchLoop (.expr .null), .assign (.ident "last") (.ident "total")] (Env.empty.bind "total" .null) {} =
          (.ok (text, env'), {}) ∧ env'.frameNames = [["total", "last"]] := ⟨_, _, rfl, by decide⟩
    exact ⟨text, env', hrun, hnames, hblock _ _ _ _ _ _ _ _ hrun⟩
  · obtain ⟨text, env', hrun⟩ : ∃ text env',
        Stmt.run {} noPrompts (scratchLoop (.expr .null)) Env.empty {} = (.ok (text, env'), {}) := ⟨_, _, rfl⟩
    exact ⟨text, env', hrun, hloop _ _ _ _ _ _ _ _ _ _ hrun⟩
  · obtain ⟨env', hrun, hnames⟩ : ∃ env', Stmt.runBlockInHook {} (callHookAt {} 1) "h"
        [.assign (.ident "first") .null, scratchLoop (.ret (.ident "deep"))] (Env.empty.extend "given" .null) =
          .ok (env', some (.str "a")) ∧ env'.frameNames = [["given", "first"]] := ⟨_, rfl, by decide⟩
    exact ⟨env', hrun, hnames, hhook _ _ _ _ _ _ _ hrun⟩
  · obtain ⟨env', hrun⟩ : ∃ env', Stmt.runInHook {} (callHookAt {} 1) "h" (scratchLoop (.ret (.ident "deep")))
        (Env.empty.extend "given" .null) = .ok (env', some (.str "a")) := ⟨_, rfl⟩
    exact ⟨env', hrun, hhookLoop _ _ _ _ _ _ _ _ _ hrun⟩

end PromptLang
