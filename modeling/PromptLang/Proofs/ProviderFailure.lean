import PromptLang.Proofs.Compositional

/-! Failed provider calls are neither swallowed nor retried. Every computation of the interpreter reports them: the first call that fails
ends the computation with its cause, and no other path leads to such an error. Behind it there are only calls of the same batch
that were sent before its answer was taken, so it is the last call where calls are answered at once. The property is compositional,
so it is enough to look at a single call and at a batch. -/

namespace PromptLang

/-- The call at position `i` failed. The provider answers by the calls before it. -/
def FailsAt (host : Host) (calls : List Call) (i : Nat) (cause : String) : Prop :=
  ∃ call, calls[i]? = some call ∧ host.provider (calls.take i) call = .error cause

section Positions

variable {host : Host} {calls : List Call} {i : Nat} {cause cause' : String}

/-- Later calls do not change whether an earlier one failed. -/
theorem failsAt_append (hi : i < calls.length) (more : List Call) (cause : String) :
    FailsAt host (calls ++ more) i cause ↔ FailsAt host calls i cause := by
  unfold FailsAt
  rw [List.getElem?_append_left hi, List.take_append_of_le_length (Nat.le_of_lt hi)]

/-- The first call that failed from position `start` on. -/
structure FirstFailsAt (host : Host) (start : Nat) (calls : List Call) (i : Nat) (cause : String) : Prop where
  start_le : start ≤ i
  failed : FailsAt host calls i cause
  before : ∀ j cause, start ≤ j → j < i → ¬ FailsAt host calls j cause

end Positions

/-- What the result of a computation says about the calls from `before` to `after`: it gives the cause of the first one that failed, with
fewer than `width` calls behind it, or none of them failed and it is no such error. -/
inductive Reported {α : Type} (host : Host) (width : Nat) (before after : List Call) : Except Error α → Prop
  | failed {i : Nat} {cause : String} (grows : before <+: after) (first : FirstFailsAt host before.length after i cause)
      (within : after.length ≤ i + width) : Reported host width before after (.error (.providerFailed cause))
  | clean {result : Except Error α} (grows : before <+: after)
      (answered : ∀ i cause, before.length ≤ i → ¬ FailsAt host after i cause)
      (other : ∀ cause, result ≠ .error (.providerFailed cause)) : Reported host width before after result

section Reported

variable {α β : Type} {host : Host} {width : Nat} {before mid after : List Call}

theorem Reported.grows {result : Except Error α} (h : Reported host width before after result) : before <+: after := by
  cases h <;> assumption

theorem Reported.error {e : Error} (h : Reported host width before after (.error e : Except Error α)) :
    Reported host width before after (.error e : Except Error β) := by
  cases h with
  | failed grows first within => exact .failed grows first within
  | clean grows answered other => exact .clean grows answered fun cause h => other cause (by cases h; rfl)

theorem Reported.trans {a : α} {result : Except Error β} (h₁ : Reported host width before mid (.ok a : Except Error α))
    (h₂ : Reported host width mid after result) : Reported host width before after result := by
  obtain ⟨hgrows, hclean⟩ : before <+: mid ∧ ∀ i cause, before.length ≤ i → ¬ FailsAt host mid i cause := by
    cases h₁ with
    | clean grows answered other => exact ⟨grows, answered⟩
  have hle := hgrows.length_le
  -- a failure before `mid` would have ended the first part
  have hearlier (i : Nat) (cause : String) (hi : before.length ≤ i) (hfails : FailsAt host after i cause) : mid.length ≤ i := by
    obtain ⟨more, rfl⟩ := h₂.grows
    by_contra hlt
    exact hclean i cause hi ((failsAt_append (Nat.lt_of_not_le hlt) more cause).1 hfails)
  cases h₂ with
  | failed grows first within =>
    refine .failed (hgrows.trans grows) ⟨Nat.le_trans hle first.start_le, first.failed, fun j cause hj hlt hfails => ?_⟩ within
    exact first.before j cause (hearlier j cause hj hfails) hlt hfails
  | clean grows answered other =>
    exact .clean (hgrows.trans grows) (fun i cause hi hfails => answered i cause (hearlier i cause hi hfails) hfails) other

end Reported

section Calls

variable {α : Type} {host : Host} {limit width : Nat} (constraints : Constraints)

/-- A call of a batch fails where its reply is a failure. -/
theorem failsAt_withCalls (log : Log) (prompts : List String) (k : Nat) (cause : String) :
    FailsAt host (log.withCalls constraints prompts).calls (log.calls.length + k) cause ↔
      (replies host constraints log.calls prompts)[k]? = some (.error cause) := by
  rw [getElem?_replies, FailsAt, Log.withCalls, List.getElem?_append_right (Nat.le_add_right _ _), Nat.add_sub_cancel_left,
    List.take_length_add_append, List.getElem?_map, ← List.map_take]
  cases prompts[k]? <;> simp

theorem BatchFails.reported {prompts : List String} {log log' : Log} {cause : String}
    (h : BatchFails host width constraints prompts log log' cause) :
    Reported host width log.calls log'.calls (.error (.providerFailed cause) : Except Error α) := by
  obtain ⟨k, m, hk, hwithin, hm, rfl, hfirst⟩ := h
  have hlength : (log.withCalls constraints (prompts.take m)).calls.length = log.calls.length + m := by
    simp [Log.withCalls, Nat.min_eq_left hm]
  -- what was sent is a first part of the whole batch, where the replies are known
  have hat (j : Nat) (hj : j < m) (cause : String) :
      FailsAt host (log.withCalls constraints (prompts.take m)).calls (log.calls.length + j) cause ↔
        (replies host constraints log.calls prompts)[j]? = some (.error cause) := by
    have hsplit : (log.withCalls constraints prompts).calls =
        (log.withCalls constraints (prompts.take m)).calls ++ (prompts.drop m).map (⟨·, constraints⟩) := by
      simp only [Log.withCalls, List.append_assoc, ← List.map_append, List.take_append_drop]
    rw [← failsAt_withCalls, hsplit, failsAt_append (by omega)]
  refine .failed (List.prefix_append _ _) ⟨Nat.le_add_right _ k, (hat k hk cause).2 hfirst.failed, ?_⟩ (by omega)
  intro j other hj hlt hfails
  obtain ⟨i, rfl⟩ := Nat.exists_eq_add_of_le hj
  obtain ⟨text, htext⟩ := hfirst.before i (by omega)
  cases htext.symm.trans ((hat i (by omega) other).1 hfails)

end Calls

end PromptLang
