import PromptLang.Proofs.ProgramTrees
import PromptLang.Proofs.WholeNumbers
import PromptLang.Syntax.Equality

/-! Equality of code. Expressions, statements and hooks are equal exactly if they are the same once the signs of zeros are dropped and no
number literal is a NaN. So equality can only fail to be an equivalence where there is a NaN. -/

namespace PromptLang

namespace Number

/-- A number with the sign of zero dropped. -/
def unsigned (x : Float) : Float := if x == 0 then 0 else x

theorem beq_zero_iff_eq {x : Float} : (x == 0) = true ↔ x = 0 ∨ x = -0 := by
  have hzero : (0 : Float) ≠ Float.nan := by decide
  have hminus : (-0 : Float) ≠ Float.nan := by decide
  have hsigns : (0 : Float) ≠ -0 := by decide
  rw [Float.beq_iff_ne_nan_and_eq]
  constructor
  · rintro ⟨-, -, rfl | ⟨-, h⟩ | ⟨rfl, -⟩⟩
    · exact .inl rfl
    · exact absurd h hsigns
    · exact .inr rfl
  · rintro (rfl | rfl)
    · exact ⟨hzero, hzero, .inl rfl⟩
    · exact ⟨hminus, hzero, .inr (.inr ⟨rfl, rfl⟩)⟩

theorem beq_iff_unsigned {x y : Float} : (x == y) = true ↔ unsigned x = unsigned y ∧ x.isNaN = false := by
  have hzero : (0 : Float) ≠ Float.nan := by decide
  have hminus : (-0 : Float) ≠ Float.nan := by decide
  rw [Float.beq_iff_ne_nan_and_eq, Float.isNaN_eq_decide_eq_nan]
  grind [unsigned, beq_zero_iff_eq]

theorem apply_unsigned {α : Type} (f : Float → α) (hzeros : f 0 = f (-0)) (x : Float) : f (unsigned x) = f x := by
  by_cases h : (x == 0) = true
  · rw [unsigned, if_pos h]
    rcases beq_zero_iff_eq.1 h with rfl | rfl
    · rfl
    · exact hzeros
  · rw [unsigned, if_neg h]

theorem isNaN_unsigned (x : Float) : (unsigned x).isNaN = x.isNaN := apply_unsigned Float.isNaN (by decide) x

end Number

/-- None of the numbers is a NaN. -/
def NoNaN (xs : List Float) : Prop := ∀ x ∈ xs, x.isNaN = false

@[simp] theorem noNaN_nil : NoNaN [] := List.forall_mem_nil _

@[simp] theorem noNaN_singleton {x : Float} : NoNaN [x] ↔ x.isNaN = false := List.forall_mem_singleton

@[simp] theorem noNaN_append {xs ys : List Float} : NoNaN (xs ++ ys) ↔ NoNaN xs ∧ NoNaN ys :=
  List.forall_mem_append

@[simp] theorem noNaN_flatMap {α : Type} {xs : List α} {f : α → List Float} :
    NoNaN (xs.flatMap f) ↔ ∀ x ∈ xs, NoNaN (f x) := by
  simp only [NoNaN, List.mem_flatMap]
  grind

theorem noNaN_map_unsigned {xs : List Float} : NoNaN (xs.map Number.unsigned) ↔ NoNaN xs := by
  simp only [NoNaN, List.forall_mem_map, Number.isNaN_unsigned]

mutual

def Expr.unsigned : Expr → Expr
  | .ident name => .ident name
  | .str s => .str s
  | .num x => .num (Number.unsigned x)
  | .bool b => .bool b
  | .null => .null
  | .array items => .array (Expr.unsignedList items)
  | .object members => .object (Expr.unsignedMembers members)
  | .binary op l r => .binary op l.unsigned r.unsigned
  | .logical op l r => .logical op l.unsigned r.unsigned
  | .unary op e => .unary op e.unsigned
  | .member e name => .member e.unsigned name
  | .index e key => .index e.unsigned key.unsigned
  | .call f args => .call f.unsigned (Expr.unsignedList args)
termination_by structural e => e

def Expr.unsignedList : List Expr → List Expr
  | [] => []
  | e :: es => e.unsigned :: Expr.unsignedList es
termination_by structural es => es

def Expr.unsignedMembers : List (String × Expr) → List (String × Expr)
  | [] => []
  | (key, e) :: es => (key, e.unsigned) :: Expr.unsignedMembers es
termination_by structural es => es

end

mutual

theorem Expr.same_iff : ∀ e e' : Expr, e.same e' = true ↔ e.unsigned = e'.unsigned ∧ NoNaN e.literals
  | .ident _, e' => by cases e' <;> simp [same, unsigned, literals]
  | .str _, e' => by cases e' <;> simp [same, unsigned, literals]
  | .num _, e' => by cases e' <;> simp [same, unsigned, literals, Number.beq_iff_unsigned]
  | .bool _, e' => by cases e' <;> simp [same, unsigned, literals]
  | .null, e' => by cases e' <;> simp [same, unsigned, literals]
  | .array items, e' => by cases e' <;> simp [same, unsigned, literals, Expr.sameList_iff items]
  | .object members, e' => by cases e' <;> simp [same, unsigned, literals, Expr.sameMembers_iff members]
  | .binary op l r, e' => by
    cases e' with
    | binary op' l' r' =>
      simp only [same, unsigned, literals, Bool.and_eq_true, beq_iff_eq, binary.injEq, noNaN_append, Expr.same_iff l, Expr.same_iff r]
      tauto
    | _ => simp [same, unsigned]
  | .logical op l r, e' => by
    cases e' with
    | logical op' l' r' =>
      simp only [same, unsigned, literals, Bool.and_eq_true, beq_iff_eq, logical.injEq, noNaN_append, Expr.same_iff l, Expr.same_iff r]
      tauto
    | _ => simp [same, unsigned]
  | .unary op e, e' => by
    cases e' with
    | unary op' operand =>
      simp only [same, unsigned, literals, Bool.and_eq_true, beq_iff_eq, unary.injEq, Expr.same_iff e]
      tauto
    | _ => simp [same, unsigned]
  | .member e name, e' => by
    cases e' with
    | member target name' =>
      simp only [same, unsigned, literals, Bool.and_eq_true, beq_iff_eq, member.injEq, Expr.same_iff e]
      tauto
    | _ => simp [same, unsigned]
  | .index e key, e' => by
    cases e' with
    | index target key' =>
      simp only [same, unsigned, literals, Bool.and_eq_true, index.injEq, noNaN_append, Expr.same_iff e, Expr.same_iff key]
      tauto
    | _ => simp [same, unsigned]
  | .call f args, e' => by
    cases e' with
    | call callee args' =>
      simp only [same, unsigned, literals, Bool.and_eq_true, call.injEq, noNaN_append, Expr.same_iff f, Expr.sameList_iff args]
      tauto
    | _ => simp [same, unsigned]
termination_by structural e => e

theorem Expr.sameList_iff : ∀ es es' : List Expr,
    sameList es es' = true ↔ unsignedList es = unsignedList es' ∧ NoNaN (listLiterals es)
  | [], es' => by cases es' <;> simp [sameList, unsignedList, listLiterals]
  | e :: es, es' => by
    cases es' with
    | nil => simp [sameList, unsignedList]
    | cons e' es' =>
      simp only [sameList, unsignedList, listLiterals, Bool.and_eq_true, List.cons.injEq, noNaN_append, Expr.same_iff e,
        Expr.sameList_iff es]
      tauto
termination_by structural es => es

theorem Expr.sameMembers_iff : ∀ es es' : List (String × Expr),
    sameMembers es es' = true ↔ unsignedMembers es = unsignedMembers es' ∧ NoNaN (memberLiterals es)
  | [], es' => by cases es' <;> simp [sameMembers, unsignedMembers, memberLiterals]
  | (key, e) :: es, es' => by
    cases es' with
    | nil => simp [sameMembers, unsignedMembers]
    | cons member' es' =>
      simp only [sameMembers, unsignedMembers, memberLiterals, Bool.and_eq_true, beq_iff_eq, List.cons.injEq, Prod.mk.injEq,
        noNaN_append, Expr.same_iff e, Expr.sameMembers_iff es]
      tauto
termination_by structural es => es

end

theorem Expr.memberLiterals_eq (es : List (String × Expr)) : memberLiterals es = es.flatMap (·.2.literals) := by
  induction es with
  | nil => rfl
  | cons member es ih => rw [memberLiterals, ih, List.flatMap_cons]

def Segment.unsigned : Segment → Segment
  | .text s => .text s
  | .hole e => .hole e.unsigned

def Template.unsigned (t : Template) : Template := t.map Segment.unsigned

theorem Segment.same_iff (a b : Segment) : a.same b = true ↔ a.unsigned = b.unsigned ∧ NoNaN a.literals := by
  cases a <;> cases b <;> simp [same, unsigned, literals, Expr.same_iff]

theorem Template.same_iff (t t' : Template) :
    Template.same t t' = true ↔ Template.unsigned t = Template.unsigned t' ∧ NoNaN (Template.literals t) := by
  induction t generalizing t' with
  | nil => cases t' <;> simp [Template.same, Template.unsigned, Template.literals]
  | cons a as ih =>
    cases t' with
    | nil => simp [Template.same, Template.unsigned]
    | cons b bs =>
      simp only [Template.unsigned, Template.literals] at ih
      simp only [Template.same, Template.unsigned, Template.literals, Bool.and_eq_true, List.map_cons, List.flatMap_cons,
        List.cons.injEq, noNaN_append, Segment.same_iff, ih]
      tauto

mutual

def Stmt.unsigned : Stmt → Stmt
  | .text template => .text (Template.unsigned template)
  | .code language content => .code language (Template.unsigned content)
  | .image source alt => .image source.unsigned alt.unsigned
  | .ifThen condition yes => .ifThen condition.unsigned (Stmt.unsignedBlock yes)
  | .ifElse condition yes no => .ifElse condition.unsigned (Stmt.unsignedBlock yes) (Stmt.unsignedBlock no)
  | .forEach binding iterable body => .forEach binding iterable.unsigned (Stmt.unsignedBlock body)
  | .use prompt args => .use prompt (Expr.unsignedMembers args)
  | .assign target value => .assign target.unsigned value.unsigned
  | .ret value => .ret value.unsigned
  | .expr e => .expr e.unsigned
termination_by structural s => s

def Stmt.unsignedBlock : List Stmt → List Stmt
  | [] => []
  | s :: ss => s.unsigned :: Stmt.unsignedBlock ss
termination_by structural ss => ss

end

mutual

theorem Stmt.same_iff : ∀ s s' : Stmt, s.same s' = true ↔ s.unsigned = s'.unsigned ∧ NoNaN s.literals
  | .text template, s' => by cases s' <;> simp [same, unsigned, literals, Template.same_iff]
  | .code language content, s' => by
    cases s' with
    | code language' content' =>
      simp only [same, unsigned, literals, Bool.and_eq_true, beq_iff_eq, code.injEq, Template.same_iff]
      tauto
    | _ => simp [same, unsigned]
  | .image source alt, s' => by
    cases s' with
    | image source' alt' =>
      simp only [same, unsigned, literals, Bool.and_eq_true, image.injEq, noNaN_append, Expr.same_iff]
      tauto
    | _ => simp [same, unsigned]
  | .ifThen condition yes, s' => by
    cases s' with
    | ifThen condition' yes' =>
      simp only [same, unsigned, literals, Bool.and_eq_true, ifThen.injEq, noNaN_append, Expr.same_iff, Stmt.sameBlock_iff yes]
      tauto
    | _ => simp [same, unsigned]
  | .ifElse condition yes no, s' => by
    cases s' with
    | ifElse condition' yes' no' =>
      simp only [same, unsigned, literals, Bool.and_eq_true, ifElse.injEq, noNaN_append, Expr.same_iff, Stmt.sameBlock_iff yes,
        Stmt.sameBlock_iff no]
      tauto
    | _ => simp [same, unsigned]
  | .forEach binding iterable body, s' => by
    cases s' with
    | forEach binding' iterable' body' =>
      simp only [same, unsigned, literals, Bool.and_eq_true, beq_iff_eq, forEach.injEq, noNaN_append, Expr.same_iff,
        Stmt.sameBlock_iff body]
      tauto
    | _ => simp [same, unsigned]
  | .use prompt args, s' => by
    cases s' with
    | use prompt' args' =>
      simp only [same, unsigned, literals, Bool.and_eq_true, beq_iff_eq, use.injEq, Expr.sameMembers_iff, Expr.memberLiterals_eq]
      tauto
    | _ => simp [same, unsigned]
  | .assign target value, s' => by
    cases s' with
    | assign target' value' =>
      simp only [same, unsigned, literals, Bool.and_eq_true, assign.injEq, noNaN_append, Expr.same_iff]
      tauto
    | _ => simp [same, unsigned]
  | .ret value, s' => by cases s' <;> simp [same, unsigned, literals, Expr.same_iff]
  | .expr e, s' => by cases s' <;> simp [same, unsigned, literals, Expr.same_iff]
termination_by structural s => s

theorem Stmt.sameBlock_iff : ∀ ss ss' : List Stmt,
    sameBlock ss ss' = true ↔ unsignedBlock ss = unsignedBlock ss' ∧ NoNaN (blockLiterals ss)
  | [], ss' => by cases ss' <;> simp [sameBlock, unsignedBlock, blockLiterals]
  | s :: ss, ss' => by
    cases ss' with
    | nil => simp [sameBlock, unsignedBlock]
    | cons s' ss' =>
      simp only [sameBlock, unsignedBlock, blockLiterals, Bool.and_eq_true, List.cons.injEq, noNaN_append, Stmt.same_iff s,
        Stmt.sameBlock_iff ss]
      tauto
termination_by structural ss => ss

end

/-! Dropping signs keeps the literals in their order, and a NaN stays one. -/

mutual

theorem Expr.literals_unsigned : ∀ e : Expr, e.unsigned.literals = e.literals.map Number.unsigned
  | .ident _ => rfl
  | .str _ => rfl
  | .num _ => rfl
  | .bool _ => rfl
  | .null => rfl
  | .array items => by simp only [unsigned, literals, Expr.listLiterals_unsigned items]
  | .object members => by simp only [unsigned, literals, Expr.memberLiterals_unsigned members]
  | .binary _ l r => by simp only [unsigned, literals, List.map_append, Expr.literals_unsigned l, Expr.literals_unsigned r]
  | .logical _ l r => by simp only [unsigned, literals, List.map_append, Expr.literals_unsigned l, Expr.literals_unsigned r]
  | .unary _ e => by simp only [unsigned, literals, Expr.literals_unsigned e]
  | .member e _ => by simp only [unsigned, literals, Expr.literals_unsigned e]
  | .index e key => by simp only [unsigned, literals, List.map_append, Expr.literals_unsigned e, Expr.literals_unsigned key]
  | .call f args => by simp only [unsigned, literals, List.map_append, Expr.literals_unsigned f, Expr.listLiterals_unsigned args]
termination_by structural e => e

theorem Expr.listLiterals_unsigned : ∀ es : List Expr,
    listLiterals (unsignedList es) = (listLiterals es).map Number.unsigned
  | [] => rfl
  | e :: es => by
    simp only [unsignedList, listLiterals, List.map_append, Expr.literals_unsigned e, Expr.listLiterals_unsigned es]
termination_by structural es => es

theorem Expr.memberLiterals_unsigned : ∀ es : List (String × Expr),
    memberLiterals (unsignedMembers es) = (memberLiterals es).map Number.unsigned
  | [] => rfl
  | (_, e) :: es => by
    simp only [unsignedMembers, memberLiterals, List.map_append, Expr.literals_unsigned e, Expr.memberLiterals_unsigned es]
termination_by structural es => es

end

theorem Template.literals_unsigned (t : Template) :
    Template.literals (Template.unsigned t) = (Template.literals t).map Number.unsigned := by
  have hsegment : ∀ s : Segment, s.unsigned.literals = s.literals.map Number.unsigned := fun s => by
    cases s with
    | text => rfl
    | hole e => exact e.literals_unsigned
  simp only [Template.literals, Template.unsigned, List.flatMap_map, List.map_flatMap, hsegment]

mutual

theorem Stmt.literals_unsigned : ∀ s : Stmt, s.unsigned.literals = s.literals.map Number.unsigned
  | .text template => by simp only [unsigned, literals, Template.literals_unsigned]
  | .code _ content => by simp only [unsigned, literals, Template.literals_unsigned]
  | .image source alt => by simp only [unsigned, literals, List.map_append, Expr.literals_unsigned]
  | .ifThen condition yes => by
    simp only [unsigned, literals, List.map_append, Expr.literals_unsigned, Stmt.blockLiterals_unsigned yes]
  | .ifElse condition yes no => by
    simp only [unsigned, literals, List.map_append, Expr.literals_unsigned, Stmt.blockLiterals_unsigned yes,
      Stmt.blockLiterals_unsigned no]
  | .forEach _ iterable body => by
    simp only [unsigned, literals, List.map_append, Expr.literals_unsigned, Stmt.blockLiterals_unsigned body]
  | .use _ args => by simp only [unsigned, literals, ← Expr.memberLiterals_eq, Expr.memberLiterals_unsigned]
  | .assign target value => by simp only [unsigned, literals, List.map_append, Expr.literals_unsigned]
  | .ret value => by simp only [unsigned, literals, Expr.literals_unsigned]
  | .expr e => by simp only [unsigned, literals, Expr.literals_unsigned]
termination_by structural s => s

theorem Stmt.blockLiterals_unsigned : ∀ ss : List Stmt,
    blockLiterals (unsignedBlock ss) = (blockLiterals ss).map Number.unsigned
  | [] => rfl
  | s :: ss => by
    simp only [unsignedBlock, blockLiterals, List.map_append, Stmt.literals_unsigned s, Stmt.blockLiterals_unsigned ss]
termination_by structural ss => ss

end

namespace Hook

def literals (hook : Hook) : List Float := Stmt.blockLiterals hook.body

def unsigned (hook : Hook) : Hook := { hook with body := Stmt.unsignedBlock hook.body }

theorem same_iff (f g : Hook) : f.same g = true ↔ f.unsigned = g.unsigned ∧ NoNaN f.literals := by
  simp only [same, unsigned, literals, Bool.and_eq_true, beq_iff_eq, Hook.mk.injEq, Stmt.sameBlock_iff]
  tauto

theorem noNaN_unsigned (hook : Hook) : NoNaN hook.unsigned.literals ↔ NoNaN hook.literals := by
  rw [literals, unsigned, Stmt.blockLiterals_unsigned, noNaN_map_unsigned, literals]

end Hook

end PromptLang
