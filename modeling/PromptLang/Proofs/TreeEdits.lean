import Mathlib.Data.List.Nodup
import PromptLang.Proofs.DecodeEquations

/-! Edits of program trees that decoding does not notice: a record field that no node has, and a null left out where a part may be
missing. The layout of program trees is data, so that an edit can be made at any depth. -/

namespace PromptLang

open Json

/-- What stands at a place of a program tree. -/
inductive Shape where
  /-- A text, a number, a truth value or a bare tag. -/
  | leaf
  | expr
  | stmt
  | list (items : Shape)
  /-- A tagged value, with what each tag holds. -/
  | choice (variants : List (String × Shape))
  /-- A record, with the names of the fields that may be missing. -/
  | record (fields : List (String × Shape)) (optional : List String)

namespace Shape

def member : Shape := record [("key", leaf), ("value", expr)] []

def property : Shape := choice [("Named", leaf), ("Computed", expr)]

def exprs : List (String × Shape) :=
  [("Identifier", leaf), ("String", leaf), ("Number", leaf), ("Boolean", leaf), ("Null", leaf),
    ("Array", record [("elements", list expr)] []),
    ("Object", record [("properties", list member)] []),
    ("Binary", record [("op", leaf), ("lhs", expr), ("rhs", expr)] []),
    ("Logical", record [("op", leaf), ("lhs", expr), ("rhs", expr)] []),
    ("Unary", record [("op", leaf), ("operand", expr)] []),
    ("Member", record [("object", expr), ("property", property)] []),
    ("Call", record [("callee", expr), ("args", list expr)] [])]

def named : Shape := record [("name", leaf), ("value", expr)] []

def segment : Shape := choice [("Text", leaf), ("Interpolation", expr)]

def template : Shape := record [("parts", list segment)] []

def stmts : List (String × Shape) :=
  [("Text", record [("template", template)] []),
    ("Code", record [("language", leaf), ("content", template)] []),
    ("Image", record [("src", expr), ("alt", expr)] []),
    ("If", record [("cond", expr), ("then", list stmt), ("elze", list stmt)] ["elze"]),
    ("For", record [("binding", leaf), ("iterable", expr), ("body", list stmt)] []),
    ("Use", record [("prompt", leaf), ("args", list named)] []),
    ("Assign", record [("target", expr), ("value", expr)] []),
    ("Return", record [("value", expr)] []),
    ("Expr", expr)]

def block : Shape := list stmt

def paramType : Shape := record [("base", leaf), ("array", leaf), ("optional", leaf)] []

def paramDecl : Shape := record [("name", leaf), ("ty", paramType), ("default", expr)] ["default"]

def hook : Shape := record [("name", leaf), ("param", leaf), ("body", block)] []

def chainStep : Shape := record [("name", leaf), ("block", block)] []

def examplePair : Shape := record [("input", block), ("output", block)] []

def techniques : List (String × Shape) :=
  [("ChainOfThought", list chainStep), ("FewShot", list examplePair),
    ("ReWOO", record [("planner", block), ("worker", block), ("solver", block)] []),
    ("ReAct", record [("observation", block), ("thought", block), ("action", block)] [])] ++
  Method.all.map fun method => (method.tag, record [("fields", list named)] [])

def sections : List (String × Shape) :=
  [("Meta", list named), ("Context", list named), ("Params", list paramDecl), ("Body", block),
    ("Constraints", list named), ("Output", list named), ("Hooks", list hook),
    ("Technique", list (choice techniques))]

def prompt : Shape := record [("name", leaf), ("sections", list (choice sections))] []

def program : Shape := record [("prompts", list prompt)] []

end Shape

/-- One edit in a tree: a record gets a field of an unknown name or loses a null of an optional one, here or further down. -/
inductive Edit : Shape → Json → Json → Prop where
  | add {fields : List (String × Shape)} {optional : List String} {name : String}
      (hname : name ∉ fields.map Prod.fst) (before after : List (String × Json)) (v : Json) :
      Edit (.record fields optional) (.object (before ++ after)) (.object (before ++ (name, v) :: after))
  | drop {fields : List (String × Shape)} {optional : List String} {name : String} (hname : name ∈ optional)
      {before after : List (String × Json)} (hnew : name ∉ Entries.keys (before ++ after)) :
      Edit (.record fields optional) (.object (before ++ (name, .null) :: after)) (.object (before ++ after))
  | field {fields : List (String × Shape)} {optional : List String} {name : String} {s : Shape}
      (hname : (name, s) ∈ fields) (before after : List (String × Json)) {v v' : Json} (h : Edit s v v') :
      Edit (.record fields optional) (.object (before ++ (name, v) :: after))
        (.object (before ++ (name, v') :: after))
  | item {s : Shape} (before after : List Json) {v v' : Json} (h : Edit s v v') :
      Edit (.list s) (.array (before ++ v :: after)) (.array (before ++ v' :: after))
  | content {variants : List (String × Shape)} {name : String} {s : Shape} (hname : (name, s) ∈ variants)
      {v v' : Json} (h : Edit s v v') : Edit (.choice variants) (tag name v) (tag name v')
  | expr {j j' : Json} (h : Edit (.choice Shape.exprs) j j') : Edit .expr j j'
  | stmt {j j' : Json} (h : Edit (.choice Shape.stmts) j j') : Edit .stmt j j'

theorem Json.sizeOf_member (name : String) (v : Json) (before after : List (String × Json)) :
    sizeOf v < sizeOf (Json.object (before ++ (name, v) :: after)) := by
  have hmem : (name, v) ∈ before ++ (name, v) :: after := List.mem_append_right before List.mem_cons_self
  have hlt := List.sizeOf_lt_of_mem hmem
  simp only [Prod.mk.sizeOf_spec, object.sizeOf_spec] at hlt ⊢
  omega

theorem Json.sizeOf_item (v : Json) (before after : List Json) :
    sizeOf v < sizeOf (Json.array (before ++ v :: after)) := by
  have hmem : v ∈ before ++ v :: after := List.mem_append_right before List.mem_cons_self
  have hlt := List.sizeOf_lt_of_mem hmem
  simp only [array.sizeOf_spec]
  omega

section Decoders

variable {α β : Type} {n : Nat} {s : Shape}

/-- Equal trees, or one edit apart in a tree of less than a size. -/
def Apart (n : Nat) (s : Shape) (j j' : Json) : Prop := j = j' ∨ sizeOf j < n ∧ Edit s j j'

/-- A decoder does not notice an edit in a tree of less than a size. -/
def Shape.ReadBy (s : Shape) (n : Nat) (decode? : Json → Option α) : Prop :=
  ∀ ⦃j j'⦄, Apart n s j j' → decode? j = decode? j'

theorem Shape.readBy_of_edit {decode? : Json → Option α}
    (h : ∀ j j', sizeOf j < n → Edit s j j' → decode? j = decode? j') : s.ReadBy n decode? := by
  rintro j j' (rfl | ⟨hsize, hedit⟩)
  · rfl
  · exact h j j' hsize hedit

theorem Shape.ReadBy.of_succ {decode? : Json → Option α} (h : s.ReadBy (n + 1) decode?) : s.ReadBy n decode? :=
  Shape.readBy_of_edit fun _ _ hsize hedit => h (.inr ⟨Nat.lt_succ_of_lt hsize, hedit⟩)

theorem Shape.ReadBy.map {decode? : Json → Option α} (h : s.ReadBy n decode?) (f : α → β) :
    s.ReadBy n fun j => (decode? j).map f := fun _ _ hapart => congrArg (Option.map f) (h hapart)

theorem Apart.eq_of_leaf {j j' : Json} (h : Apart n .leaf j j') : j = j' := by
  rcases h with rfl | ⟨_, hedit⟩
  · rfl
  · cases hedit

/-- Decoders item by item: an edit of the list is an edit of one item. -/
theorem Shape.ReadBy.list {decode? : Json → Option α} (h : s.ReadBy n decode?) :
    (Shape.list s).ReadBy n (decodeList? decode?) := by
  refine Shape.readBy_of_edit fun j j' hsize hedit => ?_
  cases hedit with
  | item before after hitem =>
    rename_i v v'
    have hv : decode? v = decode? v' := h (.inr ⟨Nat.lt_trans (sizeOf_item v before after) hsize, hitem⟩)
    simp only [decodeList?_array, List.mapM_append, List.mapM_cons, hv]

/-- What an edit of a record does to one of its fields. -/
def FieldApart (n : Nat) (s : Shape) (optional : Prop) (o o' : Option Json) : Prop :=
  (o = none ∧ o' = none) ∨ (∃ v v', o = some v ∧ o' = some v' ∧ Apart n s v v') ∨
    optional ∧ o = some .null ∧ o' = none

theorem FieldApart.refl (n : Nat) (s : Shape) (optional : Prop) (o : Option Json) :
    FieldApart n s optional o o := by
  cases o with
  | none => exact .inl ⟨rfl, rfl⟩
  | some v => exact .inr (.inl ⟨v, v, rfl, rfl, .inl rfl⟩)

theorem FieldApart.bind {optional : Prop} (hrequired : ¬ optional) {o o' : Option Json}
    (h : FieldApart n s optional o o') {f f' : Json → Option α}
    (hf : ∀ v v', Apart n s v v' → f v = f' v') : o >>= f = o' >>= f' := by
  rcases h with ⟨rfl, rfl⟩ | ⟨v, v', rfl, rfl, hapart⟩ | ⟨hoptional, _⟩
  · rfl
  · exact hf v v' hapart
  · exact absurd hoptional hrequired

theorem Edit.ne_null {j j' : Json} (h : Edit s j j') : j ≠ .null ∧ j' ≠ .null := by
  induction h with
  | expr _ ih => exact ih
  | stmt _ ih => exact ih
  | _ => exact ⟨nofun, nofun⟩

theorem decodeOptional?_some {decode? : Json → Option α} {j : Json} (h : j ≠ .null) :
    decodeOptional? decode? (some j) = (decode? j).map some := by
  cases j <;> first | rfl | exact absurd rfl h

theorem FieldApart.optional {optional : Prop} {o o' : Option Json} (h : FieldApart n s optional o o')
    {decode? : Json → Option α} (hread : s.ReadBy n decode?) :
    decodeOptional? decode? o = decodeOptional? decode? o' := by
  rcases h with ⟨rfl, rfl⟩ | ⟨v, v', rfl, rfl, hapart⟩ | ⟨_, rfl, rfl⟩
  · rfl
  · rcases id hapart with rfl | ⟨_, hedit⟩
    · rfl
    · rw [decodeOptional?_some hedit.ne_null.1, decodeOptional?_some hedit.ne_null.2, hread hapart]
  · rfl

/-- An edit of a record shows in its fields, and only in an optional one can it show as a loss. -/
theorem Edit.fields {fields : List (String × Shape)} {optional : List String} {j j' : Json}
    (h : Edit (.record fields optional) j j') (hsize : sizeOf j < n) (hnames : (fields.map Prod.fst).Nodup)
    (names : List String) : ∀ f ∈ fields,
      FieldApart n f.2 (f.1 ∈ optional) (j.field? names f.1) (j'.field? names f.1) := by
  rintro ⟨name, s⟩ hname
  cases h with
  | add hnew before after v =>
    rename_i new
    have hne : new ≠ name := fun heq => hnew (heq ▸ List.mem_map_of_mem hname)
    simp only [field?, Entries.get?_append, Entries.get?, if_neg hne]
    exact FieldApart.refl ..
  | drop hoptional hnew =>
    rename_i dropped before after
    by_cases hne : dropped = name
    · subst hne
      simp only [Entries.keys, List.map_append, List.mem_append, not_or] at hnew
      simp only [field?, Entries.get?_append, Entries.get?_eq_none hnew.1, Entries.get?_eq_none hnew.2,
        Entries.get?, if_true]
      exact .inr (.inr ⟨hoptional, rfl, rfl⟩)
    · simp only [field?, Entries.get?_append, Entries.get?, if_neg hne]
      exact FieldApart.refl ..
  | field hedited before after hedit =>
    rename_i edited s' v v'
    by_cases hne : edited = name
    · subst hne
      obtain rfl : s' = s := congrArg Prod.snd (List.inj_on_of_nodup_map hnames hedited hname rfl)
      have hv := sizeOf_member edited v before after
      simp only [field?, Entries.get?_append, Entries.get?, if_true]
      cases Entries.get? edited before with
      | none => exact .inr (.inl ⟨v, v', rfl, rfl, .inr ⟨Nat.lt_trans hv hsize, hedit⟩⟩)
      | some shadowing => exact FieldApart.refl ..
    · simp only [field?, Entries.get?_append, Entries.get?, if_neg hne]
      exact FieldApart.refl ..

theorem Shape.readBy_record {fields : List (String × Shape)} {optional : List String} {decode? : Json → Option α}
    (hnames : (fields.map Prod.fst).Nodup) (names : List String)
    (h : ∀ j j', (∀ f ∈ fields, FieldApart n f.2 (f.1 ∈ optional) (j.field? names f.1) (j'.field? names f.1)) →
      decode? j = decode? j') : (Shape.record fields optional).ReadBy n decode? :=
  Shape.readBy_of_edit fun j j' hsize hedit => h j j' (hedit.fields hsize hnames names)

theorem Shape.readBy_choice {variants : List (String × Shape)} {decode? : Json → Option α}
    (h : ∀ name s, (name, s) ∈ variants → s.ReadBy n fun content => decode? (tag name content)) :
    (Shape.choice variants).ReadBy (n + 1) decode? := by
  refine Shape.readBy_of_edit fun j j' hsize hedit => ?_
  cases hedit with
  | content hname hedit =>
    refine h _ _ hname (.inr ⟨?_, hedit⟩)
    simp only [tag, object.sizeOf_spec, List.cons.sizeOf_spec, Prod.mk.sizeOf_spec] at hsize
    omega

theorem Shape.readBy_leaf (decode? : Json → Option α) : leaf.ReadBy n decode? :=
  fun _ _ h => congrArg decode? h.eq_of_leaf

namespace Shape

section Exprs

variable (hexpr : expr.ReadBy n Expr.decode?)

include hexpr

theorem readBy_array :
    (record [("elements", list expr)] []).ReadBy n fun body => Expr.decode? (tag "Array" body) := by
  refine readBy_record (by decide) ["elements"] fun j j' hfields => ?_
  simp only [Expr.decode?_array]
  refine (hfields ("elements", list expr) (by simp)).bind List.not_mem_nil fun elements elements' helements => ?_
  rw [hexpr.list helements]

theorem readBy_member : member.ReadBy n Expr.decodeMember? := by
  refine readBy_record (by decide) ["key", "value"] fun j j' hfields => ?_
  simp only [Expr.decodeMember?]
  refine (hfields ("key", leaf) (by simp)).bind List.not_mem_nil fun key key' hkey => ?_
  refine (hfields ("value", expr) (by simp)).bind List.not_mem_nil fun value value' hvalue => ?_
  rw [hkey.eq_of_leaf, hexpr hvalue]

theorem readBy_object :
    (record [("properties", list member)] []).ReadBy n fun body => Expr.decode? (tag "Object" body) := by
  refine readBy_record (by decide) ["properties"] fun j j' hfields => ?_
  simp only [Expr.decode?_object]
  refine (hfields ("properties", list member) (by simp)).bind List.not_mem_nil fun list list' hlist => ?_
  rw [(readBy_member hexpr).list hlist]

theorem readBy_binary :
    (record [("op", leaf), ("lhs", expr), ("rhs", expr)] []).ReadBy n fun body => Expr.decode? (tag "Binary" body) := by
  refine readBy_record (by decide) ["op", "lhs", "rhs"] fun j j' hfields => ?_
  simp only [Expr.decode?_binary]
  refine (hfields ("op", leaf) (by simp)).bind List.not_mem_nil fun op op' hop => ?_
  refine (hfields ("lhs", expr) (by simp)).bind List.not_mem_nil fun left left' hleft => ?_
  refine (hfields ("rhs", expr) (by simp)).bind List.not_mem_nil fun right right' hright => ?_
  rw [hop.eq_of_leaf, hexpr hleft, hexpr hright]

theorem readBy_logical :
    (record [("op", leaf), ("lhs", expr), ("rhs", expr)] []).ReadBy n fun body => Expr.decode? (tag "Logical" body) := by
  refine readBy_record (by decide) ["op", "lhs", "rhs"] fun j j' hfields => ?_
  simp only [Expr.decode?_logical]
  refine (hfields ("op", leaf) (by simp)).bind List.not_mem_nil fun op op' hop => ?_
  refine (hfields ("lhs", expr) (by simp)).bind List.not_mem_nil fun left left' hleft => ?_
  refine (hfields ("rhs", expr) (by simp)).bind List.not_mem_nil fun right right' hright => ?_
  rw [hop.eq_of_leaf, hexpr hleft, hexpr hright]

theorem readBy_unary :
    (record [("op", leaf), ("operand", expr)] []).ReadBy n fun body => Expr.decode? (tag "Unary" body) := by
  refine readBy_record (by decide) ["op", "operand"] fun j j' hfields => ?_
  simp only [Expr.decode?_unary]
  refine (hfields ("op", leaf) (by simp)).bind List.not_mem_nil fun op op' hop => ?_
  refine (hfields ("operand", expr) (by simp)).bind List.not_mem_nil fun operand operand' hoperand => ?_
  rw [hop.eq_of_leaf, hexpr hoperand]

-- the property of a member access is one tag further down than the other parts
theorem readBy_access :
    (record [("object", expr), ("property", property)] []).ReadBy n fun body => Expr.decode? (tag "Member" body) := by
  refine readBy_record (by decide) ["object", "property"] fun j j' hfields => ?_
  simp only [Expr.decode?_member]
  refine (hfields ("object", expr) (by simp)).bind List.not_mem_nil fun target target' htarget => ?_
  refine (hfields ("property", property) (by simp)).bind List.not_mem_nil ?_
  simp only [hexpr htarget]
  refine (readBy_choice fun name s hname => ?_).of_succ
  simp only [List.mem_cons, List.not_mem_nil, or_false, Prod.mk.injEq] at hname
  rcases hname with ⟨rfl, rfl⟩ | ⟨rfl, rfl⟩
  · exact readBy_leaf _
  · intro key key' hkey
    simp only [tag, tagged?, hexpr hkey]

theorem readBy_call :
    (record [("callee", expr), ("args", list expr)] []).ReadBy n fun body => Expr.decode? (tag "Call" body) := by
  refine readBy_record (by decide) ["callee", "args"] fun j j' hfields => ?_
  simp only [Expr.decode?_call]
  refine (hfields ("callee", expr) (by simp)).bind List.not_mem_nil fun callee callee' hcallee => ?_
  refine (hfields ("args", list expr) (by simp)).bind List.not_mem_nil fun args args' hargs => ?_
  rw [hexpr hcallee, hexpr.list hargs]

theorem readBy_exprs : (choice exprs).ReadBy (n + 1) Expr.decode? := by
  refine readBy_choice fun name s hname => ?_
  simp only [exprs, List.mem_cons, List.not_mem_nil, or_false, Prod.mk.injEq] at hname
  rcases hname with ⟨rfl, rfl⟩ | ⟨rfl, rfl⟩ | ⟨rfl, rfl⟩ | ⟨rfl, rfl⟩ | ⟨rfl, rfl⟩ | ⟨rfl, rfl⟩ |
    ⟨rfl, rfl⟩ | ⟨rfl, rfl⟩ | ⟨rfl, rfl⟩ | ⟨rfl, rfl⟩ | ⟨rfl, rfl⟩ | ⟨rfl, rfl⟩
  case _ | _ | _ | _ | _ => exact readBy_leaf _
  · exact readBy_array hexpr
  · exact readBy_object hexpr
  · exact readBy_binary hexpr
  · exact readBy_logical hexpr
  · exact readBy_unary hexpr
  · exact readBy_access hexpr
  · exact readBy_call hexpr

end Exprs

theorem readBy_expr (n : Nat) : expr.ReadBy n Expr.decode? := by
  induction n with
  | zero => exact readBy_of_edit fun j j' hsize _ => absurd hsize (Nat.not_lt_zero _)
  | succ n hexpr =>
    refine readBy_of_edit fun j j' hsize hedit => ?_
    cases hedit with
    | expr hedit => exact readBy_exprs hexpr (.inr ⟨hsize, hedit⟩)

theorem readBy_named : named.ReadBy n decodeNamed? := by
  refine readBy_record (by decide) ["name", "value"] fun j j' hfields => ?_
  simp only [decodeNamed?_eq]
  refine (hfields ("name", leaf) (by simp)).bind List.not_mem_nil fun name name' hname => ?_
  refine (hfields ("value", expr) (by simp)).bind List.not_mem_nil fun value value' hvalue => ?_
  rw [hname.eq_of_leaf, readBy_expr n hvalue]

theorem readBy_segment : segment.ReadBy n Segment.decode? := by
  refine (readBy_choice fun name s hname => ?_).of_succ
  simp only [List.mem_cons, List.not_mem_nil, or_false, Prod.mk.injEq] at hname
  rcases hname with ⟨rfl, rfl⟩ | ⟨rfl, rfl⟩
  · exact readBy_leaf _
  · exact (readBy_expr n).map Segment.hole

theorem readBy_template : template.ReadBy n Template.decode? := by
  refine readBy_record (by decide) ["parts"] fun j j' hfields => ?_
  simp only [Template.decode?_eq]
  exact (hfields ("parts", list segment) (by simp)).bind List.not_mem_nil
    fun parts parts' hparts => readBy_segment.list hparts

section Stmts

variable (hstmt : stmt.ReadBy n Stmt.decode?)

theorem readBy_text : (record [("template", template)] []).ReadBy n fun body => Stmt.decode? (tag "Text" body) := by
  refine readBy_record (by decide) ["template"] fun j j' hfields => ?_
  simp only [Stmt.decode?_text]
  refine (hfields ("template", template) (by simp)).bind List.not_mem_nil fun t t' ht => ?_
  rw [readBy_template ht]

theorem readBy_code : (record [("language", leaf), ("content", template)] []).ReadBy n
    fun body => Stmt.decode? (tag "Code" body) := by
  refine readBy_record (by decide) ["language", "content"] fun j j' hfields => ?_
  simp only [Stmt.decode?_code]
  refine (hfields ("language", leaf) (by simp)).bind List.not_mem_nil fun language language' hlanguage => ?_
  refine (hfields ("content", template) (by simp)).bind List.not_mem_nil fun t t' ht => ?_
  rw [hlanguage.eq_of_leaf, readBy_template ht]

theorem readBy_image : (record [("src", expr), ("alt", expr)] []).ReadBy n
    fun body => Stmt.decode? (tag "Image" body) := by
  refine readBy_record (by decide) ["src", "alt"] fun j j' hfields => ?_
  simp only [Stmt.decode?_image]
  refine (hfields ("src", expr) (by simp)).bind List.not_mem_nil fun source source' hsource => ?_
  refine (hfields ("alt", expr) (by simp)).bind List.not_mem_nil fun alt alt' halt => ?_
  rw [readBy_expr n hsource, readBy_expr n halt]

theorem readBy_use : (record [("prompt", leaf), ("args", list named)] []).ReadBy n
    fun body => Stmt.decode? (tag "Use" body) := by
  refine readBy_record (by decide) ["prompt", "args"] fun j j' hfields => ?_
  simp only [Stmt.decode?_use]
  refine (hfields ("prompt", leaf) (by simp)).bind List.not_mem_nil fun name name' hname => ?_
  refine (hfields ("args", list named) (by simp)).bind List.not_mem_nil fun args args' hargs => ?_
  rw [hname.eq_of_leaf, readBy_named.list hargs]

theorem readBy_assign : (record [("target", expr), ("value", expr)] []).ReadBy n
    fun body => Stmt.decode? (tag "Assign" body) := by
  refine readBy_record (by decide) ["target", "value"] fun j j' hfields => ?_
  simp only [Stmt.decode?_assign]
  refine (hfields ("target", expr) (by simp)).bind List.not_mem_nil fun target target' htarget => ?_
  refine (hfields ("value", expr) (by simp)).bind List.not_mem_nil fun value value' hvalue => ?_
  rw [readBy_expr n htarget, readBy_expr n hvalue]

theorem readBy_return : (record [("value", expr)] []).ReadBy n fun body => Stmt.decode? (tag "Return" body) := by
  refine readBy_record (by decide) ["value"] fun j j' hfields => ?_
  simp only [Stmt.decode?_return]
  refine (hfields ("value", expr) (by simp)).bind List.not_mem_nil fun value value' hvalue => ?_
  rw [readBy_expr n hvalue]

include hstmt

-- the block for the other case may be null or missing, and both mean the same
theorem readBy_if : (record [("cond", expr), ("then", list stmt), ("elze", list stmt)] ["elze"]).ReadBy n
    fun body => Stmt.decode? (tag "If" body) := by
  refine readBy_record (by decide) ["cond", "then", "elze"] fun j j' hfields => ?_
  simp only [Stmt.decode?_if]
  rw [(hfields ("elze", list stmt) (by simp)).optional hstmt.list]
  refine (hfields ("cond", expr) (by simp)).bind (by decide) fun condition condition' hcondition => ?_
  refine (hfields ("then", list stmt) (by simp)).bind (by decide) fun yes yes' hyes => ?_
  rw [readBy_expr n hcondition, hstmt.list hyes]

theorem readBy_for : (record [("binding", leaf), ("iterable", expr), ("body", list stmt)] []).ReadBy n
    fun body => Stmt.decode? (tag "For" body) := by
  refine readBy_record (by decide) ["binding", "iterable", "body"] fun j j' hfields => ?_
  simp only [Stmt.decode?_for]
  refine (hfields ("binding", leaf) (by simp)).bind List.not_mem_nil fun binding binding' hbinding => ?_
  refine (hfields ("iterable", expr) (by simp)).bind List.not_mem_nil fun iterable iterable' hiterable => ?_
  refine (hfields ("body", list stmt) (by simp)).bind List.not_mem_nil fun body body' hbody => ?_
  rw [hbinding.eq_of_leaf, readBy_expr n hiterable, hstmt.list hbody]

theorem readBy_stmts : (choice stmts).ReadBy (n + 1) Stmt.decode? := by
  refine readBy_choice fun name s hname => ?_
  simp only [stmts, List.mem_cons, List.not_mem_nil, or_false, Prod.mk.injEq] at hname
  rcases hname with ⟨rfl, rfl⟩ | ⟨rfl, rfl⟩ | ⟨rfl, rfl⟩ | ⟨rfl, rfl⟩ | ⟨rfl, rfl⟩ | ⟨rfl, rfl⟩ |
    ⟨rfl, rfl⟩ | ⟨rfl, rfl⟩ | ⟨rfl, rfl⟩
  · exact readBy_text
  · exact readBy_code
  · exact readBy_image
  · exact readBy_if hstmt
  · exact readBy_for hstmt
  · exact readBy_use
  · exact readBy_assign
  · exact readBy_return
  · intro e e' he
    simp only [Stmt.decode?, tag, tagged?, readBy_expr n he]

end Stmts

theorem readBy_stmt (n : Nat) : stmt.ReadBy n Stmt.decode? := by
  induction n with
  | zero => exact readBy_of_edit fun j j' hsize _ => absurd hsize (Nat.not_lt_zero _)
  | succ n hstmt =>
    refine readBy_of_edit fun j j' hsize hedit => ?_
    cases hedit with
    | stmt hedit => exact readBy_stmts hstmt (.inr ⟨hsize, hedit⟩)

theorem readBy_block : block.ReadBy n Block.decode? := (readBy_stmt n).list

theorem readBy_field : named.ReadBy n Field.decode? := readBy_named.map _

theorem readBy_paramType : paramType.ReadBy n ParamType.decode? := by
  refine readBy_record (by decide) ["base", "array", "optional"] fun j j' hfields => ?_
  simp only [ParamType.decode?_eq]
  refine (hfields ("base", leaf) (by simp)).bind List.not_mem_nil fun base base' hbase => ?_
  refine (hfields ("array", leaf) (by simp)).bind List.not_mem_nil fun isArray isArray' hisArray => ?_
  refine (hfields ("optional", leaf) (by simp)).bind List.not_mem_nil fun isOptional isOptional' hisOptional => ?_
  rw [hbase.eq_of_leaf, hisArray.eq_of_leaf, hisOptional.eq_of_leaf]

theorem readBy_paramDecl : paramDecl.ReadBy n ParamDecl.decode? := by
  refine readBy_record (by decide) ["name", "ty", "default"] fun j j' hfields => ?_
  simp only [ParamDecl.decode?_eq]
  rw [(hfields ("default", expr) (by simp)).optional (readBy_expr n)]
  refine (hfields ("name", leaf) (by simp)).bind (by decide) fun name name' hname => ?_
  refine (hfields ("ty", paramType) (by simp)).bind (by decide) fun type type' htype => ?_
  rw [hname.eq_of_leaf, readBy_paramType htype]

theorem readBy_hook : hook.ReadBy n Hook.decode? := by
  refine readBy_record (by decide) ["name", "param", "body"] fun j j' hfields => ?_
  simp only [Hook.decode?_eq]
  refine (hfields ("name", leaf) (by simp)).bind List.not_mem_nil fun name name' hname => ?_
  refine (hfields ("param", leaf) (by simp)).bind List.not_mem_nil fun param param' hparam => ?_
  refine (hfields ("body", block) (by simp)).bind List.not_mem_nil fun body body' hbody => ?_
  rw [hname.eq_of_leaf, hparam.eq_of_leaf, readBy_block hbody]

theorem readBy_step : chainStep.ReadBy n decodeStep? := by
  refine readBy_record (by decide) ["name", "block"] fun j j' hfields => ?_
  simp only [decodeStep?_eq]
  refine (hfields ("name", leaf) (by simp)).bind List.not_mem_nil fun name name' hname => ?_
  refine (hfields ("block", block) (by simp)).bind List.not_mem_nil fun body body' hbody => ?_
  rw [hname.eq_of_leaf, readBy_block hbody]

theorem readBy_example : examplePair.ReadBy n decodeExample? := by
  refine readBy_record (by decide) ["input", "output"] fun j j' hfields => ?_
  simp only [decodeExample?_eq]
  refine (hfields ("input", block) (by simp)).bind List.not_mem_nil fun input input' hinput => ?_
  refine (hfields ("output", block) (by simp)).bind List.not_mem_nil fun output output' houtput => ?_
  rw [readBy_block hinput, readBy_block houtput]

theorem readBy_reWOO : (record [("planner", block), ("worker", block), ("solver", block)] []).ReadBy n
    fun body => Technique.decode? (tag "ReWOO" body) := by
  refine readBy_record (by decide) ["planner", "worker", "solver"] fun j j' hfields => ?_
  simp only [Technique.decode?_reWOO]
  refine (hfields ("planner", block) (by simp)).bind List.not_mem_nil fun planner planner' hplanner => ?_
  refine (hfields ("worker", block) (by simp)).bind List.not_mem_nil fun worker worker' hworker => ?_
  refine (hfields ("solver", block) (by simp)).bind List.not_mem_nil fun solver solver' hsolver => ?_
  rw [readBy_block hplanner, readBy_block hworker, readBy_block hsolver]

theorem readBy_reAct : (record [("observation", block), ("thought", block), ("action", block)] []).ReadBy n
    fun body => Technique.decode? (tag "ReAct" body) := by
  refine readBy_record (by decide) ["observation", "thought", "action"] fun j j' hfields => ?_
  simp only [Technique.decode?_reAct]
  refine (hfields ("observation", block) (by simp)).bind List.not_mem_nil fun observation observation' hobservation => ?_
  refine (hfields ("thought", block) (by simp)).bind List.not_mem_nil fun thought thought' hthought => ?_
  refine (hfields ("action", block) (by simp)).bind List.not_mem_nil fun action action' haction => ?_
  rw [readBy_block hobservation, readBy_block hthought, readBy_block haction]

theorem readBy_fields : (record [("fields", list named)] []).ReadBy n decodeFields? := by
  refine readBy_record (by decide) ["fields"] fun j j' hfields => ?_
  simp only [decodeFields?_eq]
  exact (hfields ("fields", list named) (by simp)).bind List.not_mem_nil
    fun list list' hlist => readBy_field.list hlist

theorem readBy_technique : (choice techniques).ReadBy n Technique.decode? := by
  refine (readBy_choice fun name s hname => ?_).of_succ
  rcases List.mem_append.1 hname with hname | hname
  · simp only [List.mem_cons, List.not_mem_nil, or_false, Prod.mk.injEq] at hname
    rcases hname with ⟨rfl, rfl⟩ | ⟨rfl, rfl⟩ | ⟨rfl, rfl⟩ | ⟨rfl, rfl⟩
    · exact readBy_step.list.map _
    · exact readBy_example.list.map _
    · exact readBy_reWOO
    · exact readBy_reAct
  · obtain ⟨method, _, heq⟩ := List.mem_map.1 hname
    obtain ⟨rfl, rfl⟩ := Prod.mk.inj heq
    simp only [Technique.decode?_method]
    exact readBy_fields.map _

theorem readBy_section : (choice sections).ReadBy n Section.decode? := by
  refine (readBy_choice fun name s hname => ?_).of_succ
  simp only [sections, List.mem_cons, List.not_mem_nil, or_false, Prod.mk.injEq] at hname
  rcases hname with ⟨rfl, rfl⟩ | ⟨rfl, rfl⟩ | ⟨rfl, rfl⟩ | ⟨rfl, rfl⟩ | ⟨rfl, rfl⟩ | ⟨rfl, rfl⟩ |
    ⟨rfl, rfl⟩ | ⟨rfl, rfl⟩
  · exact readBy_field.list.map _
  · exact readBy_field.list.map _
  · exact readBy_paramDecl.list.map _
  · exact readBy_block.map _
  · exact readBy_field.list.map _
  · exact readBy_field.list.map _
  · exact readBy_hook.list.map _
  · exact readBy_technique.list.map _

theorem readBy_prompt : prompt.ReadBy n Prompt.decode? := by
  refine readBy_record (by decide) ["name", "sections"] fun j j' hfields => ?_
  simp only [Prompt.decode?_eq]
  refine (hfields ("name", leaf) (by simp)).bind List.not_mem_nil fun name name' hname => ?_
  refine (hfields ("sections", list (choice sections)) (by simp)).bind List.not_mem_nil fun list list' hlist => ?_
  rw [hname.eq_of_leaf, readBy_section.list hlist]

theorem readBy_program : program.ReadBy n Program.decode? := by
  refine readBy_record (by decide) ["prompts"] fun j j' hfields => ?_
  simp only [Program.decode?_eq]
  refine (hfields ("prompts", list prompt) (by simp)).bind List.not_mem_nil fun list list' hlist => ?_
  rw [readBy_prompt.list hlist]

end Shape

end Decoders

theorem Program.decode?_edit {j j' : Json} (h : Edit Shape.program j j') : decode? j = decode? j' :=
  Shape.readBy_program (.inr ⟨Nat.lt_succ_self _, h⟩)

end PromptLang
