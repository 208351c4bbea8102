import EsqlAudit.Function.Tree
import EsqlAudit.Proofs.Outcome

/-!
# Functions and parameters under pointers

A function that returns a pointer has its declarator under a pointer, and so has a parameter that is a pointer its
name. The name of the function is found under any number of pointers. The parameters are looked for under one
pointer only: below two of them a parameter is passed over, and a function below two of them has none.
-/

namespace EsqlAudit.Syntax

/-- The node with other children. -/
def Node.withChildren (n : Node) (children : List Node) : Node :=
  .mk n.kind n.start n.stop children n.isNamed n.isMissing

@[simp] theorem Node.kind_withChildren (n : Node) (children : List Node) : (n.withChildren children).kind = n.kind :=
    rfl

@[simp] theorem Node.children_withChildren (n : Node) (children : List Node) :
    (n.withChildren children).children = children := rfl

/-- A node with a free place among its children. The others are of none of the given kinds. -/
structure Frame (kinds : List Kind) where
  start : Nat
  stop : Nat
  before : List Node
  after : List Node
  named : Bool
  missing : Bool
  before_apart : ∀ m ∈ before, m.kind ∉ kinds
  after_apart : ∀ m ∈ after, m.kind ∉ kinds

/-- The node of the given kind with a child in the free place. -/
def Frame.around {kinds : List Kind} (f : Frame kinds) (k : Kind) (n : Node) : Node :=
  .mk k f.start f.stop (f.before ++ n :: f.after) f.named f.missing

@[simp] theorem Frame.kind_around {kinds : List Kind} (f : Frame kinds) (k : Kind) (n : Node) :
    (f.around k n).kind = k := rfl

@[simp] theorem Frame.children_around {kinds : List Kind} (f : Frame kinds) (k : Kind) (n : Node) :
    (f.around k n).children = f.before ++ n :: f.after := rfl

theorem Frame.child?_around {kinds : List Kind} (f : Frame kinds) {k : Kind} (hk : k ∈ kinds) (k' : Kind) (n : Node) :
    (f.around k' n).child? k = if n.kind = k then some n else none := by
  have hnone : ∀ ns : List Node, (∀ m ∈ ns, m.kind ∉ kinds) → ns.find? (·.kind == k) = none := fun ns h =>
    List.find?_eq_none.mpr fun m hm hkind => h m hm (eq_of_beq hkind ▸ hk)
  rw [Node.child?, children_around, List.find?_append, hnone f.before f.before_apart, List.find?_cons,
    hnone f.after f.after_apart]
  by_cases hn : n.kind = k
  · simp [hn]
  · simp [beq_false_of_ne hn, hn]

/-- The node under pointers, the outermost first. -/
def underPointers {kinds : List Kind} (pointers : List (Frame kinds)) (n : Node) : Node :=
  pointers.foldr (fun f m => f.around .pointerDeclarator m) n

end EsqlAudit.Syntax

namespace EsqlAudit.Function
open Syntax

/-- The kinds of nodes that declare a function, also under pointers and in parentheses. -/
def declaratorKinds : List Kind := [.functionDeclarator, .pointerDeclarator, .parenthesizedDeclarator]

/-! ## The name -/

section Name

variable {p : Program} {ns : List Node} {d : Node}

theorem find?_isType_around (f : Frame declaratorKinds) {m : Node} (hm : isType m = false) :
    (f.before ++ m :: f.after).find? isType = (f.before ++ f.after).find? isType := by
  rw [List.find?_append, List.find?_append, List.find?_cons, hm]

theorem deepNameAmong_append (h : ∀ m ∈ ns, m.kind ∉ declaratorKinds) (ns' : List Node) :
    deepNameAmong p (ns ++ ns') = deepNameAmong p ns' := by
  induction ns with
  | nil => rfl
  | cons m ns ih =>
      have hm : m.kind ∉ declaratorKinds := h m List.mem_cons_self
      simp only [declaratorKinds, List.mem_cons, List.not_mem_nil, or_false, not_or] at hm
      rw [List.cons_append, deepNameAmong, ih fun m hm => h m (List.mem_cons_of_mem _ hm)]
      simp [hm]

theorem deepNameAmong_apart (h : ∀ m ∈ ns, m.kind ∉ declaratorKinds) : deepNameAmong p ns = .ok none := by
  simpa [deepNameAmong] using deepNameAmong_append (p := p) h []

/-- The name of a declarator is found under any number of pointers, unless it is empty. -/
theorem deepNameAmong_underPointers (pointers : List (Frame declaratorKinds)) (hd : d.kind = .functionDeclarator)
    (hns : ∀ m ∈ ns, m.kind ∉ declaratorKinds) :
    (deepNameAmong p (underPointers pointers d :: ns)).map (·.getD "") = (identifierIn p d).map (·.getD "") := by
  induction pointers generalizing ns with
  | nil =>
      rw [underPointers, List.foldr_nil, deepNameAmong]
      simp only [hd, beq_self_eq_true, if_true]
      cases identifierIn p d with
      | error e => rfl
      | ok name =>
          cases name with
          | none => rw [deepNameAmong_apart hns]
          | some name => rfl
  | cons f pointers ih =>
      have hinner := ih f.after_apart
      have houter : deepName p (underPointers (f :: pointers) d) =
          deepNameAmong p (underPointers pointers d :: f.after) := by
        rw [underPointers, List.foldr_cons, Frame.around, deepName, deepNameAmong_append f.before_apart]
        rfl
      have hkind : (underPointers (f :: pointers) d).kind = .pointerDeclarator := rfl
      rw [deepNameAmong, houter, hkind, ← hinner]
      cases deepNameAmong p (underPointers pointers d :: f.after) with
      | error e => rfl
      | ok found =>
          by_cases hempty : (found.getD "").isEmpty = true
          · simp [deepNameAmong_apart hns, String.isEmpty_iff.mp hempty, Except.map]
          · simp [hempty]

end Name

/-! ## The declarator -/

section Declarator

variable {kinds : List Kind} {p : Program} {d : Node}

theorem isType_of_functionDeclarator (hd : d.kind = .functionDeclarator) : isType d = false := by
  simp [isType, hd]

theorem isType_underPointers (pointers : List (Frame kinds)) (hd : d.kind = .functionDeclarator) :
    isType (underPointers pointers d) = false := by
  cases pointers with
  | nil => exact isType_of_functionDeclarator hd
  | cons f pointers => simp [underPointers, isType]

theorem returnTypeIn_around (whole : Frame declaratorKinds) {m m' : Node} (hm : isType m = false)
    (hm' : isType m' = false) :
    returnTypeIn p (whole.around .functionDefinition m) = returnTypeIn p (whole.around .functionDefinition m') := by
  rw [returnTypeIn, returnTypeIn, Frame.children_around, Frame.children_around, find?_isType_around whole hm,
    find?_isType_around whole hm']

theorem findSome?_apart {ns : List Node} (h : ∀ m ∈ ns, m.kind ∉ declaratorKinds) :
    (ns.findSome? fun c => if c.kind == .functionDeclarator then some c
      else if c.kind == .pointerDeclarator then c.child? .functionDeclarator else none) = none := by
  refine List.findSome?_eq_none_iff.mpr fun m hm => ?_
  have hkind := h m hm
  simp only [declaratorKinds, List.mem_cons, List.not_mem_nil, or_false, not_or] at hkind
  simp [hkind]

/-- The declarator is found under one pointer at most. -/
theorem declarator?_around (whole : Frame declaratorKinds) (pointers : List (Frame declaratorKinds))
    (hd : d.kind = .functionDeclarator) :
    declarator? (whole.around .functionDefinition (underPointers pointers d)) =
      if pointers.length ≤ 1 then some d else none := by
  rw [declarator?, Frame.children_around, List.findSome?_append, findSome?_apart whole.before_apart, Option.none_or,
    List.findSome?_cons, findSome?_apart whole.after_apart]
  have hmem : Kind.functionDeclarator ∈ declaratorKinds := by decide
  rcases pointers with _ | ⟨f, _ | ⟨g, pointers⟩⟩
  · simp [underPointers, hd]
  · simp [underPointers, f.child?_around hmem, hd]
  · simp [underPointers, f.child?_around hmem]

end Declarator

/-! ## The parameters -/

/-- The names under pointers, each under its own ones. -/
def coverNames (pointers : Nat → List (Frame [.identifier])) (cs : List Node) : List Node :=
  cs.mapIdx fun i c => if c.kind = .identifier then underPointers (pointers i) c else c

/-- The parameter declarations with their names under pointers. -/
def coverParameters (pointers : Nat → Nat → List (Frame [.identifier])) (cs : List Node) : List Node :=
  cs.mapIdx fun i c => if c.kind = .parameterDeclaration then c.withChildren (coverNames (pointers i) c.children) else c

/-- The declarator with the names of its parameters under pointers. -/
def cover (pointers : Nat → Nat → List (Frame [.identifier])) (d : Node) : Node :=
  d.withChildren <| d.children.map fun c =>
    if c.kind = .parameterList then c.withChildren (coverParameters pointers c.children) else c

/-- Of the names in a parameter list, each is under one pointer at most. -/
def UnderOne (pointers : Nat → Nat → List (Frame [.identifier])) (list : Node) : Prop :=
  ∀ i parameter, list.children[i]? = some parameter → parameter.kind = .parameterDeclaration →
    ∀ j name, parameter.children[j]? = some name → name.kind = .identifier → (pointers i j).length ≤ 1

section Parameters

variable {p : Program} {d list : Node}

theorem parametersIn_eq (hlist : d.child? .parameterList = some list) :
    parametersIn p d = (list.children.flatMap parameterNames).mapM p.nodeText := by
  rw [parametersIn, hlist]
  rfl

theorem append_eq_iff_of_sublist {α : Type} {a a' b b' : List α} (ha : a'.Sublist a) (hb : b'.Sublist b) :
    a' ++ b' = a ++ b ↔ a' = a ∧ b' = b := by
  constructor
  · intro h
    have hlength := congrArg List.length h
    rw [List.length_append, List.length_append] at hlength
    have hle := ha.length_le
    have hle' := hb.length_le
    exact List.append_inj h (by omega)
  · rintro ⟨rfl, rfl⟩
    rfl

/-- Where each member gives fewer items than before, so do all together, and the same if and only if each of them
does. -/
theorem flatMap_mapIdx_sublist {α β : Type} {f : Nat → α → α} {g : α → List β} (h : ∀ i x, (g (f i x)).Sublist (g x))
    (xs : List α) : ((xs.mapIdx f).flatMap g).Sublist (xs.flatMap g) ∧
      ((xs.mapIdx f).flatMap g = xs.flatMap g ↔ ∀ i x, xs[i]? = some x → g (f i x) = g x) := by
  induction xs generalizing f with
  | nil => simp
  | cons x xs ih =>
      obtain ⟨hrest, heq⟩ := ih fun i y => h (i + 1) y
      rw [List.mapIdx_cons, List.flatMap_cons, List.flatMap_cons]
      refine ⟨(h 0 x).append hrest, ?_⟩
      rw [append_eq_iff_of_sublist (h 0 x) hrest, heq]
      refine Iff.trans ?_ Nat.and_forall_add_one
      simp

theorem namesAt_underPointers {c : Node} (hc : c.kind = .identifier) (pointers : List (Frame [.identifier])) :
    namesAt (underPointers pointers c) = if pointers.length ≤ 1 then [c] else [] := by
  have hnone : ∀ ns : List Node, (∀ m ∈ ns, m.kind ∉ [Kind.identifier]) → ns.filter (·.kind == .identifier) = [] := by
    intro ns h
    simpa using h
  rcases pointers with _ | ⟨f, _ | ⟨g, pointers⟩⟩
  · simp [underPointers, namesAt, hc]
  · simp [underPointers, namesAt, hnone _ f.before_apart, hnone _ f.after_apart, hc]
  · simp [underPointers, namesAt, hnone _ f.before_apart, hnone _ f.after_apart]

theorem namesAt_cover (pointers : List (Frame [.identifier])) (c : Node) :
    (namesAt (if c.kind = .identifier then underPointers pointers c else c)).Sublist (namesAt c) ∧
      (namesAt (if c.kind = .identifier then underPointers pointers c else c) = namesAt c ↔
        (c.kind = .identifier → pointers.length ≤ 1)) := by
  by_cases hc : c.kind = .identifier
  · have hself : namesAt c = [c] := by simp [namesAt, hc]
    rw [if_pos hc, namesAt_underPointers hc, hself]
    split <;> simp_all
  · simp [hc]

theorem parameterNames_cover (pointers : Nat → List (Frame [.identifier])) (c : Node) :
    (parameterNames
        (if c.kind = .parameterDeclaration then c.withChildren (coverNames pointers c.children) else c)).Sublist
        (parameterNames c) ∧
      (parameterNames
          (if c.kind = .parameterDeclaration then c.withChildren (coverNames pointers c.children) else c) =
          parameterNames c ↔
        (c.kind = .parameterDeclaration →
          ∀ j name, c.children[j]? = some name → name.kind = .identifier → (pointers j).length ≤ 1)) := by
  by_cases hc : c.kind = .parameterDeclaration
  · have hnames := flatMap_mapIdx_sublist (fun j name => (namesAt_cover (pointers j) name).1) c.children
    rw [if_pos hc]
    simpa [parameterNames, hc, coverNames, (namesAt_cover _ _).2] using hnames
  · simp [hc]

/-- Names under more than one pointer are passed over. -/
theorem flatMap_coverParameters (pointers : Nat → Nat → List (Frame [.identifier])) (list : Node) :
    ((coverParameters pointers list.children).flatMap parameterNames).Sublist (list.children.flatMap parameterNames) ∧
      ((coverParameters pointers list.children).flatMap parameterNames = list.children.flatMap parameterNames ↔
        UnderOne pointers list) := by
  have hnames := flatMap_mapIdx_sublist (fun i c => (parameterNames_cover (pointers i) c).1) list.children
  refine ⟨hnames.1, hnames.2.trans ?_⟩
  simp only [(parameterNames_cover _ _).2, UnderOne]

theorem child?_cover (pointers : Nat → Nat → List (Frame [.identifier])) (d : Node) (k : Kind) :
    (cover pointers d).child? k = (d.child? k).map fun c =>
      if c.kind = .parameterList then c.withChildren (coverParameters pointers c.children) else c := by
  rw [Node.child?, cover, Node.children_withChildren, List.find?_map, Node.child?]
  congr 2
  funext c
  by_cases hc : c.kind = .parameterList <;> simp [hc]

theorem identifierIn_cover (pointers : Nat → Nat → List (Frame [.identifier])) (d : Node) :
    identifierIn p (cover pointers d) = identifierIn p d := by
  rw [identifierIn, identifierIn, child?_cover]
  cases hc : d.child? .identifier with
  | none => rfl
  | some c =>
      have hkind : c.kind = .identifier := by simpa using List.find?_some hc
      simp [hkind]

theorem parametersIn_cover (pointers : Nat → Nat → List (Frame [.identifier]))
    (hlist : d.child? .parameterList = some list) :
    parametersIn p (cover pointers d) =
      ((coverParameters pointers list.children).flatMap parameterNames).mapM p.nodeText := by
  have hkind : list.kind = .parameterList := by simpa using List.find?_some hlist
  have hcover : (cover pointers d).child? .parameterList =
      some (list.withChildren (coverParameters pointers list.children)) := by
    rw [child?_cover, hlist, Option.map_some, if_pos hkind]
  rw [parametersIn_eq hcover, Node.children_withChildren]

end Parameters

/-! ## The signature -/

/-- The name and the parameters of the function that a definition gives. -/
def signature (p : Program) (n : Node) : Except Utf8.Fault (Option (String × List String)) :=
  (ofDefinition p n).map (Option.map fun f => (f.name, f.parameters))

/-- The signature with a name, none if the name is empty. -/
def signed (name : String) (parameters : List String) : Option (String × List String) :=
  if name.isEmpty then none else some (name, parameters)

theorem signed_eq_none_iff {name : String} {parameters : List String} :
    signed name parameters = none ↔ name.isEmpty = true := by
  rw [signed]
  split <;> simp_all

theorem signed_eq_some_iff {name : String} {parameters : List String} {r : String × List String} :
    signed name parameters = some r ↔ ¬ name.isEmpty = true ∧ (name, parameters) = r := by
  rw [signed]
  split <;> simp_all

section Signature

variable {p : Program} {d : Node}

/-- The declarator gives the name and the parameters; an empty name is looked for at any depth. -/
theorem signature_eq (n : Node) : signature p n = (do
    let name ← (declarator? n).elim (.ok none) (identifierIn p)
    let parameters ← (declarator? n).elim (.ok []) (parametersIn p)
    let _ ← returnTypeIn p n
    let name ← if (name.getD "").isEmpty then deepName p n else .ok name
    return signed (name.getD "") parameters) := by
  have hlast : ∀ (name : Option String) (parameters : List String) (returnType : String),
      (if (name.getD "").isEmpty = true then pure none else pure (some ({
          name := name.getD "", startLine := p.lineOf n.start, endLine := p.lineOf n.stop, node := some n, parameters,
          returnType } : Function)) : Except Utf8.Fault (Option Function)).map
        (Option.map fun f => (f.name, f.parameters)) = .ok (signed (name.getD "") parameters) := by
    intro name parameters returnType
    rw [signed]
    split <;> rfl
  rw [signature, ofDefinition]
  cases declarator? n with
  | none =>
      cases returnTypeIn p n with
      | error e => rfl
      | ok returnType =>
          cases deepName p n with
          | error e => rfl
          | ok name => exact hlast name [] returnType
  | some d =>
      dsimp only [Option.elim_some]
      cases identifierIn p d with
      | error e => rfl
      | ok name =>
          cases parametersIn p d with
          | error e => rfl
          | ok parameters =>
              cases returnTypeIn p n with
              | error e => rfl
              | ok returnType =>
                  by_cases hempty : (name.getD "").isEmpty = true
                  · simp only [bind, Except.bind, hempty, if_true]
                    cases deepName p n with
                    | error e => rfl
                    | ok found => exact hlast found parameters returnType
                  · simp only [bind, Except.bind, hempty]
                    exact hlast name parameters returnType

theorem deepName_around (whole : Frame declaratorKinds) (pointers : List (Frame declaratorKinds))
    (hd : d.kind = .functionDeclarator) :
    (deepName p (whole.around .functionDefinition (underPointers pointers d))).map (·.getD "") =
      (identifierIn p d).map (·.getD "") := by
  rw [Frame.around, deepName, deepNameAmong_append whole.before_apart]
  exact deepNameAmong_underPointers pointers hd whole.after_apart

/-- Under one pointer at most, the declarator gives the name and the parameters. -/
theorem signature_near (whole : Frame declaratorKinds) (pointers : List (Frame declaratorKinds))
    (hd : d.kind = .functionDeclarator) (hone : pointers.length ≤ 1) :
    signature p (whole.around .functionDefinition (underPointers pointers d)) = (do
      let name ← identifierIn p d
      let parameters ← parametersIn p d
      let _ ← returnTypeIn p (whole.around .functionDefinition d)
      return signed (name.getD "") parameters) := by
  have hdeep := deepName_around (p := p) whole pointers hd
  rw [signature_eq, declarator?_around whole pointers hd, if_pos hone,
    returnTypeIn_around whole (isType_underPointers pointers hd) (isType_of_functionDeclarator hd)]
  dsimp only [Option.elim_some]
  cases hname : identifierIn p d with
  | error e => rfl
  | ok name =>
      cases parametersIn p d with
      | error e => rfl
      | ok parameters =>
          cases returnTypeIn p (whole.around .functionDefinition d) with
          | error e => rfl
          | ok returnType =>
              by_cases hempty : (name.getD "").isEmpty = true
              · rw [hname] at hdeep
                obtain ⟨found, hfound, hget⟩ := of_map_ok hdeep
                simp only [bind, Except.bind, hempty, if_true, hfound, hget]
              · simp only [bind, Except.bind, hempty]
                rfl

/-- Under more pointers the name alone is found. -/
theorem signature_far (whole : Frame declaratorKinds) (pointers : List (Frame declaratorKinds))
    (hd : d.kind = .functionDeclarator) (hmore : ¬ pointers.length ≤ 1) :
    signature p (whole.around .functionDefinition (underPointers pointers d)) = (do
      let _ ← returnTypeIn p (whole.around .functionDefinition d)
      let name ← identifierIn p d
      return signed (name.getD "") []) := by
  have hdeep := deepName_around (p := p) whole pointers hd
  rw [signature_eq, declarator?_around whole pointers hd, if_neg hmore,
    returnTypeIn_around whole (isType_underPointers pointers hd) (isType_of_functionDeclarator hd)]
  cases returnTypeIn p (whole.around .functionDefinition d) with
  | error e => rfl
  | ok returnType =>
      cases hname : identifierIn p d with
      | error e =>
          rw [hname] at hdeep
          simp [bind, Except.bind, of_map_error hdeep]
      | ok name =>
          rw [hname] at hdeep
          obtain ⟨found, hfound, hget⟩ := of_map_ok hdeep
          simp [bind, Except.bind, hfound, hget]

end Signature

/-- A sublist of a list that can be read can be read, and gives as many texts as it has members. -/
theorem mapM_sublist {ε α β : Type} {f : α → Except ε β} {xs xs' : List α} {ys : List β} (h : xs'.Sublist xs)
    (hys : xs.mapM f = .ok ys) : ∃ ys', xs'.mapM f = .ok ys' ∧ ys'.Sublist ys ∧ ys'.length = xs'.length := by
  induction h generalizing ys with
  | slnil => exact ⟨[], rfl, List.nil_sublist ys, rfl⟩
  | cons x _ ih =>
      rw [List.mapM_cons] at hys
      obtain ⟨y, -, hrest⟩ := of_bind_ok hys
      obtain ⟨zs, hzs, hlast⟩ := of_bind_ok hrest
      cases hlast
      obtain ⟨ys', hys', hsub, hlength⟩ := ih hzs
      exact ⟨ys', hys', hsub.cons y, hlength⟩
  | cons_cons x _ ih =>
      rw [List.mapM_cons] at hys
      obtain ⟨y, hy, hrest⟩ := of_bind_ok hys
      obtain ⟨zs, hzs, hlast⟩ := of_bind_ok hrest
      cases hlast
      obtain ⟨ys', hys', hsub, hlength⟩ := ih hzs
      exact ⟨y :: ys', by rw [List.mapM_cons, hy, hys']; rfl, hsub.cons_cons y, by simp [hlength]⟩

/-- The parameters with names under pointers: those under one pointer at most. -/
theorem parametersIn_kept {p : Program} {d list : Node} {parameters : List String}
    (layers : Nat → Nat → List (Frame [.identifier])) (hlist : d.child? .parameterList = some list)
    (hparameters : parametersIn p d = .ok parameters) :
    ∃ kept, parametersIn p (cover layers d) = .ok kept ∧ kept.Sublist parameters ∧
      (kept = parameters ↔ UnderOne layers list) := by
  obtain ⟨hsub, heq⟩ := flatMap_coverParameters layers list
  rw [parametersIn_eq hlist] at hparameters
  obtain ⟨kept, hkept, hsub', hlength⟩ := mapM_sublist hsub hparameters
  obtain ⟨all, hall, -, hlength'⟩ := mapM_sublist (List.Sublist.refl _) hparameters
  rw [hparameters] at hall
  cases hall
  refine ⟨kept, by rw [parametersIn_cover layers hlist, hkept], hsub', ?_⟩
  rw [← heq]
  constructor
  · intro h
    exact hsub.eq_of_length (by rw [← hlength, ← hlength', h])
  · intro h
    exact hsub'.eq_of_length (by rw [hlength, hlength', h])

section Covered

variable {p : Program} {whole : Frame declaratorKinds} {d list : Node} (pointers : List (Frame declaratorKinds))
  (layers : Nat → Nat → List (Frame [.identifier]))

theorem returnTypeIn_cover (hd : d.kind = .functionDeclarator) :
    returnTypeIn p (whole.around .functionDefinition (cover layers d)) =
      returnTypeIn p (whole.around .functionDefinition d) :=
  returnTypeIn_around whole (isType_of_functionDeclarator (d := cover layers d) hd) (isType_of_functionDeclarator hd)

theorem signature_plain (whole : Frame declaratorKinds) (hd : d.kind = .functionDeclarator) :
    signature p (whole.around .functionDefinition d) = (do
      let name ← identifierIn p d
      let parameters ← parametersIn p d
      let _ ← returnTypeIn p (whole.around .functionDefinition d)
      return signed (name.getD "") parameters) :=
  signature_near whole [] hd (Nat.zero_le 1)

/-- Under one pointer at most everything is read as without pointers, or fails as it does. -/
theorem signature_cover_eq (hd : d.kind = .functionDeclarator) (hlist : d.child? .parameterList = some list)
    (hone : pointers.length ≤ 1) (hunder : UnderOne layers list) :
    signature p (whole.around .functionDefinition (underPointers pointers (cover layers d))) =
      signature p (whole.around .functionDefinition d) := by
  have hd' : (cover layers d).kind = .functionDeclarator := hd
  rw [signature_near whole pointers hd' hone, signature_plain whole hd, identifierIn_cover,
    returnTypeIn_cover layers hd, parametersIn_cover layers hlist, (flatMap_coverParameters layers list).2.mpr hunder,
    parametersIn_eq hlist]

/-- Where the plain definition can be read, so can the covered one, with the same name and fewer parameters. -/
theorem signature_cover_ok {o : Option (String × List String)} (hd : d.kind = .functionDeclarator)
    (hlist : d.child? .parameterList = some list) (ho : signature p (whole.around .functionDefinition d) = .ok o) :
    ∃ name parameters kept, o = signed name parameters ∧
      signature p (whole.around .functionDefinition (underPointers pointers (cover layers d))) =
        .ok (signed name kept) ∧
      kept.Sublist parameters ∧ (¬ pointers.length ≤ 1 → kept = []) ∧
      (pointers.length ≤ 1 → (kept = parameters ↔ UnderOne layers list)) := by
  have hd' : (cover layers d).kind = .functionDeclarator := hd
  rw [signature_plain whole hd] at ho
  obtain ⟨name, hname, ho⟩ := of_bind_ok ho
  obtain ⟨parameters, hparameters, ho⟩ := of_bind_ok ho
  obtain ⟨returnType, hreturnType, ho⟩ := of_bind_ok ho
  cases ho
  by_cases hone : pointers.length ≤ 1
  · obtain ⟨kept, hkept, hsub, hiff⟩ := parametersIn_kept layers hlist hparameters
    refine ⟨name.getD "", parameters, kept, rfl, ?_, hsub, fun hmore => absurd hone hmore, fun _ => hiff⟩
    rw [signature_near whole pointers hd' hone, identifierIn_cover, returnTypeIn_cover layers hd, hname, hkept,
      hreturnType]
    rfl
  · refine ⟨name.getD "", parameters, [], rfl, ?_, List.nil_sublist _, fun _ => rfl, fun h => absurd h hone⟩
    rw [signature_far whole pointers hd' hone, identifierIn_cover, returnTypeIn_cover layers hd, hname, hreturnType]
    rfl

end Covered

/-- What a definition gives when its declarator is put under pointers, and the names of its parameters too. The
name of the function stays. The parameters under one pointer at most stay if the function is, and none stays if it
is under more: so they are the same if and only if there are none, or the function and each of its parameters are
under one pointer at most. Then also what cannot be read is the same. -/
theorem signature_underPointers (p : Program) (whole : Frame declaratorKinds) (pointers : List (Frame declaratorKinds))
    (layers : Nat → Nat → List (Frame [.identifier])) (d list : Node) (hd : d.kind = .functionDeclarator)
    (hlist : d.child? .parameterList = some list) :
    let plain := signature p (whole.around .functionDefinition d)
    let covered := signature p (whole.around .functionDefinition (underPointers pointers (cover layers d)))
    (pointers.length ≤ 1 → UnderOne layers list → covered = plain) ∧
    (plain = .ok none → covered = .ok none) ∧
    ∀ name parameters, plain = .ok (some (name, parameters)) →
      ∃ kept, covered = .ok (some (name, kept)) ∧ kept.Sublist parameters ∧ (¬ pointers.length ≤ 1 → kept = []) ∧
        (kept = parameters ↔ parameters = [] ∨ pointers.length ≤ 1 ∧ UnderOne layers list) := by
  refine ⟨signature_cover_eq pointers layers hd hlist, fun hplain => ?_, fun name parameters hplain => ?_⟩
  · obtain ⟨name, _, kept, hnone, hcovered, -⟩ := signature_cover_ok pointers layers hd hlist hplain
    rw [hcovered, signed_eq_none_iff.mpr (signed_eq_none_iff.mp hnone.symm)]
  · obtain ⟨_, _, kept, hsome, hcovered, hsub, hfar, hnear⟩ :=
      signature_cover_ok pointers layers hd hlist hplain
    obtain ⟨hne, heq⟩ := signed_eq_some_iff.mp hsome.symm
    cases heq
    refine ⟨kept, by rw [hcovered, signed_eq_some_iff.mpr ⟨hne, rfl⟩], hsub, hfar, ?_⟩
    by_cases hone : pointers.length ≤ 1
    · rw [hnear hone]
      constructor
      · exact fun hunder => .inr ⟨hone, hunder⟩
      · rintro (rfl | ⟨-, hunder⟩)
        · exact (hnear hone).mp (List.sublist_nil.mp hsub)
        · exact hunder
    · rw [hfar hone]
      simp [hone, eq_comm]

/-! ## One function under two numbers of pointers -/

/-- A star before the free place. -/
def star (kinds : List Kind) (h : Kind.other "*" ∉ kinds) (start stop : Nat) : Frame kinds where
  start := start
  stop := stop
  before := [.mk (.other "*") start (start + 1) [] false false]
  after := []
  named := true
  missing := false
  before_apart := by simpa [Node.kind] using h
  after_apart := by simp

def twoPointers : Program := .load "char **f(int a, char **v)".toList none

/-- The definition in this text, without its declarator. -/
def returningChar : Frame declaratorKinds where
  start := 0
  stop := 25
  before := [.mk .primitiveType 0 4 [] true false]
  after := []
  named := true
  missing := false
  before_apart := by decide
  after_apart := by decide

/-- Its parameters, without the pointers. -/
def twoParameters : Node :=
  .mk .parameterList 8 25
    [.mk (.other "(") 8 9 [] false false,
     .mk .parameterDeclaration 9 14
       [.mk .primitiveType 9 12 [] true false, .mk .identifier 13 14 [] true false] true false,
     .mk (.other ",") 14 15 [] false false,
     .mk .parameterDeclaration 16 24
       [.mk .primitiveType 16 20 [] true false, .mk .identifier 23 24 [] true false] true false,
     .mk (.other ")") 24 25 [] false false] true false

/-- Its declarator, without the pointers. -/
def namedF : Node :=
  .mk .functionDeclarator 7 25 [.mk .identifier 7 8 [] true false, twoParameters] true false

/-- Pointers over the second name only. -/
def overSecond (pointers : List (Frame [.identifier])) (i j : Nat) : List (Frame [.identifier]) :=
  if i = 3 ∧ j = 1 then pointers else []

/-- Read with one star before each of the two names, the function has both its parameters. -/
theorem signature_underPointers_single :
    let pointers := [star declaratorKinds (by decide) 6 25]
    let layers := overSecond [star [.identifier] (by decide) 22 24]
    (namedF.kind = .functionDeclarator ∧ namedF.child? .parameterList = some twoParameters) ∧
      signature twoPointers (returningChar.around .functionDefinition (underPointers pointers (cover layers namedF))) =
        .ok (some ("f", ["a", "v"])) := by
  intro pointers layers
  have hone : UnderOne layers twoParameters := by
    intro i _ _ _ j _ _ _
    show (overSecond [_] i j).length ≤ 1
    rw [overSecond]
    split <;> simp
  have hsame := (signature_underPointers twoPointers returningChar pointers layers namedF twoParameters rfl rfl).1
      (by decide) hone
  exact ⟨⟨rfl, rfl⟩, hsame.trans rfl⟩

/-- Read with two stars before each of them, it has none. -/
theorem parameters_lost_under_two :
    let pointers := [star declaratorKinds (by decide) 5 25, star declaratorKinds (by decide) 6 25]
    let layers := overSecond [star [.identifier] (by decide) 21 24, star [.identifier] (by decide) 22 24]
    namedF.kind = .functionDeclarator ∧ namedF.child? .identifier ≠ none ∧
      namedF.child? .parameterList = some twoParameters ∧
      signature twoPointers (returningChar.around .functionDefinition namedF) = .ok (some ("f", ["a", "v"])) ∧
      signature twoPointers (returningChar.around .functionDefinition (underPointers pointers (cover layers namedF))) =
        .ok (some ("f", [])) := by
  refine ⟨rfl, ?_, rfl, rfl, rfl⟩
  simp [namedF, Node.child?, Node.children, Node.kind]

end EsqlAudit.Function
