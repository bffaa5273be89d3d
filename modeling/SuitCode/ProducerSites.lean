import SuitCode.TypescriptTrees

/-!
# Producers of a missing field

An object literal which a function returns without a field is reported as a producer.  The
literals are looked for in the whole body, the functions in it included.
-/

namespace SuitCode

open LabelledTree

/-! ## Object literals -/

def propertyNameText (property : SyntaxNode) : String :=
  match property.part .name with
  | some (_, name) => if name.kind = .identifier then name.text else name.sourceText
  | none => ""

def containsFieldInObjectLiteral (literal : SyntaxNode) (fieldName : String) : Bool :=
  (literal.parts .property).any fun property =>
    (property.kind ∈ [.propertyAssignment, .shorthandPropertyAssignment, .methodDeclaration] &&
        propertyNameText property = fieldName) ||
      property.kind = .spreadAssignment

def staticName (property : SyntaxNode) : Option String :=
  match property.part .name with
  | none => none
  | some (_, name) =>
      if name.kind ∈ [.identifier, .privateIdentifier, .stringLiteral,
          .noSubstitutionTemplateLiteral, .numericLiteral] then
        some name.text
      else if name.kind = .computedPropertyName then
        match name.part .expression with
        | some (_, expression) =>
            if expression.kind ∈ [.stringLiteral, .noSubstitutionTemplateLiteral,
                .numericLiteral] then
              some expression.text
            else none
        | none => none
      else none

def definesField (literal : SyntaxNode) (fieldName : String) : Bool :=
  (literal.parts .property).any fun property =>
    property.kind ∈ [.propertyAssignment, .shorthandPropertyAssignment, .methodDeclaration,
      .getAccessor, .setAccessor] && staticName property = some fieldName

def hasSpread (literal : SyntaxNode) : Bool :=
  (literal.parts .property).any fun property => property.kind = .spreadAssignment

variable {fieldName : String} {literal : SyntaxNode} {address : Address}

theorem hasSpread_of_not_contains (hnot : containsFieldInObjectLiteral literal fieldName = false) :
    hasSpread literal = false := by
  unfold containsFieldInObjectLiteral at hnot
  unfold hasSpread
  rw [List.any_eq_false] at hnot ⊢
  intro property hproperty hspread
  apply hnot property hproperty
  rw [hspread, Bool.or_true]

/-! ## Returned literals -/

def returnedLiteral (node : SyntaxNode) : Option (ℕ × SyntaxNode) :=
  if node.kind = .returnStatement then
    match node.part .expression with
    | some (place, expression) =>
        if expression.kind = .objectLiteralExpression then some (place, expression) else none
    | none => none
  else none

/-- `visit` of `explicitReturnObjectLiterals`, with the addresses of the literals. -/
def returnedLiterals (body : SyntaxNode) : List (Address × SyntaxNode) :=
  body.visited.filterMap fun visit =>
    (returnedLiteral visit.2).map fun found => (visit.1 ++ [found.1], found.2)

/-- `explicitReturnObjectLiterals`, with the addresses of the literals in the function. -/
def explicitReturnObjectLiterals (functionLike : SyntaxNode) : List (Address × SyntaxNode) :=
  match functionLike.part .body with
  | none => []
  | some (place, body) =>
      if body.kind = .objectLiteralExpression then [([place], body)]
      else if body.kind ≠ .block then []
      else (returnedLiterals body).map fun found => (place :: found.1, found.2)

def isProducerKind (kind : SyntaxKind) : Bool :=
  kind ∈ [.functionDeclaration, .functionExpression, .arrowFunction, .methodDeclaration]

/-- The literals for which `producerSitesForFunctionTarget` reports a site. -/
def producerLiterals (declaration : SyntaxNode) (fieldName : String) :
    List (Address × SyntaxNode) :=
  if isProducerKind declaration.kind then
    (explicitReturnObjectLiterals declaration).filter fun found =>
      !containsFieldInObjectLiteral found.2 fieldName
  else []

structure ProducerSite where
  path : String
  lineStart : ℕ
  columnStart : ℕ
  label : String
  deriving DecidableEq, Repr

/-- `locationOf`: the line and the column where a node starts. -/
def locationOf (node : SyntaxNode) : ℕ × ℕ := (node.label.line + 1, node.label.character + 1)

def siteOf (path label : String) (literal : SyntaxNode) : ProducerSite :=
  ⟨path, (locationOf literal).1, (locationOf literal).2, label⟩

/-- `producerSitesForFunctionTarget`, of a declaration with a label in a file. -/
def producerSitesForFunctionTarget (path label : String) (declaration : SyntaxNode)
    (fieldName : String) : List ProducerSite :=
  (producerLiterals declaration fieldName).map fun found => siteOf path label found.2

/-! ## What a function returns itself -/

def isFunctionKind (kind : SyntaxKind) : Bool :=
  kind ∈ [.functionDeclaration, .functionExpression, .arrowFunction, .methodDeclaration,
    .constructorDeclaration, .getAccessor, .setAccessor]

def InNestedFunction (functionLike : SyntaxNode) (address : Address) : Prop :=
  ∃ (front back : Address) (inner : SyntaxNode), address = front ++ back ∧ front ≠ [] ∧
    functionLike.subtreeAt front = some inner ∧ isFunctionKind inner.kind = true

/-- The node at the address is what the function returns: its body, or the expression of a
return statement whose nearest enclosing function it is. -/
def IsReturnedBy (functionLike : SyntaxNode) (address : Address) : Prop :=
  (∃ place body, functionLike.part .body = some (place, body) ∧ address = [place]) ∨
    ∃ (front : Address) (place : ℕ) (statement expression : SyntaxNode),
      address = front ++ [place] ∧
      functionLike.subtreeAt front = some statement ∧ statement.kind = .returnStatement ∧
      statement.part .expression = some (place, expression) ∧
      ¬ InNestedFunction functionLike front

/-- A function, a method or an arrow function. -/
structure FunctionTarget where
  declaration : SyntaxNode
  isProducer : isProducerKind declaration.kind = true

/-- Every reported literal is returned by the function itself, without the field and without
a spread. -/
def ProducersReturned (target : FunctionTarget) (fieldName : String) : Prop :=
  ∀ address literal, (address, literal) ∈ producerLiterals target.declaration fieldName →
    target.declaration.subtreeAt address = some literal ∧
      literal.kind = .objectLiteralExpression ∧ IsReturnedBy target.declaration address ∧
      definesField literal fieldName = false ∧ hasSpread literal = false

/-- The literals which functions in the body return contain the field, and those of the
function itself which define it are seen to contain it. -/
structure ReturnsPlain (target : FunctionTarget) (fieldName : String) : Prop where
  nested : ∀ address literal,
    (address, literal) ∈ explicitReturnObjectLiterals target.declaration →
      InNestedFunction target.declaration address.dropLast →
        containsFieldInObjectLiteral literal fieldName = true
  named : ∀ address literal,
    (address, literal) ∈ explicitReturnObjectLiterals target.declaration →
      ¬ InNestedFunction target.declaration address.dropLast →
        definesField literal fieldName = true →
          containsFieldInObjectLiteral literal fieldName = true

theorem returnedLiteral_eq_some_iff {node : SyntaxNode} {place : ℕ} :
    returnedLiteral node = some (place, literal) ↔
      node.kind = .returnStatement ∧ node.part .expression = some (place, literal) ∧
        literal.kind = .objectLiteralExpression := by
  unfold returnedLiteral
  by_cases hkind : node.kind = .returnStatement
  · rw [if_pos hkind]
    cases node.part .expression with
    | none => simp
    | some found =>
        obtain ⟨first, expression⟩ := found
        by_cases hliteral : expression.kind = .objectLiteralExpression
        · simp only [if_pos hliteral, Option.some.injEq, Prod.mk.injEq, hkind, true_and]
          constructor
          · rintro ⟨rfl, rfl⟩
            exact ⟨⟨rfl, rfl⟩, hliteral⟩
          · exact And.left
        · simp only [if_neg hliteral, reduceCtorEq, false_iff]
          rintro ⟨-, heq, hkind⟩
          rw [← (Prod.mk.inj (Option.some.inj heq)).2] at hkind
          exact hliteral hkind
  · simp [hkind]

theorem mem_returnedLiterals_iff {body : SyntaxNode} :
    (address, literal) ∈ returnedLiterals body ↔
      ∃ (front : Address) (place : ℕ) (statement : SyntaxNode), address = front ++ [place] ∧
        body.subtreeAt front = some statement ∧ statement.kind = .returnStatement ∧
        statement.part .expression = some (place, literal) ∧
        literal.kind = .objectLiteralExpression := by
  unfold returnedLiterals
  rw [List.mem_filterMap]
  constructor
  · rintro ⟨⟨front, statement⟩, hvisited, hfound⟩
    obtain ⟨⟨place, expression⟩, hreturned, heq⟩ := Option.map_eq_some_iff.mp hfound
    obtain ⟨rfl, rfl⟩ := Prod.mk.inj heq
    obtain ⟨hkind, hpart, hliteral⟩ := returnedLiteral_eq_some_iff.mp hreturned
    exact ⟨front, place, statement, rfl, mem_visited_iff.mp hvisited, hkind, hpart, hliteral⟩
  · rintro ⟨front, place, statement, rfl, hsubtree, hkind, hpart, hliteral⟩
    refine ⟨(front, statement), mem_visited_iff.mpr hsubtree, ?_⟩
    rw [returnedLiteral_eq_some_iff.mpr ⟨hkind, hpart, hliteral⟩]
    rfl

theorem mem_explicitReturn {functionLike : SyntaxNode}
    (hmem : (address, literal) ∈ explicitReturnObjectLiterals functionLike) :
    functionLike.subtreeAt address = some literal ∧
      literal.kind = .objectLiteralExpression ∧
      ((∃ place, functionLike.part .body = some (place, literal) ∧ address = [place]) ∨
        ∃ (front : Address) (place : ℕ) (statement : SyntaxNode), address = front ++ [place] ∧
          functionLike.subtreeAt front = some statement ∧ statement.kind = .returnStatement ∧
          statement.part .expression = some (place, literal)) := by
  unfold explicitReturnObjectLiterals at hmem
  cases hbody : functionLike.part .body with
  | none => simp [hbody] at hmem
  | some found =>
      obtain ⟨place, body⟩ := found
      rw [hbody] at hmem
      simp only at hmem
      have hat := SyntaxNode.subtreeAt_part hbody
      by_cases hliteral : body.kind = .objectLiteralExpression
      · rw [if_pos hliteral, List.mem_singleton] at hmem
        obtain ⟨rfl, rfl⟩ := Prod.mk.inj hmem
        exact ⟨hat, hliteral, Or.inl ⟨place, rfl, rfl⟩⟩
      · rw [if_neg hliteral] at hmem
        by_cases hblock : body.kind = .block
        · rw [if_neg (not_not_intro hblock), List.mem_map] at hmem
          obtain ⟨⟨inner, expression⟩, hreturned, heq⟩ := hmem
          obtain ⟨rfl, rfl⟩ := Prod.mk.inj heq
          obtain ⟨front, last, statement, rfl, hsubtree, hkind, hpart, hexpression⟩ :=
            mem_returnedLiterals_iff.mp hreturned
          have hstatement : functionLike.subtreeAt (place :: front) = some statement := by
            have happend := subtreeAt_append functionLike [place] front
            rw [hat, Option.bind_some, hsubtree] at happend
            exact happend
          have hwhole : functionLike.subtreeAt (place :: (front ++ [last])) =
              some expression := by
            have happend := subtreeAt_append functionLike (place :: front) [last]
            rw [hstatement, Option.bind_some, SyntaxNode.subtreeAt_part hpart] at happend
            exact happend
          exact ⟨hwhole, hexpression,
            Or.inr ⟨place :: front, last, statement, rfl, hstatement, hkind, hpart⟩⟩
        · rw [if_pos hblock] at hmem
          simp at hmem

theorem isReturnedBy_iff {functionLike : SyntaxNode}
    (hmem : (address, literal) ∈ explicitReturnObjectLiterals functionLike) :
    IsReturnedBy functionLike address ↔
      ¬ InNestedFunction functionLike address.dropLast := by
  obtain ⟨hsubtree, hliteral, hplace⟩ := mem_explicitReturn hmem
  cases hplace with
  | inl hbody =>
      obtain ⟨place, hpart, rfl⟩ := hbody
      constructor
      · rintro - ⟨front, back, inner, heq, hne, -⟩
        have hnil : front = [] := (List.append_eq_nil_iff.mp heq.symm).1
        exact hne hnil
      · intro
        exact Or.inl ⟨place, literal, hpart, rfl⟩
  | inr hreturn =>
      obtain ⟨front, place, statement, rfl, hstatement, hkind, hpart⟩ := hreturn
      rw [List.dropLast_concat]
      constructor
      · intro hreturned hnested
        cases hreturned with
        | inl hbody =>
            obtain ⟨first, body, -, heq⟩ := hbody
            obtain ⟨outer, back, inner, hfront, hne, -⟩ := hnested
            have hlength := congrArg List.length heq
            have hsplit := congrArg List.length hfront
            rw [List.length_append, List.length_singleton, List.length_singleton] at hlength
            rw [List.length_append] at hsplit
            have hpos := List.length_pos_iff.mpr hne
            omega
        | inr hstatement =>
            obtain ⟨other, last, _, _, heq, -, -, -, hnot⟩ := hstatement
            obtain ⟨hsame, -⟩ := List.append_inj' heq rfl
            rw [← hsame] at hnot
            exact hnot hnested
      · intro hnot
        exact Or.inr ⟨front, place, statement, literal, rfl, hstatement, hkind, hpart, hnot⟩

variable {target : FunctionTarget}

theorem mem_producerLiterals :
    (address, literal) ∈ producerLiterals target.declaration fieldName ↔
      (address, literal) ∈ explicitReturnObjectLiterals target.declaration ∧
        containsFieldInObjectLiteral literal fieldName = false := by
  unfold producerLiterals
  rw [if_pos target.isProducer, List.mem_filter, Bool.not_eq_true']

theorem producersReturned_of_plain (hplain : ReturnsPlain target fieldName) :
    ProducersReturned target fieldName := by
  intro address literal hproducer
  obtain ⟨hmem, hnot⟩ := mem_producerLiterals.mp hproducer
  obtain ⟨hsubtree, hliteral, -⟩ := mem_explicitReturn hmem
  have hown : ¬ InNestedFunction target.declaration address.dropLast := by
    intro hnested
    rw [hplain.nested address literal hmem hnested] at hnot
    cases hnot
  have hlacks : definesField literal fieldName = false := by
    rw [← Bool.not_eq_true]
    intro hdefines
    rw [hplain.named address literal hmem hown hdefines] at hnot
    cases hnot
  exact ⟨hsubtree, hliteral, (isReturnedBy_iff hmem).mpr hown, hlacks,
    hasSpread_of_not_contains hnot⟩

/-- The reported literals are what the function returns without the field exactly where every
literal returned in a nested function contains it, and no own literal hides it. -/
theorem producersReturned_iff (target : FunctionTarget) (fieldName : String) :
    ProducersReturned target fieldName ↔ ReturnsPlain target fieldName := by
  constructor
  · intro hreturned
    constructor
    · intro address literal hmem hnested
      by_contra hnot
      rw [Bool.not_eq_true] at hnot
      obtain ⟨-, -, hown, -⟩ :=
        hreturned address literal (mem_producerLiterals.mpr ⟨hmem, hnot⟩)
      exact (isReturnedBy_iff hmem).mp hown hnested
    · intro address literal hmem _ hdefines
      by_contra hnot
      rw [Bool.not_eq_true] at hnot
      obtain ⟨-, -, -, hlacks, -⟩ :=
        hreturned address literal (mem_producerLiterals.mpr ⟨hmem, hnot⟩)
      rw [hdefines] at hlacks
      cases hlacks
  · exact producersReturned_of_plain

/-- Under that condition each site reported for the function is where a literal starts which
the function itself returns, without the field and without a spread. -/
theorem producerSites_returned {path label : String} (hplain : ReturnsPlain target fieldName)
    {site : ProducerSite}
    (hsite : site ∈ producerSitesForFunctionTarget path label target.declaration fieldName) :
    ∃ address literal, siteOf path label literal = site ∧
      target.declaration.subtreeAt address = some literal ∧
        literal.kind = .objectLiteralExpression ∧ IsReturnedBy target.declaration address ∧
          definesField literal fieldName = false ∧ hasSpread literal = false := by
  unfold producerSitesForFunctionTarget at hsite
  obtain ⟨found, hfound, heq⟩ := List.mem_map.mp hsite
  exact ⟨found.1, found.2, heq, producersReturned_of_plain hplain found.1 found.2 hfound⟩

/-! ## A function with a callback -/

def plainNode (kind : SyntaxKind) (role : ChildRole) (text : String)
    (children : List SyntaxNode) : SyntaxNode :=
  .node ⟨kind, role, text, text, false, false, 0, 0⟩ children

def oneFieldLiteral (fieldName : String) : SyntaxNode :=
  plainNode .objectLiteralExpression .expression "" [plainNode .propertyAssignment .property ""
    [plainNode .identifier .name fieldName [], plainNode .numericLiteral .initializer "1" []]]

/-- `() => { return { a: 1 }; }`. -/
def callbackNode : SyntaxNode :=
  plainNode .arrowFunction .initializer "" [plainNode .block .body ""
    [plainNode .returnStatement .other "" [oneFieldLiteral "a"]]]

/-- `function make() { const g = () => { return { a: 1 }; }; return { b: 1 }; }`. -/
def makeNode : SyntaxNode :=
  plainNode .functionDeclaration .other "" [plainNode .identifier .name "make" [],
    plainNode .block .body ""
      [plainNode .variableDeclaration .other ""
          [plainNode .identifier .name "g" [], callbackNode],
        plainNode .returnStatement .other "" [oneFieldLiteral "b"]]]

def makeTarget : FunctionTarget := ⟨makeNode, by decide⟩

theorem makeTarget_not_returned : ¬ ProducersReturned makeTarget "b" := by
  intro hreturned
  have hproducers : producerLiterals makeNode "b" = [([1, 0, 1, 0, 0, 0], oneFieldLiteral "a")] := by
    rfl
  have hmem : (([1, 0, 1, 0, 0, 0], oneFieldLiteral "a") : Address × SyntaxNode) ∈
      producerLiterals makeTarget.declaration "b" := by
    have hlist : producerLiterals makeTarget.declaration "b" =
        [([1, 0, 1, 0, 0, 0], oneFieldLiteral "a")] := hproducers
    rw [hlist]
    exact List.mem_singleton_self _
  obtain ⟨-, -, hown, -⟩ := hreturned _ _ hmem
  have hnested : InNestedFunction makeTarget.declaration [1, 0, 1, 0, 0] :=
    ⟨[1, 0, 1], [0, 0], callbackNode, rfl, List.cons_ne_nil _ _, rfl, by decide⟩
  exact (isReturnedBy_iff (mem_producerLiterals.mp hmem).1).mp hown hnested

/-- A literal which a callback returns is reported for the function around it. -/
theorem producersReturned_not_always :
    ¬ ∀ (target : FunctionTarget) (fieldName : String), ProducersReturned target fieldName := by
  intro halways
  exact makeTarget_not_returned (halways makeTarget "b")

end SuitCode
