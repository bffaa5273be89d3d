import SuitCode.Library.LabelledTrees

/-!
# Syntax trees of TypeScript

The nodes which the static analysis tells apart.  A node knows which part of its parent it
is, so that `node.expression` is the child in that role.
-/

namespace SuitCode

open LabelledTree

inductive SyntaxKind where
  | sourceFile
  | functionDeclaration
  | functionExpression
  | arrowFunction
  | methodDeclaration
  | constructorDeclaration
  | getAccessor
  | setAccessor
  | block
  | returnStatement
  | objectLiteralExpression
  | propertyAssignment
  | shorthandPropertyAssignment
  | spreadAssignment
  | identifier
  | privateIdentifier
  | stringLiteral
  | noSubstitutionTemplateLiteral
  | numericLiteral
  | computedPropertyName
  | callExpression
  | newExpression
  | propertyAccessExpression
  | variableDeclaration
  | binaryExpression
  | equalsToken
  | arrayBindingPattern
  | bindingElement
  | importSpecifier
  | importClause
  | namespaceImport
  | importDeclaration
  | other
  deriving DecidableEq, Repr

inductive ChildRole where
  | name
  | body
  | expression
  | argument
  | initializer
  | left
  | operator
  | right
  | property
  | element
  | moduleSpecifier
  | other
  deriving DecidableEq, Repr

structure SyntaxLabel where
  kind : SyntaxKind
  role : ChildRole
  /-- The text of an identifier or a literal. -/
  text : String
  /-- The text of the node in its file. -/
  sourceText : String
  /-- The node is part of an optional chain. -/
  optionalChain : Bool
  /-- The node declares something optional. -/
  questionToken : Bool
  line : ℕ
  character : ℕ
  deriving DecidableEq, Repr

abbrev SyntaxNode := LabelledTree SyntaxLabel

namespace SyntaxNode

variable (node : SyntaxNode)

def kind : SyntaxKind := node.label.kind

def role : ChildRole := node.label.role

def text : String := node.label.text

def sourceText : String := node.label.sourceText

def partPlace (role : ChildRole) : ℕ :=
  node.children.findIdx fun child => child.label.role = role

def part (role : ChildRole) : Option (ℕ × SyntaxNode) :=
  (node.children[node.partPlace role]?).map fun child => (node.partPlace role, child)

def parts (role : ChildRole) : List SyntaxNode :=
  node.children.filter fun child => child.label.role = role

variable {node}

theorem part_eq_some_iff {role : ChildRole} {place : ℕ} {child : SyntaxNode} :
    node.part role = some (place, child) ↔
      place = node.partPlace role ∧ node.children[place]? = some child := by
  unfold part
  rw [Option.map_eq_some_iff]
  constructor
  · rintro ⟨found, hfound, heq⟩
    obtain ⟨rfl, rfl⟩ := Prod.mk.inj heq
    exact ⟨rfl, hfound⟩
  · rintro ⟨rfl, hchild⟩
    exact ⟨child, hchild, rfl⟩

theorem subtreeAt_part {role : ChildRole} {place : ℕ} {child : SyntaxNode}
    (hpart : node.part role = some (place, child)) : node.subtreeAt [place] = some child := by
  simp only [subtreeAt, (part_eq_some_iff.mp hpart).2]

end SyntaxNode

end SuitCode
