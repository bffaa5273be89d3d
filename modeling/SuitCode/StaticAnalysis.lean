import SuitCode.ProducerSites
import SuitCode.ActionExecution

/-!
# The static analysis of a TypeScript file

The probe visits the syntax tree of a file and records calls, maybe missing fields, React
state and DOM events.  What it records comes with the node for which it is recorded.
-/

namespace SuitCode

open KeyedTable LabelledTree PosixText

/-! ## Nodes of files -/

structure SourceFile where
  fileName : List String
  tree : SyntaxNode

structure NodeRef where
  file : SourceFile
  address : Address
  node : SyntaxNode
  stands : file.tree.subtreeAt address = some node

namespace NodeRef

variable (ref : NodeRef)

def child? (place : ℕ) : Option NodeRef :=
  match hchild : ref.node.children[place]? with
  | none => none
  | some child =>
      some
        { file := ref.file
          address := ref.address ++ [place]
          node := child
          stands := by
            rw [subtreeAt_append, ref.stands, Option.bind_some]
            simp only [subtreeAt, hchild] }

def part (role : ChildRole) : Option NodeRef := ref.child? (ref.node.partPlace role)

def parts (role : ChildRole) : List NodeRef :=
  ((List.range ref.node.children.length).filterMap ref.child?).filter fun child =>
    child.node.role = role

def parent? : Option NodeRef :=
  match ref.address with
  | [] => none
  | place :: rest =>
      match hparent : ref.file.tree.subtreeAt (place :: rest).dropLast with
      | none => none
      | some parent => some ⟨ref.file, (place :: rest).dropLast, parent, hparent⟩

def kind : SyntaxKind := ref.node.kind

end NodeRef

/-- The nodes of a file, in the order in which they are visited. -/
def SourceFile.nodes (file : SourceFile) : List NodeRef :=
  file.tree.visited.attach.map fun visit =>
    ⟨file, visit.1.1, visit.1.2, mem_visited_iff.mp visit.2⟩

def SourceFile.nodeAt? (file : SourceFile) (address : Address) : Option NodeRef :=
  match hfound : file.tree.subtreeAt address with
  | none => none
  | some found => some ⟨file, address, found, hfound⟩

structure Recorded (ι : Type) where
  item : ι
  ref : NodeRef

/-! ## The type checker -/

inductive CheckedType where
  | nullish
  | union (members : List CheckedType)
  | plain

mutual

/-- `typeIncludesNullish`. -/
def CheckedType.includesNullish : CheckedType → Bool
  | .nullish => true
  | .union members => CheckedType.anyNullish members
  | .plain => false

def CheckedType.anyNullish : List CheckedType → Bool
  | [] => false
  | member :: members => member.includesNullish || CheckedType.anyNullish members

end

/-- What the type checker answers; `σ` are its symbols. -/
structure TypeChecker (σ : Type) where
  symbolAt : NodeRef → Option σ
  isAlias : σ → Bool
  /-- `getAliasedSymbol`, nothing where it throws. -/
  aliasedSymbol : σ → Option σ
  declarations : σ → Option (List NodeRef)
  valueDeclaration : σ → Option NodeRef
  symbolName : σ → String
  optionalFlag : σ → Bool
  typeAt : NodeRef → Option CheckedType
  typeText : NodeRef → String
  /-- The file of the declaration of the signature to which a call resolves. -/
  signatureFile : NodeRef → Option String

/-! ## Paths -/

structure AnalysisRoots where
  repositoryRoot : List String
  projectRoot : List String

def supportedExtensions : List String :=
  [".ts", ".tsx", ".js", ".jsx", ".mts", ".cts", ".mjs", ".cjs"]

def analysisIgnoredDirectories : List String :=
  ["node_modules", ".git", ".suit", "dist", "build", ".next", "coverage"]

def joinedPath (path : List String) : String := "/" ++ join "/" path

/-- `path.relative`, by segments. -/
def relativeSegments : List String → List String → List String
  | root :: roots, segment :: segments =>
      if root = segment then relativeSegments roots segments
      else List.replicate (roots.length + 1) ".." ++ segment :: segments
  | roots, segments => List.replicate roots.length ".." ++ segments

/-- `path.extname`. -/
def extname (name : String) : String :=
  let ending := (name.toList.rtakeWhile fun c => c ≠ '.')
  if ending.length + 1 < name.toList.length then String.ofList ('.' :: ending) else ""

def isSupportedFile (path : List String) : Bool :=
  lowered (extname (path.getLastD "")) ∈ supportedExtensions

namespace AnalysisRoots

variable (roots : AnalysisRoots)

def inProject (path : List String) : Bool :=
  startsWith (joinedPath path) (joinedPath roots.projectRoot)

def isIgnoredPath (path : List String) : Bool :=
  let relative := relativeSegments roots.projectRoot path
  relative.isEmpty || startsWith (join "/" relative) ".." ||
    relative.any fun part => part ∈ analysisIgnoredDirectories

def toRepositoryRelative (path : List String) : String :=
  join "/" (relativeSegments roots.repositoryRoot path)

end AnalysisRoots

/-! ## Declarations -/

structure DeclarationTarget where
  declaration : NodeRef
  label : String
  lineStart : ℕ
  columnStart : ℕ

section

variable {σ : Type} (checker : TypeChecker σ) (roots : AnalysisRoots)

def resolveAliasedSymbol (symbol : Option σ) : Option σ :=
  match symbol with
  | none => none
  | some symbol => if checker.isAlias symbol then checker.aliasedSymbol symbol else some symbol

def isProjectDeclaration (declaration : NodeRef) : Bool :=
  let path := declaration.file.fileName
  roots.inProject path && isSupportedFile path && !endsWith (joinedPath path) ".d.ts" &&
    !roots.isIgnoredPath path

def localDeclarationTarget (symbol : Option σ) : Option DeclarationTarget :=
  match resolveAliasedSymbol checker symbol with
  | none => none
  | some resolved =>
      let declarations := match checker.declarations resolved with
        | some declarations => declarations
        | none => (checker.valueDeclaration resolved).toList
      match declarations.find? (isProjectDeclaration roots) with
      | none => none
      | some declaration =>
          let named := (declaration.part .name).getD declaration
          some
            { declaration := declaration
              label := checker.symbolName resolved
              lineStart := (locationOf named.node).1
              columnStart := (locationOf named.node).2 }

def resolveCallTarget (expression : NodeRef) : Option DeclarationTarget :=
  if expression.kind ∉ [.identifier, .propertyAccessExpression] then none
  else
    match checker.symbolAt expression with
    | none => none
    | some symbol => localDeclarationTarget checker roots (some symbol)

def callTargetLabel (expression : NodeRef) : String :=
  if expression.kind = .identifier then expression.node.text
  else if expression.kind = .propertyAccessExpression then
    ((expression.part .name).map fun name => name.node.text).getD ""
  else expression.node.sourceText

/-! ## Labels of scopes -/

def labelForFunctionLike (ref : NodeRef) : String :=
  let named := fun (holder : NodeRef) => (holder.part .name).bind fun name =>
    if name.kind = .identifier then some name.node.text else none
  match named ref with
  | some label => label
  | none =>
      let holder := ref.parent?.bind fun parent =>
        if parent.kind ∈ [.variableDeclaration, .propertyAssignment] then named parent else none
      holder.getD "anonymous"

def currentLabel (ref : NodeRef) : String :=
  let basename := ref.file.fileName.getLastD ""
  let label := ref.address.inits.foldl
    (fun label front =>
      match ref.file.nodeAt? front with
      | some inner => if isProducerKind inner.kind then labelForFunctionLike inner else label
      | none => label)
    basename
  if label = "" then basename else label

/-! ## Flow edges -/

structure FlowEdge where
  path : String
  edgeKind : String
  lineStart : ℕ
  columnStart : ℕ
  sourceLabel : String
  targetLabel : String
  deriving DecidableEq, Repr

def flowEdgeKey (edge : FlowEdge) : String :=
  join ":" [edge.path, edge.edgeKind, toString edge.lineStart, toString edge.columnStart,
    edge.sourceLabel, edge.targetLabel]

def flowEdgeAt (path edgeKind sourceLabel targetLabel : String) (ref : NodeRef) :
    Recorded FlowEdge :=
  ⟨⟨path, edgeKind, (locationOf ref.node).1, (locationOf ref.node).2, sourceLabel, targetLabel⟩,
    ref⟩

def directCallEdges (ref : NodeRef) : List (Recorded FlowEdge) :=
  match ref.part .expression with
  | none => []
  | some callee =>
      match resolveCallTarget checker roots callee with
      | none => []
      | some target =>
          [flowEdgeAt (roots.toRepositoryRelative target.declaration.file.fileName)
            "calls_local_symbol" (currentLabel ref) target.label callee]

def producedEdges (call : NodeRef) (targetLabel : String) : List (Recorded FlowEdge) :=
  if call.kind ≠ .callExpression then []
  else
    match call.part .expression with
    | none => []
    | some callee =>
        match resolveCallTarget checker roots callee with
        | none => []
        | some target =>
            [flowEdgeAt (roots.toRepositoryRelative call.file.fileName) "produces_value_for"
              target.label targetLabel callee]

/-- `visit` of `collectFlowEdges` at one node. -/
def flowEdgesAt (ref : NodeRef) : List (Recorded FlowEdge) :=
  match ref.kind with
  | .callExpression =>
      directCallEdges checker roots ref ++
        (ref.parts .argument).flatMap fun argument =>
          producedEdges checker roots argument
            (((ref.part .expression).map callTargetLabel).getD "")
  | .variableDeclaration =>
      match ref.part .name, ref.part .initializer with
      | some name, some initializer =>
          if name.kind = .identifier then producedEdges checker roots initializer name.node.text
          else []
      | _, _ => []
  | .binaryExpression =>
      match ref.part .left, ref.part .operator, ref.part .right with
      | some left, some operator, some right =>
          if operator.kind = .equalsToken ∧ left.kind = .identifier then
            producedEdges checker roots right left.node.text
          else []
      | _, _, _ => []
  | _ => []

/-- `collectFlowEdges`, but for the order of the edges. -/
def collectFlowEdges (file : SourceFile) : List (Recorded FlowEdge) :=
  fill (fun recorded => flowEdgeKey recorded.item)
    (file.nodes.flatMap (flowEdgesAt checker roots))

/-! ## Findings -/

def targetProducerSites (target : DeclarationTarget) (fieldName : String) :
    List (Recorded ProducerSite) :=
  (producerLiterals target.declaration.node fieldName).filterMap fun found =>
    (target.declaration.file.nodeAt? (target.declaration.address ++ found.1)).map fun literal =>
      ⟨siteOf (roots.toRepositoryRelative target.declaration.file.fileName) target.label
        literal.node, literal⟩

def declarationSites (fieldName : String) (declaration : NodeRef) :
    Option (List (Recorded ProducerSite)) :=
  if declaration.kind ≠ .variableDeclaration then none
  else
    match declaration.part .initializer with
    | none => none
    | some initializer =>
        if !roots.inProject declaration.file.fileName then none
        else if initializer.kind = .objectLiteralExpression then
          if containsFieldInObjectLiteral initializer.node fieldName then some []
          else
            some [⟨siteOf (roots.toRepositoryRelative declaration.file.fileName)
              (((declaration.part .name).map fun name => name.node.sourceText).getD "")
              initializer.node, initializer⟩]
        else if initializer.kind = .callExpression then
          match (initializer.part .expression).bind (resolveCallTarget checker roots) with
          | some target => some (targetProducerSites roots target fieldName)
          | none => none
        else none

def producerSitesForExpression (expression : NodeRef) (fieldName : String) :
    List (Recorded ProducerSite) :=
  if expression.kind = .identifier then
    match resolveAliasedSymbol checker (checker.symbolAt expression) with
    | none => []
    | some symbol =>
        (((checker.declarations symbol).getD []).findSome?
          (declarationSites checker roots fieldName)).getD []
  else if expression.kind = .callExpression then
    match (expression.part .expression).bind (resolveCallTarget checker roots) with
    | some target => targetProducerSites roots target fieldName
    | none => []
  else []

structure InvariantFinding where
  path : String
  accessKind : String
  lineStart : ℕ
  columnStart : ℕ
  fieldName : String
  subjectLabel : String
  declaredType : String
  producerSites : List (Recorded ProducerSite)

def findingKey (finding : InvariantFinding) : String :=
  join ":" [finding.path, finding.accessKind, toString finding.lineStart,
    toString finding.columnStart, finding.fieldName, finding.subjectLabel]

def symbolIsOptional (symbol : Option σ) : Bool :=
  match symbol with
  | none => false
  | some symbol =>
      checker.optionalFlag symbol ||
        ((checker.declarations symbol).getD []).any fun declaration =>
          declaration.node.label.questionToken

def isCallee (ref : NodeRef) : Bool :=
  match ref.parent? with
  | none => false
  | some parent =>
      parent.kind = .callExpression &&
        match parent.part .expression with
        | some callee => callee.address = ref.address
        | none => false

/-- `visit` of `collectInvariantFindings` at one node. -/
def findingsAt (ref : NodeRef) : List (Recorded InvariantFinding) :=
  if ref.kind ≠ .propertyAccessExpression ∨ ref.node.label.optionalChain = true then []
  else
    match ref.part .name, ref.part .expression with
    | some name, some expression =>
        if symbolIsOptional checker (checker.symbolAt name) ||
            (checker.typeAt ref).any CheckedType.includesNullish then
          [⟨{ path := roots.toRepositoryRelative ref.file.fileName
              accessKind := if isCallee ref then "method_call" else "property_read"
              lineStart := (locationOf name.node).1
              columnStart := (locationOf name.node).2
              fieldName := name.node.text
              subjectLabel :=
                if expression.kind = .identifier then expression.node.text
                else expression.node.sourceText
              declaredType := checker.typeText ref
              producerSites :=
                producerSitesForExpression checker roots expression name.node.text }, name⟩]
        else []
    | _, _ => []

/-- `collectInvariantFindings`, but for the order of the findings. -/
def collectInvariantFindings (file : SourceFile) : List (Recorded InvariantFinding) :=
  fill (fun recorded => findingKey recorded.item)
    (file.nodes.flatMap (findingsAt checker roots))

/-! ## State and events -/

structure AnalysisStep where
  path : String
  stepKind : String
  lineStart : ℕ
  columnStart : ℕ
  sourceLabel : String
  targetLabel : Option String
  detailLabel : Option String
  evidenceSummary : String
  deriving DecidableEq, Repr

def analysisStepKey (step : AnalysisStep) : String :=
  join ":" [step.path, step.stepKind, toString step.lineStart, toString step.columnStart,
    step.sourceLabel, step.targetLabel.getD "", step.detailLabel.getD ""]

def stepAt (stepKind sourceLabel : String) (targetLabel : Option String)
    (detailLabel evidenceSummary : String) (ref : NodeRef) : Recorded AnalysisStep :=
  ⟨⟨roots.toRepositoryRelative ref.file.fileName, stepKind, (locationOf ref.node).1,
    (locationOf ref.node).2, sourceLabel, targetLabel, some detailLabel, evidenceSummary⟩, ref⟩

def importedModule (declaration : Option NodeRef) : Option String :=
  match declaration with
  | none => none
  | some declaration =>
      if declaration.kind ≠ .importDeclaration then none
      else
        (declaration.part .moduleSpecifier).bind fun specifier =>
          if specifier.kind = .stringLiteral then some specifier.node.text else none

/-- `importedModuleNameForSymbol` at one declaration. -/
def declarationModule (declaration : NodeRef) : Option String :=
  let third := ((declaration.parent?.bind NodeRef.parent?).bind NodeRef.parent?)
  match declaration.kind with
  | .importSpecifier => importedModule third
  | .namespaceImport => importedModule third
  | .importClause => importedModule declaration.parent?
  | _ => none

/-- The declarations of a symbol which is not there cannot be iterated over. -/
def importedModuleNameForSymbol (symbol : Option σ) : PyResult (Option String) :=
  match symbol with
  | none => raiseValueError "declarations is not iterable"
  | some symbol => .ok (((checker.declarations symbol).getD []).findSome? declarationModule)

def isReactHookCall (expression : NodeRef) (hookName : String) : PyResult Bool :=
  if expression.kind = .identifier && expression.node.text = hookName then do
    let moduleName ← importedModuleNameForSymbol checker (checker.symbolAt expression)
    pure (moduleName = some "react")
  else if expression.kind = .propertyAccessExpression &&
      (expression.part .name).any fun name => name.node.text = hookName then do
    let moduleName ← importedModuleNameForSymbol checker
      ((expression.part .expression).bind checker.symbolAt)
    pure (moduleName = some "react")
  else .ok false

/-- `bindingElementName`; it raises for an element which is not there. -/
def bindingElementName (element : Option NodeRef) : PyResult (Option String) :=
  match element with
  | none => raiseValueError "Cannot read properties of undefined (reading 'kind')"
  | some element =>
      if element.kind = .identifier then .ok (some element.node.text)
      else if element.kind = .bindingElement then
        .ok ((element.part .name).bind fun name =>
          if name.kind = .identifier then some name.node.text else none)
      else .ok none

def stateSummary (hookName : String) : String :=
  "deterministic TypeScript analysis found explicit React " ++ hookName ++ " state ownership"

def hookSitesAt (ref callee : NodeRef) (hookName : String) :
    PyResult (List (Recorded AnalysisStep)) :=
  match ref.part .name with
  | none => .ok []
  | some name =>
      if name.kind = .arrayBindingPattern then do
        let sourceLabel ← bindingElementName (name.parts .element)[0]?
        let targetLabel ← bindingElementName (name.parts .element)[1]?
        pure [stepAt roots "state_site"
          (if sourceLabel.getD "" = "" then hookName else sourceLabel.getD "")
          targetLabel hookName (stateSummary hookName) callee]
      else if name.kind = .identifier then
        .ok [stepAt roots "state_site" name.node.text none hookName
          (stateSummary hookName) callee]
      else .ok []

/-- `visit` of `collectStateSites` at one node. -/
def stateSitesAt (ref : NodeRef) : PyResult (List (Recorded AnalysisStep)) :=
  if ref.kind ≠ .variableDeclaration then .ok []
  else
    match ref.part .initializer with
    | none => .ok []
    | some call =>
        if call.kind ≠ .callExpression then .ok []
        else
          match call.part .expression with
          | none => .ok []
          | some callee => do
              let isStateHook ← isReactHookCall checker callee "useState"
              let isReducerHook ← isReactHookCall checker callee "useReducer"
              if isStateHook then hookSitesAt roots ref callee "useState"
              else if isReducerHook then hookSitesAt roots ref callee "useReducer"
              else .ok []

def isExactDomMethodCall (call : NodeRef) (name : NodeRef) (methodName : String) : Bool :=
  name.node.text = methodName &&
    (checker.signatureFile call).any fun path =>
      endsWith (replaceChar '\\' '/' path) "/lib.dom.d.ts"

def literalEventName (ref : NodeRef) : Option String :=
  if ref.kind ∈ [.stringLiteral, .noSubstitutionTemplateLiteral] then some ref.node.text else none

def customEventName (argument : NodeRef) : Option String :=
  if argument.kind ≠ .newExpression then none
  else
    match (argument.parts .argument).head?, argument.part .expression with
    | some first, some constructed =>
        if constructed.kind = .identifier ∧ constructed.node.text ∈ ["Event", "CustomEvent"] then
          literalEventName first
        else none
    | _, _ => none

/-- `visit` of `collectEventFlowSteps` at one node; an empty name is no name. -/
def eventStepsAt (ref : NodeRef) : List (Recorded AnalysisStep) :=
  match ref.part .expression with
  | none => []
  | some access =>
      match access.part .name, access.part .expression, (ref.parts .argument).head? with
      | some name, some receiver, some argument =>
          if ref.kind ≠ .callExpression ∨ access.kind ≠ .propertyAccessExpression then []
          else
            let steps := fun (methodName stepKind summary : String) (event : Option String) =>
              if isExactDomMethodCall checker ref name methodName && event.getD "" ≠ "" then
                [stepAt roots stepKind (event.getD "") (some (callTargetLabel receiver))
                  methodName summary name]
              else []
            steps "addEventListener" "event_subscribe"
                "deterministic TypeScript analysis found exact DOM event subscription"
                (literalEventName argument) ++
              steps "dispatchEvent" "event_publish"
                "deterministic TypeScript analysis found exact DOM event publish"
                (customEventName argument)
      | _, _, _ => []

/-- `collectStateSites`, but for the order of the steps. -/
def collectStateSites (file : SourceFile) : PyResult (List (Recorded AnalysisStep)) := do
  let sites ← file.nodes.mapM (stateSitesAt checker roots)
  pure (fill (fun recorded => analysisStepKey recorded.item) sites.flatten)

/-- `collectEventFlowSteps`, but for the order of the steps. -/
def collectEventFlowSteps (file : SourceFile) : List (Recorded AnalysisStep) :=
  fill (fun recorded => analysisStepKey recorded.item)
    (file.nodes.flatMap (eventStepsAt checker roots))

/-! ## The report -/

structure AnalysisReport where
  findings : List (Recorded InvariantFinding)
  edges : List (Recorded FlowEdge)
  steps : List (Recorded AnalysisStep)

/-- The report of the probe on a file which is in the program. -/
def analyzeFile (file : SourceFile) : PyResult AnalysisReport :=
  if !roots.inProject file.fileName || !isSupportedFile file.fileName ||
      endsWith (joinedPath file.fileName) ".d.ts" then
    .ok ⟨[], [], []⟩
  else do
    let states ← collectStateSites checker roots file
    pure
      { findings := collectInvariantFindings checker roots file
        edges := collectFlowEdges checker roots file
        steps := states ++ collectEventFlowSteps checker roots file }

end

end SuitCode
