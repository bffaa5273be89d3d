import SuitCode.LspBackends

/-!
# Agreement of the two session managers

The backend takes an error of the language server protocol for an empty answer.
Over the coordinator the same error arrives as an error of the coordinator and
costs the shared session its client, so the two managers agree on the answers
which the parser accepts only.
-/

namespace SuitCode

open ExceptList FileTree

/-! ## Ready sessions -/

/-- A session whose server serves requests at this time. -/
structure ManagedSession.Ready (session : ManagedSession) (now : ℚ) : Prop where
  state : session.state = .ready
  held : session.client ≠ none
  probed : session.warmProbeCompleted = true
  retry : session.nextRetryAt = none
  active : session.isIdle now = false

def LspError.IsCoordinator (error : LspError) : Prop :=
  error.errorClass = .coordinatorProtocolError ∨
    error.errorClass = .coordinatorRuntimeNotReadyError ∨
      error.errorClass = .coordinatorUnavailableError

theorem ensureInitialized_of_ready {session : ManagedSession} {now : ℚ}
    (launched : LspResult Unit) (failedAt : ℚ) (hready : session.Ready now) :
    ∃ client, session.ensureInitialized now false launched failedAt =
      (.ok client, { session with lastActivityAt := some now, state := .ready }) := by
  obtain ⟨client, hclient⟩ := Option.ne_none_iff_exists'.mp hready.held
  refine ⟨client, ?_⟩
  unfold ManagedSession.ensureInitialized
  have hwait : session.mustWait now = false := by
    unfold ManagedSession.mustWait
    rw [hready.retry]
  simp only [hready.active, Bool.false_eq_true, if_false, hwait, hclient, hready.probed, if_true]

variable {α : Type} {filePath : List String}

theorem failWith_degrades (session : ManagedSession) (now : ℚ) (start finish : String)
    (error : LspError) :
    ∃ raised, session.failWith (α := α) now start finish error =
      (.error raised, session.markFailure now) := by
  unfold ManagedSession.failWith
  by_cases htimeout : error.errorClass = .lspTimeoutError
  · exact ⟨_, if_pos htimeout⟩
  · exact ⟨_, if_neg htimeout⟩

theorem invoke_of_ready {session : ManagedSession} {now : ℚ} (launched : LspResult Unit)
    (operation : LspResult α) (finishedAt : ℚ) (hready : session.Ready now) :
    (∃ result, operation = .ok result ∧
        ∃ later, session.invoke now launched operation finishedAt = (.ok result, later) ∧
          later.state = .ready) ∨
      ((∀ result, operation ≠ .ok result) ∧
        ∃ raised later, session.invoke now launched operation finishedAt = (.error raised, later) ∧
          later.state = .degraded) := by
  obtain ⟨client, hensured⟩ := ensureInitialized_of_ready launched finishedAt hready
  unfold ManagedSession.invoke
  rw [hensured]
  dsimp only
  rw [if_pos hready.probed]
  cases operation with
  | ok result => exact .inl ⟨result, rfl, _, rfl, rfl⟩
  | error error =>
      right
      constructor
      · intro result heq
        cases heq
      · obtain ⟨raised, hfail⟩ := failWith_degrades (α := α)
          { session with lastActivityAt := some now, state := .ready } finishedAt ""
          " request failed" error
        exact ⟨raised, _, hfail, rfl⟩

theorem raisedByRequest_isCoordinator (error : LspError) :
    (raisedByRequest error).IsCoordinator := by
  unfold raisedByRequest
  split
  · rename_i hclass
    exact .inl hclass
  · rename_i hclass
    exact .inr (.inl hclass)
  · exact .inr (.inl rfl)
  · exact .inr (.inr rfl)

/-! ## Outcomes -/

def SameOutcome {α : Type} : LspResult α → LspResult α → Prop
  | .ok left, .ok right => left = right
  | .error left, .error right => left.errorClass = right.errorClass
  | _, _ => False

theorem sameOutcome_refl (result : LspResult α) : SameOutcome result result := by
  cases result <;> rfl

theorem sameOutcome_ok_iff {value : α} {result : LspResult α} :
    SameOutcome (.ok value) result ↔ result = .ok value := by
  cases result with
  | ok other =>
      constructor
      · intro hsame
        have heq : value = other := hsame
        rw [heq]
      · intro heq
        cases heq
        rfl
  | error error =>
      constructor
      · intro hsame
        cases hsame
      · intro heq
        cases heq

section Operations

variable {Item Entry : Type} {backend : LspBackend} {operation : BackendOperation Item Entry}

/-! ## The path of its own client -/

theorem read_raises (method : String) (reply : ServerReply) :
    Raises LspError.IsProtocolError (reply.read method) := by
  unfold ServerReply.read
  split
  · exact raises_ok _
  · exact raises_ok _
  · exact raises_error rfl
  · exact raises_error rfl

/-- The server answers `initialize` and `shutdown` of the client of the call. -/
def ServerReplies.Acknowledged (replies : ServerReplies) : Prop :=
  (∃ value, replies.startup.read "initialize" = .ok value) ∧
    ∃ value, replies.shutdown.read "shutdown" = .ok value

variable {replies : ServerReplies}

theorem perCallSession_of_acknowledged (result : LspResult (List Item))
    (hreplies : replies.Acknowledged) :
    perCallSession replies result = result := by
  obtain ⟨⟨started, hstart⟩, ⟨stopped, hstop⟩⟩ := hreplies
  unfold perCallSession
  rw [hstart, hstop]

theorem perCallSession_of_not_acknowledged (result : LspResult (List Item))
    (hreplies : ¬ replies.Acknowledged) :
    ∃ error, perCallSession replies result = .error error ∧
      error.errorClass = .lspProtocolError := by
  unfold perCallSession
  cases hstart : replies.startup.read "initialize" with
  | error error => exact ⟨error, rfl, read_raises _ _ error hstart⟩
  | ok started =>
      cases hstop : replies.shutdown.read "shutdown" with
      | error error => exact ⟨error, rfl, read_raises _ _ error hstop⟩
      | ok stopped => exact absurd ⟨⟨started, hstart⟩, ⟨stopped, hstop⟩⟩ hreplies

theorem readText_raises_of_isFile (hfile : backend.tree.isFile filePath = true) :
    Raises (fun error => error.errorClass = .unicodeDecodeError)
      (backend.readText filePath) := by
  have hstat : backend.tree.stat filePath = some .file := by
    simpa [FileTree.isFile] using hfile
  obtain ⟨resolved, hresolved, hlookup⟩ := Option.bind_eq_some_iff.mp hstat
  have hpath : backend.resolvePath filePath = .ok resolved := by
    unfold LspBackend.resolvePath
    rw [hresolved]
  unfold LspBackend.readText
  rw [hpath, ok_bind, if_pos hlookup]
  cases backend.fileText resolved with
  | text content => exact raises_ok _
  | undecodable message => exact raises_error rfl

theorem checkedFile_eq_some {repositoryRelPath : String}
    (hchecked : checkedFile backend operation repositoryRelPath = .ok (some filePath)) :
    operation.checkPosition = .ok () ∧ backend.tree.isFile filePath = true := by
  unfold checkedFile at hchecked
  obtain ⟨valid, hposition, hrest⟩ := bind_eq_ok.mp hchecked
  obtain ⟨path, hvalid, hsupported⟩ := bind_eq_ok.mp hrest
  have hpath : path = filePath := by
    split at hsupported
    · simpa [pure, Except.pure] using hsupported
    · simp [pure, Except.pure] at hsupported
  subst hpath
  refine ⟨hposition, ?_⟩
  unfold LspBackend.validateRepositoryFile at hvalid
  dsimp only at hvalid
  split at hvalid
  · cases hvalid
  · obtain ⟨resolved, _, hguards⟩ := bind_eq_ok.mp hvalid
    split at hguards
    · cases hguards
    · split at hguards
      · cases hguards
      · split at hguards
        · cases hguards
        · rename_i hisFile
          have heq : resolved = path := by simpa [pure, Except.pure] using hguards
          rw [heq] at hisFile
          simpa using hisFile

theorem clientOperation_eq_ok {reply : ServerReply} {items : List Item}
    (hposition : operation.checkPosition = .ok ()) :
    clientOperation backend operation filePath reply = .ok items ↔
      (∃ text, backend.readText filePath = .ok text) ∧
        (reply.read operation.method >>= operation.parse) = .ok items := by
  unfold clientOperation
  rw [hposition, ok_bind, bind_eq_ok]
  constructor
  · intro hall
    obtain ⟨text, htext, hparse⟩ := hall
    exact ⟨⟨text, htext⟩, hparse⟩
  · intro hall
    obtain ⟨⟨text, htext⟩, hparse⟩ := hall
    exact ⟨text, htext, hparse⟩

theorem answerFor_raises (hposition : operation.checkPosition = .ok ())
    (hfile : backend.tree.isFile filePath = true) (replies : ServerReplies) :
    Raises (fun error => error.IsLocal ∨ error.errorClass = .unicodeDecodeError)
      (answerFor backend operation filePath
        (perCallSession replies
          (clientOperation backend operation filePath replies.operation))) := by
  have hclient : Raises
      (fun error => error.IsProtocolError ∨ error.errorClass = .unicodeDecodeError)
      (clientOperation backend operation filePath replies.operation) := by
    unfold clientOperation
    rw [hposition, ok_bind]
    apply raises_bind
    · exact (readText_raises_of_isFile hfile).mono fun _ hclass => .inr hclass
    · intro text
      apply raises_bind
      · exact (read_raises _ _).mono fun _ hclass => .inl hclass
      · intro payload
        exact (operation.parseRaises payload).mono fun _ hclass => .inl hclass
  have hsession : Raises
      (fun error => error.IsProtocolError ∨ error.errorClass = .unicodeDecodeError)
      (perCallSession replies
        (clientOperation backend operation filePath replies.operation)) := by
    by_cases hreplies : replies.Acknowledged
    · rw [perCallSession_of_acknowledged _ hreplies]
      exact hclient
    · obtain ⟨error, herror, hclass⟩ := perCallSession_of_not_acknowledged
        (clientOperation backend operation filePath replies.operation) hreplies
      rw [herror]
      exact raises_error (.inl hclass)
  generalize perCallSession replies
    (clientOperation backend operation filePath replies.operation) = result at hsession
  unfold answerFor
  cases result with
  | ok items => exact (operation.translateRaises backend filePath items).mono fun _ => .inl
  | error error =>
      dsimp only
      by_cases hprotocol : error.errorClass = .lspProtocolError
      · rw [if_pos hprotocol]
        exact raises_ok _
      · rw [if_neg hprotocol]
        cases hsession error rfl with
        | inl hclass => exact absurd hclass hprotocol
        | inr hclass => exact raises_error (.inr hclass)

theorem answerFor_of_isCoordinator {error : LspError} (hclass : error.IsCoordinator) :
    answerFor backend operation filePath (.error error) = .error error := by
  unfold answerFor
  dsimp only
  rw [if_neg]
  intro hprotocol
  unfold LspError.IsCoordinator at hclass
  rw [hprotocol] at hclass
  simp at hclass

theorem not_sameOutcome_isCoordinator {result : LspResult α} {error : LspError}
    (hresult : Raises
      (fun error => error.IsLocal ∨ error.errorClass = .unicodeDecodeError) result)
    (hclass : error.IsCoordinator) : ¬ SameOutcome result (.error error) := by
  intro hsame
  cases result with
  | ok value => cases hsame
  | error other =>
      have hsameClass : other.errorClass = error.errorClass := hsame
      have hother : other.IsLocal ∨ other.errorClass = .unicodeDecodeError := hresult other rfl
      unfold LspError.IsLocal at hother
      unfold LspError.IsCoordinator at hclass
      rw [hsameClass] at hother
      generalize error.errorClass = errorClass at hother hclass
      cases errorClass <;> simp at hother hclass

/-! ## Agreement -/

/-- The two managers give the same outcome and the shared session stays ready. -/
def ManagersAgree (backend : LspBackend) (operation : BackendOperation Item Entry)
    (session : ManagedSession) (times : RequestTimes) (repositoryRelPath : String)
    (replies : ServerReplies) : Prop :=
  SameOutcome (askPerCall backend operation repositoryRelPath replies)
      (askCoordinator backend operation session times repositoryRelPath replies).1 ∧
    (askCoordinator backend operation session times repositoryRelPath replies).2.state = .ready

/-- The coordinator finds the file again under its relative path and can read it
as UTF-8, and the server's answer is a result which the parser accepts.  Over a
client of its own the file itself is readable too, or, where the server refuses
`initialize` or `shutdown`, nothing of the answer would be left. -/
def AcceptedOnBoth (backend : LspBackend) (operation : BackendOperation Item Entry)
    (filePath : List String) (replies : ServerReplies) : Prop :=
  ∃ items, (replies.operation.read operation.method >>= operation.parse) = .ok items ∧
    (∃ attached, attachmentFilePath backend (backend.relativePath filePath) = .ok attached ∧
      ∃ text, backend.readText attached = .ok text) ∧
    (replies.Acknowledged → ∃ text, backend.readText filePath = .ok text) ∧
    (¬ replies.Acknowledged → operation.translate backend filePath items = .ok [])

theorem sameOutcome_answerFor_iff {items : List Item} (hposition : operation.checkPosition = .ok ())
    (hfile : backend.tree.isFile filePath = true)
    (hitems : (replies.operation.read operation.method >>= operation.parse) = .ok items) :
    SameOutcome
        (answerFor backend operation filePath
          (perCallSession replies
            (clientOperation backend operation filePath replies.operation)))
        (operation.translate backend filePath items) ↔
      (replies.Acknowledged → ∃ text, backend.readText filePath = .ok text) ∧
        (¬ replies.Acknowledged → operation.translate backend filePath items = .ok []) := by
  by_cases hreplies : replies.Acknowledged
  · rw [perCallSession_of_acknowledged _ hreplies]
    simp only [hreplies, true_implies, not_true_eq_false, false_implies, and_true]
    constructor
    · intro hsame
      by_contra hunreadable
      cases hread : backend.readText filePath with
      | ok text => exact hunreadable ⟨text, hread⟩
      | error error =>
          have hclass := readText_raises_of_isFile hfile error hread
          have hclient : clientOperation backend operation filePath replies.operation =
              .error error := by
            unfold clientOperation
            rw [hposition, ok_bind, hread]
            rfl
          rw [hclient] at hsame
          have hanswer : answerFor backend operation filePath (.error error) =
              .error error := by
            unfold answerFor
            dsimp only
            rw [hclass]
            rfl
          rw [hanswer] at hsame
          cases htranslated : operation.translate backend filePath items with
          | ok entries =>
              rw [htranslated] at hsame
              cases hsame
          | error other =>
              rw [htranslated] at hsame
              have hsameClass : error.errorClass = other.errorClass := hsame
              have hlocal := operation.translateRaises backend filePath items other htranslated
              unfold LspError.IsLocal at hlocal
              rw [← hsameClass, hclass] at hlocal
              cases hlocal with
              | inl hvalue => cases hvalue
              | inr hos => cases hos
    · intro hreadable
      have hclient := (clientOperation_eq_ok hposition).mpr ⟨hreadable, hitems⟩
      rw [hclient]
      exact sameOutcome_refl _
  · obtain ⟨error, hsession, hclass⟩ := perCallSession_of_not_acknowledged
      (clientOperation backend operation filePath replies.operation) hreplies
    have hanswer : answerFor backend operation filePath (.error error) = .ok [] := by
      unfold answerFor
      dsimp only
      rw [if_pos hclass]
    rw [hsession, hanswer, sameOutcome_ok_iff]
    simp only [hreplies, false_implies, not_false_eq_true, true_implies, true_and]

theorem managers_agree_of_checked {session : ManagedSession} {times : RequestTimes}
    {repositoryRelPath : String} (hready : session.Ready times.now)
    (hchecked : checkedFile backend operation repositoryRelPath = .ok (some filePath)) :
    ManagersAgree backend operation session times repositoryRelPath replies ↔
      AcceptedOnBoth backend operation filePath replies := by
  obtain ⟨hposition, hfile⟩ := checkedFile_eq_some hchecked
  unfold ManagersAgree askPerCall askCoordinator coordinatorOperation
  rw [hchecked]
  dsimp only
  cases hattached : attachmentFilePath backend (backend.relativePath filePath) with
  | error error =>
      dsimp only
      constructor
      · intro hagree
        have hanswer : answerFor backend operation filePath (.error (raisedByRequest error)) =
            .error (raisedByRequest error) :=
          answerFor_of_isCoordinator (raisedByRequest_isCoordinator error)
        rw [hanswer] at hagree
        exact absurd hagree.1 (not_sameOutcome_isCoordinator
          (answerFor_raises hposition hfile replies) (raisedByRequest_isCoordinator error))
      · intro haccepted
        obtain ⟨_, _, ⟨attached, hother, _⟩, _⟩ := haccepted
        rw [hattached] at hother
        cases hother
  | ok attached =>
      dsimp only
      have hclient : ∀ items, clientOperation backend operation attached replies.operation =
          .ok items ↔ (∃ text, backend.readText attached = .ok text) ∧
            (replies.operation.read operation.method >>= operation.parse) = .ok items :=
        fun items => clientOperation_eq_ok hposition
      cases invoke_of_ready times.launched
          (clientOperation backend operation attached replies.operation) times.finishedAt hready with
      | inl hserved =>
          obtain ⟨items, hoperation, later, hinvoke, hstate⟩ := hserved
          obtain ⟨hreadable, hitems⟩ := (hclient items).mp hoperation
          rw [hinvoke]
          dsimp only
          rw [operation.readBack]
          have hanswer : answerFor backend operation filePath (.ok items) =
              operation.translate backend filePath items := rfl
          rw [hanswer, sameOutcome_answerFor_iff hposition hfile hitems]
          constructor
          · intro hagree
            exact ⟨items, hitems, ⟨attached, hattached, hreadable⟩, hagree.1⟩
          · intro haccepted
            obtain ⟨other, hother, _, hboth⟩ := haccepted
            rw [hitems, Except.ok.injEq] at hother
            rw [hother]
            exact ⟨hboth, hstate⟩
      | inr hfailed =>
          obtain ⟨hnone, raised, later, hinvoke, hstate⟩ := hfailed
          rw [hinvoke]
          dsimp only
          constructor
          · intro hagree
            rw [hstate] at hagree
            cases hagree.2
          · intro haccepted
            obtain ⟨items, hitems, ⟨other, hother, hreadable⟩, _⟩ := haccepted
            rw [hattached, Except.ok.injEq] at hother
            rw [← hother] at hreadable
            exact absurd ((hclient items).mpr ⟨hreadable, hitems⟩) (hnone items)

end Operations

/-! ## The operations of the backend -/

/-- The calls which look at one file. -/
inductive BackendQuery where
  | findDefinition (line column : ℤ)
  | findReferences (line column : ℤ) (includeDefinition : Bool)
  | findImplementations (line column : ℤ)
  | listFileSymbols (query : Option String) (isCaseSensitive : Bool)

namespace BackendQuery

def Item : BackendQuery → Type
  | .listFileSymbols _ _ => LspDocumentSymbol
  | _ => LspLocation

def Entry : BackendQuery → Type
  | .listFileSymbols _ _ => LspRepositorySymbol
  | _ => LspBackend.LocationEntry

def operation : (query : BackendQuery) → BackendOperation query.Item query.Entry
  | .findDefinition line column => SuitCode.findDefinition line column
  | .findReferences line column includeDefinition =>
      SuitCode.findReferences line column includeDefinition
  | .findImplementations line column => SuitCode.findImplementations line column
  | .listFileSymbols query isCaseSensitive => SuitCode.listFileSymbols query isCaseSensitive

end BackendQuery

/-- Over a ready session the two managers agree on a call exactly when its checks
fail, its file is not supported, or its answer is accepted on both paths. -/
theorem sessionManagers_agree_iff (backend : LspBackend) (query : BackendQuery)
    (session : ManagedSession) (times : RequestTimes) (repositoryRelPath : String)
    (replies : ServerReplies) (hready : session.Ready times.now) :
    ManagersAgree backend query.operation session times repositoryRelPath replies ↔
      ∀ filePath, checkedFile backend query.operation repositoryRelPath = .ok (some filePath) →
        AcceptedOnBoth backend query.operation filePath replies := by
  cases hchecked : checkedFile backend query.operation repositoryRelPath with
  | error error =>
      simp only [reduceCtorEq, false_implies, implies_true, iff_true]
      unfold ManagersAgree askPerCall askCoordinator
      rw [hchecked]
      exact ⟨rfl, hready.state⟩
  | ok found =>
      cases found with
      | none =>
          simp only [Except.ok.injEq, reduceCtorEq, false_implies, implies_true, iff_true]
          unfold ManagersAgree askPerCall askCoordinator
          rw [hchecked]
          exact ⟨rfl, hready.state⟩
      | some filePath =>
          rw [managers_agree_of_checked hready hchecked]
          constructor
          · intro haccepted other hother
            cases hother
            exact haccepted
          · intro hall
            exact hall filePath rfl

/-! ## An error response -/

def SessionManagersAgree : Prop :=
  ∀ (backend : LspBackend) (query : BackendQuery) (session : ManagedSession)
    (times : RequestTimes) (repositoryRelPath : String) (replies : ServerReplies),
    session.Ready times.now →
      ManagersAgree backend query.operation session times repositoryRelPath replies

namespace SampleBackend

def backend : LspBackend where
  tree := ⟨[(["repo"], .directory), (["repo", "a.py"], .file)], 40⟩
  root := ["repo"]
  workingDirectory := ["repo"]
  fileText _ := .text "x = 1\n"
  supportedExtensions := [".py"]
  symbolKindByCode := [(12, "function"), (13, "variable")]
  fileUriPath uri :=
    .ok (if PosixText.startsWith uri "file://" then some (PosixText.removePrefix "file://" uri)
      else none)
  casefold text := text
  fnmatchcase name query := name = query

def session : ManagedSession :=
  { ManagedSession.new .basedpyright "/repo" 900 with
    state := .ready
    lastActivityAt := some 0
    client := some 0
    warmProbeCompleted := true
    created := 1 }

def times : RequestTimes := ⟨1, .ok (), 2⟩

theorem session_ready : session.Ready times.now where
  state := rfl
  held := by decide
  probed := rfl
  retry := rfl
  active := by decide +kernel

def refusal : ServerReplies :=
  ⟨.result (.obj []), .errorResponse (.obj [("code", .int (-32603))]), .result .null⟩

def acceptance : ServerReplies :=
  let start : LspValue := .obj [("line", .int 0), ("character", .int 0)]
  let location : LspValue := .obj
    [("uri", .str "file:///repo/a.py"), ("range", .obj [("start", start), ("end", start)])]
  ⟨.result (.obj []), .result location, .result .null⟩

def definition : BackendOperation LspLocation LspBackend.LocationEntry :=
  (BackendQuery.findDefinition 1 1).operation

theorem checkedFile_eq : checkedFile backend definition "a.py" = .ok (some ["repo", "a.py"]) := by
  decide +kernel

theorem accepted_onBoth : AcceptedOnBoth backend definition ["repo", "a.py"] acceptance := by
  refine ⟨[⟨"file:///repo/a.py", ⟨⟨0, 0⟩, ⟨0, 0⟩⟩⟩], ?_, ⟨["repo", "a.py"], ?_, ?_⟩, ?_, ?_⟩
  · rfl
  · decide +kernel
  · exact ⟨"x = 1\n", by decide +kernel⟩
  · intro _
    exact ⟨"x = 1\n", by decide +kernel⟩
  · intro hrefused
    exact absurd ⟨⟨.obj [], rfl⟩, ⟨.null, rfl⟩⟩ hrefused

end SampleBackend

/-- An error response is accepted on no path, a location in the file on both. -/
theorem sessionManagers_agree_onRefusal :
    (ManagersAgree SampleBackend.backend (BackendQuery.findDefinition 1 1).operation
        SampleBackend.session SampleBackend.times "a.py" SampleBackend.refusal ↔
      ∀ filePath, checkedFile SampleBackend.backend (BackendQuery.findDefinition 1 1).operation
          "a.py" = .ok (some filePath) →
        AcceptedOnBoth SampleBackend.backend (BackendQuery.findDefinition 1 1).operation filePath
          SampleBackend.refusal) ∧
      ManagersAgree SampleBackend.backend (BackendQuery.findDefinition 1 1).operation
        SampleBackend.session SampleBackend.times "a.py" SampleBackend.acceptance := by
  constructor
  · exact sessionManagers_agree_iff SampleBackend.backend (.findDefinition 1 1)
      SampleBackend.session SampleBackend.times "a.py" SampleBackend.refusal
      SampleBackend.session_ready
  · apply (sessionManagers_agree_iff SampleBackend.backend (.findDefinition 1 1)
      SampleBackend.session SampleBackend.times "a.py" SampleBackend.acceptance
      SampleBackend.session_ready).mpr
    intro filePath hchecked
    cases hchecked.symm.trans SampleBackend.checkedFile_eq
    exact SampleBackend.accepted_onBoth

/-- Over the coordinator an error response costs the session its client. -/
theorem refusal_degrades_session : ¬ SessionManagersAgree := by
  intro hall
  have hagree := hall SampleBackend.backend (.findDefinition 1 1) SampleBackend.session
    SampleBackend.times "a.py" SampleBackend.refusal SampleBackend.session_ready
  have hdegraded : (askCoordinator SampleBackend.backend
      (BackendQuery.findDefinition 1 1).operation SampleBackend.session SampleBackend.times "a.py"
      SampleBackend.refusal).2.state = .degraded := by decide +kernel
  have hready := hagree.2
  rw [hdegraded] at hready
  cases hready

end SuitCode
