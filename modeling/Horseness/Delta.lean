import Horseness.JsonPaths

/-!
Deltas: a list of pointer operations applied to a copy of a canonical document.
A document is a value here, so the base is never touched; a change in place of the
copy is an edit of the node below the operation's parent path.
-/

namespace Horseness.Delta

open FallibleRuns Records ScriptText JsonValues TreePaths JsonPaths Canonical ScriptEngine

inductive DeltaOperationV1 where
  | test (path expectedValueDigest : JsString)
  | add (path expectedParentDigest : JsString) (value : JsValue)
  | replace (path expectedValueDigest : JsString) (value : JsValue)
  | remove (path expectedValueDigest : JsString)

def DeltaOperationV1.path : DeltaOperationV1 → JsString
  | .test path _ | .add path _ _ | .replace path _ _ | .remove path _ => path

inductive DeltaReasonCode where
  | staleBase
  | testFailed
  | addParentChanged
  | addTargetExists
  | pathMissing
  | valueDigestMismatch
  | arrayIndexRange
  | invalidEnvelope
  | proposalIdMismatch
  | unsupportedSchemaVersion
  | unsupportedCanonicalizer
  | unsupportedHash
  | invalidPointer
  | rootAddForbidden
  | rootRemoveForbidden
  | duplicateWriteTarget
  | overlappingWriteTarget
  | scopeEscape
  | invalidJsonValue
  | evidenceMismatch
  | receiptMismatch
  | finalDocumentUnchanged
  deriving DecidableEq, Repr

inductive DeltaResult where
  | accepted (document : JsValue) (stateHash operationResultDigest : JsString)
  | conflicted (reason : DeltaReasonCode)
  | rejected (reason : DeltaReasonCode)

structure DeltaAuthorityScopeV1 where
  workspaceId : JsString
  runId : JsString
  taskId : JsString
  roots : List JsString

section Pointers

def slash : UInt16 := 47
def tilde : UInt16 := 126

def escapeTilde (unit : UInt16) : JsString := if unit = tilde then [tilde, 48] else [unit]

def escapeSlash (unit : UInt16) : JsString := if unit = slash then [tilde, 49] else [unit]

def encodePointerToken (token : JsString) : JsString :=
  (token.flatMap escapeTilde).flatMap escapeSlash

def splitSlash : JsString → List JsString
  | [] => [[]]
  | unit :: rest =>
      if unit = slash then [] :: splitSlash rest
      else
        match splitSlash rest with
        | [] => [[unit]]
        | part :: parts => (unit :: part) :: parts

/-- The pattern `~(?:[^01]|$)` occurs. -/
def badEscape : JsString → Bool
  | [] => false
  | unit :: rest =>
      (unit == tilde && !(rest.head? == some 48 || rest.head? == some 49)) || badEscape rest

def replacePair (first second replacement : UInt16) : JsString → JsString
  | [] => []
  | [unit] => [unit]
  | unit :: next :: rest =>
      if unit = first ∧ next = second then
        replacement :: replacePair first second replacement rest
      else unit :: replacePair first second replacement (next :: rest)

def decodePointerToken (token : JsString) : JsString :=
  replacePair tilde 48 tilde (replacePair tilde 49 slash token)

def validatePointer (path : JsString) : Except DomainError (List JsString) := do
  ensure (assertJson (.str path) = .ok ()) .invalidPointer
  if path = [] then return []
  ensure (path.head? = some slash) .invalidPointer
  let tokens ← (splitSlash path.tail).mapM (fun token => do
    ensure (badEscape token = false) .invalidPointer
    return decodePointerToken token)
  ensure (slash :: join [slash] (tokens.map encodePointerToken) = path) .invalidPointer
  return tokens

def canonicalScope (scope : DeltaAuthorityScopeV1) : Except DomainError DeltaAuthorityScopeV1 := do
  forM scope.roots (fun root => do
    let _ ← validatePointer root
    return ())
  return { scope with roots := scope.roots.eraseDups.insertionSort (fun left right => left ≤ right) }

def scopeContains (scope : DeltaAuthorityScopeV1) (path : JsString) : Except DomainError Bool := do
  let pathTokens ← validatePointer path
  scope.roots.anyM (fun root => do
    let rootTokens ← validatePointer root
    return rootTokens.isPrefixOf pathTokens)

end Pointers

section Places

def parentAndKey (document : JsValue) (tokens : List JsString) : Option (JsValue × JsString) :=
  (nodeAt values tokens.dropLast document).bind fun current =>
    match current, tokens.getLast? with
    | .arr items, some key => some (.arr items, key)
    | .obj proto fields, some key => some (.obj proto fields, key)
    | _, _ => none

def readAt (document : JsValue) (tokens : List JsString) : Option JsValue :=
  if tokens = [] then some document
  else (parentAndKey document tokens).bind (fun location => childOf location.2 location.1)

def editParent (edit : JsString → JsValue → JsValue) (document : JsValue)
    (tokens : List JsString) : JsValue :=
  match tokens.getLast? with
  | some key => editAt values (edit key) tokens.dropLast document
  | none => document

/-- The setter of `Object.prototype.__proto__`: objects and null replace the prototype. -/
def assignProto (value : JsValue) (proto : JsProto) : JsProto :=
  match value with
  | .obj _ _ | .arr _ => .foreign
  | .null => .null
  | _ => proto

/-- `parent[key] = value`. On an object that has no own `__proto__` that name is the
setter of `Object.prototype`, which an object without prototype does not inherit. -/
def assignMember (value : JsValue) (key : JsString) : JsValue → JsValue
  | .obj proto fields =>
      if (findEntry key fields).isSome ∨ key ≠ js "__proto__" ∨ proto = .null then
        .obj proto (writeEntry key value fields)
      else .obj (assignProto value proto) fields
  | parent => putChild key value parent

def removeMember (key : JsString) : JsValue → JsValue
  | .arr items =>
      match arrayIndex key with
      | some index => .arr (items.eraseIdx index)
      | none => .arr items
  | .obj proto fields => .obj proto (fields.filter (fun entry => entry.1 ≠ key))
  | other => other

def insertMember (value : JsValue) (key : JsString) : JsValue → JsValue
  | .arr items =>
      match arrayIndex key with
      | some index => .arr (items.insertIdx index value)
      | none => .arr items
  | parent => assignMember value key parent

end Places

/-- What ends `applyDelta` early: a failure that it returns, or an error that escapes. -/
inductive Stop where
  | failed (reason : DeltaReasonCode)
  | thrown (error : DomainError)

section Outcomes

variable {Result : Type}

def fail (reason : DeltaReasonCode) : Except Stop Result := .error (.failed reason)

def caught (attempt : Except DomainError Result) (reason : DeltaReasonCode) : Except Stop Result :=
  attempt.mapError (fun _ => .failed reason)

def escaping (attempt : Except DomainError Result) : Except Stop Result :=
  attempt.mapError .thrown

def failure (reason : DeltaReasonCode) : DeltaResult :=
  if reason ∈ [DeltaReasonCode.staleBase, .testFailed, .addParentChanged, .addTargetExists,
      .pathMissing, .valueDigestMismatch, .arrayIndexRange] then .conflicted reason
  else .rejected reason

end Outcomes

section Checks

inductive OperationTag where
  | test
  | add
  | replace
  | remove
  deriving DecidableEq

def operationTag (text : JsString) : Option OperationTag :=
  if text = js "test" then some .test
  else if text = js "add" then some .add
  else if text = js "replace" then some .replace
  else if text = js "remove" then some .remove
  else none

def requiredKeys : OperationTag → List JsString
  | .add => [js "expectedParentDigest", js "op", js "path", js "value"]
  | .replace => [js "expectedValueDigest", js "op", js "path", js "value"]
  | .test | .remove => [js "expectedValueDigest", js "op", js "path"]

def digestKey : OperationTag → JsString
  | .add => js "expectedParentDigest"
  | _ => js "expectedValueDigest"

def textField (key : JsString) (fields : List (JsString × JsValue)) : Option JsString :=
  match findEntry key fields with
  | some (.str text) => some text
  | _ => none

/-- The tag, the digest and the fields of an operation. Key lists are compared as
texts joined by NUL. -/
def operationEnvelope (operation : JsValue) :
    Except Stop (OperationTag × JsString × List (JsString × JsValue)) :=
  match operation with
  | .obj _ fields => do
      let tag ← required ((textField (js "op") fields).bind operationTag) (.failed .invalidEnvelope)
      ensure (join [0] ((sortFields fields).map Prod.fst) = join [0] (requiredKeys tag))
        (.failed .invalidEnvelope)
      let digest ← required (textField (digestKey tag) fields) (.failed .invalidEnvelope)
      return (tag, digest, fields)
  | _ => fail .invalidEnvelope

def operationValue (fields : List (JsString × JsValue)) : Except Stop JsValue := do
  let value ← required (findEntry (js "value") fields) (.failed .invalidJsonValue)
  caught (assertJson value) .invalidJsonValue
  return value

def checkOperation (scope : DeltaAuthorityScopeV1) (operation : JsValue) :
    Except Stop DeltaOperationV1 := do
  let (tag, digest, fields) ← operationEnvelope operation
  let path ← required (textField (js "path") fields) (.failed .invalidPointer)
  let _ ← caught (validatePointer path) .invalidPointer
  let inside ← escaping (scopeContains scope path)
  ensure (inside = true) (.failed .scopeEscape)
  match tag with
  | .test => return .test path digest
  | .remove => return .remove path digest
  | .add => do
      let value ← operationValue fields
      return .add path digest value
  | .replace => do
      let value ← operationValue fields
      return .replace path digest value

def writeTarget : DeltaOperationV1 → Option JsString
  | .test _ _ => none
  | operation => some operation.path

def overlapping (left right : JsString) : Bool :=
  (left ≠ [] && (left ++ [slash]).isPrefixOf right) ||
    (right ≠ [] && (right ++ [slash]).isPrefixOf left) || left = [] || right = []

def checkBase (base : JsValue) (scope : DeltaAuthorityScopeV1) : Except DomainError Unit := do
  assertJson base
  let _ ← canonicalScope scope
  return ()

def baseReason (error : DomainError) : DeltaReasonCode :=
  if error = .invalidPointer then .invalidPointer else .invalidEnvelope

def checkDelta (base : JsValue) (operations : List JsValue) (scope : DeltaAuthorityScopeV1) :
    Except Stop (List DeltaOperationV1) := do
  (checkBase base scope).mapError (fun error => .failed (baseReason error))
  let checked ← operations.mapM (checkOperation scope)
  let writes := checked.filterMap writeTarget
  ensure writes.Nodup (.failed .duplicateWriteTarget)
  ensure (writes.Pairwise (fun left right => overlapping left right = false))
    (.failed .overlappingWriteTarget)
  return checked

end Checks

section Application

variable [Engine]

def guardDigest (value : JsValue) (expected : JsString) (reason : DeltaReasonCode) :
    Except Stop Unit := do
  let digest ← escaping (jsonValueDigest value)
  ensure (digest = expected) (.failed reason)

def checkPlace (key : JsString) : JsValue → Except Stop Unit
  | .arr items => do
      let index ← required (arrayIndex key) (.failed .arrayIndexRange)
      ensure (index ≤ items.length) (.failed .arrayIndexRange)
  | parent => ensure (childOf key parent = none) (.failed .addTargetExists)

def applyAt (tokens : List JsString) (document : JsValue) :
    DeltaOperationV1 → Except Stop JsValue
  | .test _ expected => do
      let current ← required (readAt document tokens) (.failed .testFailed)
      guardDigest current expected .testFailed
      return document
  | .replace _ expected value => do
      let current ← required (readAt document tokens) (.failed .pathMissing)
      guardDigest current expected .valueDigestMismatch
      let copy ← escaping (deepClone value)
      if tokens = [] then return copy
      return editParent (assignMember copy) document tokens
  | .remove _ expected => do
      ensure (tokens ≠ []) (.failed .rootRemoveForbidden)
      let current ← required (readAt document tokens) (.failed .pathMissing)
      guardDigest current expected .valueDigestMismatch
      return editParent removeMember document tokens
  | .add _ expected value => do
      ensure (tokens ≠ []) (.failed .rootAddForbidden)
      let location ← required (parentAndKey document tokens) (.failed .pathMissing)
      guardDigest location.1 expected .addParentChanged
      checkPlace location.2 location.1
      let copy ← escaping (deepClone value)
      return editParent (insertMember copy) document tokens

def applyOperation (document : JsValue) (operation : DeltaOperationV1) : Except Stop JsValue := do
  let tokens ← caught (validatePointer operation.path) .invalidPointer
  applyAt tokens document operation

def acceptDocument (base : JsValue) (operations : List JsValue) (document : JsValue) :
    Except Stop DeltaResult := do
  let after ← escaping (jsonValueDigest document)
  let before ← escaping (jsonValueDigest base)
  ensure (after ≠ before) (.failed .finalDocumentUnchanged)
  let stateHash ← escaping (domainDigest (js "horseness.canonical-document.v1") document)
  let operationResultDigest ← escaping (domainDigest (js "horseness.delta-operation-result.v1")
    (object [("operations", .arr operations), ("document", document)]))
  return .accepted document stateHash operationResultDigest

def runDelta (base : JsValue) (operations : List JsValue) (scope : DeltaAuthorityScopeV1) :
    Except Stop DeltaResult := do
  let checked ← checkDelta base operations scope
  let copy ← escaping (deepClone base)
  let document ← checked.foldlM applyOperation copy
  acceptDocument base operations document

def applyDelta (base : JsValue) (operations : List JsValue) (scope : DeltaAuthorityScopeV1) :
    Except DomainError DeltaResult :=
  match runDelta base operations scope with
  | .ok result => .ok result
  | .error (.failed reason) => .ok (failure reason)
  | .error (.thrown error) => .error error

end Application

end Horseness.Delta
