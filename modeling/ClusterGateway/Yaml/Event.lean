import ClusterGateway.Yaml.Token.Scan

/-!
# The structure of a YAML stream

The tokens are read with a stack of what is expected next. A node that is left out where one may
stand is an empty plain scalar.
-/

namespace ClusterGateway.Yaml

structure Properties where
  anchor : Option String
  tag : Option String
  deriving DecidableEq, Repr

inductive Event where
  | documentStart
  | documentEnd
  | alias (name : String)
  | scalar (p : Properties) (text : String) (plain : Bool)
  | sequenceStart (p : Properties)
  | mappingStart (p : Properties)
  | collectionEnd
  deriving DecidableEq, Repr

namespace Event

def Properties.none : Properties := ⟨.none, .none⟩

def empty : Event := .scalar Properties.none "" true

inductive Expect where
  /-- A document, which needs a mark unless it is the first. -/
  | document (first : Bool)
  | documentContent
  | documentEnd
  /-- `block` allows block collections, `bare` also a sequence that is not indented. -/
  | node (block bare : Bool)
  | blockEntry
  | bareEntry
  | blockKey
  | blockValue
  | flowEntry (first : Bool)
  | pairKey
  | pairValue
  | pairEnd
  | flowKey (first : Bool)
  | flowValue
  | noValue
  deriving DecidableEq, Repr

structure Reader where
  tokens : List Token
  expected : List Expect
  events : List Event
  handles : List (String × String)

namespace Reader

def start (tokens : List Token) : Reader :=
  ⟨tokens, [.document true], [], []⟩

def emit (r : Reader) (e : Event) : Reader :=
  { r with events := e :: r.events }

def expect (r : Reader) (xs : List Expect) : Reader :=
  { r with expected := xs ++ r.expected }

def skip (r : Reader) : Reader :=
  { r with tokens := r.tokens.drop 1 }

/-- A node, or an empty scalar before one of the tokens that cannot start a node here. -/
def nodeUnless (r : Reader) (ends : Token → Bool) (block bare : Bool) (next : Expect) : Reader :=
  match r.tokens with
  | [] => r.expect [.node block bare, next]
  | t :: _ => if ends t then (r.emit .empty).expect [next] else r.expect [.node block bare, next]

/-! ## Documents -/

def directives? : Bool → List (String × String) → List Token →
    Option (List (String × String) × List Token)
  | versioned, handles, .directive (.version major minor) :: ts =>
    if versioned ∨ major ≠ 1 ∨ (minor ≠ 1 ∧ minor ≠ 2) then none else directives? true handles ts
  | versioned, handles, .directive (.tag handle text) :: ts =>
    if (handles.lookup handle).isSome then none else directives? versioned ((handle, text) :: handles) ts
  | _, handles, ts => some (handles, ts)

def isBare : Token → Bool
  | .directive _ | .documentStart => false
  | _ => true

def document? (r : Reader) (first : Bool) : Option Reader :=
  let tokens := if first then r.tokens else r.tokens.dropWhile (· == .documentEnd)
  match tokens with
  | [] => some { r with tokens := [] }
  | t :: _ =>
    if first ∧ isBare t then
      some (({ r with handles := [] }.emit .documentStart).expect [.node true false, .documentEnd])
    else do
      let (handles, rest) ← directives? false [] tokens
      match rest with
      | .documentStart :: rest =>
        some (({ r with tokens := rest, handles := handles }.emit .documentStart).expect
          [.documentContent, .documentEnd])
      | _ => none

def documentContent (r : Reader) : Reader :=
  match r.tokens with
  | [] | .directive _ :: _ | .documentStart :: _ | .documentEnd :: _ => r.emit .empty
  | _ => r.expect [.node true false]

def documentEnd (r : Reader) : Reader :=
  let r := match r.tokens with
    | .documentEnd :: _ => r.skip
    | _ => r
  (r.emit .documentEnd).expect [.document false]

/-! ## Nodes -/

def properties : List Token → Option String × Option Tag × List Token
  | .anchor a :: .tag t :: ts => (some a, some t, ts)
  | .anchor a :: ts => (some a, none, ts)
  | .tag t :: .anchor a :: ts => (some a, some t, ts)
  | .tag t :: ts => (none, some t, ts)
  | ts => (none, none, ts)

/-- A scalar with the tag `!` alone has no tag. -/
def scalarProperties (p : Properties) : Properties :=
  if p.tag = some "!" then { p with tag := none } else p

def content? (r : Reader) (block bare : Bool) (p : Properties) : Option Reader :=
  match r.tokens with
  | .blockEntry :: _ =>
    if bare then some ((r.emit (.sequenceStart p)).expect [.bareEntry]) else absent p
  | .scalar text plain :: _ => some (r.skip.emit (.scalar (scalarProperties p) text plain))
  | .flowSequenceStart :: _ => some ((r.skip.emit (.sequenceStart p)).expect [.flowEntry true])
  | .flowMappingStart :: _ => some ((r.skip.emit (.mappingStart p)).expect [.flowKey true])
  | .blockSequenceStart :: _ =>
    if block then some ((r.skip.emit (.sequenceStart p)).expect [.blockEntry]) else absent p
  | .blockMappingStart :: _ =>
    if block then some ((r.skip.emit (.mappingStart p)).expect [.blockKey]) else absent p
  | _ => absent p
where
  absent (p : Properties) : Option Reader :=
    if p.anchor.isSome ∨ p.tag.isSome then some (r.emit (.scalar p "" true)) else none

def node? (r : Reader) (block bare : Bool) : Option Reader :=
  match r.tokens with
  | .alias name :: _ => some (r.skip.emit (.alias name))
  | tokens =>
    let (anchor, tag, rest) := properties tokens
    let r := { r with tokens := rest }
    match tag with
    | none => r.content? block bare ⟨anchor, none⟩
    | some t => (t.resolve? r.handles).bind fun tag => r.content? block bare ⟨anchor, some tag⟩

/-! ## Collections -/

def endsBlockEntry : Token → Bool
  | .blockEntry | .blockEnd => true
  | _ => false

def endsBareEntry : Token → Bool
  | .blockEntry | .key | .value | .blockEnd => true
  | _ => false

def endsBlockPart : Token → Bool
  | .key | .value | .blockEnd => true
  | _ => false

def endsPairKey : Token → Bool
  | .value | .flowEntry | .flowSequenceEnd => true
  | _ => false

def endsPairValue : Token → Bool
  | .flowEntry | .flowSequenceEnd => true
  | _ => false

def endsFlowKey : Token → Bool
  | .value | .flowEntry | .flowMappingEnd => true
  | _ => false

def endsFlowValue : Token → Bool
  | .flowEntry | .flowMappingEnd => true
  | _ => false

def flowEntry? (r : Reader) (first : Bool) : Option Reader :=
  match r.tokens with
  | .flowSequenceEnd :: _ => some (r.skip.emit .collectionEnd)
  | t :: _ =>
    if first then entry r
    else if t = .flowEntry then entry r.skip
    else none
  | [] => none
where
  entry (r : Reader) : Option Reader :=
    match r.tokens with
    | .flowSequenceEnd :: _ => some (r.skip.emit .collectionEnd)
    | .key :: _ => some ((r.skip.emit (.mappingStart Properties.none)).expect [.pairKey])
    | _ => some (r.expect [.node false false, .flowEntry false])

/-- A pair whose key is left out passes over the token that shows it. -/
def pairKey (r : Reader) : Reader :=
  match r.tokens with
  | t :: _ =>
    if endsPairKey t then (r.skip.emit .empty).expect [.pairValue]
    else r.expect [.node false false, .pairValue]
  | [] => r.expect [.node false false, .pairValue]

def flowKey? (r : Reader) (first : Bool) : Option Reader :=
  match r.tokens with
  | .flowMappingEnd :: _ => some (r.skip.emit .collectionEnd)
  | t :: _ =>
    if first then entry r
    else if t = .flowEntry then entry r.skip
    else none
  | [] => none
where
  entry (r : Reader) : Option Reader :=
    match r.tokens with
    | .flowMappingEnd :: _ => some (r.skip.emit .collectionEnd)
    | .key :: _ => some (r.skip.nodeUnless endsFlowKey false false .flowValue)
    | _ => some (r.expect [.node false false, .noValue])

def step? (r : Reader) : Expect → Option Reader
  | .document first => r.document? first
  | .documentContent => some r.documentContent
  | .documentEnd => some r.documentEnd
  | .node block bare => r.node? block bare
  | .blockEntry =>
    match r.tokens with
    | .blockEntry :: _ => some (r.skip.nodeUnless endsBlockEntry true false .blockEntry)
    | .blockEnd :: _ => some (r.skip.emit .collectionEnd)
    | _ => none
  | .bareEntry =>
    match r.tokens with
    | .blockEntry :: _ => some (r.skip.nodeUnless endsBareEntry true false .bareEntry)
    | _ => some (r.emit .collectionEnd)
  | .blockKey =>
    match r.tokens with
    | .key :: _ => some (r.skip.nodeUnless endsBlockPart true true .blockValue)
    | .blockEnd :: _ => some (r.skip.emit .collectionEnd)
    | _ => none
  | .blockValue =>
    match r.tokens with
    | .value :: _ => some (r.skip.nodeUnless endsBlockPart true true .blockKey)
    | _ => some ((r.emit .empty).expect [.blockKey])
  | .flowEntry first => r.flowEntry? first
  | .pairKey => some r.pairKey
  | .pairValue =>
    match r.tokens with
    | .value :: _ => some (r.skip.nodeUnless endsPairValue false false .pairEnd)
    | _ => some ((r.emit .empty).expect [.pairEnd])
  | .pairEnd => some ((r.emit .collectionEnd).expect [.flowEntry false])
  | .flowKey first => r.flowKey? first
  | .flowValue =>
    match r.tokens with
    | .value :: _ => some (r.skip.nodeUnless endsFlowValue false false (.flowKey false))
    | _ => some ((r.emit .empty).expect [.flowKey false])
  | .noValue => some ((r.emit .empty).expect [.flowKey false])

def run? : Nat → Reader → Option (List Event)
  | 0, _ => none
  | fuel + 1, r =>
    match r.expected with
    | [] => if r.tokens.isEmpty then some r.events.reverse else none
    | x :: xs =>
      match { r with expected := xs }.step? x with
      | none => none
      | some r => run? fuel r

end Reader

/-- Every token is passed over within a few steps. -/
def ofTokens? (tokens : List Token) : Option (List Event) :=
  (Reader.start tokens).run? (8 * (tokens.length + 2))

end Event

end ClusterGateway.Yaml
