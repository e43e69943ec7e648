import PapyrusWriter.Yaml.TokenStream
/-!
# From tokens to events

Events are what a document says: scalars, aliases, and the starts and ends of collections, each with
its place. A broken document has events up to its fault. Only the first document is looked at;
whether anything comes after it is remembered.
-/

namespace PapyrusWriter.Yaml

set_option autoImplicit false

/-- What is said of a node before its content. -/
structure Properties where
  anchor : Option String := none
  tag : Option TagText := none

inductive Event where
  | alias (name : String)
  | scalar (text : String) (style : Style) (properties : Properties)
  | sequenceStart (properties : Properties)
  | sequenceEnd
  | mappingStart (properties : Properties)
  | mappingEnd

/-- The tokens that are left, the events so far, the last one first, and the handles of tags. -/
structure Parser where
  stream : TokenStream
  events : List (Event × Mark)
  handles : List (String × TagText)

/-- A computation that takes tokens and gives events. -/
abbrev Parse := EStateM Fault Parser

namespace Parse

variable {α : Type}

/-- The next token. Behind the last one there is the end of the text. -/
def peek : Parse Token := fun p =>
  match p.stream.tokens, p.stream.fault with
  | token :: _, _ => .ok token p
  | [], some fault => .error fault p
  | [], none => .ok ⟨.streamEnd, .start, .start⟩ p

/-- Drops the next token. -/
def skip : Parse Unit :=
  modify fun p => { p with stream := { p.stream with tokens := p.stream.tokens.drop 1 } }

/-- Takes the next token. -/
def take : Parse Token := do
  let token ← peek
  skip
  pure token

def fail (problem : Problem) (mark : Mark) (context : Option (Context × Mark)) : Parse α :=
  throw ⟨problem, mark, context⟩

def emit (event : Event) (mark : Mark) : Parse Unit :=
  modify fun p => { p with events := (event, mark) :: p.events }

/-- An empty scalar, where a node is left out. -/
def emptyNode (mark : Mark) : Parse Unit := emit (.scalar "" .plain {}) mark

/-! ## Properties of nodes -/

/-- The handles that every document knows. -/
def standardHandles : List (String × TagText) :=
  [("!", .ofString "!"), ("!!", .ofString "tag:yaml.org,2002:")]

/-- The full form of a tag. -/
def resolveTag (handle : String) (suffix : TagText) (mark start : Mark) : Parse TagText := do
  if handle = "" then pure suffix
  else
    match (← get).handles.lookup handle with
    | some lead => pure (lead ++ suffix)
    | none => fail .undefinedTag mark (some (.node, start))

/-- Takes an anchor and a tag, in either order. Gives them with the place where they start. -/
def properties : Parse (Properties × Mark) := do
  let first ← peek
  match first.kind with
  | .anchor name =>
      skip
      let second ← peek
      match second.kind with
      | .tag handle suffix =>
          skip
          let _ ← peek
          pure (⟨some name, some (← resolveTag handle suffix second.start first.start)⟩, first.start)
      | _ => pure (⟨some name, none⟩, first.start)
  | .tag handle suffix =>
      skip
      let second ← peek
      let anchor ←
        match second.kind with
        | .anchor name => do
            skip
            let _ ← peek
            pure (some name)
        | _ => pure none
      pure (⟨anchor, some (← resolveTag handle suffix first.start first.start)⟩, first.start)
  | _ => pure ({}, first.start)

/-! ## Nodes -/

/-- The kinds of tokens before which an item of a collection is left out. -/
def endsItem (kinds : List TokenKind) (token : Token) : Bool := kinds.contains token.kind

/-- The token that starts the next item of a flow collection, after the comma before it. -/
def flowItem (first : Bool) (close : TokenKind) (problem : Problem) (context : Context × Mark) :
    Parse Token := do
  let token ← peek
  if first || token.kind = close then pure token
  else if token.kind = .flowEntry then
    skip
    peek
  else fail problem token.start (some context)

mutual

/-- Takes a node. In a block, block collections can be nodes; after a key also the items of a
sequence that are not indented. -/
def node (block indentless : Bool) : Nat → Parse Unit
  | 0 => pure ()
  | fuel + 1 => do
      let first ← peek
      match first.kind with
      | .alias name =>
          emit (.alias name) first.start
          skip
      | _ =>
          let (properties, start) ← properties
          let token ← peek
          let context := some (if block then Context.blockNode else .flowNode, start)
          match token.kind, block, indentless with
          | .blockEntry, _, true =>
              emit (.sequenceStart properties) start
              indentlessItems fuel
          | .scalar text style, _, _ =>
              emit (.scalar text style properties) start
              skip
          | .flowSequenceStart, _, _ =>
              emit (.sequenceStart properties) start
              skip
              flowItems true token.start fuel
          | .flowMappingStart, _, _ =>
              emit (.mappingStart properties) start
              skip
              flowPairs true token.start fuel
          | .blockSequenceStart, true, _ =>
              emit (.sequenceStart properties) start
              skip
              blockItems token.start fuel
          | .blockMappingStart, true, _ =>
              emit (.mappingStart properties) start
              skip
              blockPairs token.start fuel
          | _, _, _ =>
              if properties.anchor.isSome || properties.tag.isSome then
                emit (.scalar "" .plain properties) start
              else fail .missingNode token.start context

/-- Takes the items of a block sequence. -/
def blockItems (start : Mark) : Nat → Parse Unit
  | 0 => pure ()
  | fuel + 1 => do
      let token ← take
      match token.kind with
      | .blockEntry =>
          if endsItem [.blockEntry, .blockEnd] (← peek) then emptyNode token.stop
          else node true false fuel
          blockItems start fuel
      | .blockEnd => emit .sequenceEnd token.start
      | _ => fail .missingEntryMark token.start (some (.blockCollection, start))

/-- Takes the items of a sequence that is not indented. -/
def indentlessItems : Nat → Parse Unit
  | 0 => pure ()
  | fuel + 1 => do
      let token ← peek
      match token.kind with
      | .blockEntry =>
          skip
          if endsItem [.blockEntry, .key, .value, .blockEnd] (← peek) then emptyNode token.stop
          else node true false fuel
          indentlessItems fuel
      | _ => emit .sequenceEnd token.start

/-- Takes the pairs of a block mapping. -/
def blockPairs (start : Mark) : Nat → Parse Unit
  | 0 => pure ()
  | fuel + 1 => do
      let token ← take
      match token.kind with
      | .key =>
          if endsItem [.key, .value, .blockEnd] (← peek) then emptyNode token.stop
          else node true true fuel
          let mark ← peek
          match mark.kind with
          | .value =>
              skip
              if endsItem [.key, .value, .blockEnd] (← peek) then emptyNode mark.stop
              else node true true fuel
          | _ => emptyNode mark.start
          blockPairs start fuel
      | .blockEnd => emit .mappingEnd token.start
      | _ => fail .missingKey token.start (some (.blockMapping, start))

/-- Takes the items of a flow sequence. A pair in it is a mapping of its own. -/
def flowItems (first : Bool) (start : Mark) : Nat → Parse Unit
  | 0 => pure ()
  | fuel + 1 => do
      let token ← flowItem first .flowSequenceEnd .unfinishedFlowSequence (.flowSequence, start)
      match token.kind with
      | .flowSequenceEnd =>
          emit .sequenceEnd token.start
          skip
      | .key =>
          emit (.mappingStart {}) token.start
          skip
          let key ← peek
          if endsItem [.value, .flowEntry, .flowSequenceEnd] key then
            skip
            emptyNode key.stop
          else node false false fuel
          flowValue .flowSequenceEnd fuel
          emit .mappingEnd (← peek).start
          flowItems false start fuel
      | _ =>
          node false false fuel
          flowItems false start fuel

/-- Takes the pairs of a flow mapping. -/
def flowPairs (first : Bool) (start : Mark) : Nat → Parse Unit
  | 0 => pure ()
  | fuel + 1 => do
      let token ← flowItem first .flowMappingEnd .unfinishedFlowMapping (.flowMapping, start)
      match token.kind with
      | .flowMappingEnd =>
          emit .mappingEnd token.start
          skip
      | .key =>
          skip
          let key ← peek
          if endsItem [.value, .flowEntry, .flowMappingEnd] key then emptyNode key.start
          else node false false fuel
          flowValue .flowMappingEnd fuel
          flowPairs false start fuel
      | _ =>
          node false false fuel
          emptyNode (← peek).start
          flowPairs false start fuel

/-- Takes the value of a pair in a flow collection. -/
def flowValue (close : TokenKind) : Nat → Parse Unit
  | 0 => pure ()
  | fuel + 1 => do
      let mark ← peek
      match mark.kind with
      | .value =>
          skip
          let token ← peek
          if endsItem [.flowEntry, close] token then emptyNode token.start
          else node false false fuel
      | _ => emptyNode mark.start

end

/-! ## Documents -/

/-- Takes the directives before a document. -/
def directives : Nat → Bool → List (String × TagText) → Parse (List (String × TagText))
  | 0, _, handles => pure handles
  | fuel + 1, versioned, handles => do
      let token ← peek
      match token.kind with
      | .versionDirective major minor =>
          if versioned then fail .duplicateVersion token.start none
          if major ≠ 1 || (minor ≠ 1 && minor ≠ 2) then fail .incompatibleVersion token.start none
          skip
          directives fuel true handles
      | .tagDirective handle lead =>
          if (handles.lookup handle).isSome then fail .duplicateTag token.start none
          skip
          directives fuel versioned (handles ++ [(handle, lead)])
      | _ => pure handles

/-- The kinds of tokens between documents. -/
def betweenDocuments (token : Token) : Bool :=
  match token.kind with
  | .versionDirective _ _ | .tagDirective _ _ | .documentStart | .documentEnd | .streamEnd => true
  | _ => false

/-- Takes a document. A text without one counts as an empty node. -/
def document (fuel : Nat) : Parse Unit := do
  let token ← peek
  match token.kind with
  | .streamEnd => emptyNode token.start
  | .versionDirective _ _ | .tagDirective _ _ | .documentStart =>
      let own ← directives fuel false []
      modify fun p => { p with handles := own ++ standardHandles }
      let mark ← peek
      unless mark.kind = .documentStart do fail .missingDocumentStart mark.start none
      skip
      let next ← peek
      if betweenDocuments next then emptyNode next.start else node true false fuel
  | _ => node true false fuel
  let last ← peek
  if last.kind = .documentEnd then skip

/-- Whether the text goes on after a document. -/
def goesOn (stream : TokenStream) : Bool :=
  match stream.tokens.dropWhile (·.kind = .documentEnd) with
  | [] => stream.fault.isSome
  | token :: _ => token.kind ≠ .streamEnd

end Parse

/-- The first document of a text. -/
structure Document where
  events : List (Event × Mark)
  fault : Option Fault
  /-- Whether something comes after it. -/
  more : Bool

namespace Document

def ofTokens (stream : TokenStream) : Document :=
  match Parse.document (2 * stream.tokens.length + 8) ⟨stream, [], Parse.standardHandles⟩ with
  | .ok _ parser => ⟨parser.events.reverse, none, Parse.goesOn parser.stream⟩
  | .error fault parser => ⟨parser.events.reverse, some fault, false⟩

end Document

end PapyrusWriter.Yaml
