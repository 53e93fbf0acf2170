import InputActions.Yaml.Basic

/-!
# Reading YAML

Block mappings and sequences nest by indentation: a line belongs to the innermost open collection
that is indented as far as the line, and a line that is indented further opens the value of the key
before it. Inside brackets and braces line breaks are blanks and indentation means nothing. A `#`
after a blank begins a comment. A plain scalar may begin with none of the characters that have a
meaning of their own, and no colon before a blank may stand inside it.

Anchors, tags, block scalars and collections as keys are not read. A text without any node is the
empty mapping.
-/

namespace InputActions.Yaml

namespace Reader

abbrev Chars := List Char

def isGap (c : Char) : Bool := c == ' ' || c == '\t'

def isBreak (c : Char) : Bool := c == '\n' || c == '\r'

/-- The rest of a line after its break. -/
def skipLine : Chars → Chars
  | [] => []
  | c :: text => if c == '\n' then text else skipLine text

/-- The rest of the text after a line whose remainder holds nothing but blanks and a comment. -/
def endLine? (text : Chars) : Option Chars :=
  match text.dropWhile isGap with
  | [] => some []
  | '#' :: rest =>
    if (text.head?.any isGap) then some (skipLine rest) else none
  | c :: rest => if isBreak c then some (skipLine (c :: rest)) else none

/-- The text from its first line that is not blank and no comment. -/
def skipVoid : Nat → Chars → Chars
  | 0, text => text
  | fuel + 1, text =>
    match endLine? (' ' :: text) with
    | some [] => []
    | some rest => skipVoid fuel rest
    | none => text

/-- Whether a line begins with three of a character, alone or before a blank. -/
def isMark (c : Char) (text : Chars) : Bool :=
  text.take 3 == [c, c, c] && (text.drop 3).head?.all fun next => isGap next || isBreak next

/-- Whether nothing follows a document but blank lines and comments, and its end mark. -/
def isOver (text : Chars) : Bool :=
  let rest := skipVoid (text.length + 1) text
  rest.isEmpty || (isMark '.' rest && (skipVoid (rest.length + 1) (rest.drop 3)).isEmpty)

/-- Blanks, line breaks and comments between the parts of a bracketed collection. -/
def skipSpace : Bool → Chars → Chars
  | _, [] => []
  | gap, c :: text =>
    if isGap c || isBreak c then skipSpace true text
    else if c == '#' && gap then skipComment text
    else c :: text
where
  skipComment : Chars → Chars
    | [] => []
    | c :: text => if isBreak c then skipSpace true text else skipComment text

/-- The inside of a single-quoted scalar, where a doubled quote stands for one. -/
def singleQuoted? : Chars → Option (Chars × Chars)
  | [] => none
  | '\'' :: '\'' :: text => (singleQuoted? text).map fun (body, rest) => ('\'' :: body, rest)
  | '\'' :: text => some ([], text)
  | '\n' :: text => (singleQuoted? text).map fun (body, rest) => (' ' :: body, rest)
  | c :: text => (singleQuoted? text).map fun (body, rest) => (c :: body, rest)

/-- The character of an escape without digits. -/
def escape? : Char → Option Char
  | '0' => some '\x00'
  | 'a' => some '\x07'
  | 'b' => some '\x08'
  | 't' => some '\t'
  | 'n' => some '\n'
  | 'v' => some '\x0b'
  | 'f' => some '\x0c'
  | 'r' => some '\r'
  | 'e' => some '\x1b'
  | ' ' => some ' '
  | '"' => some '"'
  | '/' => some '/'
  | '\\' => some '\\'
  | _ => none

/-- The character of hexadecimal digits. -/
def hexChar? (digits : Chars) : Option Char := do
  let n ← numeral? 16 digits
  if n.isValidChar then some (Char.ofNat n) else none

/-- The inside of a double-quoted scalar. -/
def doubleQuoted? : Chars → Option (Chars × Chars)
  | [] => none
  | '"' :: text => some ([], text)
  | '\\' :: 'x' :: a :: b :: text => do
    let c ← hexChar? [a, b]
    let (body, rest) ← doubleQuoted? text
    return (c :: body, rest)
  | '\\' :: 'u' :: a :: b :: c :: d :: text => do
    let c ← hexChar? [a, b, c, d]
    let (body, rest) ← doubleQuoted? text
    return (c :: body, rest)
  | '\\' :: e :: text => do
    let c ← escape? e
    let (body, rest) ← doubleQuoted? text
    return (c :: body, rest)
  | '\n' :: text => (doubleQuoted? text).map fun (body, rest) => (' ' :: body, rest)
  | c :: text =>
    if c == '\\' then none
    else (doubleQuoted? text).map fun (body, rest) => (c :: body, rest)

def dropGapsAtEnd (text : Chars) : Chars := (text.reverse.dropWhile isGap).reverse

/-- Whether a plain scalar may begin like this. -/
def beginsPlain (text : Chars) : Bool :=
  match text with
  | [] => false
  | c :: rest =>
    if [',', '[', ']', '\x7b', '\x7d', '#', '&', '*', '!', '|', '>', '\'', '"', '%', '@',
        '\x60'].contains c then false
    else if c == '-' || c == '?' || c == ':' then
      match rest with
      | [] => false
      | next :: _ => !(isGap next || isBreak next)
    else !(isGap c || isBreak c)

/-- The characters of a plain scalar in a block, up to a colon before a blank, a comment, or the
end of the line. -/
def blockPlain : Bool → Chars → Chars × Chars
  | _, [] => ([], [])
  | gap, c :: text =>
    let colonEnds := c == ':' && text.head?.all fun next => isGap next || isBreak next
    if isBreak c || colonEnds || (c == '#' && gap) then ([], c :: text)
    else
      let (body, rest) := blockPlain (isGap c) text
      (c :: body, rest)

def isFlowMark (c : Char) : Bool := [',', '[', ']', '\x7b', '\x7d'].contains c

/-- The characters of a plain scalar inside brackets. -/
def flowPlain : Bool → Chars → Chars × Chars
  | _, [] => ([], [])
  | gap, c :: text =>
    let colonEnds :=
      c == ':' && text.head?.all fun next => isGap next || isBreak next || isFlowMark next
    if isBreak c || isFlowMark c || colonEnds || (c == '#' && gap) then ([], c :: text)
    else
      let (body, rest) := flowPlain (isGap c) text
      (c :: body, rest)

mutual

/-- A node inside brackets, or a bracketed one. -/
def flow? : Nat → Chars → Option (Yaml × Chars)
  | 0, _ => none
  | fuel + 1, text =>
    match skipSpace true text with
    | '[' :: rest => flowItems? fuel [] rest
    | '\x7b' :: rest => flowEntries? fuel [] rest
    | '"' :: rest => (doubleQuoted? rest).map fun (body, rest) => (.scalar true body, rest)
    | '\'' :: rest => (singleQuoted? rest).map fun (body, rest) => (.scalar true body, rest)
    | rest =>
      if beginsPlain rest then
        let (body, rest) := flowPlain false rest
        some (.scalar false (dropGapsAtEnd body), rest)
      else none

/-- The items of a bracketed sequence after the first `done` of them, last first. -/
def flowItems? : Nat → List Yaml → Chars → Option (Yaml × Chars)
  | 0, _, _ => none
  | fuel + 1, done, text =>
    match skipSpace true text with
    | ']' :: rest => some (.sequence done.reverse, rest)
    | rest => do
      let (item, rest) ← flow? fuel rest
      match skipSpace false rest with
      | ',' :: rest => flowItems? fuel (item :: done) rest
      | ']' :: rest => some (.sequence (item :: done).reverse, rest)
      | _ => none

/-- The entries of a braced mapping after the first `done` of them, last first. -/
def flowEntries? : Nat → List (Yaml × Yaml) → Chars → Option (Yaml × Chars)
  | 0, _, _ => none
  | fuel + 1, done, text =>
    match skipSpace true text with
    | '\x7d' :: rest => some (.mapping done.reverse, rest)
    | rest => do
      let (key, rest) ← flow? fuel rest
      let (value, rest) ←
        match skipSpace false rest with
        | ':' :: rest =>
          match skipSpace true rest with
          | ',' :: rest => some (.scalar false [], ',' :: rest)
          | '\x7d' :: rest => some (.scalar false [], '\x7d' :: rest)
          | _ => flow? fuel rest
        | rest => some (.scalar false [], rest)
      match skipSpace false rest with
      | ',' :: rest => flowEntries? fuel ((key, value) :: done) rest
      | '\x7d' :: rest => some (.mapping ((key, value) :: done).reverse, rest)
      | _ => none

end

/-- A block collection whose end has not been seen; its finished children, last first, and the key
whose value may still follow. -/
inductive Open where
  | mapping (indent : Nat) (done : List (Yaml × Yaml)) (key : Option Yaml)
  | sequence (indent : Nat) (done : List Yaml)

def Open.indent : Open → Nat
  | .mapping indent .. => indent
  | .sequence indent _ => indent

/-- The value of a collection that has ended; a key without a value has none. -/
def Open.close : Open → Yaml
  | .mapping _ done none => .mapping done.reverse
  | .mapping _ done (some key) => .mapping ((key, .scalar false []) :: done).reverse
  | .sequence _ done => .sequence done.reverse

/-- Ends the innermost collection and gives it to the key that it is the value of. -/
def closeInner? : List Open → Option (List Open)
  | inner :: .mapping indent done (some key) :: outer =>
    some (.mapping indent ((key, inner.close) :: done) none :: outer)
  | _ => none

/-- Ends the collections that are indented further than a line. -/
def closeBeyond? : Nat → Nat → List Open → Option (List Open)
  | 0, _, _ => none
  | fuel + 1, indent, frames =>
    match frames with
    | frame :: _ :: _ =>
      if indent < frame.indent then (closeInner? frames).bind (closeBeyond? fuel indent)
      else some frames
    | _ => some frames

/-- The node that all open collections make. -/
def closeAll? : Nat → List Open → Option Yaml
  | 0, _ => none
  | fuel + 1, frames =>
    match frames with
    | [] => some (.mapping [])
    | [frame] => some frame.close
    | _ => (closeInner? frames).bind (closeAll? fuel)

/-- A scalar or bracketed node that fills the rest of its line, and the text after the line. -/
def inline? (text : Chars) : Option (Yaml × Chars) :=
  match text with
  | [] => none
  | c :: _ =>
    if c == '[' || c == '\x7b' || c == '"' || c == '\'' then do
      let (node, rest) ← flow? (text.length + 1) text
      return (node, ← endLine? rest)
    else if beginsPlain text then do
      let (body, rest) := blockPlain false text
      let rest ← endLine? (' ' :: rest)
      return (.scalar false (dropGapsAtEnd body), rest)
    else none

/-- A key and the text after its colon. -/
def key? (text : Chars) : Option (Yaml × Chars) := do
  let (key, rest) ←
    match text with
    | '"' :: rest => (doubleQuoted? rest).map fun (body, rest) => (Yaml.scalar true body, rest)
    | '\'' :: rest => (singleQuoted? rest).map fun (body, rest) => (Yaml.scalar true body, rest)
    | _ =>
      if beginsPlain text then
        let (body, rest) := blockPlain false text
        some (.scalar false (dropGapsAtEnd body), rest)
      else none
  match rest.dropWhile isGap with
  | ':' :: rest =>
    if rest.head?.all fun next => isGap next || isBreak next then some (key, rest) else none
  | _ => none

/-- Adds a key to the mapping it is indented like, or opens one for it. -/
def addKey? (indent : Nat) (key : Yaml) (frames : List Open) : Option (List Open) :=
  match frames with
  | [] => some [.mapping indent [] (some key)]
  | .mapping at' done pending :: outer =>
    if at' = indent then
      match pending with
      | some old => some (.mapping at' ((old, .scalar false []) :: done) (some key) :: outer)
      | none => some (.mapping at' done (some key) :: outer)
    else if at' < indent ∧ pending.isSome then
      some (.mapping indent [] (some key) :: .mapping at' done pending :: outer)
    else none
  | .sequence .. :: _ => none

/-- Gives the key that waits for one its value. -/
def setValue? (value : Yaml) : List Open → Option (List Open)
  | .mapping indent done (some key) :: outer =>
    some (.mapping indent ((key, value) :: done) none :: outer)
  | _ => none

/-- Adds an item to the sequence it is indented like, or opens one for it. -/
def addItem? (indent : Nat) (item : Yaml) (frames : List Open) : Option (List Open) :=
  match frames with
  | [] => some [.sequence indent [item]]
  | .sequence at' done :: outer =>
    if at' = indent then some (.sequence at' (item :: done) :: outer) else none
  | .mapping at' done pending :: outer =>
    if at' ≤ indent ∧ pending.isSome then
      some (.sequence indent [item] :: .mapping at' done pending :: outer)
    else none

/-- A sequence may be indented like the key that it is the value of, and ends before the next. -/
def closeItems? (indent : Nat) (frames : List Open) : Option (List Open) :=
  match frames with
  | .sequence at' _ :: _ :: _ => if at' = indent then closeInner? frames else some frames
  | _ => some frames

/-- Takes a line without a key: the value of a key that waits for one, or more of the plain scalar
that was the last value. -/
def continue? (indent : Nat) (more : Yaml) (frames : List Open) : Option (List Open) :=
  match frames, more with
  | .mapping at' done (some key) :: outer, value =>
    if at' < indent then some (.mapping at' ((key, value) :: done) none :: outer) else none
  | .mapping at' ((key, .scalar false text) :: done) none :: outer, .scalar false line =>
    if at' < indent then
      some (.mapping at' ((key, .scalar false (text ++ ' ' :: line)) :: done) none :: outer)
    else none
  | _, _ => none

/-- Reads the lines of a document into the open collections. -/
def lines? : Nat → List Open → Chars → Option Yaml
  | 0, _, _ => none
  | fuel + 1, frames, text =>
    let indent := (text.takeWhile (· == ' ')).length
    let content := text.dropWhile (· == ' ')
    match content.dropWhile isGap with
    | [] => closeAll? (text.length + frames.length + 1) frames
    | c :: _ =>
      if isBreak c || c == '#' then lines? fuel frames (skipLine content)
      else if content.head?.any (· == '\t') then none
      else if indent = 0 && (isMark '-' content || isMark '.' content) then
        if isOver content then closeAll? (text.length + frames.length + 1) frames else none
      else do
        let frames ← closeBeyond? (frames.length + 1) indent frames
        match content with
        | '-' :: gap :: item =>
          if isGap gap then do
            let (value, rest) ← inline? (item.dropWhile isGap)
            lines? fuel (← addItem? indent value frames) rest
          else entry? fuel indent frames content
        | _ => entry? fuel indent frames content
where
  /-- A line with a key, or one with a value alone. -/
  entry? (fuel : Nat) (indent : Nat) (frames : List Open) (content : Chars) : Option Yaml :=
    match key? content with
    | some (key, rest) => do
      let frames ← addKey? indent key (← closeItems? indent frames)
      match endLine? (' ' :: rest) with
      | some rest => lines? fuel frames rest
      | none => do
        let (value, rest) ← inline? (rest.dropWhile isGap)
        lines? fuel (← setValue? value frames) rest
    | none => do
      let (value, rest) ← inline? content
      lines? fuel (← continue? indent value frames) rest

/-- A document without its marks; a bracketed node may be all of it. -/
def body? (text : Chars) : Option Yaml :=
  match skipSpace true text with
  | '[' :: _ | '\x7b' :: _ => do
    let (node, rest) ← flow? (text.length + 1) text
    if isOver rest then some node else none
  | _ => lines? (text.length + 1) [] text

/-- A document. The mark at its beginning is optional, and on the line of the mark only a bracketed
node may follow it. -/
def document? (text : Chars) : Option Yaml :=
  let text := if text.head? == some '\ufeff' then text.drop 1 else text
  let start := skipVoid (text.length + 1) text
  if isMark '-' start then
    let text := start.drop 3
    match text.dropWhile isGap with
    | '[' :: _ | '\x7b' :: _ => body? text
    | _ => (endLine? text).bind body?
  else body? text

end Reader

/-- The value of a document, if the text is one that is read here. -/
def read? (text : String) : Option Yaml := Reader.document? text.toList

end InputActions.Yaml
