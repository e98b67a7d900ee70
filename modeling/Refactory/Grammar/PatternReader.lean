import Refactory.Grammar.TermReader

/-! # Reading patterns

The patterns of a `match` statement. The tree keeps such a statement as captured text, so a reader
of patterns only decides where they end and whether they are well formed. -/

namespace Refactory.Grammar

/-- Fails if one of the symbols comes next. -/
def refuseAny (texts : List String) : Reader Unit := do
  for text in texts do refuse text

/-- A name that a pattern binds. -/
def captureTarget : Reader Unit := do
  let id ← identifier
  if id == Text.ofString "_" then Reader.fail
  else refuseAny [".", "(", "="]

/-- A name with attributes; tells whether there are any. -/
def dottedTarget : Reader Bool := do
  let _ ← identifier
  return !(← Reader.many (do expect "."; identifier)).isEmpty

/-- A number of either kind. -/
def numberToken (imaginary : Bool) : Reader Unit := do
  match ← advance with
  | .number (.complex ..) => if imaginary then return () else Reader.fail
  | .number _ => if imaginary then Reader.fail else return ()
  | _ => Reader.fail

/-- A number, perhaps with a minus sign. An imaginary part can be added to or taken from a real one; it
has no sign of its own. -/
def numberPattern : Reader Unit := do
  let _ ← accept "-"
  let real : Reader Unit := do
    numberToken false
    if ← accept "+" then numberToken true
    else if ← accept "-" then numberToken true
  real.or (numberToken true)

/-- A literal that a pattern compares with. -/
def literalPattern (r : Readers) : Reader Unit := do
  match ← peek with
  | some (.string ..) =>
    let _ ← strings r
  | some (.symbol s) =>
    if s == "None" || s == "True" || s == "False" then
      let _ ← advance
    else numberPattern
  | some (.number _) => numberPattern
  | _ => Reader.fail

/-- A star with the name it binds. -/
def starPattern : Reader Unit := do
  expect "*"
  if ← nextIsName "_" then
    let _ ← advance
  else captureTarget

/-- A pattern or a starred name; tells which. -/
def sequenceItem (pattern : Reader Unit) : Reader Bool := do
  if ← nextIs "*" then
    starPattern
    return true
  else
    pattern
    return false

/-- A pattern in parentheses, or a sequence of patterns. -/
def groupPattern (pattern : Reader Unit) : Reader Unit := do
  expect "("
  if ← accept ")" then return ()
  else
    let (items, trailing) ← commaSeparated (sequenceItem pattern)
    expect ")"
    if items == [true] && !trailing then Reader.fail else return ()

/-- A key with its pattern, or two stars with the name they bind; tells which. -/
def mappingItem (r : Readers) (pattern : Reader Unit) : Reader Bool := do
  if ← accept "**" then
    captureTarget
    return true
  else
    match ← peek with
    | some (.name _) => if ← dottedTarget then pure () else Reader.fail
    | _ => literalPattern r
    expect ":"
    pattern
    return false

/-- A mapping; only its last item can have two stars. -/
def mappingPattern (r : Readers) (pattern : Reader Unit) : Reader Unit := do
  expect "\x7b"
  if ← accept "\x7d" then return ()
  else
    let (items, _) ← commaSeparated (mappingItem r pattern)
    expect "\x7d"
    if items.dropLast.any id then Reader.fail else return ()

/-- An argument of a class pattern; tells whether it has a keyword. -/
def classItem (pattern : Reader Unit) : Reader Bool := do
  if ← nameThen "=" then
    let _ ← identifier
    expect "="
    pattern
    return true
  else
    pattern
    return false

/-- The arguments of a class pattern, those with keywords last. -/
def classArguments (pattern : Reader Unit) : Reader Unit := do
  expect "("
  if ← accept ")" then return ()
  else
    let (items, _) ← commaSeparated (classItem pattern)
    expect ")"
    if (items.dropWhile (! ·)).all id then return () else Reader.fail

/-- A pattern that begins with a name: a capture, a value or a class. -/
def namePattern (pattern : Reader Unit) : Reader Unit := do
  if ← nextIsName "_" then
    let _ ← advance
  else
    let _ ← dottedTarget
    if ← nextIs "(" then classArguments pattern else refuse "="

/-- A pattern without alternatives. -/
def closedPattern (r : Readers) (pattern : Reader Unit) : Reader Unit := do
  match ← peek with
  | some (.name _) => namePattern pattern
  | some (.symbol s) =>
    if s == "(" then groupPattern pattern
    else if s == "[" then
      expect "["
      if ← accept "]" then return ()
      else
        let _ ← commaSeparated (sequenceItem pattern)
        expect "]"
    else if s == "\x7b" then mappingPattern r pattern
    else literalPattern r
  | _ => literalPattern r

/-- Alternatives, perhaps with a name for what they match; the depth bounds nesting. -/
def pattern (r : Readers) : Nat → Reader Unit
  | 0 => Reader.fail
  | depth + 1 => do
    let closed : Reader Unit := fun c => closedPattern r (pattern r depth) c
    closed
    let _ ← Reader.many (do expect "|"; closed)
    if ← accept "as" then captureTarget

/-- The patterns of a case: one, or several with commas, of which those with a star need one. -/
def patterns (r : Readers) (depth : Nat) : Reader Unit := do
  let (items, trailing) ← commaSeparated (sequenceItem (pattern r depth))
  if items == [true] && !trailing then Reader.fail else return ()

end Refactory.Grammar
