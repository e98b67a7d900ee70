import Refactory.Grammar.Escape
import Refactory.Grammar.Lexer
import Refactory.Grammar.Term

/-! # The body of a formatted string

A body alternates between literal text, in which doubled braces stand for one, and fields in
braces. A field holds an expression, after that an optional `=` that repeats its text, a conversion
and a format, which is a body itself but can nest only once.

* `formattedParts`: the parts of a body, with the reader of the expressions as a parameter. -/

namespace Refactory.Grammar

/-- A stretch of literal text, whether a doubled brace ended it, and what follows. At the outer
level a single closing brace is an error. -/
def literalText (raw outer : Bool) : Nat → List Placed → Option (List Char × Bool × List Placed)
  | 0, _ => none
  | _ + 1, [] => some ([], false, [])
  | fuel + 1, p :: rest =>
    let keep (taken : List Char) (rest : List Placed) :=
      (literalText raw outer fuel rest).map fun (cs, again, r) => (taken ++ cs, again, r)
    let brace (before : List Char) (c : Char) (at_ : Placed) (rest : List Placed) :=
      if outer then
        match rest with
        | q :: rest' =>
          if q.char = c then some (before ++ [c], true, rest')
          else if c = '}' then none
          else some (before, false, at_ :: rest)
        | [] => if c = '}' then none else some (before, false, at_ :: rest)
      else some (before, false, at_ :: rest)
    if p.char = '\\' ∧ !raw then
      match rest with
      | [] => some (['\\'], false, [])
      | q :: rest' =>
        if q.char = 'N' then
          match rest' with
          | [] => keep ['\\', 'N'] []
          | b :: rest'' =>
            if b.char = '{' then
              let inside := rest''.takeWhile (·.char ≠ '}')
              let after := rest''.drop inside.length
              keep (['\\', 'N', '{'] ++ inside.map (·.char) ++ (after.take 1).map (·.char))
                (after.drop 1)
            else keep ['\\', 'N', b.char] rest''
        else if q.char = '{' ∨ q.char = '}' then brace ['\\'] q.char q rest'
        else keep ['\\', q.char] rest'
    else if p.char = '{' ∨ p.char = '}' then brace [] p.char p rest
    else keep [p.char] rest

/-- The characters of a field's expression and what follows, from the character on that ends it.
`quote` is the quote of the string being read and whether it stands three times, `open_` the brackets
left open. -/
def fieldExtent (quote : Option (Char × Bool)) (open_ : List Char) :
    Nat → List Placed → Option (List Placed × List Placed)
  | 0, _ => none
  | _ + 1, [] => none
  | fuel + 1, p :: rest =>
    let c := p.char
    let keep (quote : Option (Char × Bool)) (open_ : List Char) (n : Nat) :=
      (fieldExtent quote open_ fuel (rest.drop n)).map fun (cs, r) =>
        (p :: rest.take n ++ cs, r)
    if c = '\\' then none
    else
      match quote with
      | some (q, triple) =>
        if c = q then
          if !triple then keep none open_ 0
          else if startsWith [q, q] rest then keep none open_ 2
          else keep quote open_ 0
        else keep quote open_ 0
      | none =>
        if c = '\'' ∨ c = '"' then
          if startsWith [c, c] rest then keep (some (c, true)) open_ 2
          else keep (some (c, false)) open_ 0
        else if c = '[' ∨ c = '{' ∨ c = '(' then
          if open_.length < mostBrackets then keep none (c :: open_) 0 else none
        else if c = '#' then none
        else if open_.isEmpty ∧ (c = '!' ∨ c = ':' ∨ c = '}' ∨ c = '=' ∨ c = '<' ∨ c = '>') then
          if c ≠ ':' ∧ c ≠ '}' ∧ startsWith ['='] rest then keep none open_ 1
          else if c = '<' ∨ c = '>' then keep none open_ 0
          else some ([], p :: rest)
        else
          match opening? c with
          | none => keep none open_ 0
          | some left =>
            if open_.head? = some left then keep none open_.tail 0 else none

/-- White space that can surround an expression in a field. -/
def isFieldSpace (c : Char) : Bool := isSpace c || c = '\n'

/-- An expression as if its field had parentheses in place of braces. -/
def parenthesized (brace : Position) (expr : List Placed) (stop : Position) : Passage :=
  ⟨⟨'(', brace⟩ :: expr ++ [⟨')', stop⟩], stop.after ')'⟩

/-- Text in front of parts; empty text is left out and adjacent texts are one. -/
def Part.consText (t : Text) (parts : List Part) : List Part :=
  if t.isEmpty then parts
  else
    match parts with
    | .text u :: rest => .text (t ++ u) :: rest
    | _ => .text t :: parts

/-- Parts in front of parts, adjacent texts joined. -/
def Part.append (front back : List Part) : List Part :=
  front.foldr (fun p parts => match p with
    | .text t => Part.consText t parts
    | .field .. => p :: parts) back

/-- The text that a stretch of literal text stands for. -/
def literalValue (raw : Bool) (cs : List Char) : Option Text :=
  if raw then some (Text.ofChars cs) else unescape cs

/-- What stands between the expression of a field and its closing brace: the text to be repeated,
the conversion and whether a format follows, and the rest. -/
structure FieldTail where
  repeated : Option (List Char) := none
  conversion : Option Char := none
  rest : List Placed

/-- Reads an optional `=`, with the white space behind it, after an expression. -/
def repeatMark (expr : List Placed) (rest : List Placed) : FieldTail :=
  match rest with
  | p :: rest' =>
    if p.char = '=' then
      let space := rest'.takeWhile fun q => isFieldSpace q.char || q.char = '\x0b'
      { repeated := some ((expr ++ p :: space).map (·.char)), rest := rest'.drop space.length }
    else { rest }
  | [] => { rest }

/-- Reads an optional conversion. -/
def FieldTail.withConversion (t : FieldTail) : Option FieldTail :=
  match t.rest with
  | p :: rest =>
    if p.char = '!' then
      match rest with
      | q :: rest' =>
        if q.char = 's' ∨ q.char = 'r' ∨ q.char = 'a' then
          some { t with conversion := some q.char, rest := rest' }
        else none
      | [] => none
    else some t
  | [] => some t

/-- The expression of a field and what stands behind it. An expression of nothing but white space is an
error. -/
def fieldHead (parse : Passage → Option Term) (brace : Placed) (inside : List Placed) :
    Option (Term × FieldTail) := do
  let (expr, rest) ← fieldExtent none [] (inside.length + 1) inside
  let stop ← rest.head?
  if expr.all (isFieldSpace ·.char) then none
  else
    let value ← parse (parenthesized brace.at_ expr stop.at_)
    return (value, ← (repeatMark expr rest).withConversion)

/-- A field between the text in front of it and the parts behind it. A repeated expression without a
conversion and a format is shown in its source form. -/
def FieldTail.parts (t : FieldTail) (text : Text) (value : Term) (spec : Option (List Part))
    (others : List Part) : List Part :=
  let conversion :=
    if t.repeated.isSome && spec.isNone && t.conversion.isNone then some 'r' else t.conversion
  Part.consText (text ++ Text.ofChars (t.repeated.getD [])) (.field value conversion spec :: others)

/-- Reads an optional format, which `body` reads behind the colon. -/
def fieldFormat (body : List Placed → Option (List Part × List Placed)) (chars : List Placed) :
    Option (Option (List Part) × List Placed) := do
  let next ← chars.head?
  if next.char = ':' then (body (chars.drop 1)).map fun (spec, rest) => (some spec, rest)
  else some (none, chars)

/-- The parts of a body from here on, up to the end or, inside a format, up to the closing brace.
`level` counts the formats around. -/
def partsFrom (parse : Passage → Option Term) (raw : Bool) :
    Nat → Nat → List Placed → Option (List Part × List Placed)
  | 0, _, _ => none
  | fuel + 1, level, chars => do
    let (cs, again, rest) ← literalText raw (level = 0) (chars.length + 1) chars
    let text ← literalValue raw cs
    if again then
      let (parts, rest) ← partsFrom parse raw fuel level rest
      return (Part.consText text parts, rest)
    else
      match rest with
      | [] => return (Part.consText text [], [])
      | brace :: inside =>
        if brace.char = '}' then return (Part.consText text [], rest)
        else if 2 ≤ level then none
        else
          let (value, tail) ← fieldHead parse brace inside
          let (spec, rest) ← fieldFormat (partsFrom parse raw fuel (level + 1)) tail.rest
          match rest with
          | [] => none
          | close :: rest =>
            if close.char = '}' then
              let (parts, rest) ← partsFrom parse raw fuel level rest
              return (tail.parts text value spec parts, rest)
            else none

/-- The parts of the body of a formatted string. -/
def formattedParts (parse : Passage → Option Term) (raw : Bool) (body : List Placed) :
    Option (List Part) := do
  let (parts, rest) ← partsFrom parse raw (body.length + 1) 0 body
  if rest.isEmpty then return parts else none

end Refactory.Grammar
