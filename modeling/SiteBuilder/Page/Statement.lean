import SiteBuilder.Page.Expression

/-!
# Template statements

A template is a list of statements: text, printed expressions, and the tags `if`, `for`, `set` and
`with` around further statements. A tag that opens a list of statements has to be closed.
-/

namespace SiteBuilder.Page

/-- A statement of a template. -/
inductive Statement where
  /-- Text that is printed as it is. -/
  | text (s : List Char)
  /-- An expression whose value is printed. -/
  | print (line : Nat) (value : Expr)
  /-- Statements for a condition that holds and for one that does not. -/
  | branch (line : Nat) (condition : Expr) (whenTrue whenFalse : List Statement)
  /-- Statements for every item of a value that satisfies the filter, or else for none. -/
  | loop (line : Nat) (names : List String) (source : Expr) (filter : Option Expr)
      (body whenNone : List Statement)
  /-- Names for the value of an expression, or for its items. -/
  | assign (line : Nat) (names : List String) (value : Expr)
  /-- A name for what statements print. -/
  | capture (name : String) (body : List Statement)
  /-- Statements with names of their own. -/
  | scope (line : Nat) (bindings : List (List String × Expr)) (body : List Statement)
  deriving Inhabited

namespace Statement

/-- Names separated by commas, in brackets or not, and the rest. -/
def readNames : List Lexeme → Option (List String × List Lexeme)
  | ⟨.word first, _⟩ :: ⟨.mark ",", _⟩ :: rest => do
    let (names, rest) ← readNames rest
    return (first :: names, rest)
  | ⟨.word name, _⟩ :: rest => some ([name], rest)
  | _ => none

/-- The names a value is given, which may stand in brackets, and the rest. -/
def readTarget : List Lexeme → Option (List String × List Lexeme)
  | ⟨.mark "(", _⟩ :: rest =>
    match readNames rest with
    | some (names, ⟨.mark ")", _⟩ :: rest) => some (names, rest)
    | _ => none
  | tokens => readNames tokens

/-- The bindings of a scope, separated by commas. -/
def readBindings : Nat → List Lexeme → Option (List (List String × Expr))
  | 0, _ => none
  | _, [] => some []
  | fuel + 1, ⟨.mark ",", _⟩ :: rest => readBindings fuel rest
  | fuel + 1, tokens =>
    match tokens with
    | ⟨.word name, _⟩ :: ⟨.mark "=", _⟩ :: rest => do
      let (value, rest) ← Expr.read rest
      return ([name], value) :: (← readBindings fuel rest)
    | _ => none

/-- What a loop goes through: an expression without a choice, and perhaps a filter after it. -/
def readSource (tokens : List Lexeme) : Option (Expr × Option Expr) := do
  let (source, rest) ← Expr.readLevel (Expr.enough tokens) .disjunction tokens
  match rest with
  | [] => some (source, none)
  | [⟨.word "recursive", _⟩] => some (source, none)
  | ⟨.word "if", _⟩ :: rest => some (source, some (← Expr.readAll rest))
  | _ => none

/-- A list of statements, the tag it ends at, and the parts after that. -/
structure Block where
  statements : List Statement
  closing : List Lexeme
  rest : List Part

/-- Put a statement in front of a block. -/
def Block.with (statement : Statement) (block : Block) : Block :=
  { block with statements := statement :: block.statements }

mutual

/-- Read statements up to a tag whose first word is one of `closings`, or up to the end if the empty
word is one of them. -/
def readBlock : Nat → List String → List Part → Option Block
  | 0, _, _ => none
  | _ + 1, closings, [] => if closings.contains "" then some ⟨[], [], []⟩ else none
  | fuel + 1, closings, .text s :: parts => do return (← readBlock fuel closings parts).with (.text s)
  | fuel + 1, closings, .print tokens :: parts => do
    let value ← Expr.readAll tokens
    return (← readBlock fuel closings parts).with (.print (Expr.lineOf tokens) value)
  | fuel + 1, closings, .tag tokens :: parts =>
    match tokens with
    | ⟨.word word, line⟩ :: rest =>
      if closings.contains word then some ⟨[], tokens, parts⟩
      else do
        let (statement, parts) ← readTag fuel word line rest parts
        return (← readBlock fuel closings parts).with statement
    | _ => none

/-- Read the statement that a tag opens, and the parts after it. -/
def readTag : Nat → String → Nat → List Lexeme → List Part → Option (Statement × List Part)
  | 0, _, _, _, _ => none
  | fuel + 1, "if", line, tokens, parts => readBranch fuel line tokens parts
  | fuel + 1, "for", line, tokens, parts => do
    let (names, rest) ← readTarget tokens
    match rest with
    | ⟨.word "in", _⟩ :: rest =>
      let (source, filter) ← readSource rest
      let body ← readBlock fuel ["else", "endfor"] parts
      match body.closing with
      | [⟨.word "endfor", _⟩] => return (.loop line names source filter body.statements [], body.rest)
      | [⟨.word "else", _⟩] =>
        let other ← readBlock fuel ["endfor"] body.rest
        if other.closing.length = 1 then
          return (.loop line names source filter body.statements other.statements, other.rest)
        else none
      | _ => none
    | _ => none
  | fuel + 1, "set", line, tokens, parts => do
    let (names, rest) ← readTarget tokens
    match names, rest with
    | [name], [] =>
      let body ← readBlock fuel ["endset"] parts
      return (.capture name body.statements, body.rest)
    | names, ⟨.mark "=", _⟩ :: rest => return (.assign line names (← Expr.readAll rest), parts)
    | _, _ => none
  | fuel + 1, "with", line, tokens, parts => do
    let bindings ← readBindings (tokens.length + 1) tokens
    let body ← readBlock fuel ["endwith"] parts
    return (.scope line bindings body.statements, body.rest)
  | _, _, _, _, _ => none

/-- Read a condition, what is for it, and the conditions and statements for when it does not hold. -/
def readBranch : Nat → Nat → List Lexeme → List Part → Option (Statement × List Part)
  | 0, _, _, _ => none
  | fuel + 1, line, tokens, parts => do
    let condition ← Expr.readAll tokens
    let body ← readBlock fuel ["elif", "else", "endif"] parts
    match body.closing with
    | [⟨.word "endif", _⟩] => return (.branch line condition body.statements [], body.rest)
    | [⟨.word "else", _⟩] =>
      let other ← readBlock fuel ["endif"] body.rest
      if other.closing.length = 1 then
        return (.branch line condition body.statements other.statements, other.rest)
      else none
    | ⟨.word "elif", line'⟩ :: tokens =>
      let (other, rest) ← readBranch fuel line' tokens body.rest
      return (.branch line condition body.statements [other], rest)
    | _ => none

end

/-- The statements of a template. -/
def read (template : String) : Except FaultKind (List Statement) := do
  let parts ← Part.read template
  match readBlock (3 * parts.length + 3) [""] parts with
  | some block => .ok block.statements
  | none => .error .malformed

end Statement

end SiteBuilder.Page
