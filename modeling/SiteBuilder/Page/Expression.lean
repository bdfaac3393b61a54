import SiteBuilder.Page.Token
import SiteBuilder.Page.Value

/-!
# Template expressions

The expressions of page templates, from loosest to tightest: choices `a if c else b`; `or`; `and`;
`not`; comparisons; sums; joined texts; products; powers; negation; then attributes, items, filters
and tests of a single value. Operators of one level group from the left.
-/

namespace SiteBuilder.Page

/-- Operators on two values. -/
inductive BinaryOp where
  | add
  | subtract
  | multiply
  | divide
  | floorDivide
  | remainder
  | power
  | join
  | equal
  | unequal
  | less
  | lessEqual
  | greater
  | greaterEqual
  | contained
  | notContained
  deriving DecidableEq

/-- An expression. Those that may fault carry their line. -/
inductive Expr where
  | literal (value : Value)
  | variable (name : String)
  | entry (line : Nat) (base : Expr) (name : String)
  | item (line : Nat) (base index : Expr)
  | filter (line : Nat) (base : Expr) (name : String) (arguments : List Expr)
  | test (line : Nat) (base : Expr) (name : String) (arguments : List Expr) (negated : Bool)
  | call (line : Nat) (name : String) (arguments : List Expr)
  | method (line : Nat) (base : Expr) (name : String) (arguments : List Expr)
  | negate (line : Nat) (operand : Expr)
  | not (line : Nat) (operand : Expr)
  | both (line : Nat) (left right : Expr)
  | either (line : Nat) (left right : Expr)
  | choose (line : Nat) (condition whenTrue whenFalse : Expr)
  | binary (line : Nat) (op : BinaryOp) (left right : Expr)
  | list (items : List Expr)
  | record (line : Nat) (entries : List (Expr × Expr))
  deriving Inhabited

namespace Expr

/-- The levels of operators on two values. -/
inductive Level where
  | disjunction
  | conjunction
  | negation
  | comparison
  | sum
  | joined
  | product
  | power
  | single
  deriving DecidableEq

/-- The next tighter level. -/
def Level.tighter : Level → Level
  | .disjunction => .conjunction
  | .conjunction => .negation
  | .negation => .comparison
  | .comparison => .sum
  | .sum => .joined
  | .joined => .product
  | .product => .power
  | .power => .single
  | .single => .single

/-- What an operator on a line makes of two operands. -/
abbrev Combine := Nat → Expr → Expr → Expr

/-- The operator of a level at the start of tokens and the rest. -/
def operator? (level : Level) (tokens : List Lexeme) : Option (Combine × List Lexeme) :=
  let binary (op : BinaryOp) (rest : List Lexeme) : Option (Combine × List Lexeme) :=
    some (fun line a b => .binary line op a b, rest)
  match level, tokens with
  | .disjunction, ⟨.word "or", _⟩ :: rest => some (.either, rest)
  | .conjunction, ⟨.word "and", _⟩ :: rest => some (.both, rest)
  | .comparison, ⟨.word "in", _⟩ :: rest => binary .contained rest
  | .comparison, ⟨.word "not", _⟩ :: ⟨.word "in", _⟩ :: rest => binary .notContained rest
  | .comparison, ⟨.mark "==", _⟩ :: rest => binary .equal rest
  | .comparison, ⟨.mark "!=", _⟩ :: rest => binary .unequal rest
  | .comparison, ⟨.mark "<", _⟩ :: rest => binary .less rest
  | .comparison, ⟨.mark "<=", _⟩ :: rest => binary .lessEqual rest
  | .comparison, ⟨.mark ">", _⟩ :: rest => binary .greater rest
  | .comparison, ⟨.mark ">=", _⟩ :: rest => binary .greaterEqual rest
  | .sum, ⟨.mark "+", _⟩ :: rest => binary .add rest
  | .sum, ⟨.mark "-", _⟩ :: rest => binary .subtract rest
  | .joined, ⟨.mark "~", _⟩ :: rest => binary .join rest
  | .product, ⟨.mark "*", _⟩ :: rest => binary .multiply rest
  | .product, ⟨.mark "/", _⟩ :: rest => binary .divide rest
  | .product, ⟨.mark "//", _⟩ :: rest => binary .floorDivide rest
  | .product, ⟨.mark "%", _⟩ :: rest => binary .remainder rest
  | .power, ⟨.mark "**", _⟩ :: rest => binary .power rest
  | _, _ => none

/-- The value that a word stands for by itself. -/
def constant? : String → Option Value
  | "true" => some (.bool true)
  | "True" => some (.bool true)
  | "false" => some (.bool false)
  | "False" => some (.bool false)
  | "none" => some .none
  | "None" => some .none
  | _ => none

/-- The line of the first token. -/
def lineOf : List Lexeme → Nat
  | [] => 1
  | lexeme :: _ => lexeme.line

mutual

/-- Read a choice, the loosest expression. -/
def readChoice : Nat → List Lexeme → Option (Expr × List Lexeme)
  | 0, _ => none
  | fuel + 1, tokens => do
    let (first, rest) ← readLevel fuel .disjunction tokens
    readChoices fuel (lineOf tokens) first rest

/-- Read the conditions after an expression. -/
def readChoices : Nat → Nat → Expr → List Lexeme → Option (Expr × List Lexeme)
  | 0, _, _, _ => none
  | fuel + 1, line, first, ⟨.word "if", _⟩ :: rest => do
    let (condition, rest) ← readLevel fuel .disjunction rest
    match rest with
    | ⟨.word "else", _⟩ :: rest =>
      let (other, rest) ← readChoice fuel rest
      readChoices fuel line (.choose line condition first other) rest
    | rest => readChoices fuel line (.choose line condition first (.literal .undefined)) rest
  | _, _, first, rest => some (first, rest)

/-- Read an expression of a level. -/
def readLevel : Nat → Level → List Lexeme → Option (Expr × List Lexeme)
  | 0, _, _ => none
  | fuel + 1, .single, tokens => readSigned fuel tokens
  | fuel + 1, .negation, ⟨.word "not", line⟩ :: rest => do
    let (operand, rest) ← readLevel fuel .negation rest
    return (.not line operand, rest)
  | fuel + 1, .negation, tokens => readLevel fuel .comparison tokens
  | fuel + 1, level, tokens => do
    let (first, rest) ← readLevel fuel level.tighter tokens
    readOperands fuel level (lineOf tokens) first rest

/-- Read the operators and operands of a level after the first operand. -/
def readOperands : Nat → Level → Nat → Expr → List Lexeme → Option (Expr × List Lexeme)
  | 0, _, _, _, _ => none
  | fuel + 1, level, line, first, tokens =>
    match operator? level tokens with
    | some (combine, rest) => do
      let (second, rest) ← readLevel fuel level.tighter rest
      readOperands fuel level line (combine line first second) rest
    | none => some (first, tokens)

/-- Read a value with a sign and with what is applied to it. -/
def readSigned : Nat → List Lexeme → Option (Expr × List Lexeme)
  | 0, _ => none
  | fuel + 1, tokens => do
    let (value, rest) ← readNegated fuel tokens
    readApplied fuel value rest

/-- Read a value with minus signs before it. -/
def readNegated : Nat → List Lexeme → Option (Expr × List Lexeme)
  | 0, _ => none
  | fuel + 1, ⟨.mark "-", line⟩ :: rest => do
    let (operand, rest) ← readNegated fuel rest
    return (.negate line operand, rest)
  | fuel + 1, tokens => do
    let (value, rest) ← readPrimary fuel tokens
    readPostfix fuel value rest

/-- Read the attributes, items and calls after a value. -/
def readPostfix : Nat → Expr → List Lexeme → Option (Expr × List Lexeme)
  | 0, _, _ => none
  | fuel + 1, base, ⟨.mark ".", line⟩ :: ⟨.word name, _⟩ :: ⟨.mark "(", _⟩ :: rest => do
    let (arguments, rest) ← readArguments fuel ")" rest
    readPostfix fuel (.method line base name arguments) rest
  | fuel + 1, base, ⟨.mark ".", line⟩ :: ⟨.word name, _⟩ :: rest =>
    readPostfix fuel (.entry line base name) rest
  | fuel + 1, base, ⟨.mark ".", line⟩ :: ⟨.int n, _⟩ :: rest =>
    readPostfix fuel (.item line base (.literal (.int n))) rest
  | _ + 1, _, ⟨.mark ".", _⟩ :: _ => none
  | fuel + 1, base, ⟨.mark "[", line⟩ :: rest => do
    let (index, rest) ← readChoice fuel rest
    match rest with
    | ⟨.mark "]", _⟩ :: rest => readPostfix fuel (.item line base index) rest
    | _ => none
  | fuel + 1, .variable name, ⟨.mark "(", line⟩ :: rest => do
    let (arguments, rest) ← readArguments fuel ")" rest
    readPostfix fuel (.call line name arguments) rest
  | _, base, rest => some (base, rest)

/-- Read the filters and tests after a value. -/
def readApplied : Nat → Expr → List Lexeme → Option (Expr × List Lexeme)
  | 0, _, _ => none
  | fuel + 1, base, ⟨.mark "|", _⟩ :: ⟨.word name, line⟩ :: ⟨.mark "(", _⟩ :: rest => do
    let (arguments, rest) ← readArguments fuel ")" rest
    readApplied fuel (.filter line base name arguments) rest
  | fuel + 1, base, ⟨.mark "|", _⟩ :: ⟨.word name, line⟩ :: rest =>
    readApplied fuel (.filter line base name []) rest
  | _ + 1, _, ⟨.mark "|", _⟩ :: _ => none
  | fuel + 1, base, ⟨.word "is", _⟩ :: ⟨.word "not", _⟩ :: rest => readTest fuel base true rest
  | fuel + 1, base, ⟨.word "is", _⟩ :: rest => readTest fuel base false rest
  | _, base, rest => some (base, rest)

/-- Read the name and the arguments of a test. -/
def readTest : Nat → Expr → Bool → List Lexeme → Option (Expr × List Lexeme)
  | 0, _, _, _ => none
  | fuel + 1, base, negated, ⟨.word name, line⟩ :: ⟨.mark "(", _⟩ :: rest => do
    let (arguments, rest) ← readArguments fuel ")" rest
    readApplied fuel (.test line base name arguments negated) rest
  | fuel + 1, base, negated, ⟨.word name, line⟩ :: rest =>
    match rest with
    | ⟨.int n, _⟩ :: rest => readApplied fuel (.test line base name [.literal (.int n)] negated) rest
    | ⟨.float x, _⟩ :: rest => readApplied fuel (.test line base name [.literal (.float x)] negated) rest
    | ⟨.quoted s, _⟩ :: rest => readApplied fuel (.test line base name [.literal (.text s)] negated) rest
    | rest => readApplied fuel (.test line base name [] negated) rest
  | _, _, _, _ => none

/-- Read arguments up to a closing bracket. -/
def readArguments : Nat → String → List Lexeme → Option (List Expr × List Lexeme)
  | 0, _, _ => none
  | fuel + 1, closing, ⟨token, line⟩ :: rest =>
    if token = .mark closing then some ([], rest)
    else do
      let (argument, rest) ← readChoice fuel (⟨token, line⟩ :: rest)
      match rest with
      | ⟨.mark ",", _⟩ :: rest =>
        let (arguments, rest) ← readArguments fuel closing rest
        return (argument :: arguments, rest)
      | ⟨token, _⟩ :: rest => if token = .mark closing then some ([argument], rest) else none
      | [] => none
  | _, _, [] => none

/-- Read the entries of a record up to its closing brace. -/
def readEntries : Nat → List Lexeme → Option (List (Expr × Expr) × List Lexeme)
  | 0, _ => none
  | _ + 1, ⟨.mark "\x7d", _⟩ :: rest => some ([], rest)
  | fuel + 1, tokens => do
    let (key, rest) ← readChoice fuel tokens
    match rest with
    | ⟨.mark ":", _⟩ :: rest =>
      let (value, rest) ← readChoice fuel rest
      match rest with
      | ⟨.mark ",", _⟩ :: rest =>
        let (entries, rest) ← readEntries fuel rest
        return ((key, value) :: entries, rest)
      | ⟨.mark "\x7d", _⟩ :: rest => some ([(key, value)], rest)
      | _ => none
    | _ => none

/-- Read a name, a constant or something in brackets. -/
def readPrimary : Nat → List Lexeme → Option (Expr × List Lexeme)
  | 0, _ => none
  | _ + 1, ⟨.word name, _⟩ :: rest =>
    match constant? name with
    | some value => some (.literal value, rest)
    | none => some (.variable name, rest)
  | _ + 1, ⟨.quoted s, _⟩ :: rest => some (.literal (.text s), rest)
  | _ + 1, ⟨.int n, _⟩ :: rest => some (.literal (.int n), rest)
  | _ + 1, ⟨.float x, _⟩ :: rest => some (.literal (.float x), rest)
  | fuel + 1, ⟨.mark "[", _⟩ :: rest => do
    let (items, rest) ← readArguments fuel "]" rest
    return (.list items, rest)
  | fuel + 1, ⟨.mark "\x7b", line⟩ :: rest => do
    let (entries, rest) ← readEntries fuel rest
    return (.record line entries, rest)
  | fuel + 1, ⟨.mark "(", _⟩ :: rest => do
    match rest with
    | ⟨.mark ")", _⟩ :: rest => return (.list [], rest)
    | rest =>
      let (first, rest) ← readChoice fuel rest
      match rest with
      | ⟨.mark ")", _⟩ :: rest => return (first, rest)
      | ⟨.mark ",", _⟩ :: rest =>
        let (others, rest) ← readArguments fuel ")" rest
        return (.list (first :: others), rest)
      | _ => none
  | _, _ => none

end

/-- Steps that suffice to read an expression of a number of tokens. -/
def enough (tokens : List Lexeme) : Nat := 24 * (tokens.length + 1)

/-- The expression at the start of tokens and the rest. -/
def read (tokens : List Lexeme) : Option (Expr × List Lexeme) := readChoice (enough tokens) tokens

/-- The expression that tokens make up. -/
def readAll (tokens : List Lexeme) : Option Expr :=
  match read tokens with
  | some (expr, []) => some expr
  | _ => none

end Expr

end SiteBuilder.Page
