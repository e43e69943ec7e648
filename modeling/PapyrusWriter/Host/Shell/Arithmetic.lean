import PapyrusWriter.Host.Shell.Script
/-!
# Arithmetic expressions

Expressions over integers of 64 bits, which wrap around. Variables hold texts that are read as
numbers, and can be set.
-/

namespace PapyrusWriter.Shell.Arithmetic

set_option autoImplicit false

/-- Why an expression has no value. -/
inductive Fault where
  | missingOperand
  | trailingText
  | missingColon
  | missingParenthesis
  | divisionByZero
  | illegalNumber (text : String)
deriving DecidableEq

namespace Fault

/-- What is said of the text of an expression. -/
def message (text : List Char) : Fault → String
  | .illegalNumber number => "Illegal number: " ++ number
  | fault =>
      let problem :=
        match fault with
        | .missingOperand => "expecting primary"
        | .missingColon => "expecting ':'"
        | .missingParenthesis => "expecting ')'"
        | .divisionByZero => "division by zero"
        | _ => "expecting EOF"
      "arithmetic expression: " ++ problem ++ ": \"" ++ String.ofList text ++ "\""

end Fault

/-! ## Numbers -/

def greatest : Int := 0x7FFFFFFFFFFFFFFF

/-- The number of 64 bits that an integer wraps around to. -/
def wrap (n : Int) : Int := Int.bmod n 0x10000000000000000

def digitValue (c : Char) : Nat :=
  if c.isDigit then c.toNat - 48
  else if 'a' ≤ c && c ≤ 'z' then c.toNat - 87
  else if 'A' ≤ c && c ≤ 'Z' then c.toNat - 55
  else 99

/-- The number at the start of a text, with the base that its first characters tell, and the rest.
Numbers stop at the greatest one. -/
def number (text : List Char) : Int × List Char :=
  let (base, digits) :=
    match text with
    | '0' :: x :: c :: rest =>
        if (x = 'x' || x = 'X') && digitValue c < 16 then (16, c :: rest) else (8, text)
    | '0' :: _ => (8, text)
    | _ => (10, text)
  let taken := digits.takeWhile (digitValue · < base)
  let value := taken.foldl (fun n c => base * n + digitValue c) 0
  (min value greatest, digits.drop taken.length)

def isSpace (c : Char) : Bool := c = ' ' || ('\t' ≤ c && c ≤ '\r')

/-- The number that a text holds; an empty text holds zero. -/
def ofText (text : String) : Except Fault Int :=
  let chars := text.toList.dropWhile isSpace
  let (negative, digits) :=
    match chars with
    | '-' :: rest => (true, rest)
    | '+' :: rest => (false, rest)
    | rest => (false, rest)
  let (value, rest) := number digits
  if chars = [] then .ok 0
  else if digits.head?.any Char.isDigit && rest.all isSpace then .ok (if negative then -value else value)
  else .error (.illegalNumber text)

/-! ## Lexemes -/

inductive Lexeme where
  | number (n : Int)
  | name (text : String)
  | sign (text : String)
deriving DecidableEq

def signs : List String :=
  ["<<=", ">>=", "<=", ">=", "==", "!=", "&&", "||", "<<", ">>", "+=", "-=", "*=", "/=", "%=", "&=",
    "^=", "|=", "+", "-", "*", "/", "%", "<", ">", "=", "!", "~", "&", "^", "|", "?", ":", "(", ")"]

/-- The lexemes of an expression. What is none ends them as a sign of its own. -/
def lexemes : Nat → List Char → List Lexeme
  | 0, _ => []
  | _, [] => []
  | fuel + 1, c :: rest =>
      if isSpace c then lexemes fuel rest
      else if c.isDigit then
        let (value, after) := number (c :: rest)
        .number value :: lexemes fuel after
      else if isNameStart c then
        let name := (c :: rest).takeWhile isNameChar
        .name (String.ofList name) :: lexemes fuel ((c :: rest).drop name.length)
      else
        match signs.find? fun text => text.toList.isPrefixOf (c :: rest) with
        | some text => .sign text :: lexemes fuel ((c :: rest).drop text.length)
        | none => [.sign ""]

/-! ## Expressions -/

inductive Expr where
  | number (n : Int)
  | named (name : String)
  | unary (sign : String) (inner : Expr)
  | binary (sign : String) (left right : Expr)
  | choice (test yes no : Expr)
  /-- Sets a variable, to a value or to the value of a sign between the old and the new one. -/
  | assign (name sign : String) (value : Expr)

/-- The signs between two operands, those that bind least first. -/
def levels : List (List String) :=
  [["||"], ["&&"], ["|"], ["^"], ["&"], ["==", "!="], ["<=", ">=", "<", ">"], ["<<", ">>"], ["+", "-"],
    ["*", "/", "%"]]

def assignSigns : List (String × String) :=
  [("=", ""), ("+=", "+"), ("-=", "-"), ("*=", "*"), ("/=", "/"), ("%=", "%"), ("&=", "&"), ("^=", "^"),
    ("|=", "|"), ("<<=", "<<"), (">>=", ">>")]

abbrev Parse := StateT (List Lexeme) (Except Fault)

/-- Takes a sign out of some, if one is next. -/
def sign? (accepted : List String) : Parse (Option String) := fun rest =>
  match rest with
  | .sign text :: after =>
      if accepted.contains text then .ok (some text, after) else .ok (none, rest)
  | _ => .ok (none, rest)

def expect (text : String) (fault : Fault) : Parse Unit := do
  match ← sign? [text] with
  | some _ => pure ()
  | none => throw fault

mutual

/-- Takes an assignment, or a choice. -/
def assignment : Nat → Parse Expr
  | 0 => throw .missingOperand
  | fuel + 1 => do
      match ← get with
      | .name name :: .sign text :: rest =>
          match assignSigns.lookup text with
          | some inner =>
              set rest
              return .assign name inner (← assignment fuel)
          | none => choice fuel
      | _ => choice fuel

/-- Takes an expression with a question mark, or an operation. -/
def choice : Nat → Parse Expr
  | 0 => throw .missingOperand
  | fuel + 1 => do
      let test ← operation levels fuel
      match ← sign? ["?"] with
      | none => return test
      | some _ =>
          let yes ← assignment fuel
          expect ":" .missingColon
          return .choice test yes (← choice fuel)

/-- Takes an operation with signs of some levels. -/
def operation : List (List String) → Nat → Parse Expr
  | _, 0 => throw .missingOperand
  | [], fuel + 1 => operand fuel
  | signs :: inner, fuel + 1 => do
      let first ← operation inner fuel
      operationRest signs inner fuel first

def operationRest (signs : List String) (inner : List (List String)) : Nat → Expr → Parse Expr
  | 0, first => pure first
  | fuel + 1, first => do
      match ← sign? signs with
      | none => return first
      | some sign => operationRest signs inner fuel (.binary sign first (← operation inner fuel))

/-- Takes an operand. -/
def operand : Nat → Parse Expr
  | 0 => throw .missingOperand
  | fuel + 1 => do
      match ← get with
      | .number n :: rest =>
          set rest
          return .number n
      | .name name :: rest =>
          set rest
          return .named name
      | _ =>
          match ← sign? ["(", "!", "~", "-", "+"] with
          | some "(" =>
              let inner ← assignment fuel
              expect ")" .missingParenthesis
              return inner
          | some sign => return .unary sign (← operand fuel)
          | none => throw .missingOperand

end

/-- The expression that a text is. -/
def parse (text : List Char) : Except Fault Expr := do
  let found := lexemes (text.length + 1) text
  let (expr, rest) ← (assignment (16 * found.length + 32)).run found
  if rest = [] then return expr else throw .trailingText

/-! ## Values -/

/-- The variables that are set, the last one first. -/
abbrev Eval := StateT (List (String × Int)) (Except Fault)

def truth (value : Bool) : Int := if value then 1 else 0

/-- The bits of a number that stand for it. -/
def bits (n : Int) : Nat := (n % 0x10000000000000000).toNat

def operate (sign : String) (a b : Int) : Except Fault Int :=
  let shift := (b % 64).toNat
  match sign with
  | "+" => .ok (wrap (a + b))
  | "-" => .ok (wrap (a - b))
  | "*" => .ok (wrap (a * b))
  | "/" => if b = 0 then .error .divisionByZero else .ok (wrap (a.tdiv b))
  | "%" => if b = 0 then .error .divisionByZero else .ok (wrap (a.tmod b))
  | "<<" => .ok (wrap (a * Nat.pow 2 shift))
  | ">>" => .ok (a.fdiv (Nat.pow 2 shift))
  | "<" => .ok (truth (a < b))
  | ">" => .ok (truth (a > b))
  | "<=" => .ok (truth (a ≤ b))
  | ">=" => .ok (truth (a ≥ b))
  | "==" => .ok (truth (a = b))
  | "!=" => .ok (truth (a ≠ b))
  | "&" => .ok (wrap (Nat.land (bits a) (bits b)))
  | "|" => .ok (wrap (Nat.lor (bits a) (bits b)))
  | "^" => .ok (wrap (Nat.xor (bits a) (bits b)))
  | _ => .ok b

/-- The value of a variable, where `outer` tells the values before the expression. -/
def valueOf (outer : String → Option String) (name : String) : Eval Int := do
  match (← get).lookup name with
  | some value => pure value
  | none => ofText ((outer name).getD "")

def eval (outer : String → Option String) : Expr → Eval Int
  | .number n => pure n
  | .named name => valueOf outer name
  | .unary sign inner => do
      let value ← eval outer inner
      match sign with
      | "!" => return truth (value = 0)
      | "~" => return -value - 1
      | "-" => return wrap (-value)
      | _ => return value
  | .binary "&&" left right => do
      if (← eval outer left) = 0 then return 0 else return truth ((← eval outer right) ≠ 0)
  | .binary "||" left right => do
      if (← eval outer left) ≠ 0 then return 1 else return truth ((← eval outer right) ≠ 0)
  | .binary sign left right => do
      let a ← eval outer left
      operate sign a (← eval outer right)
  | .choice test yes no => do
      if (← eval outer test) ≠ 0 then eval outer yes else eval outer no
  | .assign name sign value => do
      let new ← eval outer value
      let result ← if sign = "" then pure new else do operate sign (← valueOf outer name) new
      modify ((name, result) :: ·)
      return result

/-- The value of the expression that a text is, and the variables that it sets. -/
def value (outer : String → Option String) (text : List Char) :
    Except Fault (Int × List (String × Int)) := do
  (eval outer (← parse text)).run []

end PapyrusWriter.Shell.Arithmetic
