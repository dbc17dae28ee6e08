import Fanout.Shell.Grammar

/-!
# Arithmetic

Expressions over integers of 64 bits, with the operators of the shell and variables by name; one
that is not set counts as zero.
-/
namespace Fanout.Shell.Arithmetic

/-- Why an expression has no value. -/
inductive Error where
  | malformed
  /-- The expression ends before its text does. -/
  | trailing
  | divisionByZero

def Error.message : Error → Octets → String
  | .malformed, text => "arithmetic expression: expecting primary: \"" ++ text.toText ++ "\""
  | .trailing, text => "arithmetic expression: expecting EOF: \"" ++ text.toText ++ "\""
  | .divisionByZero, text => "arithmetic expression: division by zero: \"" ++ text.toText ++ "\""

/-- Operators of two operands by how tightly they bind, the loosest first. -/
def levels : List (List String) :=
  [["||"], ["&&"], ["|"], ["^"], ["&"], ["==", "!="], ["<=", ">=", "<", ">"], ["<<", ">>"],
    ["+", "-"], ["*", "/", "%"]]

def wrap (n : Int) : Int := Int.bmod n UInt64.size

def truth (b : Bool) : Int := if b then 1 else 0

def apply (op : String) (a b : Int) : Except Error Int :=
  match op with
  | "||" => .ok (truth (a ≠ 0 || b ≠ 0))
  | "&&" => .ok (truth (a ≠ 0 && b ≠ 0))
  | "|" => .ok (Int64.ofInt a ||| Int64.ofInt b).toInt
  | "^" => .ok (Int64.ofInt a ^^^ Int64.ofInt b).toInt
  | "&" => .ok (Int64.ofInt a &&& Int64.ofInt b).toInt
  | "==" => .ok (truth (a == b))
  | "!=" => .ok (truth (a != b))
  | "<=" => .ok (truth (a ≤ b))
  | ">=" => .ok (truth (a ≥ b))
  | "<" => .ok (truth (a < b))
  | ">" => .ok (truth (a > b))
  | "<<" => .ok (Int64.ofInt a <<< Int64.ofInt b).toInt
  | ">>" => .ok (Int64.ofInt a >>> Int64.ofInt b).toInt
  | "+" => .ok (wrap (a + b))
  | "-" => .ok (wrap (a - b))
  | "*" => .ok (wrap (a * b))
  | "/" => if b = 0 then .error .divisionByZero else .ok (wrap (a.tdiv b))
  | "%" => if b = 0 then .error .divisionByZero else .ok (wrap (a.tmod b))
  | _ => .error .malformed

def skipBlanks (cs : Octets) : Octets := cs.dropWhile fun c => c ∈ [' ', '\t', '\n']

/-- The operator of a level that comes next. One that begins a longer operator does not count. -/
def operator? (ops : List String) (cs : Octets) : Option (String × Octets) :=
  let longer := ["||", "&&", "<=", ">=", "<<", ">>", "==", "!="]
  match longer.find? fun op => op.toList.isPrefixOf cs with
  | some op => if op ∈ ops then some (op, cs.drop op.length) else none
  | none => (ops.find? fun op => op.toList.isPrefixOf cs).map fun op => (op, cs.drop op.length)

/-- A literal: decimal, or octal or hexadecimal by its first characters. -/
def literal (cs : Octets) : Except Error Int :=
  let value := fun (base : Nat) (ds : Octets) =>
    let digit := fun (c : Char) =>
      if c.isDigit then some (c.toNat - '0'.toNat)
      else if 'a' ≤ c ∧ c ≤ 'f' then some (c.toNat - 'a'.toNat + 10)
      else if 'A' ≤ c ∧ c ≤ 'F' then some (c.toNat - 'A'.toNat + 10)
      else none
    ds.foldlM (fun n c => (digit c).bind fun d => if d < base then some (base * n + d) else none) 0
  let n := match cs with
    | '0' :: 'x' :: ds => value 16 ds
    | '0' :: 'X' :: ds => value 16 ds
    | '0' :: ds => value 8 ds
    | ds => value 10 ds
  match n with
  | some n => .ok (wrap n)
  | none => .error .malformed

mutual

/-- Evaluates operators from a level on. -/
def binary (var : String → Octets) (ops : List (List String)) :
    Nat → Octets → Except Error (Int × Octets)
  | 0, _ => .error .malformed
  | fuel + 1, cs =>
    match ops with
    | [] => unary var fuel cs
    | level :: tighter => do
      let (a, rest) ← binary var tighter fuel cs
      more var level tighter a fuel rest

/-- Goes on with operators of one level. -/
def more (var : String → Octets) (level : List String) (tighter : List (List String)) (a : Int) :
    Nat → Octets → Except Error (Int × Octets)
  | 0, _ => .error .malformed
  | fuel + 1, cs =>
    match operator? level (skipBlanks cs) with
    | none => .ok (a, cs)
    | some (op, rest) => do
      let (b, rest) ← binary var tighter fuel rest
      more var level tighter (← apply op a b) fuel rest

def unary (var : String → Octets) : Nat → Octets → Except Error (Int × Octets)
  | 0, _ => .error .malformed
  | fuel + 1, cs =>
    match skipBlanks cs with
    | '+' :: cs => unary var fuel cs
    | '-' :: cs => do
      let (a, rest) ← unary var fuel cs
      return (wrap (-a), rest)
    | '!' :: cs => do
      let (a, rest) ← unary var fuel cs
      return (truth (a == 0), rest)
    | '~' :: cs => do
      let (a, rest) ← unary var fuel cs
      return (-a - 1, rest)
    | '(' :: cs => do
      let (a, rest) ← choice var fuel cs
      match skipBlanks rest with
      | ')' :: rest => return (a, rest)
      | _ => .error .malformed
    | cs => do
      let name := cs.takeWhile isNameChar
      match name with
      | [] => .error .malformed
      | c :: _ =>
        let rest := cs.drop name.length
        if c.isDigit then return (← literal name, rest)
        else
          let value := var (String.ofList name)
          match Octets.toInt? value with
          | some n => return (wrap n, rest)
          | none => if value.isEmpty then return (0, rest) else .error .malformed

/-- An expression, perhaps a choice between two. -/
def choice (var : String → Octets) : Nat → Octets → Except Error (Int × Octets)
  | 0, _ => .error .malformed
  | fuel + 1, cs => do
    let (a, rest) ← binary var levels fuel cs
    match skipBlanks rest with
    | '?' :: rest => do
      let (b, rest) ← choice var fuel rest
      match skipBlanks rest with
      | ':' :: rest => do
        let (c, rest) ← choice var fuel rest
        return (if a ≠ 0 then b else c, rest)
      | _ => .error .malformed
    | _ => return (a, rest)

end

/-- The value of an expression. -/
def eval (var : String → Octets) (cs : Octets) : Except Error Int :=
  if (skipBlanks cs).isEmpty then .ok 0
  else do
    let (n, rest) ← choice var (14 * cs.length + 28) cs
    if (skipBlanks rest).isEmpty then .ok n else .error .trailing

end Fanout.Shell.Arithmetic
