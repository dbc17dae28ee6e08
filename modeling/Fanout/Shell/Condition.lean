import Fanout.Shell.State

/-!
# Conditions

What a test is true of: texts, numbers and files, joined by negation, conjunction and disjunction.
-/
namespace Fanout.Shell.Condition

/-- A fault, told of the word it was found at. -/
abbrev Result := Except String (Bool × List Octets)

def unaryLetters : List Char :=
  ['b', 'c', 'd', 'e', 'f', 'G', 'g', 'h', 'k', 'L', 'n', 'O', 'p', 'r', 'S', 's', 't', 'u', 'w',
    'x', 'z']

def isUnary (w : Octets) : Bool :=
  match w with
  | ['-', c] => c ∈ unaryLetters
  | _ => false

def binaryWords : List String :=
  ["=", "!=", "<", ">", "-eq", "-ne", "-ge", "-gt", "-le", "-lt", "-nt", "-ot", "-ef"]

def isBinary (w : Octets) : Bool := binaryWords.any fun b => b.toList == w

def unexpected (w : Octets) : String := w.toText ++ ": unexpected operator"

def noArgument (w : Octets) : String := w.toText ++ ": argument expected"

/-- Whether a unary operator is true of a word. -/
def unary (s : State) (letter : Char) (w : Octets) : Bool :=
  let entry := s.files.find s.workDir w.toText
  match letter, entry with
  | 'n', _ => !w.isEmpty
  | 'z', _ => w.isEmpty
  | 'd', .ok .dir => true
  | 'e', .ok _ => true
  | 'r', .ok _ => true
  | 'w', .ok _ => true
  | 'f', .ok (.file _ _) => true
  | 's', .ok (.file content _) => !content.isEmpty
  | 's', .ok .dir => true
  | 'x', .ok .dir => true
  | 'x', .ok (.file _ executable) => executable
  | _, _ => false

def number (w : Octets) : Except String Int :=
  match Octets.toInt? w with
  | some n => .ok n
  | none => .error ("Illegal number: " ++ w.toText)

def binary (a op b : Octets) : Except String Bool := do
  match String.ofList op with
  | "=" => return a == b
  | "!=" => return a != b
  | "<" => return decide (a < b)
  | ">" => return decide (b < a)
  | "-eq" => return (← number a) == (← number b)
  | "-ne" => return (← number a) != (← number b)
  | "-ge" => return decide ((← number a) ≥ (← number b))
  | "-gt" => return decide ((← number a) > (← number b))
  | "-le" => return decide ((← number a) ≤ (← number b))
  | "-lt" => return decide ((← number a) < (← number b))
  | _ => return false

/-- Whether a word that looks like a unary operator is an operand, by what follows it. -/
def isOperand (following : List Octets) : Bool :=
  match following with
  | [] => true
  | [_] => false
  | w :: _ => isBinary w

mutual

/-- A disjunction; what is left begins with the last word used. -/
def disjunction (s : State) : Nat → List Octets → Result
  | 0, _ => .error "expression too deep"
  | fuel + 1, ws => do
    let (a, last) ← conjunction s fuel ws
    match last with
    | w :: ['-', 'o'] :: rest => do
      let _ := w
      let (b, last) ← disjunction s fuel rest
      return (b || a, last)
    | _ => return (a, last)

def conjunction (s : State) : Nat → List Octets → Result
  | 0, _ => .error "expression too deep"
  | fuel + 1, ws => do
    let (a, last) ← negation s fuel ws
    match last with
    | w :: ['-', 'a'] :: rest => do
      let _ := w
      let (b, last) ← conjunction s fuel rest
      return (b && a, last)
    | _ => return (a, last)

def negation (s : State) : Nat → List Octets → Result
  | 0, _ => .error "expression too deep"
  | fuel + 1, ['!'] :: w :: ws => do
    let (a, last) ← negation s fuel (w :: ws)
    return (!a, last)
  | fuel + 1, ws => primary s fuel ws

def primary (s : State) : Nat → List Octets → Result
  | 0, _ => .error "expression too deep"
  | fuel + 1, ws =>
    match ws with
    | [] => .ok (false, [])
    | ['('] :: w :: rest => do
      let (a, last) ← disjunction s fuel (w :: rest)
      match last.drop 1 with
      | [')'] :: rest => return (a, [')'] :: rest)
      | _ => .error "closing paren expected"
    | w :: rest =>
      if isUnary w && !isOperand rest then
        match rest with
        | a :: _ => .ok (unary s (w.getD 1 'n') a, rest)
        | [] => .error (noArgument w)
      else match rest with
        | op :: more =>
          if isBinary op then
            match more with
            | b :: _ => do return (← binary w op b, more)
            | [] => .error (noArgument op)
          else .ok (!w.isEmpty, ws)
        | [] => .ok (!w.isEmpty, ws)

end

/-- The value of a condition. -/
def eval (s : State) (ws : List Octets) : Except String Bool := do
  let fuel := 8 * ws.length + 8
  let whole := fun (ws : List Octets) => do
    let (a, last) ← disjunction s fuel ws
    match last with
    | w :: _ :: _ => .error (unexpected w)
    | _ => return a
  match ws with
  | [] => return false
  | [a, op, b] =>
    if isBinary op then binary a op b
    else if a = ['!'] then return !(← whole [op, b])
    else if a = ['('] ∧ b = [')'] then whole [op]
    else whole ws
  | ['!'] :: a :: b :: c :: [] => return !(← eval3 s a b c)
  | _ => whole ws
where
  eval3 (s : State) (a op b : Octets) : Except String Bool := do
    if isBinary op then binary a op b
    else
      let (v, last) ← disjunction s 40 [a, op, b]
      match last with
      | w :: _ :: _ => .error (unexpected w)
      | _ => return v

end Fanout.Shell.Condition
