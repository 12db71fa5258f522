import Calculator.Token.Read

/-! # Postfix order

An expression's tokens are reordered so that each operator and each function stands behind its
operands and no parentheses are needed. Operators and functions wait on a stack: an operator until
one that binds no tighter comes, a function until the group behind it closes. All operators
associate to the left.

A strict reordering refuses parentheses that do not match. A lenient one drops a `(` that is not
closed and lets a `)` that closes nothing end everything before it.
-/

namespace Calculator.Postfix

/-- The token is an operator that is applied before an operator of this precedence, if both wait. -/
def binds (precedence : Nat) : Token → Bool
  | .operator op => precedence ≤ op.precedence
  | _ => false

/-- The function that was waiting for a group to close leaves the stack when it does. -/
def closeCall : List Token → List Token × List Token
  | .function f name :: stack => ([.function f name], stack)
  | stack => ([], stack)

/-- At the end everything leaves the stack. -/
def drain (strict : Bool) (stack : List Token) : Except Error (List Token) :=
  if strict && stack.any Token.isOpening then .error .unmatchedOpening
  else .ok (stack.filter fun t => !t.isOpening)

/-- The postfix order of the tokens, with a stack of those that wait. -/
def order (strict : Bool) : List Token → List Token → Except Error (List Token)
  | stack, [] => drain strict stack
  | stack, .number v :: tokens => do
    return .number v :: (← order strict stack tokens)
  | stack, .function f name :: tokens => order strict (.function f name :: stack) tokens
  | stack, .opening :: tokens => order strict (.opening :: stack) tokens
  | stack, .closing :: tokens =>
    let group := stack.takeWhile fun t => !t.isOpening
    match stack.dropWhile fun t => !t.isOpening with
    | _ :: below => do
      let (call, rest) := closeCall below
      return group ++ call ++ (← order strict rest tokens)
    | [] =>
      if strict then .error .unmatchedClosing
      else do return group ++ (← order strict [] tokens)
  | stack, .operator op :: tokens => do
    let before := stack.takeWhile (binds op.precedence)
    let waiting := stack.dropWhile (binds op.precedence)
    return before ++ (← order strict (.operator op :: waiting) tokens)
  | _, .foreign symbol :: _ => .error (.unknownOperator symbol)

/-- The postfix order of an expression's tokens. -/
def ofTokens (strict : Bool) (tokens : List Token) : Except Error (List Token) :=
  order strict [] tokens

end Calculator.Postfix
