import Inquiry.Sql.Tree

/-!
# Grammars over tokens

A grammar says how a list of tokens is read from the left: single tokens,
sequences, ordered alternatives, repetition, and rules that are called by
name.  An alternative is tried only when those before it fail, and repetition
takes as much as it can.  `Grammar.read` follows a grammar, given what calling
a rule does; `readRule` closes the knot with a bound on how deep rules may call
one another.
-/

set_option autoImplicit false

namespace Inquiry.Sql

variable {Rule : Type}

/-- A way to read tokens, calling rules named by `Rule`. -/
inductive Grammar (Rule : Type) where
  /-- One token that passes a test, written out as the leaf that is given for it. -/
  | token (leafOf : Token → Option Leaf)
  /-- Nothing. -/
  | empty
  /-- No reading at all. -/
  | fail
  /-- One part and then another. -/
  | seq (first second : Grammar Rule)
  /-- The first part, or else the second. -/
  | or (first second : Grammar Rule)
  /-- A part as often as it can be read. -/
  | many (part : Grammar Rule)
  /-- A part under a node. -/
  | node (kind : Kind) (part : Grammar Rule)
  /-- Nothing, where the part cannot be read. -/
  | notAt (part : Grammar Rule)
  /-- A rule. -/
  | rule (name : Rule)

/-- What reading yields: trees and the tokens that are left. -/
abbrev Reading := Option (List Tree × List Token)

namespace Grammar

/-- The leaf of the first token, if the token passes the test. -/
def readToken (leafOf : Token → Option Leaf) : List Token → Reading
  | [] => none
  | first :: rest =>
      match leafOf first with
      | some leaf => if leaf.token = first then some ([.leaf leaf], rest) else none
      | none => none

/-- A reader run as often as it succeeds and takes a token, at most `count` times. -/
def readMany (read : List Token → Reading) : (count : Nat) → List Token → List Tree × List Token
  | 0, tokens => ([], tokens)
  | count + 1, tokens =>
      match read tokens with
      | none => ([], tokens)
      | some (trees, rest) =>
          if rest.length < tokens.length then
            let (more, rest) := readMany read count rest
            (trees ++ more, rest)
          else ([], tokens)

/-- Reading by a grammar, given what each rule reads. -/
def read (call : Rule → List Token → Reading) : Grammar Rule → List Token → Reading
  | .token leafOf, tokens => readToken leafOf tokens
  | .empty, tokens => some ([], tokens)
  | .fail, _ => none
  | .seq first second, tokens =>
      match read call first tokens with
      | none => none
      | some (trees, rest) =>
          match read call second rest with
          | none => none
          | some (more, rest) => some (trees ++ more, rest)
  | .or first second, tokens =>
      match read call first tokens with
      | some found => some found
      | none => read call second tokens
  | .many part, tokens => some (readMany (read call part) tokens.length tokens)
  | .node kind part, tokens =>
      match read call part tokens with
      | none => none
      | some (trees, rest) => some ([.node kind trees], rest)
  | .notAt part, tokens =>
      match read call part tokens with
      | none => some ([], tokens)
      | some _ => none
  | .rule name, tokens => call name tokens

/-- Reading by a named rule, with rules calling one another at most `depth` deep. -/
def readRule (rules : Rule → Grammar Rule) : (depth : Nat) → Rule → List Token → Reading
  | 0, _, _ => none
  | depth + 1, name, tokens => read (readRule rules depth) (rules name) tokens

/-! ## Common forms -/

/-- Parts one after the other. -/
def all (parts : List (Grammar Rule)) : Grammar Rule := parts.foldr .seq .empty

/-- The first of several parts that can be read. -/
def any (parts : List (Grammar Rule)) : Grammar Rule := parts.foldr .or .fail

/-- A part, or nothing. -/
def optional (part : Grammar Rule) : Grammar Rule := .or part .empty

/-- A word in any case, whatever its role. -/
def isWord (text : String) (token : Token) : Bool :=
  match token with
  | .word written => written.map Char.toUpper = text.toList
  | _ => false

/-- A keyword, given in capitals. -/
def keyword (text : String) : Grammar Rule :=
  .token fun token => if isWord text token then some { token, isKeyword := true } else none

/-- Several keywords one after the other. -/
def keywords (texts : List String) : Grammar Rule := all (texts.map keyword)

/-- One of several keywords. -/
def oneOf (texts : List String) : Grammar Rule := any (texts.map keyword)

/-- A sign, with blanks on both sides. -/
def sign (text : String) : Grammar Rule :=
  .token fun token => if token = .sign text.toList then some { token } else none

/-- A sign that joins what stands before it and after it as given. -/
def joined (text : String) (before after : Bool) : Grammar Rule :=
  .token fun token =>
    if token = .sign text.toList then
      some { token, joinsBefore := before, joinsAfter := after }
    else none

/-- One of several signs. -/
def oneSign (texts : List String) : Grammar Rule := any (texts.map sign)

/-- One or more parts with commas between. -/
def list (part : Grammar Rule) : Grammar Rule :=
  .seq part (.many (.seq (joined "," true false) part))

/-- A part in parentheses. -/
def parenthesized (part : Grammar Rule) : Grammar Rule :=
  all [joined "(" false true, part, joined ")" true false]

/-- A part in parentheses that follow a name without a blank. -/
def attached (part : Grammar Rule) : Grammar Rule :=
  all [joined "(" true true, part, joined ")" true false]

end Grammar

end Inquiry.Sql
