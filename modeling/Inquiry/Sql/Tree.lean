import Inquiry.Sql.Token

/-!
# Trees of SQL

A statement is a tree whose leaves are its tokens in order and whose inner
nodes say what part of the statement stands below them.  A leaf knows whether
it is a keyword and where a blank may stand beside it, so that a tree can be
written out again: keywords in capitals, single blanks, all else as it was.
A tree only reads when no node below it inserts, updates, deletes or changes
anything else.

What is done with SQL turns on a parser in one way only: whether it can read a
text, and if so which statements it finds there.  So a parser is nothing more
than that (`Parser`), and whoever checks a text takes the parser to check it
with.
-/

set_option autoImplicit false

namespace Inquiry.Sql

/-- What part of a statement a node is. -/
inductive Kind where
  /-- A query: perhaps a WITH clause, then a body, an order and limits. -/
  | query
  /-- A SELECT. -/
  | select
  /-- The INTO of a SELECT, which makes a table of the rows that are read. -/
  | into
  /-- Rows given by VALUES, or a whole table by TABLE. -/
  | rows
  /-- An expression. -/
  | expression
  /-- A table, a joined table or a query that is read from. -/
  | source
  /-- An INSERT or REPLACE. -/
  | insert
  /-- An UPDATE. -/
  | update
  /-- A DELETE. -/
  | delete
  /-- A statement about tables, transactions or the session. -/
  | command
deriving DecidableEq

/-- Whether a part of a statement can change anything. -/
def Kind.changes : Kind → Bool
  | .into | .insert | .update | .delete | .command => true
  | _ => false

/-- A token as it is written out. -/
structure Leaf where
  token : Token
  /-- Whether the token is a keyword here. -/
  isKeyword : Bool := false
  /-- No blank stands before it. -/
  joinsBefore : Bool := false
  /-- No blank stands after it. -/
  joinsAfter : Bool := false
deriving DecidableEq

/-- A part of a statement. -/
inductive Tree where
  | leaf (leaf : Leaf)
  | node (kind : Kind) (parts : List Tree)

mutual
/-- The leaves of a tree, in order. -/
def Tree.leaves : Tree → List Leaf
  | .leaf single => [single]
  | .node _ parts => leavesOf parts

/-- The leaves of several trees, in order. -/
def leavesOf : List Tree → List Leaf
  | [] => []
  | tree :: rest => tree.leaves ++ leavesOf rest
end

mutual
/-- Whether no node of a tree changes anything. -/
def Tree.onlyReads : Tree → Bool
  | .leaf _ => true
  | .node kind parts => !kind.changes && allOnlyRead parts

/-- Whether no node of several trees changes anything. -/
def allOnlyRead : List Tree → Bool
  | [] => true
  | tree :: rest => tree.onlyReads && allOnlyRead rest
end

namespace Tree

/-- Whether the outermost node of a tree is a query. -/
def isQuery : Tree → Bool
  | .node .query _ => true
  | _ => false

/-! ## Writing -/

/-- The text of a leaf. -/
def leafText (single : Leaf) : List Char :=
  if single.isKeyword then single.token.characters.map Char.toUpper
  else single.token.characters

/-- The texts of leaves with single blanks between, except where leaves join. -/
def joinLeaves : List Leaf → List Char
  | [] => []
  | [last] => leafText last
  | first :: next :: rest =>
      let blank : List Char := if first.joinsAfter || next.joinsBefore then [] else [' ']
      leafText first ++ blank ++ joinLeaves (next :: rest)

/-- The text of a tree. -/
def text (tree : Tree) : String := String.ofList (joinLeaves tree.leaves)

end Tree

/-! ## Parsers -/

/-- A statement that a parser found: its tree, and the text that the parser writes it as. -/
structure Statement where
  tree : Tree
  text : String

/-- The statements of a text, possibly none at all, or that the text cannot be read. -/
abbrev Parser := List Char → Option (List Statement)

end Inquiry.Sql
