import Inquiry.Sql.Grammar

/-!
# The rules of SQL

The grammar of the statements that are told apart: queries with all their
parts, the statements that change rows, and the commands about tables,
transactions and the session.  Binary operators are read in a row, without
regard to how strongly they bind, since only the parts matter here.

The rules make a parser, `Parser.byRules`, which is the one that runs where no
other is given.  Other parsers read more of SQL, or refuse what these rules let
pass; what is said of checking is said of any of them.
-/

set_option autoImplicit false

namespace Inquiry.Sql

/-- The names of the rules. -/
inductive Rule where
  | statement
  | query
  | body
  | bodyPart
  | select
  | item
  | source
  | factor
  | expression
  | sum
  | operand
  | primary
  | callArguments
  | insert
  | update
  | delete
  | command
  | columnType
deriving DecidableEq

namespace Rule

open Grammar

/-! ## Words -/

/-- The keywords that cannot be the alias of a column. -/
def notColumnAlias : List String :=
  ["WITH", "EXPLAIN", "ANALYZE", "SELECT", "WHERE", "GROUP", "SORT", "HAVING", "ORDER", "TOP",
    "LATERAL", "VIEW", "LIMIT", "OFFSET", "FETCH", "UNION", "EXCEPT", "INTERSECT", "CLUSTER",
    "DISTRIBUTE", "RETURNING", "FROM", "INTO", "END"]

/-- The keywords that cannot be the alias of a table. -/
def notTableAlias : List String :=
  ["WITH", "EXPLAIN", "ANALYZE", "SELECT", "WHERE", "GROUP", "SORT", "HAVING", "ORDER", "PIVOT",
    "UNPIVOT", "TOP", "LATERAL", "VIEW", "LIMIT", "OFFSET", "FETCH", "UNION", "EXCEPT",
    "INTERSECT", "ON", "JOIN", "INNER", "CROSS", "FULL", "LEFT", "RIGHT", "NATURAL", "USING",
    "CLUSTER", "DISTRIBUTE", "GLOBAL", "ANTI", "SEMI", "RETURNING", "OUTER", "SET", "QUALIFY",
    "WINDOW", "END", "FOR", "PARTITION"]

/-- The words of column types, which are written in capitals. -/
def typeWords : List String :=
  ["INT", "INTEGER", "BIGINT", "SMALLINT", "TINYINT", "MEDIUMINT", "VARCHAR", "CHAR", "TEXT",
    "DECIMAL", "NUMERIC", "FLOAT", "DOUBLE", "REAL", "DATE", "TIME", "DATETIME", "TIMESTAMP",
    "BOOLEAN", "BOOL", "BLOB", "JSON", "SIGNED", "UNSIGNED", "BINARY"]

/-- The units of time. -/
def timeUnits : List String :=
  ["YEAR", "MONTH", "WEEK", "DAY", "HOUR", "MINUTE", "SECOND", "QUARTER", "MICROSECOND",
    "YEARS", "MONTHS", "WEEKS", "DAYS", "HOURS", "MINUTES", "SECONDS"]

/-- A name: any word, a quoted name, or a string that stands for one. -/
def name : Grammar Rule :=
  .token fun token =>
    match token with
    | .word _ => some { token }
    | .quotedName _ => some { token }
    | .string _ => some { token }
    | _ => none

/-- A word that is none of the given keywords, or a quoted name, or a string. -/
def aliasExcept (excluded : List String) : Grammar Rule :=
  .token fun token =>
    match token with
    | .word _ => if excluded.any (fun text => isWord text token) then none else some { token }
    | .quotedName _ => some { token }
    | .string _ => some { token }
    | _ => none

/-- A string. -/
def string : Grammar Rule :=
  .token fun token =>
    match token with
    | .string _ => some { token }
    | _ => none

/-- A number or a string. -/
def literal : Grammar Rule :=
  .token fun token =>
    match token with
    | .number _ => some { token }
    | .string _ => some { token }
    | _ => none

/-- A number. -/
def number : Grammar Rule :=
  .token fun token =>
    match token with
    | .number _ => some { token }
    | _ => none

/-- A point between the parts of a name. -/
def point : Grammar Rule := joined "." true true

/-- A name with its qualifiers. -/
def path : Grammar Rule := .seq name (.many (.seq point name))

/-- A list of names in parentheses. -/
def names : Grammar Rule := parenthesized (list name)

/-- An alias, perhaps after AS. -/
def aliased (excluded : List String) : Grammar Rule :=
  optional (any [
    all [keyword "AS", aliasExcept []],
    aliasExcept excluded])

/-! ## Expressions -/

/-- One or more expressions with commas between. -/
def expressions : Grammar Rule := list (.rule expression)

/-- The order of rows. -/
def order : Grammar Rule :=
  all [keywords ["ORDER", "BY"],
    list (all [.rule expression, optional (oneOf ["ASC", "DESC"]),
      optional (.seq (keyword "NULLS") (oneOf ["FIRST", "LAST"]))])]

/-- One end of the frame of a window. -/
def frameEnd : Grammar Rule :=
  any [keywords ["CURRENT", "ROW"],
    all [any [keyword "UNBOUNDED", .rule sum], oneOf ["PRECEDING", "FOLLOWING"]]]

/-- The frame of a window. -/
def frame : Grammar Rule :=
  all [oneOf ["ROWS", "RANGE", "GROUPS"],
    any [all [keyword "BETWEEN", frameEnd, keyword "AND", frameEnd], frameEnd]]

/-- What a window is: rows that share values, in an order, within a frame. -/
def windowBody : Grammar Rule :=
  parenthesized (all [
    optional (all [keywords ["PARTITION", "BY"], expressions]),
    optional order,
    optional frame])

/-- The window that a call ranges over, described or by its name. -/
def window : Grammar Rule := .seq (keyword "OVER") (any [windowBody, name])

/-- Windows with names. -/
def namedWindows : Grammar Rule :=
  .seq (keyword "WINDOW") (list (all [name, keyword "AS", windowBody]))

/-- A call of a function. -/
def call : Grammar Rule :=
  all [path, .rule callArguments, optional window]

/-- The branches of a CASE. -/
def caseBranches : Grammar Rule :=
  all [keyword "WHEN", .rule expression, keyword "THEN", .rule expression,
    .many (all [keyword "WHEN", .rule expression, keyword "THEN", .rule expression]),
    optional (all [keyword "ELSE", .rule expression]),
    keyword "END"]

/-- Calls whose arguments are set apart by words. -/
def wordedCall : Grammar Rule :=
  any [
    all [oneOf ["CAST", "TRY_CAST"],
      attached (all [.rule expression, keyword "AS", .rule columnType])],
    all [keyword "EXTRACT", attached (all [oneOf timeUnits, keyword "FROM", .rule expression])],
    all [oneOf ["SUBSTRING", "SUBSTR"],
      attached (all [.rule sum, keyword "FROM", .rule sum,
        optional (all [keyword "FOR", .rule sum])])],
    all [keyword "TRIM",
      attached (all [optional (oneOf ["BOTH", "LEADING", "TRAILING"]), optional (.rule sum),
        keyword "FROM", .rule sum])],
    all [keyword "POSITION", attached (all [.rule sum, keyword "IN", .rule sum])],
    all [keyword "CONVERT", attached (all [.rule expression, keyword "USING", name])]]

/-- What can follow an operand: a test of it. -/
def test : Grammar Rule :=
  any [
    all [keyword "IS", optional (keyword "NOT"), oneOf ["NULL", "TRUE", "FALSE", "UNKNOWN"]],
    all [keyword "IS", optional (keyword "NOT"), keywords ["DISTINCT", "FROM"], .rule sum],
    all [optional (keyword "NOT"), keyword "IN",
      any [parenthesized (.rule query), parenthesized expressions,
        all [joined "(" false true, joined ")" true false]]],
    all [optional (keyword "NOT"), keyword "BETWEEN", .rule sum, keyword "AND", .rule sum],
    all [optional (keyword "NOT"), oneOf ["LIKE", "ILIKE", "REGEXP", "RLIKE"], .rule sum,
      optional (all [keyword "ESCAPE", string])],
    .seq (keyword "COLLATE") name,
    .seq (keywords ["AT", "TIME", "ZONE"]) string,
    .seq (joined "::" true true) (.rule columnType)]

/-- The operators of sums, products and the like. -/
def sumOperator : Grammar Rule :=
  any [oneSign ["+", "-", "*", "/", "%", "||", "&", "^", "<<", ">>", "->", "->>", "|"],
    oneOf ["DIV"]]

/-- The operators of comparisons and conditions. -/
def conditionOperator : Grammar Rule :=
  any [oneSign ["=", "==", "<=>", "<>", "!=", "<=", ">=", "<", ">", "&&"],
    oneOf ["AND", "OR", "XOR"]]

/-! ## Parts of queries -/

/-- A query inside parentheses. -/
def nestedQuery : Grammar Rule := parenthesized (.rule query)

/-- A named query of a WITH clause. -/
def namedQuery : Grammar Rule := all [name, optional names, keyword "AS", nestedQuery]

/-- The limits on the number of rows. -/
def limits : Grammar Rule :=
  .many (any [
    all [keyword "LIMIT", keyword "ALL"],
    all [keyword "LIMIT", .rule expression,
      optional (.seq (joined "," true false) (.rule expression))],
    all [keyword "OFFSET", .rule expression, optional (oneOf ["ROW", "ROWS"])],
    all [keyword "FETCH", oneOf ["FIRST", "NEXT"],
      .seq (optional number) (oneOf ["ROW", "ROWS"]),
      any [keyword "ONLY", keywords ["WITH", "TIES"]]]])

/-- The locks that reading rows takes. -/
def locks : Grammar Rule :=
  .many (all [keyword "FOR", oneOf ["UPDATE", "SHARE"], optional (.seq (keyword "OF") path),
    optional (any [keyword "NOWAIT", keywords ["SKIP", "LOCKED"]])])

/-- How the next table is joined. -/
def joinWords : Grammar Rule :=
  .seq (optional (keyword "NATURAL")) (any [
    keyword "JOIN",
    keywords ["INNER", "JOIN"],
    keywords ["CROSS", "JOIN"],
    all [oneOf ["LEFT", "RIGHT", "FULL"], optional (keyword "OUTER"), keyword "JOIN"]])

/-- The condition of a join. -/
def joinCondition : Grammar Rule :=
  optional (any [.seq (keyword "ON") (.rule expression), .seq (keyword "USING") names])

/-- The alias of a table, perhaps with names for its columns. -/
def tableAlias : Grammar Rule :=
  optional (any [
    all [keyword "AS", aliasExcept [], optional names],
    all [aliasExcept notTableAlias, optional names]])

/-- The table that a SELECT makes of its rows. -/
def intoClause : Grammar Rule :=
  .node .into (all [keyword "INTO", optional (oneOf ["TEMP", "TEMPORARY"]),
    optional (keyword "UNLOGGED"), optional (keyword "TABLE"), path])

/-- The condition on the rows of a statement. -/
def whereClause : Grammar Rule := optional (.seq (keyword "WHERE") (.rule expression))

/-- New values for columns. -/
def assignments : Grammar Rule := list (all [path, sign "=", .rule expression])

/-! ## Commands -/

/-- A property of a column. -/
def columnOption : Grammar Rule :=
  any [keywords ["PRIMARY", "KEY"], keywords ["NOT", "NULL"], keyword "NULL", keyword "UNIQUE",
    keyword "AUTO_INCREMENT", all [keyword "DEFAULT", .rule primary]]

/-- A column of a new table. -/
def column : Grammar Rule := all [name, .rule columnType, .many columnOption]

/-- The words of a command that makes a table, a view or an index. -/
def creation : Grammar Rule :=
  .seq (keyword "CREATE") (any [
    all [optional (keyword "TEMPORARY"), keyword "TABLE",
      optional (keywords ["IF", "NOT", "EXISTS"]), path,
      any [all [keyword "AS", .rule query], parenthesized (list column)]],
    all [keyword "VIEW", path, keyword "AS", .rule query],
    all [optional (keyword "UNIQUE"), keyword "INDEX", name, keyword "ON", path,
      attached (list name)],
    all [oneOf ["DATABASE", "SCHEMA"], optional (keywords ["IF", "NOT", "EXISTS"]), path]])

/-- The words of a command that changes a table. -/
def alteration : Grammar Rule :=
  all [keywords ["ALTER", "TABLE"], path, any [
    all [keyword "ADD", optional (keyword "COLUMN"), column],
    all [keyword "DROP", optional (keyword "COLUMN"), name],
    all [keywords ["RENAME", "TO"], path]]]

/-- The words of a command that shows something about the store. -/
def showing : Grammar Rule :=
  .seq (keyword "SHOW") (any [
    all [optional (keyword "FULL"), keyword "TABLES",
      optional (.seq (oneOf ["FROM", "IN"]) path), optional (.seq (keyword "LIKE") string)],
    all [oneOf ["COLUMNS", "FIELDS"], oneOf ["FROM", "IN"], path],
    all [keyword "CREATE", oneOf ["TABLE", "VIEW"], path],
    all [name, .many name]])

/-! ## The rules -/

/-- What each rule reads. -/
def grammar : Rule → Grammar Rule
  | statement =>
      any [.rule insert, .rule update, .rule delete, .rule command, .rule query]
  | query =>
      .node .query (all [
        optional (all [keyword "WITH", optional (keyword "RECURSIVE"), list namedQuery]),
        any [
          all [.rule body, optional order, limits, locks],
          .seq (.notAt (keyword "REPLACE")) (.rule insert),
          .rule update]])
  | body =>
      .seq (.rule bodyPart) (.many (all [
        oneOf ["UNION", "INTERSECT", "EXCEPT"], optional (oneOf ["ALL", "DISTINCT"]),
        .rule bodyPart]))
  | bodyPart =>
      any [
        .rule select,
        nestedQuery,
        .node .rows (all [keyword "VALUES",
          list (all [optional (keyword "ROW"), parenthesized (optional expressions)])]),
        .node .rows (all [keyword "TABLE", path])]
  | select =>
      .node .select (all [
        keyword "SELECT",
        optional (oneOf ["DISTINCT", "ALL"]),
        list (.rule item),
        optional intoClause,
        optional (all [keyword "FROM", list (.rule source)]),
        whereClause,
        optional (all [keywords ["GROUP", "BY"], expressions]),
        optional (.seq (keyword "HAVING") (.rule expression)),
        optional namedWindows])
  | item =>
      any [
        sign "*",
        all [path, point, sign "*"],
        all [.rule expression, aliased notColumnAlias]]
  | source =>
      .node .source (.seq (.rule factor) (.many (all [joinWords, .rule factor, joinCondition])))
  | factor =>
      any [
        all [optional (keyword "LATERAL"), nestedQuery, tableAlias],
        all [parenthesized (.rule source), tableAlias],
        all [path, optional (.rule callArguments), tableAlias]]
  | expression =>
      .node .expression (all [
        .rule operand,
        .many (any [test, all [any [sumOperator, conditionOperator], .rule operand]])])
  | sum => .seq (.rule operand) (.many (.seq sumOperator (.rule operand)))
  | operand =>
      .seq (.many (any [.seq (keyword "NOT") (.notAt (oneOf ["IN", "LIKE", "BETWEEN"])),
        joined "-" false true, joined "+" false true, joined "!" false true,
        joined "~" false true])) (.rule primary)
  | primary =>
      any [
        all [oneOf ["DATE", "TIME", "TIMESTAMP", "DATETIME"], string],
        literal,
        all [keyword "CASE", any [caseBranches, .seq (.rule expression) caseBranches]],
        all [optional (keyword "NOT"), keyword "EXISTS", nestedQuery],
        all [keyword "INTERVAL", .rule operand, optional (oneOf timeUnits)],
        wordedCall,
        call,
        oneOf ["NULL", "TRUE", "FALSE"],
        all [path, optional (.seq point (sign "*"))],
        nestedQuery,
        parenthesized expressions,
        sign "?"]
  | callArguments =>
      any [
        attached (sign "*"),
        attached (.rule query),
        attached (all [optional (oneOf ["DISTINCT", "ALL"]), expressions, optional order]),
        attached .empty]
  | insert =>
      .node .insert (all [
        any [.seq (keyword "INSERT") (optional (keyword "IGNORE")), keyword "REPLACE"],
        optional (keyword "INTO"), optional (keyword "TABLE"), path, optional names,
        .rule query,
        optional (all [keywords ["ON", "DUPLICATE", "KEY", "UPDATE"], assignments])])
  | update =>
      .node .update (all [
        keyword "UPDATE", .rule source, keyword "SET", assignments,
        optional (.seq (keyword "FROM") (.rule source)), whereClause])
  | delete =>
      .node .delete (all [
        keyword "DELETE", optional (.seq (.notAt (keyword "FROM")) (list path)),
        keyword "FROM", list (.rule source), whereClause, optional order, limits])
  | command =>
      .node .command (any [
        all [keyword "TRUNCATE", optional (keyword "TABLE"), path],
        all [keyword "DROP", oneOf ["TABLE", "VIEW", "INDEX", "SCHEMA"],
          optional (keywords ["IF", "EXISTS"]), list path,
          optional (oneOf ["CASCADE", "RESTRICT"])],
        creation,
        alteration,
        keyword "COMMIT",
        keyword "ROLLBACK",
        keywords ["START", "TRANSACTION"],
        keywords ["BEGIN", "TRANSACTION"],
        all [keyword "SET", path, sign "=", expressions],
        showing,
        all [keyword "USE", name],
        all [keyword "EXPLAIN", optional (keyword "ANALYZE"), .rule statement],
        all [oneOf ["DESCRIBE", "EXPLAIN"], path]])
  | columnType =>
      .seq (any [.seq (oneOf typeWords) (.many (oneOf ["UNSIGNED", "SIGNED", "INTEGER"])), name])
        (optional (attached (.seq number (.many (.seq (joined "," true true) number)))))

end Rule

/-! ## Statements -/

/-- How deep rules may call one another in a text of so many tokens; no rule goes deeper, since
each token is reached through at most a dozen rules. -/
def depthBound (count : Nat) : Nat := 12 * count + 12

/-- The statement at the start of the tokens, and the tokens after it. -/
def readStatement (tokens : List Token) : Option (Tree × List Token) :=
  match Grammar.readRule Rule.grammar (depthBound tokens.length) .statement tokens with
  | some ([tree], rest) => some (tree, rest)
  | _ => none

/-- The statements of tokens with semicolons between, in at most the given number of steps; a
statement may be empty, and the word END after one ends the text. -/
def statementsWithin : (steps : Nat) → (expectsEnd : Bool) → List Token → Option (List Tree)
  | _, _, [] => some []
  | 0, _, _ :: _ => none
  | steps + 1, expectsEnd, token :: rest =>
      if token = .sign [';'] then statementsWithin steps false rest
      else if expectsEnd then (if Grammar.isWord "END" token then some [] else none)
      else
        match readStatement (token :: rest) with
        | none => none
        | some (tree, rest) => (statementsWithin steps true rest).map (tree :: ·)

/-- The statements of a text, if it is one that can be read whole. -/
def statements (text : List Char) : Option (List Tree) :=
  (tokens text).bind fun tokens => statementsWithin (tokens.length + 1) false tokens

/-- The parser that reads by the rules. -/
def Parser.byRules : Parser := fun text =>
  (statements text).map (List.map fun tree => ⟨tree, tree.text⟩)

end Inquiry.Sql
