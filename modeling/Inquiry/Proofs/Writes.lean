import Inquiry.Sql.Tree

/-!
# Where a query can write

A statement that is read as a query can still change something: a query may
have an INSERT or an UPDATE for its body, and a SELECT may make a table with
INTO.  A tree is confined when these are the only ways, that is when a changing
part stands only where `Kind.admits` says so.  A confined query only reads
exactly when no query in it writes (`onlyReads_iff_of_isQuery`).

Of a parser it is assumed that the queries it finds are confined
(`Parser.IsConfined`), and nothing else.
-/

set_option autoImplicit false

namespace Inquiry.Sql

/-! ## Parts that change something -/

/-- Whether a changing node of the second kind can stand right below a node of the first. -/
def Kind.admits : (outer inner : Kind) → Bool
  | .query, .insert => true
  | .query, .update => true
  | .select, .into => true
  | _, _ => false

namespace Tree

/-- Whether the outermost node of a tree changes something that the kind above it admits. -/
def writesBelow (outer : Kind) : Tree → Bool
  | .leaf _ => false
  | .node kind _ => kind.changes && outer.admits kind

/-- Whether the outermost node of a tree changes nothing, or is admitted below the kind. -/
def isAdmitted (outer : Kind) : Tree → Bool
  | .leaf _ => true
  | .node kind _ => !kind.changes || outer.admits kind

end Tree

mutual
/-- Whether a query in a tree writes: its body is an INSERT or an UPDATE, or a SELECT has an
INTO. -/
def Tree.queryWrites : Tree → Bool
  | .leaf _ => false
  | .node kind parts => queryWritesBelow kind parts

/-- Whether a query in one of several parts of a node writes, or is written by one of them. -/
def queryWritesBelow (outer : Kind) : List Tree → Bool
  | [] => false
  | part :: rest => part.writesBelow outer || part.queryWrites || queryWritesBelow outer rest
end

mutual
/-- Whether every changing node inside a tree is admitted by the node above it. -/
def Tree.confined : Tree → Bool
  | .leaf _ => true
  | .node kind parts => allConfinedBelow kind parts

/-- Whether several parts of a node are admitted by it and confined themselves. -/
def allConfinedBelow (outer : Kind) : List Tree → Bool
  | [] => true
  | part :: rest => part.isAdmitted outer && part.confined && allConfinedBelow outer rest
end

theorem allConfinedBelow_iff {outer : Kind} {trees : List Tree} :
    allConfinedBelow outer trees = true ↔
      ∀ tree ∈ trees, tree.isAdmitted outer = true ∧ tree.confined = true := by
  induction trees with
  | nil => simp [allConfinedBelow]
  | cons tree rest ih => simp [allConfinedBelow, ih]

theorem allConfinedBelow_append {outer : Kind} {first second : List Tree}
    (here : allConfinedBelow outer first = true) (later : allConfinedBelow outer second = true) :
    allConfinedBelow outer (first ++ second) = true := by
  rw [allConfinedBelow_iff] at here later ⊢
  intro tree member
  rcases List.mem_append.1 member with inFirst | inSecond
  · exact here tree inFirst
  · exact later tree inSecond

/-! ## Trees that only read -/

mutual
/-- A confined tree that begins with a reading node reads only, unless a query in it writes. -/
theorem onlyReads_of_confined : ∀ {tree : Tree}, tree.confined = true →
    tree.queryWrites = false → (∀ kind parts, tree = .node kind parts → kind.changes = false) →
    tree.onlyReads = true
  | .leaf _, _, _, _ => rfl
  | .node kind parts, isConfined, noWrite, reads => by
      have below : allOnlyRead parts = true := allOnlyRead_of_confined isConfined noWrite
      simp [Tree.onlyReads, below, reads kind parts rfl]

theorem allOnlyRead_of_confined : ∀ {outer : Kind} {parts : List Tree},
    allConfinedBelow outer parts = true → queryWritesBelow outer parts = false →
    allOnlyRead parts = true
  | _, [], _, _ => rfl
  | outer, part :: rest, isConfined, noWrite => by
      simp only [allConfinedBelow, Bool.and_eq_true] at isConfined
      simp only [queryWritesBelow, Bool.or_eq_false_iff] at noWrite
      obtain ⟨⟨admitted, inside⟩, later⟩ := isConfined
      obtain ⟨⟨notHere, notInside⟩, notLater⟩ := noWrite
      have reads : ∀ kind parts, part = .node kind parts → kind.changes = false := by
        intro kind parts same
        subst same
        simp only [Tree.isAdmitted, Tree.writesBelow] at admitted notHere
        cases changes : kind.changes with
        | false => rfl
        | true => simp_all
      have here := onlyReads_of_confined inside notInside reads
      simp [allOnlyRead, here, allOnlyRead_of_confined later notLater]
end

mutual
/-- No query writes in a tree that only reads. -/
theorem queryWrites_of_onlyReads : ∀ {tree : Tree}, tree.onlyReads = true →
    tree.queryWrites = false
  | .leaf _, _ => rfl
  | .node kind parts, reads => by
      simp only [Tree.onlyReads, Bool.and_eq_true] at reads
      exact queryWritesBelow_of_allOnlyRead reads.2

theorem queryWritesBelow_of_allOnlyRead : ∀ {outer : Kind} {parts : List Tree},
    allOnlyRead parts = true → queryWritesBelow outer parts = false
  | _, [], _ => rfl
  | outer, part :: rest, reads => by
      simp only [allOnlyRead, Bool.and_eq_true] at reads
      have notHere : part.writesBelow outer = false := by
        cases part with
        | leaf single => rfl
        | node kind parts =>
            simp only [Tree.onlyReads, Bool.and_eq_true, Bool.not_eq_true'] at reads
            simp [Tree.writesBelow, reads.1.1]
      simp [queryWritesBelow, notHere, queryWrites_of_onlyReads reads.1,
        queryWritesBelow_of_allOnlyRead reads.2]
end

/-- A confined query only reads exactly when no query in it writes. -/
theorem onlyReads_iff_of_isQuery {tree : Tree} (isConfined : tree.confined = true)
    (isQuery : tree.isQuery = true) : tree.onlyReads = true ↔ tree.queryWrites = false := by
  constructor
  · exact queryWrites_of_onlyReads
  · intro noWrite
    apply onlyReads_of_confined isConfined noWrite
    intro kind parts same
    subst same
    cases kind with
    | query => rfl
    | _ => simp [Tree.isQuery] at isQuery

/-! ## Parsers -/

/-- A parser that finds confined queries.  The body of a query may be a SELECT, a query again, a set
operation, rows, a table, an INSERT or an UPDATE; a SELECT may have an INTO; and no other part of a
query changes anything. -/
def Parser.IsConfined (parser : Parser) : Prop :=
  ∀ text found, parser text = some found →
    ∀ statement ∈ found, statement.tree.isQuery = true → statement.tree.confined = true

end Inquiry.Sql
