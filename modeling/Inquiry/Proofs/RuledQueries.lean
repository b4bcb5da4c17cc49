import Inquiry.Proofs.Writes
import Inquiry.Sql.Rules

/-!
# Queries by the rules

The parser that reads by the rules finds confined queries
(`isConfined_byRules`).  What the rules admit below each part of a query is
checked once for each rule (`fitsBelow_grammar`).  By induction on the grammar
what a grammar reads can stand wherever the grammar fits, if this is so of the
rules it calls (`readsBelow_read`), and by induction on the depth of calls it is
so of every rule (`readsBelow_readRule`).
-/

set_option autoImplicit false

namespace Inquiry.Sql

/-! ## What the rules admit -/

/-- Whether the trees of a rule can stand right below a node of a kind. -/
def Rule.fitsBelow (outer : Kind) : Rule → Bool
  | .statement | .delete | .command => false
  | .insert | .update => outer = .query
  | _ => true

namespace Grammar

/-- Whether the trees of a grammar can stand right below a node of a kind, the rules being as
`Rule.fitsBelow` says. -/
def fitsBelow (outer : Kind) : Grammar Rule → Bool
  | .token _ => true
  | .empty => true
  | .fail => true
  | .seq first second => fitsBelow outer first && fitsBelow outer second
  | .or first second => fitsBelow outer first && fitsBelow outer second
  | .many part => fitsBelow outer part
  | .node kind part => (!kind.changes || outer.admits kind) && fitsBelow kind part
  | .notAt _ => true
  | .rule name => name.fitsBelow outer

end Grammar

/-- What a rule reads fits wherever the rule does. -/
theorem fitsBelow_grammar (outer : Kind) (name : Rule) (fits : name.fitsBelow outer = true) :
    (Rule.grammar name).fitsBelow outer = true := by
  cases name with
  | statement | delete | command => cases fits
  | insert | update =>
      obtain rfl : outer = .query := of_decide_eq_true fits
      rfl
  | _ => cases outer <;> rfl

namespace Grammar

/-- A reader whose trees can all stand right below a node of a kind. -/
def ReadsBelow (outer : Kind) (reader : List Token → Reading) : Prop :=
  ∀ tokens trees rest, reader tokens = some (trees, rest) → allConfinedBelow outer trees = true

theorem allConfinedBelow_readMany {outer : Kind} {reader : List Token → Reading}
    (below : ReadsBelow outer reader) (count : Nat) (tokens : List Token) :
    allConfinedBelow outer (readMany reader count tokens).1 = true := by
  induction count generalizing tokens with
  | zero => rfl
  | succ count ih =>
      simp only [readMany]
      split
      · rfl
      case h_2 trees rest found =>
        split
        · exact allConfinedBelow_append (below _ _ _ found) (ih rest)
        · rfl

/-- What a grammar reads can stand wherever the grammar fits, if this is so of every rule. -/
theorem readsBelow_read {call : Rule → List Token → Reading}
    (below : ∀ outer name, name.fitsBelow outer = true → ReadsBelow outer (call name))
    (grammar : Grammar Rule) :
    ∀ outer, grammar.fitsBelow outer = true → ReadsBelow outer (read call grammar) := by
  induction grammar with
  | token leafOf =>
      intro outer _ tokens trees rest found
      cases tokens with
      | nil => simp [read, readToken] at found
      | cons token tokens =>
          simp only [read, readToken] at found
          split at found
          · split at found
            · simp only [Option.some.injEq, Prod.mk.injEq] at found
              obtain ⟨rfl, rfl⟩ := found
              rfl
            · simp at found
          · simp at found
  | empty =>
      intro outer _ tokens trees rest found
      simp only [read, Option.some.injEq, Prod.mk.injEq] at found
      obtain ⟨rfl, rfl⟩ := found
      rfl
  | fail =>
      intro outer _ tokens trees rest found
      simp [read] at found
  | seq first second ihFirst ihSecond =>
      intro outer fits tokens trees rest found
      simp only [fitsBelow, Bool.and_eq_true] at fits
      simp only [read] at found
      split at found
      · simp at found
      case h_2 front middle foundFirst =>
        split at found
        · simp at found
        case h_2 back last foundSecond =>
          simp only [Option.some.injEq, Prod.mk.injEq] at found
          obtain ⟨rfl, rfl⟩ := found
          exact allConfinedBelow_append (ihFirst outer fits.1 _ _ _ foundFirst)
            (ihSecond outer fits.2 _ _ _ foundSecond)
  | or first second ihFirst ihSecond =>
      intro outer fits tokens trees rest found
      simp only [fitsBelow, Bool.and_eq_true] at fits
      simp only [read] at found
      split at found
      case h_1 other foundFirst =>
        obtain rfl := Option.some.inj found
        exact ihFirst outer fits.1 _ _ _ foundFirst
      · exact ihSecond outer fits.2 _ _ _ found
  | many part ih =>
      intro outer fits tokens trees rest found
      simp only [read, Option.some.injEq] at found
      have kept := allConfinedBelow_readMany (ih outer fits) tokens.length tokens
      rw [found] at kept
      exact kept
  | node kind part ih =>
      intro outer fits tokens trees rest found
      simp only [fitsBelow, Bool.and_eq_true] at fits
      simp only [read] at found
      split at found
      · simp at found
      case h_2 inner last foundPart =>
        simp only [Option.some.injEq, Prod.mk.injEq] at found
        obtain ⟨rfl, rfl⟩ := found
        have inside := ih kind fits.2 _ _ _ foundPart
        simp only [allConfinedBelow, Tree.isAdmitted, Tree.confined, fits.1, inside, Bool.and_self]
  | notAt part ih =>
      intro outer _ tokens trees rest found
      simp only [read] at found
      split at found
      · simp only [Option.some.injEq, Prod.mk.injEq] at found
        obtain ⟨rfl, rfl⟩ := found
        rfl
      · simp at found
  | rule name =>
      intro outer fits
      exact below outer name fits

/-- What a rule reads can stand wherever the rule fits. -/
theorem readsBelow_readRule (depth : Nat) :
    ∀ outer name, Rule.fitsBelow outer name = true →
      ReadsBelow outer (readRule Rule.grammar depth name) := by
  induction depth with
  | zero =>
      intro outer name _ tokens trees rest found
      simp [readRule] at found
  | succ depth ih =>
      intro outer name fits
      exact readsBelow_read ih (Rule.grammar name) outer (fitsBelow_grammar outer name fits)

theorem read_or {call : Rule → List Token → Reading} {first second : Grammar Rule}
    {tokens : List Token} {found : List Tree × List Token}
    (reads : read call (.or first second) tokens = some found) :
    read call first tokens = some found ∨ read call second tokens = some found := by
  simp only [read] at reads
  split at reads
  case h_1 other foundFirst => exact .inl (foundFirst.trans reads)
  · exact .inr reads

end Grammar

/-! ## Statements -/

open Grammar

/-- A rule that puts its trees under a node of a kind other than a query reads no query. -/
theorem isQuery_eq_false_of_readRule {kind : Kind} {part : Grammar Rule} {name : Rule}
    (isNode : Rule.grammar name = .node kind part) (notQuery : kind ≠ .query) {depth : Nat}
    {tokens rest : List Token} {tree : Tree}
    (found : readRule Rule.grammar depth name tokens = some ([tree], rest)) :
    tree.isQuery = false := by
  cases depth with
  | zero => simp [readRule] at found
  | succ depth =>
      rw [readRule, isNode] at found
      simp only [Grammar.read] at found
      split at found
      · simp at found
      · simp only [Option.some.injEq, Prod.mk.injEq, List.cons.injEq, and_true] at found
        obtain ⟨rfl, -⟩ := found
        cases kind with
        | query => exact absurd rfl notQuery
        | _ => rfl

/-- A statement that is a query was read by the rule of queries. -/
theorem readRule_query_of_statement {depth : Nat} {tokens rest : List Token} {tree : Tree}
    (found : readRule Rule.grammar (depth + 1) .statement tokens = some ([tree], rest))
    (isQuery : tree.isQuery = true) :
    readRule Rule.grammar depth .query tokens = some ([tree], rest) := by
  have noQuery : ∀ (name : Rule) {kind : Kind} {part : Grammar Rule},
      Rule.grammar name = .node kind part → kind ≠ .query →
      readRule Rule.grammar depth name tokens ≠ some ([tree], rest) := by
    intro name kind part isNode notQuery reads
    have other := isQuery_eq_false_of_readRule isNode notQuery reads
    simp [isQuery] at other
  rcases read_or found with insert | found
  · exact absurd insert (noQuery .insert rfl nofun)
  rcases read_or found with update | found
  · exact absurd update (noQuery .update rfl nofun)
  rcases read_or found with delete | found
  · exact absurd delete (noQuery .delete rfl nofun)
  rcases read_or found with command | found
  · exact absurd command (noQuery .command rfl nofun)
  rcases read_or found with query | none
  · exact query
  · simp [Grammar.read] at none

/-- A statement that is a query is confined. -/
theorem confined_of_readStatement {tokens rest : List Token} {tree : Tree}
    (found : readStatement tokens = some (tree, rest)) (isQuery : tree.isQuery = true) :
    tree.confined = true := by
  simp only [readStatement] at found
  split at found
  case h_1 single after read =>
    simp only [Option.some.injEq, Prod.mk.injEq] at found
    obtain ⟨rfl, rfl⟩ := found
    have byQuery := readRule_query_of_statement read isQuery
    have below := readsBelow_readRule _ .query .query rfl _ _ _ byQuery
    exact (allConfinedBelow_iff.1 below single (by simp)).2
  · simp at found

theorem confined_of_statementsWithin {steps : Nat} {expectsEnd : Bool} {tokens : List Token}
    {trees : List Tree} (found : statementsWithin steps expectsEnd tokens = some trees) :
    ∀ tree ∈ trees, tree.isQuery = true → tree.confined = true := by
  induction steps generalizing expectsEnd tokens trees with
  | zero =>
      cases tokens with
      | nil => simp_all [statementsWithin]
      | cons token rest => simp [statementsWithin] at found
  | succ steps ih =>
      cases tokens with
      | nil => simp_all [statementsWithin]
      | cons token rest =>
          simp only [statementsWithin] at found
          split at found
          · exact ih found
          split at found
          · split at found <;> simp_all
          split at found
          · simp at found
          case h_2 first after readFirst =>
            obtain ⟨more, later, rfl⟩ := Option.map_eq_some_iff.1 found
            intro tree member isQuery
            rcases List.mem_cons.1 member with rfl | member
            · exact confined_of_readStatement readFirst isQuery
            · exact ih later tree member isQuery

/-- The parser that reads by the rules finds confined queries. -/
theorem isConfined_byRules : Parser.IsConfined .byRules := by
  intro text found parsed statement member isQuery
  obtain ⟨trees, read, rfl⟩ := Option.map_eq_some_iff.1 parsed
  obtain ⟨tree, ofTrees, rfl⟩ := List.mem_map.1 member
  obtain ⟨tokens, -, within⟩ := Option.bind_eq_some_iff.1 read
  exact confined_of_statementsWithin within tree ofTrees isQuery

end Inquiry.Sql
