import Inquiry.Plan.Basic

/-!
# Record stores

A record store answers calls: an operation on one entity, or the code of a
query.  It answers with rows or with an error of its own, made of a code and a
message.  Besides its answer a call has two effects that the caller can see:
it takes time, and while it runs the caller may be asked to stop.

A store is given by what one call does to its state, so stores that remember
nothing, stores that follow a script and stores that hold records are all
values of one type.
-/

set_option autoImplicit false

namespace Inquiry

/-- The error of a record store. -/
structure StoreError where
  code : String
  message : String
deriving DecidableEq

/-- An error as it is shown, its code in front. -/
def StoreError.display (error : StoreError) : String :=
  "[" ++ error.code ++ "] " ++ error.message

/-- A row of an answer: the members of an object, in the order of their names. -/
abbrev Row := List (String × Json)

/-- What a record store can be asked. -/
inductive Call where
  /-- To run the code of a query. -/
  | query (code : String)
  /-- To carry out an operation. -/
  | operation (given : Operation)

/-- The text that stands for a call in a log. -/
def Call.text : Call → String
  | .query code => code
  | .operation given => given.display

/-- The call that executes a plan. -/
def Plan.call : Plan → Call
  | .operation given => .operation given
  | .query given => .query given.code

/-- The call that executes a plan has the text of the plan. -/
theorem Plan.text_call (plan : Plan) : plan.call.text = plan.text := by
  cases plan <;> rfl

/-- What comes of one call. -/
structure Reply where
  outcome : Except StoreError (List Row)
  /-- Whether cancellation was asked for while the call ran. -/
  cancels : Bool := false
  /-- How long the call took, in milliseconds. -/
  took : Nat := 0

/-- A record store: what a call does to its state, and what it replies. -/
structure RecordStore (State : Type) where
  run : Call → State → Reply × State

end Inquiry
