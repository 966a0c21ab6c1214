import PageSync.Suspending.Exchange

/-!
# Suspending/Listing — a list whose items are handed out as they arrive

Each item is handed to a body, which goes on or stops the list with a value. A list that is stopped
asks for no further page.
-/

namespace PageSync.Suspending

/-- What the body of a list does after an item: go on with a state, or stop with a result. -/
inductive Flow (ρ β : Type) where
  | next (state : β)
  | stop (result : ρ)

namespace Listing

variable {σ ρ β : Type}

/-- Hand items to a body until it stops. -/
def handOut (body : β → Json → Flow ρ β) : β → List Json → Flow ρ β
  | state, [] => .next state
  | state, x :: rest =>
    match body state x with
    | .next state => handOut body state rest
    | .stop result => .stop result

/-- Ask for the page of a list that some arguments name. -/
def page (ch : Channel σ) (method path : String) (args : Fields) : Task σ Page := do
  let answer ← ch.call method path args
  .ofExcept (Page.ofAnswer answer)

/-- Go through a list from the page at a cursor, from at most `pages + 1` pages. -/
def eachFrom (ch : Channel σ) (method path : String) (body : β → Json → Flow ρ β) :
    Nat → Fields → Option Json → β → Task σ (Flow ρ β)
  | 0, args, cursor, state => do
    let page ← page ch method path (pageArguments method cursor args)
    return handOut body state page.items
  | pages + 1, args, cursor, state => do
    let args := pageArguments method cursor args
    let page ← page ch method path args
    match handOut body state page.items, page.next with
    | .next state, some cursor => eachFrom ch method path body pages args (some cursor) state
    | flow, _ => return flow

/-- **Go through a list** with a body. -/
def each (ch : Channel σ) (method path : String) (args : Fields) (start : β)
    (body : β → Json → Flow ρ β) : Task σ (Flow ρ β) := do
  let pages ← Task.peek ch.network.horizon
  eachFrom ch method path body pages args none start

/-- All items of a list. -/
def toList (ch : Channel σ) (method path : String) (args : Fields) : Task σ (List Json) := do
  let body (items : List Json) (x : Json) : Flow (List Json) (List Json) := .next (items ++ [x])
  match ← each ch method path args [] body with
  | .next items => return items
  | .stop items => return items

/-- The first items of a list, so many at most; a list of which nothing is wanted is not read. -/
def take (ch : Channel σ) (method path : String) (args : Fields) :
    Nat → Task σ (List Json)
  | 0 => return []
  | limit + 1 => do
    let body (items : List Json) (x : Json) : Flow (List Json) (List Json) :=
      if items.length = limit then .stop (items ++ [x]) else .next (items ++ [x])
    match ← each ch method path args [] body with
    | .next items => return items
    | .stop items => return items

/-- The first item of a list, if there is one. -/
def first? (ch : Channel σ) (method path : String) (args : Fields) : Task σ (Option Json) := do
  let body (_ : Unit) (x : Json) : Flow Json Unit := .stop x
  match ← each ch method path args () body with
  | .next _ => return none
  | .stop x => return some x

end Listing

end PageSync.Suspending
