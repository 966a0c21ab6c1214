import PageSync.Blocking.Exchange

/-!
# Blocking/Pager — a list that is asked for item by item

A pager holds the items of its page that have not been taken, and asks for the next page only when
an item is wanted and none is left. So a consumer that stops early causes no further request.
-/

namespace PageSync.Blocking

/-- What is still to come after the items in hand. -/
inductive Pending where
  /-- The page at a cursor; the first page has none. -/
  | page (cursor : Option Json)
  | nothing
  deriving DecidableEq

/-- A list that is read page by page. -/
structure Pager where
  method : String
  path : String
  args : Fields
  buffer : List Json
  pending : Pending

namespace Pager

variable {σ : Type}

/-- A list of which nothing has been read. -/
def start (method path : String) (args : Fields) : Pager :=
  ⟨method, path, args, [], .page none⟩

/-- Read the page at a cursor. -/
def load (ch : Channel σ) (p : Pager) (cursor : Option Json) : Action σ Pager := do
  let args := pageArguments p.method cursor p.args
  let answer ← ch.call p.method p.path args
  let page ← .ofExcept (Page.ofAnswer answer)
  return { p with
    args := args
    buffer := page.items
    pending := match page.next with
      | some cursor => .page (some cursor)
      | none => .nothing }

/-- The next item and the list after it, from at most so many pages. -/
def nextWithin (ch : Channel σ) : Nat → Pager → Action σ (Option (Json × Pager))
  | pages, p =>
    match p.buffer, p.pending with
    | x :: rest, _ => pure (some (x, { p with buffer := rest }))
    | [], .nothing => pure none
    | [], .page cursor =>
      match pages with
      | 0 => pure none
      | pages + 1 => do nextWithin ch pages (← p.load ch cursor)

/-- The items that are left, from at most so many pages. -/
def drainWithin (ch : Channel σ) : Nat → Pager → Action σ (List Json)
  | pages, p =>
    match p.pending with
    | .nothing => pure p.buffer
    | .page cursor =>
      match pages with
      | 0 => pure p.buffer
      | pages + 1 => do
        let more ← drainWithin ch pages (← p.load ch cursor)
        return p.buffer ++ more

/-- The number of pages after which there is none. -/
def pageBound (ch : Channel σ) : Action σ Nat :=
  .peek fun s => ch.network.horizon s + 1

/-- **The next item** and the list after it. -/
def next? (ch : Channel σ) (p : Pager) : Action σ (Option (Json × Pager)) := do
  nextWithin ch (← pageBound ch) p

/-- **All items that are left.** -/
def toList (ch : Channel σ) (p : Pager) : Action σ (List Json) := do
  drainWithin ch (← pageBound ch) p

/-- The next items, so many at most. -/
def take (ch : Channel σ) : Nat → Pager → Action σ (List Json)
  | 0, _ => pure []
  | n + 1, p => do
    match ← p.next? ch with
    | some (x, p) => return x :: (← take ch n p)
    | none => return []

end Pager

end PageSync.Blocking
