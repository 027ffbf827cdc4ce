/-!
# SignedPayments.Copies

Copies of things that keep something. A copy is the thing and the place of what it
keeps. Copying takes the place, not what is kept there, so what one copy keeps all
copies of the same thing find.
-/

namespace SignedPayments

/-- A copy of a thing, and the place of what it keeps. -/
structure Copy (α : Type) where
  item : α
  place : Nat

/-- Copies in the order in which they were made, and what is kept at each place. -/
structure Copies (α σ : Type) where
  copies : List (Copy α)
  places : List σ

/-- What is done with copies. Each is known by its number. -/
inductive Action (β : Type)
  /-- Makes one more copy. -/
  | copy (number : Nat)
  /-- Asks a copy for something. -/
  | ask (number : Nat) (request : β)

/-- What a copy was asked for and what it answered, with what it kept before and after. -/
structure Turn (β σ γ : Type) where
  request : β
  before : σ
  answer : γ
  after : σ

namespace Copies

variable {α β γ σ : Type}

/-- A thing that was not copied yet. -/
def single (item : α) (state : σ) : Copies α σ := ⟨[⟨item, 0⟩], [state]⟩

/-- A copy, with what it keeps. -/
def find? (c : Copies α σ) (number : Nat) : Option (Copy α × σ) := do
  let copy ← c.copies[number]?
  let state ← c.places[copy.place]?
  return (copy, state)

/-- Does something with copies. `serve` gives what a thing answers and what it keeps then.
Without a copy of that number, nothing happens. -/
def act (serve : α → σ → β → γ × σ) (c : Copies α σ) :
    Action β → Option (Turn β σ γ) × Copies α σ
  | .copy number =>
    match c.copies[number]? with
    | none => (none, c)
    | some copy => (none, { c with copies := c.copies ++ [copy] })
  | .ask number request =>
    match c.find? number with
    | none => (none, c)
    | some (copy, state) =>
      let (answer, after) := serve copy.item state request
      (some ⟨request, state, answer, after⟩, { c with places := c.places.set copy.place after })

/-- Does one thing after the other, and tells what was asked and answered. -/
def run (serve : α → σ → β → γ × σ) (c : Copies α σ) :
    List (Action β) → List (Turn β σ γ) × Copies α σ
  | [] => ([], c)
  | action :: rest =>
    let (turn?, c) := c.act serve action
    let (turns, c) := run serve c rest
    (turn?.toList ++ turns, c)

end Copies

end SignedPayments
