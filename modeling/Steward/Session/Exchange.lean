import Steward.Session.Span

/-!
# Exchanges with the outside

An exchange is one or more requests to something outside the program.  All
that is known of it is its reply: an answer, the world it leaves behind, the
time it took, and whether the caller's token was fired meanwhile.  The world
is any type; a statement about all exchanges is a statement about every
behaviour of the outside.
-/

namespace Steward

/-- What comes back from the outside. -/
structure Reply (ω β : Type) where
  answer : β
  world : ω
  /-- How long it took. -/
  took : Nat
  /-- Whether the caller's token was fired meanwhile. -/
  fired : Bool

/-- A request to the outside, given the world it is made in. -/
def Exchange (ω β : Type) : Type := ω → Reply ω β

namespace Exchange

instance : Monad (Exchange ω) where
  pure answer := fun world => ⟨answer, world, 0, false⟩
  bind request next := fun world =>
    let first := request world
    let second := next first.answer first.world
    ⟨second.answer, second.world, first.took + second.took, first.fired || second.fired⟩

@[simp]
theorem pure_apply (answer : β) (world : ω) :
    (pure answer : Exchange ω β) world = ⟨answer, world, 0, false⟩ :=
  rfl

theorem bind_apply (request : Exchange ω β) (next : β → Exchange ω γ) (world : ω) :
    (request >>= next) world =
      let first := request world
      let second := next first.answer first.world
      ⟨second.answer, second.world, first.took + second.took, first.fired || second.fired⟩ :=
  rfl

instance : LawfulMonad (Exchange ω) :=
  LawfulMonad.mk' (Exchange ω)
    (fun request => by
      funext world
      simp only [Functor.map, Function.comp, id, Bool.or_false, Nat.add_zero])
    (fun answer next => by
      funext world
      simp [bind, pure])
    (fun request next last => by
      funext world
      simp [bind, Nat.add_assoc, Bool.or_assoc])

/-- Looks at the world without asking anything. -/
def look : Exchange ω ω := fun world => ⟨world, world, 0, false⟩

/-- Changes the world without asking anything. -/
def change (step : ω → ω) : Exchange ω Unit := fun world => ⟨(), step world, 0, false⟩

/-- Fires the caller's token. -/
def fire : Exchange ω Unit := fun world => ⟨(), world, 0, true⟩

/-- An exchange with a value of the caller's own carried beside the world. -/
def beside (request : Exchange ω β) : Exchange (ω × σ) β := fun (world, own) =>
  let reply := request world
  ⟨reply.answer, (reply.world, own), reply.took, reply.fired⟩

/-- An exchange on the value of the caller's own. -/
def own (step : σ → σ) : Exchange (ω × σ) Unit := fun (world, own) =>
  ⟨(), (world, step own), 0, false⟩

end Exchange

/-- An exchange that may fail. -/
abbrev Call (ω ε : Type) := ExceptT ε (Exchange ω)

end Steward
