import Steward.Session.Span

/-!
# Cancel tokens

A token tells work to stop.  It has fired once somebody fires it, and also
from its deadline on if it has one.  A token never comes back.
-/

namespace Steward

/-- A signal to stop. -/
structure Token where
  /-- Whether somebody has fired it. -/
  fired : Bool
  /-- The instant from which it counts as fired anyway. -/
  deadline : Option Nat
  deriving DecidableEq, Repr

namespace Token

/-- A token that nobody has fired and that has no deadline. -/
def fresh : Token := ⟨false, none⟩

/-- A token that fires by itself at an instant. -/
def dueAt (instant : Nat) : Token := ⟨false, some instant⟩

def fire (token : Token) : Token := { token with fired := true }

/-- The token after something happened that may have fired it. -/
def fireIf (token : Token) (happened : Bool) : Token :=
  { token with fired := token.fired || happened }

/-- Whether the token has fired by the instant `now`. -/
def hasFired (token : Token) (now : Nat) : Bool :=
  token.fired || token.deadline.any (fun instant => instant ≤ now)

@[simp]
theorem hasFired_fire (token : Token) (now : Nat) : token.fire.hasFired now = true := by
  simp [fire, hasFired]

@[simp]
theorem hasFired_fresh (now : Nat) : fresh.hasFired now = false := rfl

/-- A token that has fired stays fired as time goes on. -/
theorem hasFired_mono {token : Token} {earlier later : Nat} (h : earlier ≤ later)
    (fired : token.hasFired earlier = true) : token.hasFired later = true := by
  unfold hasFired at fired ⊢
  cases deadline : token.deadline with
  | none => simpa [deadline] using fired
  | some instant =>
    simp only [deadline, Option.any_some, Bool.or_eq_true, decide_eq_true_eq] at fired ⊢
    exact fired.imp_right (fun reached => Nat.le_trans reached h)

end Token

end Steward
