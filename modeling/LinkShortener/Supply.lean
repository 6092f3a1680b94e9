/-!
# Supplies

A supply hands out one value after the other, from a sequence that does not end. What it has handed
out is known from its count.
-/

namespace LinkShortener

/-- A sequence of values and how many of them have been drawn. -/
structure Supply (α : Type) where
  values : Nat → α
  drawn : Nat

namespace Supply

variable {α : Type}

/-- The next value, and the supply after it. -/
def draw (supply : Supply α) : α × Supply α :=
  (supply.values supply.drawn, { supply with drawn := supply.drawn + 1 })

/-- The listed values and then those of a sequence. -/
def ofList (listed : List α) (further : Nat → α) : Supply α where
  values := fun place =>
    match listed[place]? with
    | some value => value
    | none => further (place - listed.length)
  drawn := 0

end Supply

end LinkShortener
