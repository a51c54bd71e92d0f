/-!
# Located items

An item together with its place in a text, a count of characters from the start.
-/

namespace Stencil

/-- An item and its place in a text. -/
structure Located (α : Type u) where
  offset : Nat
  item : α
  deriving DecidableEq

namespace Located

variable {α : Type u}

/-- The item's place in a larger text whose part from `base` on is the one it was found in. -/
def shift (base : Nat) (located : Located α) : Located α :=
  { located with offset := base + located.offset }

@[simp]
theorem shift_offset (base : Nat) (located : Located α) :
    (located.shift base).offset = base + located.offset :=
  rfl

@[simp]
theorem shift_item (base : Nat) (located : Located α) :
    (located.shift base).item = located.item :=
  rfl

end Located

end Stencil
