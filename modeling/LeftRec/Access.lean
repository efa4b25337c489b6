import LeftRec.Fault
import LeftRec.Signature

/-!
# Access — what a parser written by hand may do with the table

A parser may be written by hand.  It reads the input as it likes, but it sees the memo table through
the operations of tables only: what it does is a program over these, which is given the answer to
each before it goes on.  Emptiness is the size being zero.
-/

namespace LeftRec

/-- A program over the memo table that comes to a value or to a fault. -/
inductive Access (S : Signature) (α : Type)
  | done (result : Except Fault α)
  /-- Look an entry up. -/
  | entry (key : Key) (pos : Nat) (next : Option (Entry S) → Access S α)
  /-- Store an entry in place of any previous one. -/
  | insert (key : Key) (pos : Nat) (entry : Entry S) (next : Access S α)
  /-- Remove all entries. -/
  | clear (next : Access S α)
  /-- Count the entries. -/
  | len (next : Nat → Access S α)

namespace Access

variable {S : Signature} {α : Type}

/-- Leave the table alone. -/
def ok (value : α) : Access S α :=
  .done (.ok value)

end Access

end LeftRec
