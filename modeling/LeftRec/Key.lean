/-!
# Keys — the identities of memoized rules

A memoized rule is known to the memo table, to contexts and to used sets by its key.  A key is
either a number, handed out when a grammar is built, or a name, chosen by the grammar's author so
that separate copies of one rule count as the same rule.

Keys are totally ordered: numbers before names, numbers by size, names by their characters.
-/

namespace LeftRec

/-- What identifies a memoized rule. -/
inductive Key
  /-- A number that no other rule of the same supply has. -/
  | id (n : Nat)
  /-- A name that the grammar's author chose. -/
  | name (s : String)
  deriving DecidableEq, Repr, Hashable

namespace Key

/-- Numbers come before names. -/
def order : Key → Key → Ordering
  | .id m, .id n => compare m n
  | .id _, .name _ => .lt
  | .name _, .id _ => .gt
  | .name s, .name t => compare s t

instance : Ord Key := ⟨order⟩

theorem compare_eq_order (a b : Key) : compare a b = order a b := rfl

instance : Std.OrientedOrd Key where
  eq_swap {a b} := by
    cases a <;> cases b <;> simp only [compare_eq_order, order]
    · exact Std.OrientedOrd.eq_swap
    · rfl
    · rfl
    · exact Std.OrientedOrd.eq_swap

instance : Std.TransOrd Key where
  isLE_trans {a b c} hab hbc := by
    cases a <;> cases b <;> cases c <;> simp only [compare_eq_order, order] at hab hbc ⊢
    · exact Std.TransOrd.isLE_trans hab hbc
    · rfl
    · cases hbc
    · rfl
    · cases hab
    · cases hab
    · cases hbc
    · exact Std.TransOrd.isLE_trans hab hbc

instance : Std.LawfulEqOrd Key where
  compare_self {a} := by
    cases a <;> rw [compare_eq_order] <;> simp [order]
  eq_of_compare {a b} h := by
    cases a <;> cases b <;> simp_all [compare_eq_order, order]

/-- `a` comes strictly before `b`. -/
def Before (a b : Key) : Prop :=
  compare a b = .lt

instance (a b : Key) : Decidable (Before a b) :=
  inferInstanceAs (Decidable (compare a b = .lt))

theorem Before.trans {a b c : Key} (hab : Before a b) (hbc : Before b c) : Before a c :=
  Std.TransCmp.lt_trans hab hbc

theorem Before.irrefl (a : Key) : ¬ Before a a := by
  simp [Before]

theorem Before.ne {a b : Key} (h : Before a b) : a ≠ b := by
  rintro rfl
  exact Before.irrefl a h

end Key

end LeftRec
