import LeftRec.Key

/-!
# Used sets — the rules an outcome's curtailment came from

An outcome carries the set of keys whose recursion tracking contributed to it.  The set is kept
as a strictly increasing list, so that equal sets are equal values.
-/

namespace LeftRec

/-- A finite set of keys, listed in strictly increasing order. -/
@[ext]
structure Used where
  keys : List Key
  ordered : keys.Pairwise Key.Before
  deriving DecidableEq

namespace Used

/-! ## The empty set and single keys -/

instance : EmptyCollection Used := ⟨⟨[], .nil⟩⟩

instance : Inhabited Used := ⟨∅⟩

def single (key : Key) : Used :=
  ⟨[key], List.pairwise_singleton _ _⟩

def isEmpty (used : Used) : Bool :=
  used.keys.isEmpty

instance : Membership Key Used := ⟨fun used key => key ∈ used.keys⟩

instance (key : Key) (used : Used) : Decidable (key ∈ used) :=
  inferInstanceAs (Decidable (key ∈ used.keys))

def contains (used : Used) (key : Key) : Bool :=
  decide (key ∈ used)

/-! ## Insertion -/

/-- Put `key` at its place in an increasing list. -/
def place (key : Key) : List Key → List Key
  | [] => [key]
  | k :: rest =>
      match compare key k with
      | .lt => key :: k :: rest
      | .eq => k :: rest
      | .gt => k :: place key rest

theorem mem_place {key k : Key} {keys : List Key} :
    k ∈ place key keys ↔ k = key ∨ k ∈ keys := by
  induction keys with
  | nil => simp [place]
  | cons head rest ih =>
      simp only [place]
      split
      next h => simp
      next h =>
        have : key = head := Std.LawfulEqCmp.eq_of_compare h
        simp [this]
      next h =>
        simp only [List.mem_cons, ih]
        grind

theorem place_ordered (key : Key) {keys : List Key} (h : keys.Pairwise Key.Before) :
    (place key keys).Pairwise Key.Before := by
  induction keys with
  | nil => simp [place]
  | cons head rest ih =>
      obtain ⟨hhead, hrest⟩ := List.pairwise_cons.1 h
      simp only [place]
      split
      next hlt =>
        refine List.pairwise_cons.2 ⟨fun k hk => ?_, h⟩
        rcases List.mem_cons.1 hk with rfl | hk
        · exact hlt
        · exact Key.Before.trans hlt (hhead k hk)
      next => exact h
      next hgt =>
        refine List.pairwise_cons.2 ⟨fun k hk => ?_, ih hrest⟩
        rcases mem_place.1 hk with rfl | hk
        · exact Std.OrientedCmp.gt_iff_lt.1 hgt
        · exact hhead k hk

def insert (used : Used) (key : Key) : Used :=
  ⟨place key used.keys, place_ordered key used.ordered⟩

def ofList (keys : List Key) : Used :=
  keys.foldl insert ∅

/-- The keys of either set. -/
def union (used other : Used) : Used :=
  other.keys.foldl insert used

/-! ## Sequencing -/

/-- The used set of two parts run one after the other, the first from `start` and the second up
to `stop`.  Once the whole has moved on, the second part cannot have been curtailed by a recursion
that began at `start`, so only the first part's set is kept. -/
def sequenced (start stop : Nat) (first second : Used) : Used :=
  if start = stop then first.union second else first

@[simp]
theorem mem_insert {used : Used} {key k : Key} : k ∈ used.insert key ↔ k = key ∨ k ∈ used :=
  mem_place

theorem mem_foldl_insert {keys : List Key} {base : Used} {k : Key} :
    k ∈ keys.foldl insert base ↔ k ∈ base ∨ k ∈ keys := by
  induction keys generalizing base with
  | nil => simp
  | cons head rest ih =>
      rw [List.foldl_cons, ih, mem_insert, List.mem_cons]
      grind

@[simp]
theorem mem_union {used other : Used} {k : Key} : k ∈ used.union other ↔ k ∈ used ∨ k ∈ other :=
  mem_foldl_insert

@[simp]
theorem mem_ofList {keys : List Key} {k : Key} : k ∈ ofList keys ↔ k ∈ keys :=
  mem_foldl_insert.trans (or_iff_right List.not_mem_nil)

end Used

end LeftRec
