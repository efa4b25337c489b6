import LeftRec.Used

/-!
# Contexts — how deeply each rule has recursed where it stands

While nothing is consumed, a context says for every memoized rule that is being run how many times
it has been entered at the present position.  Consuming input starts again from the empty context.
Contexts are strictly increasing association lists, so that equal maps are equal values.
-/

namespace LeftRec

/-- The recursion depths of the rules being run at a position, in key order. -/
@[ext]
structure Context where
  depths : List (Key × Nat)
  ordered : depths.Pairwise fun a b => a.1.Before b.1
  deriving DecidableEq

namespace Context

/-! ## Reading -/

instance : EmptyCollection Context := ⟨⟨[], .nil⟩⟩

instance : Inhabited Context := ⟨∅⟩

def isEmpty (ctx : Context) : Bool :=
  ctx.depths.isEmpty

/-- The depth tracked for `key`, if any. -/
def get? (ctx : Context) (key : Key) : Option Nat :=
  ctx.depths.lookup key

/-- The depth tracked for `key`, or zero. -/
def depth (ctx : Context) (key : Key) : Nat :=
  (ctx.get? key).getD 0

/-! ## Setting a depth -/

/-- Depths are counted in 32 bits. -/
def depthLimit : Nat := 0xffffffff

/-- Set the depth of `key` in an increasing association list. -/
def place (key : Key) (depth : Nat) : List (Key × Nat) → List (Key × Nat)
  | [] => [(key, depth)]
  | (k, d) :: rest =>
      match compare key k with
      | .lt => (key, depth) :: (k, d) :: rest
      | .eq => (key, depth) :: rest
      | .gt => (k, d) :: place key depth rest

theorem key_of_mem_place {key : Key} {depth : Nat} {depths : List (Key × Nat)} {x : Key × Nat}
    (h : x ∈ place key depth depths) : x.1 = key ∨ x ∈ depths := by
  induction depths with
  | nil =>
      simp only [place, List.mem_singleton] at h
      exact .inl (by rw [h])
  | cons head rest ih =>
      simp only [place] at h
      split at h
      · rcases List.mem_cons.1 h with rfl | h
        · exact .inl rfl
        · exact .inr h
      · rcases List.mem_cons.1 h with rfl | h
        · exact .inl rfl
        · exact .inr (List.mem_cons_of_mem _ h)
      · rcases List.mem_cons.1 h with rfl | h
        · exact .inr List.mem_cons_self
        · exact (ih h).imp id (List.mem_cons_of_mem _)

theorem place_ordered (key : Key) (depth : Nat) {depths : List (Key × Nat)}
    (h : depths.Pairwise fun a b => a.1.Before b.1) :
    (place key depth depths).Pairwise fun a b => a.1.Before b.1 := by
  induction depths with
  | nil => simp [place]
  | cons head rest ih =>
      obtain ⟨hhead, hrest⟩ := List.pairwise_cons.1 h
      simp only [place]
      split
      next hlt =>
        refine List.pairwise_cons.2 ⟨fun x hx => ?_, h⟩
        rcases List.mem_cons.1 hx with rfl | hx
        · exact hlt
        · exact Key.Before.trans hlt (hhead x hx)
      next heq =>
        have : key = head.1 := Std.LawfulEqCmp.eq_of_compare heq
        exact List.pairwise_cons.2 ⟨fun x hx => this ▸ hhead x hx, hrest⟩
      next hgt =>
        refine List.pairwise_cons.2 ⟨fun x hx => ?_, ih hrest⟩
        rcases key_of_mem_place hx with hkey | hx
        · rw [hkey]
          exact Std.OrientedCmp.gt_iff_lt.1 hgt
        · exact hhead x hx

/-- The same depths but for `key`, which gets `depth`. -/
def withDepth (ctx : Context) (key : Key) (depth : Nat) : Context :=
  ⟨place key depth ctx.depths, place_ordered key depth ctx.ordered⟩

def ofList (depths : List (Key × Nat)) : Context :=
  depths.foldl (fun ctx entry => ctx.withDepth entry.1 entry.2) ∅

/-! ## Reuse and restriction -/

/-- Whether an outcome found under `stored` holds here too: every rule that it depended on must
have recursed at least as deeply here.  A rule that is not tracked here never has. -/
def canReuse (ctx stored : Context) : Bool :=
  stored.depths.all fun entry => (ctx.get? entry.1).any (entry.2 ≤ ·)

/-- Only the depths of the keys in `used`. -/
def pruned (ctx : Context) (used : Used) : Context :=
  ⟨ctx.depths.filter fun entry => used.contains entry.1, ctx.ordered.filter _⟩

/-- The context of a part that runs after another one went from `start` to `stop`. -/
def carried (ctx : Context) (start stop : Nat) : Context :=
  if start = stop then ctx else ∅

end Context

end LeftRec
