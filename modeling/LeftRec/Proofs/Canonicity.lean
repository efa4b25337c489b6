import Mathlib.Data.Finset.Dedup
import Mathlib.Data.Finset.Insert
import Mathlib.Data.Finset.Lattice.Basic
import Mathlib.Order.Defs.Unbundled
import LeftRec.Proofs.Bisection

/-!
# Canonicity — one vector for each map and each set

However used sets and contexts are put together, from empty ones and from one another, what comes
out is the one vector, in the order of keys, for the set or the map that is meant.  So they are
equal just when they mean the same, and the laws of sets hold of them as they are.  That an outcome
may be reused is a partial order of contexts.
-/

namespace LeftRec

/-! ## Used sets -/

namespace Used

/-- How a used set is put together. -/
inductive Construction
  | empty
  | single (key : Key)
  | insert (set : Construction) (key : Key)
  | union (first second : Construction)
  | ofList (keys : List Key)
  | sequenced (start stop : Nat) (first second : Construction)

namespace Construction

/-- The used set that comes out. -/
def value : Construction → Used
  | empty => ∅
  | single key => .single key
  | insert set key => set.value.insert key
  | union first second => first.value.union second.value
  | ofList keys => .ofList keys
  | sequenced start stop first second => .sequenced start stop first.value second.value

/-- The bare vector that comes out when vectors are searched by halves. -/
def vector : Construction → List Key
  | empty => []
  | single key => [key]
  | insert set key => Bisected.insert set.vector key
  | union first second => Bisected.union first.vector second.vector
  | ofList keys => Bisected.ofList keys
  | sequenced start stop first second => Bisected.sequenced start stop first.vector second.vector

/-- The set that is meant. -/
def members : Construction → Finset Key
  | empty => ∅
  | single key => {key}
  | insert set key => Insert.insert key set.members
  | union first second => first.members ∪ second.members
  | ofList keys => keys.toFinset
  | sequenced start stop first second =>
      if start = stop then first.members ∪ second.members else first.members

theorem vector_eq (set : Construction) : set.vector = set.value.keys := by
  induction set with
  | empty | single => rfl
  | insert set key ih => rw [vector, ih, Bisected.insert_keys, value]
  | union first second ih ih' => rw [vector, ih, ih', Bisected.union_keys, value]
  | ofList keys => exact Bisected.ofList_keys keys
  | sequenced start stop first second ih ih' =>
      rw [vector, ih, ih', Bisected.sequenced_keys, value]

theorem mem_value_iff {set : Construction} {key : Key} :
    key ∈ set.value ↔ key ∈ set.members := by
  induction set with
  | empty => exact iff_of_false (not_mem_empty key) (Finset.notMem_empty key)
  | single k => exact List.mem_singleton.trans Finset.mem_singleton.symm
  | insert set k ih => rw [value, members, mem_insert, Finset.mem_insert, ih]
  | union first second ih ih' => rw [value, members, mem_union, Finset.mem_union, ih, ih']
  | ofList keys => rw [value, members, mem_ofList, List.mem_toFinset]
  | sequenced start stop first second ih ih' =>
      unfold value members Used.sequenced
      split
      · rw [mem_union, Finset.mem_union, ih, ih']
      · exact ih

/-- Used sets are equal just when the same set is meant. -/
theorem value_eq_iff {set other : Construction} :
    set.value = other.value ↔ set.members = other.members := by
  rw [Finset.ext_iff]
  constructor
  · intro h key
    rw [← mem_value_iff, h, mem_value_iff]
  · intro h
    refine eq_of_mem_iff fun key => ?_
    rw [mem_value_iff, h, mem_value_iff]

theorem vector_eq_iff {set other : Construction} :
    set.vector = other.vector ↔ set.members = other.members := by
  rw [vector_eq, vector_eq, ← Used.ext_iff, value_eq_iff]

theorem vector_ordered (set : Construction) : set.vector.Pairwise Key.Before := by
  rw [vector_eq]
  exact set.value.ordered

theorem contains_value_iff (set : Construction) (key : Key) :
    set.value.contains key = true ↔ key ∈ set.members :=
  (decide_eq_true_iff (p := key ∈ set.value)).trans mem_value_iff

theorem contains_vector_iff (set : Construction) (key : Key) :
    Bisected.contains set.vector key = true ↔ key ∈ set.members := by
  rw [vector_eq, Bisected.contains_keys, contains_value_iff]

end Construction

theorem union_comm (first second : Used) : first.union second = second.union first := by
  refine eq_of_mem_iff fun key => ?_
  rw [mem_union, mem_union, or_comm]

theorem union_self (used : Used) : used.union used = used := by
  refine eq_of_mem_iff fun key => ?_
  rw [mem_union, or_self]

end Used

/-! ## Contexts -/

namespace Context

/-- How a context is put together. -/
inductive Construction
  | empty
  | withDepth (ctx : Construction) (key : Key) (depth : Nat)
  | pruned (ctx : Construction) (used : Used.Construction)
  | carried (ctx : Construction) (start stop : Nat)

namespace Construction

/-- The context that comes out. -/
def value : Construction → Context
  | empty => ∅
  | withDepth ctx key depth => ctx.value.withDepth key depth
  | pruned ctx used => ctx.value.pruned used.value
  | carried ctx start stop => ctx.value.carried start stop

/-- The bare vector that comes out when vectors are searched by halves. -/
def vector : Construction → List (Key × Nat)
  | empty => []
  | withDepth ctx key depth => Bisected.withDepth ctx.vector key depth
  | pruned ctx used => Bisected.pruned ctx.vector used.vector
  | carried ctx start stop => Bisected.carried ctx.vector start stop

/-- The map that is meant: the depth that was set last counts, and pruning restricts. -/
def map : Construction → Key → Option Nat
  | empty => fun _ => none
  | withDepth ctx key depth => Function.update ctx.map key (some depth)
  | pruned ctx used => fun key => if key ∈ used.members then ctx.map key else none
  | carried ctx start stop => if start = stop then ctx.map else fun _ => none

theorem vector_eq (ctx : Construction) : ctx.vector = ctx.value.depths := by
  induction ctx with
  | empty => rfl
  | withDepth ctx key depth ih => rw [vector, ih, Bisected.withDepth_depths, value]
  | pruned ctx used ih => rw [vector, ih, used.vector_eq, Bisected.pruned_depths, value]
  | carried ctx start stop ih => rw [vector, ih, Bisected.carried_depths, value]

theorem get?_value (ctx : Construction) (key : Key) : ctx.value.get? key = ctx.map key := by
  induction ctx with
  | empty => rfl
  | withDepth ctx k depth ih => rw [value, map, get?_withDepth, Function.update_apply, ih]
  | pruned ctx used ih =>
      simp only [value, map, ← Used.Construction.mem_value_iff]
      split
      next hused => rw [get?_pruned hused, ih]
      next hused => exact get?_pruned_of_not_mem hused
  | carried ctx start stop ih =>
      rw [value, map, Context.carried]
      split
      · exact ih
      · rfl

/-- Contexts are equal just when the same map is meant. -/
theorem value_eq_iff {ctx other : Construction} :
    ctx.value = other.value ↔ ctx.map = other.map := by
  rw [funext_iff]
  constructor
  · intro h key
    rw [← get?_value, h, get?_value]
  · intro h
    refine eq_of_get?_eq fun key => ?_
    rw [get?_value, h, get?_value]

theorem vector_eq_iff {ctx other : Construction} :
    ctx.vector = other.vector ↔ ctx.map = other.map := by
  rw [vector_eq, vector_eq, ← Context.ext_iff, value_eq_iff]

theorem vector_ordered (ctx : Construction) :
    ctx.vector.Pairwise fun a b => a.1.Before b.1 := by
  rw [vector_eq]
  exact ctx.value.ordered

theorem get?_vector (ctx : Construction) (key : Key) :
    Bisected.get? ctx.vector key = ctx.map key := by
  rw [vector_eq, Bisected.get?_depths, get?_value]

theorem depth_value (ctx : Construction) (key : Key) :
    ctx.value.depth key = (ctx.map key).getD 0 := by
  rw [Context.depth, get?_value]

theorem depth_vector (ctx : Construction) (key : Key) :
    Bisected.depth ctx.vector key = (ctx.map key).getD 0 := by
  rw [Bisected.depth, get?_vector]

end Construction

/-! ## Reuse -/

variable {ctx deeper : Context}

theorem Le.get?_eq (h : ctx.Le deeper) (h' : deeper.Le ctx) {key : Key} {depth : Nat}
    (hget : ctx.get? key = some depth) : deeper.get? key = some depth := by
  obtain ⟨more, hmore, hle⟩ := h key depth hget
  obtain ⟨most, hmost, hle'⟩ := h' key more hmore
  obtain rfl : most = depth := Option.some.inj (hmost.symm.trans hget)
  rw [hmore, Nat.le_antisymm hle' hle]

/-- Contexts of which each tracks the other's rules as deeply track the same. -/
theorem Le.antisymm (h : ctx.Le deeper) (h' : deeper.Le ctx) : ctx = deeper :=
  eq_of_get?_eq fun _ => Option.ext fun _ => ⟨h.get?_eq h', h'.get?_eq h⟩

theorem isPartialOrder_canReuse :
    IsPartialOrder Context fun stored ctx => ctx.canReuse stored = true where
  refl ctx := canReuse_iff_le.2 (.refl ctx)
  trans _ _ _ h h' := canReuse_iff_le.2 ((canReuse_iff_le.1 h).trans (canReuse_iff_le.1 h'))
  antisymm _ _ h h' := (canReuse_iff_le.1 h).antisymm (canReuse_iff_le.1 h')

namespace Construction

variable (ctx stored : Construction)

theorem canReuse_value_iff :
    ctx.value.canReuse stored.value = true ↔ ∀ key depth, stored.map key = some depth →
      ∃ more, ctx.map key = some more ∧ depth ≤ more := by
  rw [canReuse_iff_le]
  unfold Le
  simp only [get?_value]

theorem canReuse_vector :
    Bisected.canReuse ctx.vector stored.vector = ctx.value.canReuse stored.value := by
  rw [vector_eq, vector_eq, Bisected.canReuse_depths]

end Construction

end Context

/-! ## All that is put together -/

/-- Whatever used sets and contexts are put together by their operations, from empty ones on:
the bare vectors, searched by halves at every step, are strictly increasing in the order of keys and
the same as in the library's types; being a member, a depth and reuse are told from either as from
the set and the map that are meant; and two of them are equal just when what is meant is the same.
Union is associative, commutative and idempotent.  A context allows the reuse of what was stored
under another one just when it tracks every key of that as deeply, which is a partial order, and it
always allows the reuse of what was stored under its own pruning. -/
theorem constructions_canonical :
    (∀ set : Used.Construction,
      set.vector.Pairwise Key.Before ∧ set.value.keys = set.vector ∧
      ∀ key, (Used.Bisected.contains set.vector key = true ↔ key ∈ set.members) ∧
        (set.value.contains key = true ↔ key ∈ set.members)) ∧
    (∀ set other : Used.Construction,
      (set.vector = other.vector ↔ set.members = other.members) ∧
      (set.value = other.value ↔ set.members = other.members)) ∧
    (∀ first second third : Used,
      (first.union second).union third = first.union (second.union third) ∧
      first.union second = second.union first ∧ first.union first = first) ∧
    (∀ ctx : Context.Construction,
      ctx.vector.Pairwise (fun a b => a.1.Before b.1) ∧ ctx.value.depths = ctx.vector ∧
      ∀ key, Context.Bisected.get? ctx.vector key = ctx.map key ∧
        ctx.value.get? key = ctx.map key ∧
        Context.Bisected.depth ctx.vector key = (ctx.map key).getD 0 ∧
        ctx.value.depth key = (ctx.map key).getD 0) ∧
    (∀ ctx other : Context.Construction,
      (ctx.vector = other.vector ↔ ctx.map = other.map) ∧
      (ctx.value = other.value ↔ ctx.map = other.map)) ∧
    (∀ ctx stored : Context.Construction,
      Context.Bisected.canReuse ctx.vector stored.vector = ctx.value.canReuse stored.value ∧
      (ctx.value.canReuse stored.value = true ↔ ∀ key depth, stored.map key = some depth →
        ∃ more, ctx.map key = some more ∧ depth ≤ more)) ∧
    IsPartialOrder Context (fun stored ctx => ctx.canReuse stored = true) ∧
    ∀ (ctx : Context) (used : Used), ctx.canReuse (ctx.pruned used) = true := by
  refine ⟨fun set => ?_, fun set other => ?_, fun first second third => ?_, fun ctx => ?_,
    fun ctx other => ?_, fun ctx stored => ?_, Context.isPartialOrder_canReuse,
    Context.canReuse_pruned⟩
  · exact ⟨set.vector_ordered, set.vector_eq.symm, fun key =>
      ⟨set.contains_vector_iff key, set.contains_value_iff key⟩⟩
  · exact ⟨Used.Construction.vector_eq_iff, Used.Construction.value_eq_iff⟩
  · exact ⟨Used.union_assoc first second third, Used.union_comm first second, Used.union_self first⟩
  · exact ⟨ctx.vector_ordered, ctx.vector_eq.symm, fun key =>
      ⟨ctx.get?_vector key, ctx.get?_value key, ctx.depth_vector key, ctx.depth_value key⟩⟩
  · exact ⟨Context.Construction.vector_eq_iff, Context.Construction.value_eq_iff⟩
  · exact ⟨ctx.canReuse_vector stored, ctx.canReuse_value_iff stored⟩

/-- Numbers stand before names, the depth of `b` is the one set last, and `a` is pruned away. -/
example :
    let ctx := ((Context.Construction.empty.withDepth (.name "b") 2).withDepth (.id 7) 1).withDepth
      (.name "a") 4
    let used := (Used.Construction.single (.name "b")).union (.ofList [.id 9, .id 7])
    ((ctx.withDepth (.name "b") 5).pruned used).vector = [(.id 7, 1), (.name "b", 5)] := by
  decide +kernel

end LeftRec
