import Mathlib.Data.List.Sort
import LeftRec.Context

/-!
# Contexts as maps, used sets as sets

Setting a depth changes what is tracked for one rule, and pruning forgets the rules outside a set.
Two contexts that track the same are equal, and so are two used sets with the same keys.
-/

namespace LeftRec

/-! ## The order of keys -/

instance : Std.Irrefl Key.Before := ⟨Key.Before.irrefl⟩

instance : Std.Antisymm Key.Before :=
  ⟨fun a _ hab hba => (Key.Before.irrefl a (hab.trans hba)).elim⟩

instance : Std.Irrefl fun a b : Key × Nat => a.1.Before b.1 := ⟨fun a => Key.Before.irrefl a.1⟩

instance : Std.Antisymm fun a b : Key × Nat => a.1.Before b.1 :=
  ⟨fun a _ hab hba => (Key.Before.irrefl a.1 (hab.trans hba)).elim⟩

/-! ## Used sets as sets -/

namespace Used

/-- Used sets with the same keys are equal. -/
theorem eq_of_mem_iff {used other : Used} (h : ∀ key, key ∈ used ↔ key ∈ other) :
    used = other := by
  ext1
  exact used.ordered.eq_of_mem_iff other.ordered h

theorem not_mem_empty (key : Key) : key ∉ (∅ : Used) :=
  List.not_mem_nil

theorem union_assoc (first second third : Used) :
    (first.union second).union third = first.union (second.union third) := by
  refine eq_of_mem_iff fun key => ?_
  simp only [mem_union, or_assoc]

theorem empty_union (used : Used) : (∅ : Used).union used = used := by
  refine eq_of_mem_iff fun key => ?_
  rw [mem_union, or_iff_right (not_mem_empty key)]

theorem sequenced_here (pos : Nat) (first second : Used) :
    sequenced pos pos first second = first.union second :=
  if_pos rfl

theorem sequenced_of_ne {start stop : Nat} (h : start ≠ stop) (first second : Used) :
    sequenced start stop first second = first :=
  if_neg h

end Used

/-! ## Contexts -/

namespace Context

variable {ctx : Context} {key other : Key}

/-! ### Setting a depth -/

@[simp]
theorem get?_empty (key : Key) : (∅ : Context).get? key = none := rfl

theorem lookup_cons (other k : Key) (d : Nat) (rest : List (Key × Nat)) :
    ((k, d) :: rest).lookup other = if other = k then some d else rest.lookup other := by
  rw [List.lookup_cons]
  by_cases h : other = k
  · simp [h]
  · have hbeq : (other == k) = false := beq_eq_false_iff_ne.2 h
    simp [h, hbeq]

theorem lookup_place (key other : Key) (depth : Nat) (depths : List (Key × Nat)) :
    (place key depth depths).lookup other =
      if other = key then some depth else depths.lookup other := by
  induction depths with
  | nil => simp [place, lookup_cons]
  | cons head rest ih =>
      obtain ⟨k, d⟩ := head
      simp only [place]
      split
      next => rw [lookup_cons]
      next heq =>
        obtain rfl : key = k := Std.LawfulEqCmp.eq_of_compare heq
        rw [lookup_cons, lookup_cons]
        split
        · rfl
        · rfl
      next hgt =>
        have hne : k ≠ key := by
          rintro rfl
          simp at hgt
        rw [lookup_cons, lookup_cons, ih]
        by_cases h : other = k
        · rw [if_pos h, if_pos h, if_neg (h ▸ hne)]
        · rw [if_neg h, if_neg h]

theorem get?_withDepth (depth : Nat) :
    (ctx.withDepth key depth).get? other = if other = key then some depth else ctx.get? other :=
  lookup_place key other depth ctx.depths

theorem depth_withDepth (depth : Nat) :
    (ctx.withDepth key depth).depth other = if other = key then depth else ctx.depth other := by
  rw [Context.depth, get?_withDepth]
  split
  · rfl
  · rfl

/-! ### Carrying and pruning -/

theorem carried_self (ctx : Context) (pos : Nat) : ctx.carried pos pos = ctx :=
  if_pos rfl

theorem carried_empty (start stop : Nat) : (∅ : Context).carried start stop = ∅ := by
  unfold carried
  split
  · rfl
  · rfl

theorem pruned_empty (ctx : Context) : ctx.pruned ∅ = ∅ := by
  ext1
  exact List.filter_eq_nil_iff.2 fun _ _ => Bool.false_ne_true

/-- An entry of the list is what is tracked for its key. -/
theorem get?_of_mem {entry : Key × Nat} (h : entry ∈ ctx.depths) :
    ctx.get? entry.1 = some entry.2 := by
  obtain ⟨depths, ordered⟩ := ctx
  show depths.lookup entry.1 = some entry.2
  change entry ∈ depths at h
  induction depths with
  | nil => cases h
  | cons head rest ih =>
      obtain ⟨hhead, hrest⟩ := List.pairwise_cons.1 ordered
      rw [lookup_cons]
      rcases List.mem_cons.1 h with rfl | hmem
      · rw [if_pos rfl]
      · -- Keys increase along the list, so an entry further on has another key.
        have hne : entry.1 ≠ head.1 := fun heq => (hhead entry hmem).ne heq.symm
        rw [if_neg hne]
        exact ih hrest hmem

theorem mem_depths_iff {entry : Key × Nat} :
    entry ∈ ctx.depths ↔ ctx.get? entry.1 = some entry.2 := by
  refine ⟨get?_of_mem, fun h => ?_⟩
  obtain ⟨depths, ordered⟩ := ctx
  change depths.lookup entry.1 = some entry.2 at h
  show entry ∈ depths
  clear ordered
  induction depths with
  | nil => cases h
  | cons head rest ih =>
      obtain ⟨k, d⟩ := head
      rw [lookup_cons] at h
      split at h
      next hkey =>
        have hentry : entry = (k, d) := Prod.ext hkey (Option.some.inj h).symm
        rw [hentry]
        exact List.mem_cons_self
      next => exact List.mem_cons_of_mem _ (ih h)

theorem get?_pruned {used : Used} {key : Key} (h : key ∈ used) :
    (ctx.pruned used).get? key = ctx.get? key := by
  refine Option.ext fun depth => ?_
  have hfilter : (key, depth) ∈ (ctx.pruned used).depths ↔ (key, depth) ∈ ctx.depths := by
    show (key, depth) ∈ ctx.depths.filter _ ↔ _
    rw [List.mem_filter]
    exact and_iff_left (decide_eq_true h)
  exact mem_depths_iff.symm.trans (hfilter.trans mem_depths_iff)

/-- Pruning leaves only the keys of the used set. -/
theorem mem_of_mem_pruned {used : Used} {entry : Key × Nat}
    (h : entry ∈ (ctx.pruned used).depths) : entry.1 ∈ used :=
  of_decide_eq_true (List.mem_filter.1 h).2

theorem get?_pruned_of_not_mem {used : Used} {key : Key} (h : key ∉ used) :
    (ctx.pruned used).get? key = none := by
  cases hget : (ctx.pruned used).get? key with
  | none => rfl
  | some depth =>
      have hmem : (key, depth) ∈ (ctx.pruned used).depths := mem_depths_iff.2 hget
      exact absurd (mem_of_mem_pruned hmem) h

/-- Contexts that track the same are equal. -/
theorem eq_of_get?_eq {other : Context} (h : ∀ key, ctx.get? key = other.get? key) :
    ctx = other := by
  ext1
  refine ctx.ordered.eq_of_mem_iff other.ordered fun entry => ?_
  rw [mem_depths_iff, mem_depths_iff, h]

/-- What was found under a context may be reused under it, whatever it depends on. -/
theorem canReuse_pruned (ctx : Context) (used : Used) :
    ctx.canReuse (ctx.pruned used) = true := by
  refine List.all_eq_true.2 fun entry hentry => ?_
  have hmem : entry ∈ ctx.depths := (List.mem_filter.1 hentry).1
  rw [get?_of_mem hmem]
  simp

/-- None of the keys is tracked. -/
def Untracked (keys : List Key) (ctx : Context) : Prop :=
  ∀ k ∈ keys, ctx.get? k = none

theorem untracked_empty (keys : List Key) : (∅ : Context).Untracked keys :=
  fun _ _ => rfl

theorem Untracked.mono {keys more : List Key} (h : ctx.Untracked more)
    (hkeys : ∀ k ∈ keys, k ∈ more) : ctx.Untracked keys :=
  fun k hk => h k (hkeys k hk)

theorem Untracked.withDepth {keys : List Key} (h : ctx.Untracked keys) (hkey : key ∉ keys)
    (depth : Nat) : (ctx.withDepth key depth).Untracked keys := by
  intro k hk
  have hne : k ≠ key := fun heq => hkey (heq ▸ hk)
  rw [get?_withDepth, if_neg hne]
  exact h k hk

/-- An outcome that depends on untracked rules only is stored under the empty context. -/
theorem Untracked.pruned {keys : List Key} (h : ctx.Untracked keys) {used : Used}
    (hused : ∀ k ∈ used, k ∈ keys) : ctx.pruned used = ∅ := by
  ext1
  refine List.filter_eq_nil_iff.2 fun entry hentry hcontains => ?_
  have hkey : entry.1 ∈ used := of_decide_eq_true hcontains
  have hnone := h entry.1 (hused entry.1 hkey)
  rw [get?_of_mem hentry] at hnone
  cases hnone

/-! ### Contexts that agree on some keys -/

/-- The context tracks the same as another one for some keys, and no greater depth for any. -/
structure Under (keys : Key → Prop) (ctx other : Context) : Prop where
  same : ∀ key, keys key → ctx.get? key = other.get? key
  le : ∀ key, ctx.depth key ≤ other.depth key

namespace Under

variable {keys : Key → Prop} {ctx ctx' stored : Context} {key : Key}

theorem refl (keys : Key → Prop) (ctx : Context) : ctx.Under keys ctx :=
  ⟨fun _ _ => rfl, fun _ => Nat.le_refl _⟩

theorem carried (h : ctx'.Under keys ctx) (start stop : Nat) :
    (ctx'.carried start stop).Under keys (ctx.carried start stop) := by
  unfold Context.carried
  split
  · exact h
  · exact .refl keys ∅

theorem depth_eq (h : ctx'.Under keys ctx) (hkey : keys key) : ctx'.depth key = ctx.depth key := by
  rw [Context.depth, h.same key hkey, Context.depth]

/-- Entering a body under either context. -/
theorem deeper (h : ctx'.Under keys ctx) (key : Key) :
    (ctx'.withDepth key (ctx'.depth key + 1)).Under keys
      (ctx.withDepth key (ctx.depth key + 1)) where
  same other hother := by
    rw [get?_withDepth, get?_withDepth]
    split
    next heq => rw [h.depth_eq (heq ▸ hother)]
    next => exact h.same other hother
  le other := by
    rw [depth_withDepth, depth_withDepth]
    split
    · exact Nat.succ_le_succ (h.le key)
    · exact h.le other

/-- What was stored under those keys may be reused under both contexts or under neither. -/
theorem canReuse_eq (h : ctx'.Under keys ctx) (hstored : ∀ entry ∈ stored.depths, keys entry.1) :
    ctx'.canReuse stored = ctx.canReuse stored := by
  rw [Bool.eq_iff_iff]
  unfold canReuse
  rw [List.all_eq_true, List.all_eq_true]
  refine forall_congr' fun entry => forall_congr' fun hentry => ?_
  rw [h.same entry.1 (hstored entry hentry)]

theorem pruned_eq (h : ctx'.Under keys ctx) {used : Used} (hused : ∀ key ∈ used, keys key) :
    ctx'.pruned used = ctx.pruned used := by
  ext1
  refine (ctx'.pruned used).ordered.eq_of_mem_iff (ctx.pruned used).ordered fun entry => ?_
  show entry ∈ ctx'.depths.filter _ ↔ entry ∈ ctx.depths.filter _
  rw [List.mem_filter, List.mem_filter, mem_depths_iff, mem_depths_iff]
  refine and_congr_left fun hcontains => ?_
  have hkey : entry.1 ∈ used := of_decide_eq_true hcontains
  rw [h.same entry.1 (hused entry.1 hkey)]

end Under

/-! ### Contexts that track more -/

/-- Every rule that the first context tracks is tracked at least as deeply by the second one. -/
def Le (ctx deeper : Context) : Prop :=
  ∀ key depth, ctx.get? key = some depth → ∃ more, deeper.get? key = some more ∧ depth ≤ more

section Le

variable {deeper deepest : Context}

theorem Le.refl (ctx : Context) : ctx.Le ctx :=
  fun _ depth h => ⟨depth, h, Nat.le_refl _⟩

theorem Le.trans (h : ctx.Le deeper) (h' : deeper.Le deepest) : ctx.Le deepest := by
  intro key depth hget
  obtain ⟨more, hmore, hle⟩ := h key depth hget
  obtain ⟨most, hmost, hle'⟩ := h' key more hmore
  exact ⟨most, hmost, Nat.le_trans hle hle'⟩

theorem Le.depth_le (h : ctx.Le deeper) (key : Key) : ctx.depth key ≤ deeper.depth key := by
  unfold depth
  cases hget : ctx.get? key with
  | none => exact Nat.zero_le _
  | some depth =>
      obtain ⟨more, hmore, hle⟩ := h key depth hget
      rw [hmore]
      exact hle

theorem le_withDepth (ctx : Context) (key : Key) :
    ctx.Le (ctx.withDepth key (ctx.depth key + 1)) := by
  intro other depth hget
  rw [get?_withDepth]
  by_cases hkey : other = key
  · subst hkey
    refine ⟨_, if_pos rfl, ?_⟩
    rw [Context.depth, hget, Option.getD_some]
    exact Nat.le_succ depth
  · exact ⟨depth, by rw [if_neg hkey, hget], Nat.le_refl _⟩

/-- What was stored may be reused just where every rule that it depends on is tracked as deeply. -/
theorem canReuse_iff_le {stored : Context} : ctx.canReuse stored = true ↔ stored.Le ctx := by
  unfold canReuse
  rw [List.all_eq_true]
  constructor
  · intro h key depth hget
    obtain ⟨more, hmore, hle⟩ := (Option.any_eq_true _ _).1 (h (key, depth) (mem_depths_iff.2 hget))
    exact ⟨more, hmore, of_decide_eq_true hle⟩
  · intro h entry hentry
    obtain ⟨more, hmore, hle⟩ := h entry.1 entry.2 (get?_of_mem hentry)
    exact (Option.any_eq_true _ _).2 ⟨more, hmore, decide_eq_true hle⟩

/-- What was found where a rule that it depends on was tracked more deeply may not be reused. -/
theorem depth_le_of_canReuse {used : Used} (h : ctx.canReuse (deeper.pruned used) = true)
    (hkey : key ∈ used) : deeper.depth key ≤ ctx.depth key := by
  have hle := (canReuse_iff_le.1 h).depth_le key
  rw [depth, get?_pruned hkey] at hle
  exact hle

end Le

/-! ### Entering one rule again and again -/

/-- The contexts inside a rule that has been entered so often at one position. -/
def tracking (key : Key) : Nat → Context
  | 0 => ∅
  | depth + 1 => (∅ : Context).withDepth key (depth + 1)

section Tracking

variable (key : Key) (depth : Nat)

@[simp]
theorem depth_tracking : (tracking key depth).depth key = depth := by
  cases depth with
  | zero => rfl
  | succ depth => rw [tracking, depth_withDepth, if_pos rfl]

theorem depths_tracking : (tracking key (depth + 1)).depths = [(key, depth + 1)] := rfl

@[simp]
theorem withDepth_tracking :
    (tracking key depth).withDepth key (depth + 1) = tracking key (depth + 1) := by
  cases depth with
  | zero => rfl
  | succ depth =>
      ext1
      simp [withDepth, depths_tracking, place]

@[simp]
theorem pruned_tracking : (tracking key depth).pruned (.single key) = tracking key depth := by
  cases depth with
  | zero => rfl
  | succ depth =>
      have hmem : key ∈ Used.single key := List.mem_singleton.2 rfl
      ext1
      simp [pruned, depths_tracking, Used.contains, hmem]

/-- An outcome from one level further inside is no outcome of this level. -/
@[simp]
theorem canReuse_tracking :
    (tracking key depth).canReuse (tracking key (depth + 1)) = false := by
  cases depth with
  | zero => rfl
  | succ depth => simp [canReuse, depths_tracking, get?, lookup_cons]

end Tracking

end Context
end LeftRec
