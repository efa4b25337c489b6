import Mathlib.Data.List.Nodup
import LeftRec.Parser
import LeftRec.Proofs.ContextMap

/-!
# Renaming — other keys for the same rules

Renaming gives every memoized rule another key.  Contexts and used sets are sorted by key and so
have to be sorted anew, but as long as distinct keys stay distinct, all that a parse asks of them is
the same for the new keys as for the old ones.
-/

namespace LeftRec

variable {r : Key → Key}

/-! ## Used sets -/

namespace Used

/-- The set of the new keys. -/
def rename (r : Key → Key) (used : Used) : Used :=
  ofList (used.keys.map r)

variable {used other : Used} {key : Key}

theorem mem_rename : key ∈ used.rename r ↔ ∃ k ∈ used, r k = key :=
  mem_ofList.trans List.mem_map

theorem mem_rename_self (hr : Function.Injective r) : r key ∈ used.rename r ↔ key ∈ used := by
  rw [mem_rename]
  constructor
  · rintro ⟨k, hk, heq⟩
    exact hr heq ▸ hk
  · intro hkey
    exact ⟨key, hkey, rfl⟩

@[simp]
theorem rename_empty : (∅ : Used).rename r = ∅ := rfl

theorem rename_single : (single key).rename r = single (r key) := rfl

@[simp]
theorem rename_union : (used.union other).rename r = (used.rename r).union (other.rename r) := by
  refine eq_of_mem_iff fun k => ?_
  simp only [mem_rename, mem_union, or_and_right, exists_or]

theorem rename_sequenced (start stop : Nat) :
    (sequenced start stop used other).rename r =
      sequenced start stop (used.rename r) (other.rename r) := by
  unfold sequenced
  rw [apply_ite (rename r), rename_union]

@[simp]
theorem rename_id : used.rename id = used := by
  refine eq_of_mem_iff fun k => ?_
  simp only [mem_rename, id, exists_eq_right]

end Used

/-! ## Contexts -/

namespace Context

/-- The depths of the new keys. -/
def rename (r : Key → Key) (ctx : Context) : Context :=
  ofList (ctx.depths.map fun entry => (r entry.1, entry.2))

variable {ctx stored : Context} {key : Key}

/-- Of several depths set one after the other, each is tracked if their keys are distinct. -/
theorem get?_foldl_withDepth {depths : List (Key × Nat)} (h : (depths.map Prod.fst).Nodup) :
    (depths.foldl (fun ctx entry => ctx.withDepth entry.1 entry.2) ctx).get? key =
      (depths.lookup key).or (ctx.get? key) := by
  induction depths generalizing ctx with
  | nil => rfl
  | cons head rest ih =>
      obtain ⟨k, d⟩ := head
      obtain ⟨hhead, hrest⟩ := List.nodup_cons.1 h
      rw [List.foldl_cons, ih hrest, get?_withDepth, lookup_cons]
      by_cases hkey : key = k
      · subst hkey
        have hnone : rest.lookup key = none := List.lookup_eq_none_iff.2 fun entry hentry =>
          bne_iff_ne.2 fun heq => hhead (List.mem_map.2 ⟨entry, hentry, heq.symm⟩)
        rw [if_pos rfl, if_pos rfl, hnone]
        rfl
      · rw [if_neg hkey, if_neg hkey]

theorem get?_ofList {depths : List (Key × Nat)} (h : (depths.map Prod.fst).Nodup) :
    (ofList depths).get? key = depths.lookup key :=
  (get?_foldl_withDepth h).trans (Option.or_none)

/-- Every key is tracked once. -/
theorem nodup_keys (ctx : Context) : (ctx.depths.map Prod.fst).Nodup :=
  List.pairwise_map.2 (ctx.ordered.imp Key.Before.ne)

/-- The new keys are distinct as the old ones are. -/
theorem nodup_rename (hr : Function.Injective r) (ctx : Context) :
    ((ctx.depths.map fun entry => (r entry.1, entry.2)).map Prod.fst).Nodup := by
  have hkeys : (ctx.depths.map fun entry => (r entry.1, entry.2)).map Prod.fst =
      (ctx.depths.map Prod.fst).map r := by
    rw [List.map_map, List.map_map]
    rfl
  rw [hkeys]
  exact ctx.nodup_keys.map hr

theorem get?_rename (hr : Function.Injective r) : (ctx.rename r).get? (r key) = ctx.get? key := by
  rw [rename, get?_ofList (nodup_rename hr ctx), get?]
  induction ctx.depths with
  | nil => rfl
  | cons head rest ih =>
      obtain ⟨k, depth⟩ := head
      simp only [List.map_cons, lookup_cons, ih, hr.eq_iff]

/-- No key is tracked that is not a new one. -/
theorem get?_rename_of_not_range (hr : Function.Injective r) (h : ∀ k, r k ≠ key) :
    (ctx.rename r).get? key = none := by
  rw [rename, get?_ofList (nodup_rename hr ctx)]
  refine List.lookup_eq_none_iff.2 fun entry hentry => ?_
  obtain ⟨old, -, rfl⟩ := List.mem_map.1 hentry
  exact bne_iff_ne.2 (h old.1).symm

/-- A context is the renamed one if it tracks the same for the new keys and nothing else. -/
theorem eq_rename (hr : Function.Injective r) (hnew : ∀ k, stored.get? (r k) = ctx.get? k)
    (hold : ∀ key, (∀ k, r k ≠ key) → stored.get? key = none) : stored = ctx.rename r := by
  refine eq_of_get?_eq fun key => ?_
  by_cases hkey : ∃ k, r k = key
  · obtain ⟨k, rfl⟩ := hkey
    rw [hnew, get?_rename hr]
  · have hrange : ∀ k, r k ≠ key := fun k heq => hkey ⟨k, heq⟩
    rw [hold key hrange, get?_rename_of_not_range hr hrange]

@[simp]
theorem rename_empty : (∅ : Context).rename r = ∅ := rfl

@[simp]
theorem rename_id : ctx.rename id = ctx :=
  (eq_rename Function.injective_id (fun _ => rfl) fun key h => absurd rfl (h key)).symm

theorem depth_rename (hr : Function.Injective r) :
    (ctx.rename r).depth (r key) = ctx.depth key := by
  rw [Context.depth, get?_rename hr, Context.depth]

theorem rename_withDepth (hr : Function.Injective r) (depth : Nat) :
    (ctx.withDepth key depth).rename r = (ctx.rename r).withDepth (r key) depth := by
  refine (eq_rename hr (fun k => ?_) fun other hother => ?_).symm
  · simp only [get?_withDepth, get?_rename hr, hr.eq_iff]
  · rw [get?_withDepth, if_neg (hother key).symm, get?_rename_of_not_range hr hother]

theorem rename_pruned (hr : Function.Injective r) (used : Used) :
    (ctx.pruned used).rename r = (ctx.rename r).pruned (used.rename r) := by
  refine (eq_rename hr (fun k => ?_) fun other hother => ?_).symm
  · by_cases hk : k ∈ used
    · rw [get?_pruned ((Used.mem_rename_self hr).2 hk), get?_rename hr, get?_pruned hk]
    · rw [get?_pruned_of_not_mem (mt (Used.mem_rename_self hr).1 hk), get?_pruned_of_not_mem hk]
  · refine get?_pruned_of_not_mem fun hmem => ?_
    obtain ⟨k, -, heq⟩ := Used.mem_rename.1 hmem
    exact hother k heq

theorem rename_carried (start stop : Nat) :
    (ctx.carried start stop).rename r = (ctx.rename r).carried start stop := by
  unfold carried
  rw [apply_ite (rename r), rename_empty]

/-- One context tracks more than another one just if it does under new keys. -/
theorem rename_le_iff (hr : Function.Injective r) :
    (stored.rename r).Le (ctx.rename r) ↔ stored.Le ctx := by
  constructor
  · intro h key depth hget
    have hmore := h (r key) depth ((get?_rename hr).trans hget)
    rwa [get?_rename hr] at hmore
  · intro h key depth hget
    by_cases hkey : ∃ k, r k = key
    · obtain ⟨k, rfl⟩ := hkey
      rw [get?_rename hr] at hget ⊢
      exact h k depth hget
    · rw [get?_rename_of_not_range hr fun k heq => hkey ⟨k, heq⟩] at hget
      cases hget

theorem canReuse_rename (hr : Function.Injective r) :
    (ctx.rename r).canReuse (stored.rename r) = ctx.canReuse stored := by
  rw [Bool.eq_iff_iff, canReuse_iff_le, canReuse_iff_le, rename_le_iff hr]

end Context

/-! ## Outcomes and entries -/

variable {S : Signature} {α : Type}

def Failure.rename (r : Key → Key) (f : Failure) : Failure :=
  { f with used := f.used.rename r }

/-- The same outcome with the new keys in its used set. -/
def Outcome.rename (r : Key → Key) : Outcome α → Outcome α
  | .success s => .success { s with used := s.used.rename r }
  | .failure f => .failure (f.rename r)

@[simp]
theorem Outcome.rename_id (o : Outcome α) : o.rename id = o := by
  cases o with
  | success s => rw [rename, Used.rename_id]
  | failure f => rw [rename, Failure.rename, Used.rename_id]

/-- The same outcome with the new keys in its used set, under the context with the new keys. -/
def Entry.rename (r : Key → Key) (entry : Entry S) : Entry S :=
  { entry with outcome := entry.outcome.rename r, context := entry.context.rename r }

/-! ## Parsers and grammars -/

/-- The parser with the new keys in place of the old ones. -/
def Parser.rename (r : Key → Key) : {α : Type} → Parser S α → Parser S α
  | _, .count what p => .count what (p.rename r)
  | _, .tryMap f p => .tryMap f (p.rename r)
  | _, .zipWith f p q => .zipWith f (p.rename r) (q.rename r)
  | _, .bind p f => .bind (p.rename r) fun a => (f a).rename r
  | _, .alt p q => .alt (p.rename r) (q.rename r)
  | _, .label name p => .label name (p.rename r)
  | _, .commit p => .commit (p.rename r)
  | _, .look p => .look (p.rename r)
  | _, .row n part => .row n fun i => (part i).rename r
  | _, .many p => .many (p.rename r)
  | _, .memo kind parity key p => .memo kind parity (r key) (p.rename r)
  | _, p => p

@[simp]
theorem Parser.rename_id (p : Parser S α) : p.rename id = p := by
  induction p with
  | unit | fail | literal | token | find | all | eof | scan | custom | ref | delay => rfl
  | count what p ih => rw [rename, ih]
  | tryMap f p ih => rw [rename, ih]
  | zipWith f p q ihp ihq => rw [rename, ihp, ihq]
  | bind p f ihp ihf => rw [rename, ihp, funext ihf]
  | alt p q ihp ihq => rw [rename, ihp, ihq]
  | label name p ih => rw [rename, ih]
  | commit p ih => rw [rename, ih]
  | look p ih => rw [rename, ih]
  | row count part ih => rw [rename, funext ih]
  | many p ih => rw [rename, ih]
  | memo kind parity key p ih => rw [rename, ih, id]

theorem Parser.exceptMap_rename_id (x : Except Fault (Parser S α)) :
    x.map (Parser.rename id) = x := by
  rw [funext Parser.rename_id]
  cases x <;> rfl

theorem Grammar.define_rename_id (G : Grammar S) (rule : S.Rule) :
    G.define rule = (G.define rule).map (Parser.rename id) := by
  rw [funext Parser.rename_id, Option.map_id']

/-- The grammar with the new keys in its definitions and in the copies of its rules. -/
def Grammar.rename (r : Key → Key) (G : Grammar S) : Grammar S where
  define rule := (G.define rule).map (Parser.rename r)
  copy rule := (G.copy rule).bind fun p => pure (p.rename r)

end LeftRec
