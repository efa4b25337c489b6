import LeftRec.Proofs.ContextMap

/-!
# Bisection — keys are found by halving

Entries in the order of their keys can be searched by looking at the middle of what is left.  The
search ends at the key, or at the index where it has to be put in to keep the order.  Used sets and
contexts can therefore be bare vectors: as long as these are in order, searching them by halves
answers what membership and lookup answer, and what is put in where a search ends is at its place.
-/

namespace LeftRec

/-! ## Searching -/

/-- How a search for a key ends. -/
inductive Search
  /-- The key stands at the index. -/
  | found (index : Nat)
  /-- The key is nowhere, and would have to be put in at the index. -/
  | missing (index : Nat)

namespace Search

variable {ε : Type}

/-- Of so many indices from `base` on, keep the upper half unless the key there is probed to be
beyond the one sought, and go on until a single index is left. -/
def narrow (probe : Nat → Ordering) (base size : Nat) : Nat :=
  if size ≤ 1 then base
  else
    let half := size / 2
    if probe (base + half) = .gt then narrow probe base (size - half)
    else narrow probe (base + half) (size - half)
termination_by size

/-- Search so many keys, each probed for how it compares with the one sought. -/
def bisect (probe : Nat → Ordering) (size : Nat) : Search :=
  if size = 0 then .missing 0
  else
    let base := narrow probe 0 size
    match probe base with
    | .lt => .missing (base + 1)
    | .eq => .found base
    | .gt => .missing base

/-- How the key of an entry compares with the one sought.  There is none beyond the last entry. -/
def compareAt (keyOf : ε → Key) (entries : List ε) (key : Key) (index : Nat) : Ordering :=
  match entries[index]? with
  | some entry => compare (keyOf entry) key
  | none => .gt

/-- Search entries for a key. -/
def among (keyOf : ε → Key) (entries : List ε) (key : Key) : Search :=
  bisect (compareAt keyOf entries key) entries.length

/-- If the keys up to an index are not beyond the one sought and those after it are, it is the index
that is left. -/
theorem narrow_eq {probe : Nat → Ordering} {base size last : Nat} (hbase : base ≤ last)
    (hsize : last < base + size) (hupto : ∀ i, base < i → i ≤ last → probe i ≠ .gt)
    (hbeyond : ∀ i, last < i → i < base + size → probe i = .gt) :
    narrow probe base size = last := by
  fun_induction narrow probe base size with
  | case1 base size hone => omega
  | case2 base size hmany half hmiddle ih =>
      have hhalf : half = size / 2 := rfl
      -- The key in the middle is beyond, so the index lies in the lower half.
      have hbelow : last < base + half := by
        by_cases hlast : last < base + half
        · exact hlast
        · exact absurd hmiddle (hupto _ (by omega) (Nat.not_lt.1 hlast))
      exact ih hbase (by omega) hupto fun i hi hend => hbeyond i hi (by omega)
  | case3 base size hmany half hmiddle ih =>
      have hhalf : half = size / 2 := rfl
      have habove : base + half ≤ last := by
        by_cases hlast : last < base + half
        · exact absurd (hbeyond _ hlast (by omega)) hmiddle
        · exact Nat.not_lt.1 hlast
      exact ih habove (by omega) (fun i hi => hupto i (by omega))
        fun i hi hend => hbeyond i hi (by omega)

/-! ## Where a key belongs -/

/-- The key belongs between the entries before and those after. -/
structure Divides (keyOf : ε → Key) (key : Key) (before after : List ε) : Prop where
  below : ∀ entry ∈ before, (keyOf entry).Before key
  above : ∀ entry ∈ after, key.Before (keyOf entry)

/-- Entries in which a key has its place: either one of them has the key, or it can be put in. -/
inductive Located (keyOf : ε → Key) (key : Key) : List ε → Prop
  | found (before after : List ε) (entry : ε) : keyOf entry = key →
      Divides keyOf key before after → Located keyOf key (before ++ entry :: after)
  | missing (before after : List ε) :
      Divides keyOf key before after → Located keyOf key (before ++ after)

variable {keyOf : ε → Key} {key : Key} {entries before after : List ε} {entry : ε}

theorem Divides.cons (h : Divides keyOf key before after) (hentry : (keyOf entry).Before key) :
    Divides keyOf key (entry :: before) after where
  below other hother := by
    rcases List.mem_cons.1 hother with rfl | hother
    · exact hentry
    · exact h.below other hother
  above := h.above

/-- None of these entries has the key. -/
theorem Divides.ne (h : Divides keyOf key before after) (hentry : entry ∈ before ++ after) :
    keyOf entry ≠ key := by
  rcases List.mem_append.1 hentry with hbelow | habove
  · exact (h.below entry hbelow).ne
  · exact (h.above entry habove).ne.symm

/-- Among entries in order every key has its place. -/
theorem located (keyOf : ε → Key) (key : Key)
    (h : entries.Pairwise fun a b => (keyOf a).Before (keyOf b)) : Located keyOf key entries := by
  induction entries with
  | nil => exact .missing [] [] ⟨nofun, nofun⟩
  | cons entry rest ih =>
      obtain ⟨hentry, hrest⟩ := List.pairwise_cons.1 h
      cases hcompare : compare (keyOf entry) key with
      | lt =>
          -- The entry lies before the key, wherever in the rest its place is.
          cases ih hrest with
          | found before after other hother hdivides =>
              exact .found (entry :: before) after other hother (hdivides.cons hcompare)
          | missing before after hdivides =>
              exact .missing (entry :: before) after (hdivides.cons hcompare)
      | eq =>
          obtain rfl : keyOf entry = key := Std.LawfulEqCmp.eq_of_compare hcompare
          exact .found [] rest entry rfl ⟨nofun, hentry⟩
      | gt =>
          have hbeyond : key.Before (keyOf entry) := Std.OrientedCmp.gt_iff_lt.1 hcompare
          refine .missing [] (entry :: rest) ⟨nofun, fun other hother => ?_⟩
          rcases List.mem_cons.1 hother with rfl | hother
          · exact hbeyond
          · exact hbeyond.trans (hentry other hother)

/-! ## What a search finds -/

theorem compareAt_of_below (h : ∀ entry ∈ before, (keyOf entry).Before key) {i : Nat}
    (hi : i < before.length) : compareAt keyOf (before ++ after) key i = .lt := by
  rw [compareAt, List.getElem?_append_left hi, List.getElem?_eq_getElem hi]
  exact h _ (List.getElem_mem hi)

theorem compareAt_of_above (h : ∀ entry ∈ after, key.Before (keyOf entry)) {i : Nat}
    (hi : before.length ≤ i) : compareAt keyOf (before ++ after) key i = .gt := by
  rw [compareAt, List.getElem?_append_right hi]
  cases hthere : after[i - before.length]? with
  | none => rfl
  | some entry => exact Std.OrientedCmp.gt_iff_lt.2 (h entry (List.mem_of_getElem? hthere))

theorem compareAt_self (hentry : keyOf entry = key) :
    compareAt keyOf (before ++ entry :: after) key before.length = .eq := by
  rw [compareAt, List.getElem?_append_right (Nat.le_refl _), Nat.sub_self]
  simp [hentry]

/-- Narrowing leaves the last of the entries that are not beyond the key, or the first one. -/
theorem narrow_append (hsome : before ++ after ≠ [])
    (hupto : ∀ i < before.length, compareAt keyOf (before ++ after) key i ≠ .gt)
    (habove : ∀ entry ∈ after, key.Before (keyOf entry)) :
    narrow (compareAt keyOf (before ++ after) key) 0 (before ++ after).length =
      before.length - 1 := by
  have hpos : 0 < (before ++ after).length := List.length_pos_iff.2 hsome
  have hlength : before.length ≤ (before ++ after).length := by simp
  refine narrow_eq (Nat.zero_le _) (by omega) (fun i hi hlast => ?_) fun i hi _ => ?_
  · exact hupto i (by omega)
  · exact compareAt_of_above habove (by omega)

theorem among_found (h : Divides keyOf key before after) (hentry : keyOf entry = key) :
    among keyOf (before ++ entry :: after) key = .found before.length := by
  have hself : compareAt keyOf (before ++ entry :: after) key before.length = .eq :=
    compareAt_self hentry
  -- The entry itself is the last one that is not beyond.
  have hsplit : before ++ entry :: after = (before ++ [entry]) ++ after := List.append_cons ..
  have hupto : ∀ i < (before ++ [entry]).length,
      compareAt keyOf ((before ++ [entry]) ++ after) key i ≠ .gt := by
    intro i hi
    rw [← hsplit]
    rw [List.length_append, List.length_singleton] at hi
    rcases Nat.lt_succ_iff_lt_or_eq.1 hi with hbelow | rfl
    · rw [compareAt_of_below h.below hbelow]
      decide
    · rw [hself]
      decide
  have hnarrow : narrow (compareAt keyOf (before ++ entry :: after) key) 0
      (before ++ entry :: after).length = before.length := by
    rw [hsplit, narrow_append (by simp) hupto h.above]
    simp
  rw [among, bisect, if_neg (by simp)]
  simp only [hnarrow, hself]

theorem among_missing (h : Divides keyOf key before after) :
    among keyOf (before ++ after) key = .missing before.length := by
  by_cases hnone : before ++ after = []
  · obtain ⟨rfl, rfl⟩ := List.append_eq_nil_iff.1 hnone
    rfl
  · have hupto : ∀ i < before.length, compareAt keyOf (before ++ after) key i ≠ .gt := by
      intro i hi
      rw [compareAt_of_below h.below hi]
      decide
    rw [among, bisect, if_neg (mt List.length_eq_zero_iff.1 hnone)]
    simp only [narrow_append hnone hupto h.above]
    cases before with
    | nil =>
        have hbeyond : compareAt keyOf ([] ++ after) key 0 = .gt :=
          compareAt_of_above h.above (Nat.le_refl 0)
        simp only [List.length_nil, Nat.zero_sub, hbeyond]
    | cons head rest =>
        have hlast : compareAt keyOf (head :: rest ++ after) key rest.length = .lt :=
          compareAt_of_below h.below (Nat.lt_succ_self rest.length)
        simp only [List.length_cons, Nat.add_sub_cancel, hlast]

/-! ## Changing a vector where a search ends -/

theorem insertIdx_length_append (before after : List ε) (entry : ε) :
    (before ++ after).insertIdx before.length entry = before ++ entry :: after := by
  induction before with
  | nil => rfl
  | cons head rest ih => simp [ih]

theorem modify_length_append (f : ε → ε) (before after : List ε) (entry : ε) :
    (before ++ entry :: after).modify before.length f = before ++ f entry :: after := by
  induction before with
  | nil => rfl
  | cons head rest ih => simp [ih]

end Search

/-! ## Used sets as bare vectors -/

namespace Used

theorem place_append {key : Key} {before rest : List Key} (h : ∀ k ∈ before, k.Before key) :
    place key (before ++ rest) = before ++ place key rest := by
  induction before with
  | nil => rfl
  | cons head tail ih =>
      obtain ⟨hhead, htail⟩ := List.forall_mem_cons.1 h
      have hcompare : compare key head = .gt := Std.OrientedCmp.gt_iff_lt.2 hhead
      simp only [List.cons_append, place, hcompare, ih htail]

theorem place_self (key : Key) (rest : List Key) : place key (key :: rest) = key :: rest := by
  simp only [place, Std.ReflCmp.compare_self]

theorem place_of_above {key : Key} {after : List Key} (h : ∀ k ∈ after, key.Before k) :
    place key after = key :: after := by
  cases after with
  | nil => rfl
  | cons head rest =>
      have hcompare : compare key head = .lt := h head List.mem_cons_self
      simp only [place, hcompare]

namespace Bisected

/-- Whether a vector has a key. -/
def contains (keys : List Key) (key : Key) : Bool :=
  match Search.among id keys key with
  | .found _ => true
  | .missing _ => false

/-- Put a key in, if it is missing. -/
def insert (keys : List Key) (key : Key) : List Key :=
  match Search.among id keys key with
  | .found _ => keys
  | .missing index => keys.insertIdx index key

def union (keys other : List Key) : List Key :=
  if keys.isEmpty then other else other.foldl insert keys

def ofList (keys : List Key) : List Key :=
  keys.foldl insert []

def sequenced (start stop : Nat) (first second : List Key) : List Key :=
  if start = stop then union first second else first

variable {keys : List Key}

theorem contains_iff (hkeys : keys.Pairwise Key.Before) (key : Key) :
    contains keys key = true ↔ key ∈ keys := by
  cases Search.located id key hkeys with
  | found before after entry hentry hdivides =>
      obtain rfl : entry = key := hentry
      have hmem : entry ∈ before ++ entry :: after := List.mem_append_right _ List.mem_cons_self
      simp only [contains, Search.among_found hdivides rfl, hmem]
  | missing before after hdivides =>
      have hnot : key ∉ before ++ after := fun hmem => hdivides.ne hmem rfl
      simp only [contains, Search.among_missing hdivides, hnot, Bool.false_eq_true]

theorem insert_eq_place (hkeys : keys.Pairwise Key.Before) (key : Key) :
    insert keys key = place key keys := by
  cases Search.located id key hkeys with
  | found before after entry hentry hdivides =>
      obtain rfl : entry = key := hentry
      rw [insert, Search.among_found hdivides rfl, place_append hdivides.below, place_self]
  | missing before after hdivides =>
      rw [insert, Search.among_missing hdivides, place_append hdivides.below,
        place_of_above hdivides.above]
      exact Search.insertIdx_length_append before after key

variable (used other : Used) (key : Key)

theorem contains_keys : contains used.keys key = used.contains key := by
  rw [Bool.eq_iff_iff, contains_iff used.ordered]
  exact (decide_eq_true_iff (p := key ∈ used)).symm

theorem insert_keys : insert used.keys key = (used.insert key).keys :=
  insert_eq_place used.ordered key

theorem foldl_insert_keys (keys : List Key) :
    keys.foldl insert used.keys = (keys.foldl Used.insert used).keys := by
  induction keys generalizing used with
  | nil => rfl
  | cons key rest ih => rw [List.foldl_cons, List.foldl_cons, insert_keys, ih]

theorem union_keys : union used.keys other.keys = (used.union other).keys := by
  unfold union
  split
  next hempty =>
    -- The other vector is taken as it is.
    obtain rfl : used = ∅ := Used.ext (List.isEmpty_iff.1 hempty)
    rw [empty_union]
  next => exact foldl_insert_keys used other.keys

theorem ofList_keys (keys : List Key) : ofList keys = (Used.ofList keys).keys :=
  foldl_insert_keys ∅ keys

theorem sequenced_keys (start stop : Nat) :
    sequenced start stop used.keys other.keys = (Used.sequenced start stop used other).keys := by
  unfold sequenced Used.sequenced
  split
  · exact union_keys used other
  · rfl

end Bisected
end Used

/-! ## Contexts as bare vectors -/

namespace Context

section Place

variable {key : Key} {depth : Nat}

theorem place_append {before rest : List (Key × Nat)} (h : ∀ entry ∈ before, entry.1.Before key) :
    place key depth (before ++ rest) = before ++ place key depth rest := by
  induction before with
  | nil => rfl
  | cons head tail ih =>
      obtain ⟨hhead, htail⟩ := List.forall_mem_cons.1 h
      have hcompare : compare key head.1 = .gt := Std.OrientedCmp.gt_iff_lt.2 hhead
      simp only [List.cons_append, place, hcompare, ih htail]

theorem place_self (old : Nat) (rest : List (Key × Nat)) :
    place key depth ((key, old) :: rest) = (key, depth) :: rest := by
  simp only [place, Std.ReflCmp.compare_self]

theorem place_of_above {after : List (Key × Nat)} (h : ∀ entry ∈ after, key.Before entry.1) :
    place key depth after = (key, depth) :: after := by
  cases after with
  | nil => rfl
  | cons head rest =>
      have hcompare : compare key head.1 = .lt := h head List.mem_cons_self
      simp only [place, hcompare]

end Place

namespace Bisected

/-- The depth that a vector has for a key, if any. -/
def get? (depths : List (Key × Nat)) (key : Key) : Option Nat :=
  match Search.among Prod.fst depths key with
  | .found index => depths[index]?.map Prod.snd
  | .missing _ => none

/-- The depth that a vector has for a key, or zero. -/
def depth (depths : List (Key × Nat)) (key : Key) : Nat :=
  (get? depths key).getD 0

/-- Change the depth of a key, or put the key in with it. -/
def withDepth (depths : List (Key × Nat)) (key : Key) (depth : Nat) : List (Key × Nat) :=
  match Search.among Prod.fst depths key with
  | .found index => depths.modify index fun entry => (entry.1, depth)
  | .missing index => depths.insertIdx index (key, depth)

def canReuse (depths stored : List (Key × Nat)) : Bool :=
  stored.all fun entry => (get? depths entry.1).any (entry.2 ≤ ·)

def pruned (depths : List (Key × Nat)) (used : List Key) : List (Key × Nat) :=
  if used.isEmpty then [] else depths.filter fun entry => Used.Bisected.contains used entry.1

def carried (depths : List (Key × Nat)) (start stop : Nat) : List (Key × Nat) :=
  if start = stop then depths else []

variable {depths : List (Key × Nat)}

theorem get?_eq_lookup (hdepths : depths.Pairwise fun a b => a.1.Before b.1) (key : Key) :
    get? depths key = depths.lookup key := by
  have hlookup : depths.lookup key = Context.get? ⟨depths, hdepths⟩ key := rfl
  rw [hlookup]
  cases Search.located Prod.fst key hdepths with
  | found before after entry hentry hdivides =>
      have hmem : entry ∈ before ++ entry :: after := List.mem_append_right _ List.mem_cons_self
      rw [get?, Search.among_found hdivides hentry, ← hentry, get?_of_mem hmem]
      simp
  | missing before after hdivides =>
      rw [get?, Search.among_missing hdivides]
      cases hget : Context.get? ⟨before ++ after, hdepths⟩ key with
      | none => rfl
      | some depth =>
          have hmem : (key, depth) ∈ (⟨before ++ after, hdepths⟩ : Context).depths :=
            mem_depths_iff.2 hget
          exact absurd rfl (hdivides.ne hmem)

theorem withDepth_eq_place (hdepths : depths.Pairwise fun a b => a.1.Before b.1) (key : Key)
    (depth : Nat) : withDepth depths key depth = place key depth depths := by
  cases Search.located Prod.fst key hdepths with
  | found before after entry hentry hdivides =>
      obtain ⟨k, old⟩ := entry
      obtain rfl : k = key := hentry
      rw [withDepth, Search.among_found hdivides rfl, place_append hdivides.below, place_self]
      exact Search.modify_length_append _ before after _
  | missing before after hdivides =>
      rw [withDepth, Search.among_missing hdivides, place_append hdivides.below,
        place_of_above hdivides.above]
      exact Search.insertIdx_length_append before after _

variable (ctx stored : Context) (used : Used) (key : Key)

theorem get?_depths : get? ctx.depths key = ctx.get? key :=
  get?_eq_lookup ctx.ordered key

theorem withDepth_depths (depth : Nat) :
    withDepth ctx.depths key depth = (ctx.withDepth key depth).depths :=
  withDepth_eq_place ctx.ordered key depth

theorem canReuse_depths : canReuse ctx.depths stored.depths = ctx.canReuse stored := by
  simp only [canReuse, Context.canReuse, get?_depths]

theorem pruned_depths : pruned ctx.depths used.keys = (ctx.pruned used).depths := by
  unfold pruned
  split
  next hempty =>
    obtain rfl : used = ∅ := Used.ext (List.isEmpty_iff.1 hempty)
    rw [pruned_empty]
    rfl
  next => simp only [Used.Bisected.contains_keys, Context.pruned]

theorem carried_depths (start stop : Nat) :
    carried ctx.depths start stop = (ctx.carried start stop).depths := by
  unfold carried Context.carried
  split
  · rfl
  · rfl

end Bisected
end Context
end LeftRec
