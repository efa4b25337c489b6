import LeftRec.Key

/-!
# Memo tables — finite maps from rules and positions to entries

What a parse needs of a table is a finite map: looking up, storing, emptying, counting and listing.
The class says what these operations are, and its laws say that they are those of a finite map, so
no parse can tell two lawful tables apart.
-/

namespace LeftRec

/-- A rule and a position. -/
abbrev Slot := Key × Nat

/-- Slots are compared by key and then by position. -/
def slotOrder : Slot → Slot → Ordering :=
  compareLex (compareOn Prod.fst) (compareOn Prod.snd)

/-- The operations of a memo table with entries of any type. -/
class MemoTable (T : Type → Type) where
  empty {ε : Type} : T ε
  get? {ε : Type} (table : T ε) (slot : Slot) : Option ε
  insert {ε : Type} (table : T ε) (slot : Slot) (entry : ε) : T ε
  size {ε : Type} (table : T ε) : Nat
  /-- All slots that have an entry. -/
  slots {ε : Type} (table : T ε) : List Slot

/-- All entries with their slots, in slot order. -/
def MemoTable.toList {T : Type → Type} [MemoTable T] {ε : Type} (table : T ε) : List (Slot × ε) :=
  ((MemoTable.slots table).mergeSort fun a b => (slotOrder a b).isLE).filterMap fun slot =>
    (MemoTable.get? table slot).map (slot, ·)

/-- The operations are those of a finite map. -/
class LawfulMemoTable (T : Type → Type) [MemoTable T] : Prop where
  get?_empty {ε : Type} (slot : Slot) :
    MemoTable.get? (MemoTable.empty : T ε) slot = none
  get?_insert {ε : Type} (table : T ε) (slot other : Slot) (entry : ε) :
    MemoTable.get? (MemoTable.insert table slot entry) other =
      if slot = other then some entry else MemoTable.get? table other
  mem_slots {ε : Type} (table : T ε) (slot : Slot) :
    slot ∈ MemoTable.slots table ↔ (MemoTable.get? table slot).isSome
  nodup_slots {ε : Type} (table : T ε) : (MemoTable.slots table).Nodup
  length_slots {ε : Type} (table : T ε) :
    (MemoTable.slots table).length = MemoTable.size table

end LeftRec
