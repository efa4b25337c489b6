import LeftRec.Memo.Table
import Std.Data.HashMap

/-!
# A memo table by hash
-/

namespace LeftRec

/-- A memo table that is a hash map. -/
abbrev HashedTable (ε : Type) := Std.HashMap Slot ε

/-- An empty table with room for some entries.  Room for more than a few thousand is made only when
it is needed. -/
def HashedTable.withCapacity {ε : Type} (capacity : Nat) : HashedTable ε :=
  Std.HashMap.emptyWithCapacity (min capacity 0x1000)

instance : MemoTable HashedTable where
  empty := ∅
  get? table slot := table[slot]?
  insert table slot entry := table.insert slot entry
  size table := table.size
  slots table := table.keys

instance : LawfulMemoTable HashedTable where
  get?_empty _ := Std.HashMap.getElem?_empty
  get?_insert table slot other entry := by
    simp [MemoTable.get?, MemoTable.insert, Std.HashMap.getElem?_insert]
  mem_slots table slot := by
    simp [MemoTable.get?, MemoTable.slots]
  nodup_slots table := by
    simpa [MemoTable.slots] using table.nodup_keys
  length_slots table := Std.HashMap.length_keys

end LeftRec
