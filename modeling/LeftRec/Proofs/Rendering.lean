import Mathlib.Data.List.Nodup
import LeftRec.Json.Grammar

/-!
# Rendering — JSON values as compact texts

The text of a value without any blanks, and what reading it back has to undo: a backslash before
each quote and each backslash of a string, and the order in which the members of an object are
listed, of which only that by their names is kept.
-/

namespace LeftRec
namespace Json

/-! ## Texts -/

/-- The characters of a string with a backslash before each quote and each backslash. -/
def escape : List Char → List Char
  | [] => []
  | c :: rest => if c = '"' ∨ c = '\\' then '\\' :: c :: escape rest else c :: escape rest

def quoted (s : String) : String :=
  "\"" ++ String.ofList (escape s.toList) ++ "\""

mutual

/-- The text of a value without blanks. -/
def compact : Json → String
  | .null => "null"
  | .bool b => if b then "true" else "false"
  | .number x => Decimal.write numberLayout x
  | .string s => quoted s
  | .array items => "[" ++ ",".intercalate (compacts items) ++ "]"
  | .object members => "\x7b" ++ ",".intercalate (memberCompacts members) ++ "\x7d"

def compacts : List Json → List String
  | [] => []
  | item :: rest => compact item :: compacts rest

def memberCompacts : List (String × Json) → List String
  | [] => []
  | (name, value) :: rest => (quoted name ++ ":" ++ compact value) :: memberCompacts rest

end

/-- The text of a member of an object. -/
def memberCompact (member : String × Json) : String :=
  quoted member.1 ++ ":" ++ compact member.2

theorem compacts_eq (items : List Json) : compacts items = items.map compact := by
  induction items with
  | nil => rfl
  | cons item rest ih => rw [compacts, ih, List.map_cons]

theorem memberCompacts_eq (members : List (String × Json)) :
    memberCompacts members = members.map memberCompact := by
  induction members with
  | nil => rfl
  | cons member rest ih => rw [memberCompacts, ih, List.map_cons, memberCompact]

/-! ## Strings -/

theorem unescape_cons {c : Char} (hc : c ≠ '\\') (rest : List Char) :
    Grammar.unescape (c :: rest) = c :: Grammar.unescape rest := by
  rw [Grammar.unescape.eq_def]
  split
  · contradiction
  · cases ‹c :: rest = _›
    contradiction
  · cases ‹c :: rest = _›
    contradiction
  · cases ‹c :: rest = _›
    rfl

/-- Decoding undoes the escapes. -/
theorem unescape_escape (cs : List Char) : Grammar.unescape (escape cs) = cs := by
  induction cs with
  | nil => rfl
  | cons c rest ih =>
      rw [escape]
      split
      next hc =>
        have hself : Grammar.unescaped c = c := by
          rcases hc with rfl | rfl <;> rfl
        rw [Grammar.unescape, hself, ih]
      next hc => rw [unescape_cons fun h => hc (.inr h), ih]

/-! ## Values -/

/-- A value without numbers, in every object of which the names are distinct. -/
inductive Simple : Json → Prop
  | null : Simple .null
  | bool (b : Bool) : Simple (.bool b)
  | string (s : String) : Simple (.string s)
  | array {items : List Json} : (∀ item ∈ items, Simple item) → Simple (.array items)
  | object {members : List (String × Json)} : (members.map (·.1)).Nodup →
      (∀ member ∈ members, Simple member.2) → Simple (.object members)

/-- A value in every object of which the members are listed in the order of their names, each name
once. -/
inductive Ordered : Json → Prop
  | null : Ordered .null
  | bool (b : Bool) : Ordered (.bool b)
  | number (x : Float) : Ordered (.number x)
  | string (s : String) : Ordered (.string s)
  | array {items : List Json} : (∀ item ∈ items, Ordered item) → Ordered (.array items)
  | object {members : List (String × Json)} : members.Pairwise (·.1 < ·.1) →
      (∀ member ∈ members, Ordered member.2) → Ordered (.object members)

/-- Whether the name of a member comes no later than that of another. -/
def byName (member other : String × Json) : Bool :=
  member.1 ≤ other.1

mutual

/-- The value with the members of all objects in the order of their names. -/
def sorted : Json → Json
  | .null => .null
  | .bool b => .bool b
  | .number x => .number x
  | .string s => .string s
  | .array items => .array (sortedItems items)
  | .object members => .object ((sortedMembers members).mergeSort byName)

def sortedItems : List Json → List Json
  | [] => []
  | item :: rest => sorted item :: sortedItems rest

def sortedMembers : List (String × Json) → List (String × Json)
  | [] => []
  | (name, value) :: rest => (name, sorted value) :: sortedMembers rest

end

theorem byName_trans (a b c : String × Json) (hab : byName a b = true) (hbc : byName b c = true) :
    byName a c = true :=
  decide_eq_true (Std.le_trans (of_decide_eq_true hab) (of_decide_eq_true hbc))

theorem byName_total (a b : String × Json) : (byName a b || byName b a) = true := by
  rcases Std.le_total (a := a.1) (b := b.1) with h | h
  · rw [byName, decide_eq_true h, Bool.true_or]
  · rw [Bool.or_eq_true]
    exact .inr (decide_eq_true h)

theorem sortedItems_eq (items : List Json) : sortedItems items = items.map sorted := by
  induction items with
  | nil => rfl
  | cons item rest ih => rw [sortedItems, ih, List.map_cons]

theorem sortedMembers_eq (members : List (String × Json)) :
    sortedMembers members = members.map fun member => (member.1, sorted member.2) := by
  induction members with
  | nil => rfl
  | cons member rest ih => rw [sortedMembers, ih, List.map_cons]

/-- A value whose members are in order stays as it is. -/
theorem Ordered.sorted_eq {j : Json} (h : j.Ordered) : j.sorted = j := by
  induction h with
  | null => rfl
  | bool b => rfl
  | number x => rfl
  | string s => rfl
  | array _ ih =>
      rw [sorted, sortedItems_eq, List.map_congr_left ih, List.map_id']
  | @object members hordered _ ih =>
      have hsame : sortedMembers members = members := by
        rw [sortedMembers_eq]
        refine (List.map_congr_left fun member hmember => ?_).trans (List.map_id' members)
        rw [ih member hmember]
      rw [sorted, hsame, List.mergeSort_of_pairwise]
      exact hordered.imp fun h => decide_eq_true (Std.le_of_lt h)

/-! ## Objects -/

/-- Of two different names one comes first. -/
theorem compare_name (name other : String) :
    (compare name other = .lt ∧ name < other) ∨ (compare name other = .eq ∧ name = other) ∨
      (compare name other = .gt ∧ other < name) := by
  have hcompare : compare name other = if name < other then .lt
      else if name = other then .eq else .gt := rfl
  rw [hcompare]
  split
  next hlt => exact .inl ⟨rfl, hlt⟩
  next hnot =>
    split
    next heq => exact .inr (.inl ⟨rfl, heq⟩)
    next hne =>
      exact .inr (.inr ⟨rfl, Std.lt_of_le_of_ne (Std.not_lt.1 hnot) fun h => hne h.symm⟩)

section Objects

variable {name : String} {value : Json} {placed members : List (String × Json)}

/-- A member with a new name is added. -/
theorem place_perm (hname : name ∉ placed.map (·.1)) :
    (place name value placed).Perm ((name, value) :: placed) := by
  induction placed with
  | nil => exact .refl _
  | cons member rest ih =>
      obtain ⟨other, old⟩ := member
      rw [List.map_cons, List.mem_cons, not_or] at hname
      rw [place]
      rcases compare_name name other with ⟨hcompare, -⟩ | ⟨-, heq⟩ | ⟨hcompare, -⟩
      · rw [hcompare]
      · exact absurd heq hname.1
      · rw [hcompare]
        exact ((ih hname.2).cons _).trans (.swap _ _ _)

/-- Members that are in order stay so. -/
theorem pairwise_place (hname : name ∉ placed.map (·.1)) (h : placed.Pairwise (·.1 < ·.1)) :
    (place name value placed).Pairwise (·.1 < ·.1) := by
  induction placed with
  | nil => exact List.pairwise_singleton _ _
  | cons member rest ih =>
      obtain ⟨other, old⟩ := member
      rw [List.map_cons, List.mem_cons, not_or] at hname
      obtain ⟨hfirst, hrest⟩ := List.pairwise_cons.1 h
      rw [place]
      rcases compare_name name other with ⟨hcompare, hlt⟩ | ⟨-, heq⟩ | ⟨hcompare, hlt⟩
      · rw [hcompare]
        refine List.pairwise_cons.2 ⟨fun m hm => ?_, h⟩
        rcases List.mem_cons.1 hm with rfl | hm
        · exact hlt
        · exact Std.lt_trans hlt (hfirst m hm)
      · exact absurd heq hname.1
      · rw [hcompare]
        refine List.pairwise_cons.2 ⟨fun m hm => ?_, ih hname.2 hrest⟩
        rcases List.mem_cons.1 ((place_perm hname.2).mem_iff.1 hm) with rfl | hm
        · exact hlt
        · exact hfirst m hm

/-- Placing members one after the other lists all of them in order. -/
theorem foldl_place (hnames : ((members ++ placed).map (·.1)).Nodup)
    (h : placed.Pairwise (·.1 < ·.1)) :
    let all := members.foldl (fun placed (name, value) => place name value placed) placed
    all.Perm (members ++ placed) ∧ all.Pairwise (·.1 < ·.1) := by
  induction members generalizing placed with
  | nil => exact ⟨.refl _, h⟩
  | cons member rest ih =>
      obtain ⟨name, value⟩ := member
      rw [List.cons_append, List.map_cons, List.nodup_cons] at hnames
      have hname : name ∉ placed.map (·.1) := fun hmem =>
        hnames.1 (by rw [List.map_append]; exact List.mem_append_right _ hmem)
      have hmoved : (rest ++ place name value placed).Perm ((name, value) :: (rest ++ placed)) :=
        ((place_perm hname).append_left rest).trans List.perm_middle
      have hdistinct : ((rest ++ place name value placed).map (·.1)).Nodup := by
        rw [(hmoved.map _).nodup_iff, List.map_cons]
        exact List.nodup_cons.2 hnames
      obtain ⟨hperm, hordered⟩ := ih hdistinct (pairwise_place hname h)
      exact ⟨hperm.trans hmoved, hordered⟩

/-- The object of members with distinct names has them in the order of their names. -/
theorem ofMembers_eq (hnames : (members.map (·.1)).Nodup) :
    ofMembers members = .object (members.mergeSort byName) := by
  have hall : (List.map (·.1) (members ++ [])).Nodup := by rwa [List.append_nil]
  obtain ⟨hperm, hordered⟩ := foldl_place hall .nil
  rw [List.append_nil] at hperm
  have hsorted : (members.mergeSort byName).Pairwise fun m m' => byName m m' = true :=
    List.pairwise_mergeSort byName_trans byName_total members
  have hsame := hperm.trans (List.mergeSort_perm members byName).symm
  -- Members of one name are one member, so there is one order only.
  refine congrArg Json.object (hsame.eq_of_pairwise (fun a b ha hb hab hba => ?_)
    (hordered.imp Std.le_of_lt) (hsorted.imp of_decide_eq_true))
  exact List.inj_on_of_nodup_map hnames (hperm.mem_iff.1 ha) (List.mem_mergeSort.1 hb)
    (Std.le_antisymm hab hba)

end Objects

end Json
end LeftRec
