import LeftRec.Proofs.Table

/-!
# Regions — which entries a run leaves alone

A run over a stretch of the input has no business with entries elsewhere.  Regions are sets of slots
of the memo table, and two states are the same on a region if looking up finds the same there.
-/

namespace LeftRec

variable {S : Signature} {T : Type → Type}

/-- The slots that a run of some rules from one position to another may use: those of the rules at
its start, and all slots between its start and its end. -/
def Inside (keys : List Key) (pos stop : Nat) (slot : Slot) : Prop :=
  (pos < slot.2 ∧ slot.2 < stop) ∨ (slot.2 = pos ∧ slot.1 ∈ keys)

namespace Inside

variable {keys more : List Key} {pos stop later : Nat} {slot : Slot}

theorem mono (h : Inside keys pos stop slot) (hkeys : ∀ key ∈ keys, key ∈ more)
    (hstop : stop ≤ later) : Inside more pos later slot := by
  rcases h with ⟨hfrom, hto⟩ | ⟨hat, hkey⟩
  · exact .inl ⟨hfrom, Nat.lt_of_lt_of_le hto hstop⟩
  · exact .inr ⟨hat, hkeys slot.1 hkey⟩

theorem not_at {key : Key} (h : key ∉ keys) : ¬ Inside keys pos stop (key, pos) := by
  rintro (⟨hfrom, -⟩ | ⟨-, hkey⟩)
  · exact Nat.lt_irrefl pos hfrom
  · exact h hkey

theorem lt_stop (h : Inside keys pos stop slot) (hpos : pos < stop) : slot.2 < stop := by
  rcases h with ⟨-, hto⟩ | ⟨hat, -⟩
  · exact hto
  · omega

end Inside

variable [MemoTable T]

namespace State

/-- The two states have the same entries in a region. -/
def SameOn (region : Slot → Prop) (state state' : State S T) : Prop :=
  ∀ kind key pos, region (key, pos) → state'.lookup kind key pos = state.lookup kind key pos

namespace SameOn

variable {region smaller : Slot → Prop} {state middle after : State S T}

theorem of_memo (h : after.memo = state.memo) : state.SameOn region after := by
  intro kind key pos _
  rw [lookup, lookup, h]

theorem trans (h : state.SameOn region middle) (h' : middle.SameOn region after) :
    state.SameOn region after := by
  intro kind key pos hslot
  exact (h' kind key pos hslot).trans (h kind key pos hslot)

theorem mono (h : state.SameOn region after) (hsmaller : ∀ slot, smaller slot → region slot) :
    state.SameOn smaller after :=
  fun kind key pos hslot => h kind key pos (hsmaller (key, pos) hslot)

end SameOn

/-- There are no entries from a position on. -/
def FreshFrom (pos : Nat) (state : State S T) : Prop :=
  ∀ kind key there, pos ≤ there → state.lookup kind key there = none

theorem NoEntries.freshFrom {state : State S T} (h : state.NoEntries) (pos : Nat) :
    state.FreshFrom pos :=
  fun kind key there _ => h kind key there

namespace FreshFrom

variable {pos later : Nat} {state after : State S T}

theorem of_memo (h : state.FreshFrom pos) (hmemo : after.memo = state.memo) :
    after.FreshFrom pos := by
  intro kind key there hat
  rw [lookup, hmemo]
  exact h kind key there hat

/-- Behind a stretch that was run over, nothing has been entered yet. -/
theorem after_inside {keys : List Key} {stop : Nat} (h : state.FreshFrom pos) (hpos : pos < stop)
    (hsame : state.SameOn (fun slot => ¬ Inside keys pos stop slot) after) (hlater : stop ≤ later) :
    after.FreshFrom later := by
  intro kind key there hat
  have houtside : ¬ Inside keys pos stop (key, there) := fun hinside => by
    have hlt := hinside.lt_stop hpos
    simp only at hlt
    omega
  rw [hsame kind key there houtside]
  exact h kind key there (by omega)

end FreshFrom

end State

namespace Run

variable {input : Input S.Token} {kind : S.Kind} {parity : Parity} {key : Key} {pos : Nat}
variable {ctx : Context} {middle : State S T} {fresh : Outcome (S.Value kind)}

/-- A success that reaches as far as any stored one is kept. -/
theorem keep_of_furthest {s : Success (S.Value kind)}
    (h : ∀ stored under, middle.lookup kind key pos = some (.success stored, under) →
      stored.pos ≤ s.pos) :
    (keep input kind parity key pos ctx (.success s) middle).1 = .success s := by
  refine keep_fst_of_none ?_
  cases hlookup : middle.lookup kind key pos with
  | none => rfl
  | some found =>
      obtain ⟨o, under⟩ := found
      cases o with
      | failure e => rfl
      | success stored => exact if_neg (Nat.not_lt.2 (h stored under hlookup))

/-- A failure is kept where no success is stored. -/
theorem keep_of_failure {e : Failure}
    (h : ∀ stored under, middle.lookup kind key pos ≠ some (.success stored, under)) :
    (keep input kind parity key pos ctx (.failure e) middle).1 = .failure e := by
  refine keep_fst_of_none ?_
  cases hlookup : middle.lookup kind key pos with
  | none => rfl
  | some found =>
      obtain ⟨o, under⟩ := found
      cases o with
      | failure e' => rfl
      | success stored => exact absurd hlookup (h stored under)

/-- A stored success that reaches further than a fresh one is kept. -/
theorem keep_of_further {s stored : Success (S.Value kind)} {under : Context}
    (hlookup : middle.lookup kind key pos = some (.success stored, under))
    (h : s.pos < stored.pos) :
    (keep input kind parity key pos ctx (.success s) middle).1 = .success stored := by
  refine keep_fst_of_some ?_
  rw [hlookup]
  exact if_pos h

variable [LawfulMemoTable T]

/-- A rule stores nothing but its own entry. -/
theorem sameOn_keep {region : Slot → Prop} (h : ¬ region (key, pos)) :
    middle.SameOn region (keep input kind parity key pos ctx fresh middle).2 := by
  intro kind' key' pos' hslot
  have hne : (key, pos) ≠ (key', pos') := fun heq => h (heq ▸ hslot)
  exact (State.lookup_store_of_ne hne).trans (State.lookup_elim_note _)

end Run

end LeftRec
