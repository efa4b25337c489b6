import Mathlib.Tactic.Ring
import LeftRec.Regex.Program
import LeftRec.Regex.Semantics

/-!
# Thompson — the automaton of an expression matches what the expression does

A run of an automaton is counted in steps, so that what follows a piece of code is a shorter run.
Each piece of code gets through from its first state to the state behind its last one in and only
in the ways that the expression allows, whatever comes after it.
-/

namespace LeftRec
namespace Regex

/-! ## Runs -/

/-- What a state may do at a spot of a text: which state is next, and at which spot. -/
def Instr.Moves (text : List Char) (n : Nat) (a : Spot) : Instr → Nat → Spot → Prop
  | .take s, m, b => m = n + 1 ∧ (∃ c, text[a.place]? = some c ∧ s.contains c) ∧ b = a.next
  | .look kind wide, m, b => m = n + 1 ∧ kind.HoldsAt wide text a.place ∧ a = b
  | .save slot, m, b => m = n + 1 ∧ b = a.save slot
  | .split first second, m, b => (m = first ∨ m = second) ∧ a = b
  | .jump target, m, b => m = target ∧ a = b
  | .done, _, _ => False

/-- From a state at a spot the automaton is done after so many steps, with what is saved then. -/
inductive Accepts (program : Program) (text : List Char) : Nat → Nat → Spot → Slots → Prop
  | done {n : Nat} (a : Spot) (hdone : program[n]? = some .done) :
      Accepts program text 0 n a a.slots
  | step {i : Instr} {steps n m : Nat} {a b : Spot} {z : Slots} (hi : program[n]? = some i)
      (hmove : i.Moves text n a m b) (hrest : Accepts program text steps m b z) :
      Accepts program text (steps + 1) n a z

section Runs

variable {program : Program} {text : List Char} {i : Instr} {steps n : Nat} {a : Spot} {z : Slots}

theorem Accepts.of_done (h : Accepts program text steps n a z)
    (hdone : program[n]? = some .done) : z = a.slots := by
  cases h with
  | done => rfl
  | step hi hmove =>
      obtain rfl := Option.some.inj (hdone.symm.trans hi)
      exact hmove.elim

/-- A run from any other state has a first step. -/
theorem Accepts.of_ne_done (h : Accepts program text steps n a z) (hi : program[n]? = some i)
    (hne : i ≠ .done) : ∃ less m b, steps = less + 1 ∧ i.Moves text n a m b ∧
      Accepts program text less m b z := by
  cases h with
  | done _ hdone => exact (hne (Option.some.inj (hi.symm.trans hdone))).elim
  | step hi' hmove hrest =>
      obtain rfl := Option.some.inj (hi.symm.trans hi')
      exact ⟨_, _, _, rfl, hmove, hrest⟩

end Runs

/-! ## Code within a program -/

/-- The instructions stand in the program from an address on. -/
def Placed (program : Program) (base : Nat) (instrs : List Instr) : Prop :=
  ∀ (k : Nat) (i : Instr), instrs[k]? = some i → program[base + k]? = some i

section Placed

variable {program : Program} {base : Nat} {i : Instr} {instrs more : List Instr}

theorem Placed.head (h : Placed program base (i :: instrs)) : program[base]? = some i :=
  h 0 i rfl

theorem Placed.tail (h : Placed program base (i :: instrs)) : Placed program (base + 1) instrs := by
  intro k j hj
  rw [Nat.add_assoc, Nat.add_comm 1]
  exact h (k + 1) j hj

theorem Placed.left (h : Placed program base (instrs ++ more)) : Placed program base instrs :=
  fun k j hj => h k j (List.getElem?_append_left (List.getElem?_eq_some_iff.1 hj).1 ▸ hj)

theorem Placed.right (h : Placed program base (instrs ++ more)) :
    Placed program (base + instrs.length) more := by
  intro k j hj
  rw [Nat.add_assoc]
  refine h _ j ?_
  rwa [List.getElem?_append_right (Nat.le_add_right _ _), Nat.add_sub_cancel_left]

end Placed

/-- From a state a run goes on from one of two others, with fewer steps. -/
structure Forks (program : Program) (text : List Char) (n first second : Nat) : Prop where
  sound {steps : Nat} {a : Spot} {z : Slots} (h : Accepts program text steps n a z) :
    ∃ less, less < steps ∧
      (Accepts program text less first a z ∨ Accepts program text less second a z)
  complete {steps : Nat} {a : Spot} {z : Slots}
    (h : Accepts program text steps first a z ∨ Accepts program text steps second a z) :
    ∃ more, Accepts program text more n a z

section Forks

variable {program : Program} {text : List Char} {n first second target : Nat}

theorem Forks.split (hi : program[n]? = some (.split first second)) :
    Forks program text n first second where
  sound h := by
    obtain ⟨less, m, b, rfl, ⟨rfl | rfl, rfl⟩, hrest⟩ := h.of_ne_done hi nofun
    · exact ⟨less, Nat.lt_succ_self less, .inl hrest⟩
    · exact ⟨less, Nat.lt_succ_self less, .inr hrest⟩
  complete := by
    rintro steps a z (h | h)
    · exact ⟨_, .step hi ⟨.inl rfl, rfl⟩ h⟩
    · exact ⟨_, .step hi ⟨.inr rfl, rfl⟩ h⟩

theorem Forks.symm (h : Forks program text n first second) :
    Forks program text n second first where
  sound hrun := by
    obtain ⟨less, hless, hrest⟩ := h.sound hrun
    exact ⟨less, hless, hrest.symm⟩
  complete hrun := h.complete hrun.symm

theorem Forks.choose {greedy : Bool} (hi : program[n]? = some (.choose greedy first second)) :
    Forks program text n first second := by
  cases greedy with
  | true => exact .split hi
  | false => exact (Forks.split hi).symm

theorem Forks.jump (hi : program[n]? = some (.jump target))
    (h : Forks program text target first second) : Forks program text n first second where
  sound hrun := by
    obtain ⟨less, m, b, rfl, ⟨rfl, rfl⟩, hrest⟩ := hrun.of_ne_done hi nofun
    obtain ⟨fewer, hfewer, hways⟩ := h.sound hrest
    exact ⟨fewer, Nat.lt_succ_of_lt hfewer, hways⟩
  complete hrun := by
    obtain ⟨more, hmore⟩ := h.complete hrun
    exact ⟨_, .step hi ⟨rfl, rfl⟩ hmore⟩

end Forks

/-- Between two addresses the program gets through in and only in the ways of a relation, whatever
follows. -/
structure Realizes (program : Program) (text : List Char) (base stop : Nat)
    (R : Spot → Spot → Prop) : Prop where
  sound {steps : Nat} {a : Spot} {z : Slots} (h : Accepts program text steps base a z) :
    ∃ b less, less ≤ steps ∧ R a b ∧ Accepts program text less stop b z
  complete {steps : Nat} {a b : Spot} {z : Slots} (hab : R a b)
    (h : Accepts program text steps stop b z) : ∃ more, Accepts program text more base a z

namespace Realizes

variable {program : Program} {text : List Char} {base middle stop : Nat}
variable {R R' : Spot → Spot → Prop} {i : Instr}

theorem nothing : Realizes program text base base fun a b => a = b where
  sound h := ⟨_, _, Nat.le_refl _, rfl, h⟩
  complete hab h := by
    subst hab
    exact ⟨_, h⟩

theorem congr (h : Realizes program text base stop R) (hR : ∀ a b, R a b ↔ R' a b) :
    Realizes program text base stop R' where
  sound hrun := by
    obtain ⟨b, less, hless, hab, hrest⟩ := h.sound hrun
    exact ⟨b, less, hless, (hR _ b).1 hab, hrest⟩
  complete hab hrest := h.complete ((hR _ _).2 hab) hrest

theorem seq (h : Realizes program text base middle R) (h' : Realizes program text middle stop R') :
    Realizes program text base stop fun a c => ∃ b, R a b ∧ R' b c where
  sound hrun := by
    obtain ⟨b, less, hless, hab, hrest⟩ := h.sound hrun
    obtain ⟨c, fewer, hfewer, hbc, hlast⟩ := h'.sound hrest
    exact ⟨c, fewer, Nat.le_trans hfewer hless, ⟨b, hab, hbc⟩, hlast⟩
  complete := by
    rintro steps a c z ⟨b, hab, hbc⟩ hlast
    obtain ⟨more, hrest⟩ := h'.complete hbc hlast
    exact h.complete hab hrest

/-- A state that goes on to the next one. -/
theorem instr (hi : program[base]? = some i) (hne : i ≠ .done)
    (hmoves : ∀ a m b, i.Moves text base a m b ↔ m = base + 1 ∧ R a b) :
    Realizes program text base (base + 1) R where
  sound hrun := by
    obtain ⟨less, m, b, rfl, hmove, hrest⟩ := hrun.of_ne_done hi hne
    obtain ⟨rfl, hab⟩ := (hmoves _ m b).1 hmove
    exact ⟨b, less, Nat.le_succ _, hab, hrest⟩
  complete hab hrest := ⟨_, .step hi ((hmoves _ _ _).2 ⟨rfl, hab⟩) hrest⟩

/-- A way is chosen, and the ways meet again. -/
theorem fork {first second : Nat} (h : Forks program text base first second)
    (hfirst : Realizes program text first stop R) (hsecond : Realizes program text second stop R') :
    Realizes program text base stop fun a b => R a b ∨ R' a b where
  sound hrun := by
    obtain ⟨less, hless, hrest | hrest⟩ := h.sound hrun
    · obtain ⟨c, fewer, hfewer, hac, hlast⟩ := hfirst.sound hrest
      exact ⟨c, fewer, by omega, .inl hac, hlast⟩
    · obtain ⟨c, fewer, hfewer, hac, hlast⟩ := hsecond.sound hrest
      exact ⟨c, fewer, by omega, .inr hac, hlast⟩
  complete := by
    rintro steps a c z (hac | hac) hlast
    · obtain ⟨more, hrest⟩ := hfirst.complete hac hlast
      exact h.complete (.inl hrest)
    · obtain ⟨more, hrest⟩ := hsecond.complete hac hlast
      exact h.complete (.inr hrest)

/-- A state that goes on elsewhere. -/
theorem jump (hi : program[base]? = some (.jump stop)) :
    Realizes program text base stop fun a b => a = b where
  sound hrun := by
    obtain ⟨less, m, b, rfl, ⟨rfl, rfl⟩, hrest⟩ := hrun.of_ne_done hi nofun
    exact ⟨_, less, Nat.le_succ _, rfl, hrest⟩
  complete hab hrest := by
    subst hab
    exact ⟨_, .step hi ⟨rfl, rfl⟩ hrest⟩

/-- Code that is left at a state which leads back or out is repeated from there any number of
times. -/
theorem back {out : Nat} (hbody : Realizes program text base middle R)
    (hfork : Forks program text middle base out) :
    Realizes program text middle out fun a b => ∃ times, Iterated R times a b where
  sound {steps} := by
    -- Each time makes the run shorter that is left.
    induction steps using Nat.strong_induction_on with
    | h steps ih =>
      intro a z hrun
      obtain ⟨less, hless, hrest | hrest⟩ := hfork.sound hrun
      · obtain ⟨b, fewer, hfewer, hab, hrest⟩ := hbody.sound hrest
        obtain ⟨c, least, hleast, ⟨times, hbc⟩, hlast⟩ := ih fewer (by omega) hrest
        exact ⟨c, least, by omega, ⟨times + 1, b, hab, hbc⟩, hlast⟩
      · exact ⟨a, less, Nat.le_of_lt hless, ⟨0, rfl⟩, hrest⟩
  complete := by
    -- The run is put together from its end on, so the induction is on the times that are left.
    rintro steps a c z ⟨times, hac⟩ hlast
    induction times generalizing a with
    | zero =>
        obtain rfl : a = c := hac
        exact hfork.complete (.inr hlast)
    | succ times ih =>
        obtain ⟨b, hab, hbc⟩ := hac
        obtain ⟨more, hmore⟩ := ih hbc
        obtain ⟨most, hmost⟩ := hbody.complete hab hmore
        exact hfork.complete (.inl hmost)

end Realizes

/-! ## Repetitions -/

section Repetitions

variable {R : Spot → Spot → Prop} {least count more : Nat} {a b c : Spot}

theorem iterated_add :
    Iterated R (count + more) a c ↔ ∃ b, Iterated R count a b ∧ Iterated R more b c := by
  induction count generalizing a with
  | zero =>
      rw [Nat.zero_add]
      exact ⟨fun h => ⟨a, rfl, h⟩, fun ⟨_, hab, h⟩ => hab ▸ h⟩
  | succ count ih =>
      rw [Nat.succ_add]
      constructor
      · rintro ⟨d, had, hdc⟩
        obtain ⟨b, hdb, hbc⟩ := ih.1 hdc
        exact ⟨b, ⟨d, had, hdb⟩, hbc⟩
      · rintro ⟨b, ⟨d, had, hdb⟩, hbc⟩
        exact ⟨d, had, ih.2 ⟨b, hdb, hbc⟩⟩

/-- So many repetitions and then some more, of which the number is not given. -/
theorem exists_iterated_iff {P : Nat → Prop} :
    (∃ b, Iterated R least a b ∧ ∃ more, P more ∧ Iterated R more b c) ↔
      ∃ count, (∃ more, count = least + more ∧ P more) ∧ Iterated R count a c := by
  constructor
  · rintro ⟨b, hab, more, hmore, hbc⟩
    exact ⟨least + more, ⟨more, rfl, hmore⟩, iterated_add.2 ⟨b, hab, hbc⟩⟩
  · rintro ⟨_, ⟨more, rfl, hmore⟩, hac⟩
    obtain ⟨b, hab, hbc⟩ := iterated_add.1 hac
    exact ⟨b, hab, more, hmore, hbc⟩

/-- Repetitions are a first one and the others, or none. -/
theorem exists_iterated_cases {P : Nat → Prop} :
    (∃ times, P times ∧ Iterated R times a c) ↔
      (∃ b, R a b ∧ ∃ times, P (times + 1) ∧ Iterated R times b c) ∨ P 0 ∧ a = c := by
  constructor
  · rintro ⟨_ | times, htimes, hac⟩
    · exact .inr ⟨htimes, hac⟩
    · obtain ⟨b, hab, hbc⟩ := hac
      exact .inl ⟨b, hab, times, htimes, hbc⟩
  · rintro (⟨b, hab, times, htimes, hbc⟩ | ⟨hnone, hac⟩)
    · exact ⟨times + 1, htimes, b, hab, hbc⟩
    · exact ⟨0, hnone, hac⟩

end Repetitions

/-- Code that does what a relation says, wherever it stands. -/
structure Implements (program : Program) (text : List Char) (code : Nat → List Instr)
    (R : Spot → Spot → Prop) : Prop where
  length (base base' : Nat) : (code base).length = (code base').length
  realizes {base : Nat} (h : Placed program base (code base)) :
    Realizes program text base (base + (code base).length) R

namespace Implements

variable {program : Program} {text : List Char} {code code' : Nat → List Instr}
variable {R R' : Spot → Spot → Prop}

theorem congr (h : Implements program text code R) (hR : ∀ a b, R a b ↔ R' a b) :
    Implements program text code R' :=
  ⟨h.length, fun hplaced => (h.realizes hplaced).congr hR⟩

theorem nothing : Implements program text (fun _ => []) fun a b => a = b :=
  ⟨fun _ _ => rfl, fun _ => .nothing⟩

theorem instr {i : Instr} (hne : i ≠ .done)
    (hmoves : ∀ n a m b, i.Moves text n a m b ↔ m = n + 1 ∧ R a b) :
    Implements program text (fun _ => [i]) R :=
  ⟨fun _ _ => rfl, fun hplaced => .instr hplaced.head hne (hmoves _)⟩

theorem append (h : Implements program text code R) (h' : Implements program text code' R') :
    Implements program text (fun base => code base ++ code' (base + (code base).length))
      fun a c => ∃ b, R a b ∧ R' b c where
  length base base' := by
    rw [List.length_append, List.length_append, h.length base base', h'.length _]
  realizes hplaced := by
    rw [List.length_append, ← Nat.add_assoc]
    exact (h.realizes hplaced.left).seq (h'.realizes hplaced.right)

theorem copies (h : Implements program text code R) (count : Nat) :
    Implements program text (Node.copies code count) (Iterated R count) := by
  induction count with
  | zero => exact nothing
  | succ count ih => exact h.append ih

theorem length_optional (h : Implements program text code R) (greedy : Bool)
    (out count base base' : Nat) :
    (Node.optional code greedy out count base).length = count * ((code base').length + 1) := by
  induction count generalizing base with
  | zero => exact (Nat.zero_mul _).symm
  | succ count ih =>
      rw [Node.optional, List.length_cons, List.length_append, ih, h.length (base + 1) base']
      ring

/-- Code that may be passed by before each time. -/
theorem realizes_optional (h : Implements program text code R) (greedy : Bool)
    {out count base : Nat}
    (hplaced : Placed program base (Node.optional code greedy out count base))
    (hout : base + count * ((code base).length + 1) = out) :
    Realizes program text base out fun a b => ∃ times, times ≤ count ∧ Iterated R times a b := by
  induction count generalizing base with
  | zero =>
      obtain rfl : base = out := by omega
      refine Realizes.nothing.congr fun a b => ⟨fun hab => ⟨0, Nat.le_refl 0, hab⟩, ?_⟩
      rintro ⟨times, htimes, hab⟩
      obtain rfl := Nat.le_zero.1 htimes
      exact hab
  | succ count ih =>
      -- All states of choice lead out to the same place, however many of them are left.
      have hbody := hplaced.tail.left
      have hnext : base + 1 + (code (base + 1)).length + count *
          ((code (base + 1 + (code (base + 1)).length)).length + 1) = out := by
        rw [h.length (base + 1) base, h.length (base + 1 + (code base).length) base, ← hout]
        ring
      have hagain := (h.realizes hbody).seq (ih hplaced.tail.right hnext)
      refine (Realizes.fork (.choose hplaced.head) hagain .nothing).congr fun a c => ?_
      rw [exists_iterated_cases]
      simp only [Nat.succ_le_succ_iff, Nat.zero_le, true_and]

theorem optional (h : Implements program text code R) (greedy : Bool) (count : Nat) :
    Implements program text
      (fun base => Node.optional code greedy (base + count * ((code base).length + 1)) count base)
      fun a b => ∃ times, times ≤ count ∧ Iterated R times a b where
  length base base' := by
    rw [h.length_optional _ _ _ base 0, h.length_optional _ _ _ base' 0]
  realizes {base} hplaced := by
    rw [h.length_optional _ _ _ base base]
    exact h.realizes_optional greedy hplaced rfl

/-- Code that decides behind itself whether it is run again. -/
theorem again (h : Implements program text code R) (greedy : Bool) :
    Implements program text
      (fun base => code base ++ [.choose greedy base (base + (code base).length + 1)])
      fun a b => ∃ times, 0 < times ∧ Iterated R times a b where
  length base base' := by rw [List.length_append, List.length_append, h.length base base']; rfl
  realizes {base} hplaced := by
    rw [List.length_append, List.length_singleton, ← Nat.add_assoc]
    have hbody := h.realizes hplaced.left
    refine (hbody.seq (hbody.back (.choose hplaced.right.head))).congr fun a c => ?_
    rw [exists_iterated_cases]
    simp only [Nat.succ_pos, Nat.lt_irrefl, true_and, false_and, or_false]

/-- Code that is entered or passed by, and goes back behind itself. -/
theorem loop (h : Implements program text code R) (greedy nullable : Bool) :
    Implements program text
      (fun base => .choose greedy (base + 1) (base + (code (base + 1)).length + 2) ::
        (code (base + 1) ++
          [if nullable then .choose greedy (base + 1) (base + (code (base + 1)).length + 2)
            else .jump base]))
      fun a b => ∃ times, Iterated R times a b where
  length base base' := by
    simp only [List.length_cons, List.length_append]
    rw [h.length (base + 1) (base' + 1)]
  realizes {base} hplaced := by
    have hbody := h.realizes hplaced.tail.left
    have hfirst : Forks program text base (base + 1) _ := .choose hplaced.head
    -- Behind the body a run goes on as it would from the first state, perhaps after a jump there.
    have hback := hplaced.tail.right.head
    have hlast : Forks program text (base + 1 + (code (base + 1)).length) (base + 1)
        (base + (code (base + 1)).length + 2) := by
      cases nullable with
      | true => exact .choose hback
      | false => exact .jump hback hfirst
    have hout : base + (code (base + 1)).length + 2 = base + (((code (base + 1)) ++
        [if nullable then Instr.choose greedy (base + 1) (base + (code (base + 1)).length + 2)
          else .jump base]).length + 1) := by
      rw [List.length_append, List.length_singleton]
      omega
    rw [List.length_cons, ← hout]
    have hagain := hbody.seq (hbody.back hlast)
    refine (Realizes.fork hfirst hagain .nothing).congr fun a c => ?_
    have hcases := @exists_iterated_cases R a c fun _ => True
    simp only [true_and] at hcases
    exact hcases.symm

/-- One of two pieces of code, the first of which is left over the second. -/
theorem alt (h : Implements program text code R) (h' : Implements program text code' R') :
    Implements program text
      (fun base =>
        .split (base + 1) (base + (code (base + 1)).length + 2) ::
          (code (base + 1) ++
            .jump (base + (code (base + 1)).length + 2 +
                (code' (base + (code (base + 1)).length + 2)).length) ::
              code' (base + (code (base + 1)).length + 2)))
      fun a b => R a b ∨ R' a b where
  length base base' := by
    simp only [List.length_cons, List.length_append]
    rw [h.length (base + 1) (base' + 1), h'.length _ (base' + (code (base' + 1)).length + 2)]
  realizes {base} hplaced := by
    have hrest := hplaced.tail.right
    have hfirst := (h.realizes hplaced.tail.left).seq (.jump hrest.head)
    have hplaced' : Placed program (base + (code (base + 1)).length + 2)
        (code' (base + (code (base + 1)).length + 2)) := by
      have htail := hrest.tail
      rwa [show base + 1 + (code (base + 1)).length + 1 = base + (code (base + 1)).length + 2 by
        omega] at htail
    have hstop : base + (code (base + 1)).length + 2 +
        (code' (base + (code (base + 1)).length + 2)).length =
        base + ((code (base + 1)).length +
          ((code' (base + (code (base + 1)).length + 2)).length + 1) + 1) := by
      omega
    simp only [List.length_cons, List.length_append]
    rw [← hstop]
    refine (Realizes.fork (.split hplaced.head) hfirst (h'.realizes hplaced')).congr fun a b => ?_
    simp only [exists_eq_right]

end Implements

/-! ## Expressions -/

section Expressions

variable {text : List Char} {least count : Nat}

/-- At least so many repetitions, with no bound on them. -/
theorem isBetween_none : IsBetween least none count ↔ ∃ more, count = least + more :=
  ⟨fun h => ⟨count - least, by have := h.1; omega⟩, fun ⟨more, h⟩ => ⟨by omega, nofun⟩⟩

theorem isBetween_succ_none :
    IsBetween (least + 1) none count ↔ ∃ more, count = least + more ∧ 0 < more :=
  ⟨fun h => ⟨count - least, by have := h.1; omega, by have := h.1; omega⟩,
    fun ⟨more, h, hpos⟩ => ⟨by omega, nofun⟩⟩

theorem isBetween_some {most : Nat} :
    IsBetween least (some most) count ↔
      ∃ more, count = least + more ∧ more ≤ most - least := by
  constructor
  · rintro ⟨hleast, hmost⟩
    have hcount := hmost most rfl
    exact ⟨count - least, by omega, by omega⟩
  · rintro ⟨more, rfl, hmore⟩
    refine ⟨Nat.le_add_right _ _, fun m hm => ?_⟩
    obtain rfl := Option.some.inj hm
    omega

/-- The code of an expression matches what the expression does. -/
theorem implements_code (program : Program) (text : List Char) (r : Node) :
    Implements program text r.code (r.Matches text) := by
  induction r with
  | empty => exact .nothing
  | set s => exact .instr nofun fun _ _ _ _ => Iff.rfl
  | look kind wide => exact .instr nofun fun _ _ _ _ => Iff.rfl
  | group index r ih =>
      have hsave (slot : Nat) : Implements program text (fun _ => [.save slot])
          fun a b => b = a.save slot := .instr nofun fun _ _ _ _ => Iff.rfl
      have hcode : Implements program text (Node.group index r).code _ :=
        ((hsave (2 * index)).append ih).append (hsave (2 * index + 1))
      refine hcode.congr fun a c => ?_
      simp only [Node.Matches, exists_eq_left]
  | seq r s ihr ihs => exact ihr.append ihs
  | alt r s ihr ihs => exact ihr.alt ihs
  | rep least most greedy r ih =>
      cases most with
      | some most =>
          refine ((ih.copies least).append (ih.optional greedy (most - least))).congr fun a c => ?_
          rw [exists_iterated_iff]
          simp only [Node.Matches, isBetween_some]
      | none =>
          cases least with
          | zero =>
              refine (ih.loop greedy r.isNullable).congr fun a c => ?_
              simp only [Node.Matches, isBetween_none, Nat.zero_add, exists_eq', true_and]
          | succ least =>
              refine ((ih.copies least).append (ih.again greedy)).congr fun a c => ?_
              rw [exists_iterated_iff]
              simp only [Node.Matches, isBetween_succ_none]

/-- The automaton of an expression matches what the expression does as group zero. -/
theorem exists_accepts_program {r : Node} {a : Spot} {z : Slots} :
    (∃ steps, Accepts r.program text steps 0 a z) ↔
      ∃ b, (Node.group 0 r).Matches text a b ∧ z = b.slots := by
  have hcode : r.program = ((Node.group 0 r).code 0 ++ [Instr.done]).toArray := by
    simp [Node.program, Node.code]
  have hplaced : Placed r.program 0 ((Node.group 0 r).code 0 ++ [Instr.done]) := by
    intro k i hi
    rwa [hcode, List.getElem?_toArray, Nat.zero_add]
  have hdone := hplaced.right.head
  have hrealizes := (implements_code r.program text (.group 0 r)).realizes hplaced.left
  constructor
  · rintro ⟨steps, hrun⟩
    obtain ⟨b, less, -, hmatch, hrest⟩ := hrealizes.sound hrun
    exact ⟨b, hmatch, hrest.of_done hdone⟩
  · rintro ⟨b, hmatch, rfl⟩
    exact hrealizes.complete hmatch (.done b hdone)

end Expressions

end Regex
end LeftRec
