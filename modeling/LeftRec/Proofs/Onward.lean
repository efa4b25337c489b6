import LeftRec.Proofs.Course

/-!
# Onward — no run goes back

Where a run ends, and where it reports a failure, is reached from where it began by reading tokens.
This holds of outcomes from the table as well, as long as it holds of all that is stored there.
-/

namespace LeftRec

variable {S : Signature} {T : Type → Type} {α β : Type}

/-! ## Outcomes -/

/-- The outcome's position is reached from `pos` by reading tokens. -/
def Outcome.Onward {τ : Type} (input : Input τ) (pos : Nat) (o : Outcome α) : Prop :=
  ∃ word, input.Reads pos word o.pos

namespace Outcome.Onward

variable {τ : Type} {input : Input τ} {pos middle : Nat} {o : Outcome α}

theorem here (input : Input τ) (h : o.pos = pos) : o.Onward input pos :=
  ⟨[], h ▸ .nil _⟩

theorem of_reads {word : List τ} (h : input.Reads pos word middle) (ho : o.Onward input middle) :
    o.Onward input pos := by
  obtain ⟨more, hmore⟩ := ho
  exact ⟨word ++ more, h.append hmore⟩

theorem trans {first : Outcome β} (hfirst : first.Onward input pos)
    (ho : o.Onward input first.pos) : o.Onward input pos := by
  obtain ⟨word, hword⟩ := hfirst
  exact ho.of_reads hword

theorem congr {first : Outcome β} (hfirst : first.Onward input pos) (h : o.pos = first.pos) :
    o.Onward input pos := by
  unfold Onward
  rw [h]
  exact hfirst

theorem le (h : o.Onward input pos) : pos ≤ o.pos :=
  h.elim fun _ hword => hword.le

end Outcome.Onward

/-! ## Runs -/

variable [MemoTable T]

/-- All that is stored reaches its position by reading tokens from its own. -/
def State.Onward (input : Input S.Token) (state : State S T) : Prop :=
  ∀ kind key pos o under, state.lookup kind key pos = some (o, under) → o.Onward input pos

theorem State.NoEntries.onward {input : Input S.Token} {state : State S T}
    (h : state.NoEntries) : state.Onward input :=
  h.along (.reading input)

namespace Run

/-- From a boundary the run only goes on, and so does all that it stores.  This is what keeping to
the course of reading means. -/
def GoesOn (input : Input S.Token) (p : Run S T α) : Prop :=
  ∀ ⦃pos ctx state o after⦄, input.Boundary pos → state.Onward input →
    p pos ctx state = .done o after → o.Onward input pos ∧ after.Onward input

variable {input : Input S.Token}

theorem goesOn_iff_along {p : Run S T α} : p.GoesOn input ↔ p.Along (.reading input) :=
  Iff.rfl

end Run

/-- Runs of parsers that the library offers only go on, from any boundary. -/
theorem Grammar.goesOn_run [LawfulMemoTable T] {input : Input S.Token} {G : Grammar S}
    {p : Parser S α} (hp : G.Built Parser.Offered p) (fuel : Nat) :
    (G.run input fuel p : Run S T α).GoesOn input :=
  Run.goesOn_iff_along.2 (along_run hp fuel)

end LeftRec
