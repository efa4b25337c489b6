import LeftRec.Proofs.Reading
import LeftRec.Run

/-!
# Alignment — positions of two inputs where the same remains

Two inputs may have the same tokens from some positions on, though the tokens have other widths or
stand behind other tokens.  There everything that a terminal asks of them has corresponding answers:
what remains, what comes next, and which of two positions lies before the other.
-/

namespace LeftRec
namespace Input

variable {τ : Type}

/-- From a boundary of one input and from a boundary of the other one the same tokens remain. -/
structure Aligned (input other : Input τ) (i j : Nat) : Prop where
  left : input.Boundary i
  right : other.Boundary j
  rest_eq : input.rest i = other.rest j

variable {input other : Input τ} {i j i' j' : Nat}

/-- What is left at a boundary is what lies between it and the end. -/
theorem Boundary.add_span_rest (h : input.Boundary i) :
    i + span input.width (input.rest i) = input.extent :=
  (reads_rest h).stop_eq.symm

theorem Boundary.rest?_eq (h : input.Boundary i) : input.rest? i = some (input.rest i) := by
  obtain ⟨before, after, htokens, rfl⟩ := h
  have hcut : input.rest? (span input.width before) = some after := by
    rw [rest?, htokens, cut_append]
    rfl
  rw [rest, hcut, Option.getD_some]

theorem boundary_extent (input : Input τ) : input.Boundary input.extent :=
  (reads_rest boundary_zero).boundary boundary_zero

namespace Aligned

theorem symm (h : input.Aligned other i j) : other.Aligned input j i where
  left := h.right
  right := h.left
  rest_eq := h.rest_eq.symm

theorem ends (input other : Input τ) : input.Aligned other input.extent other.extent where
  left := input.boundary_extent
  right := other.boundary_extent
  rest_eq := by rw [rest_extent, rest_extent]

/-! ## What remains, and the order of positions -/

theorem remaining_eq (h : input.Aligned other i j) : input.remaining i = other.remaining j := by
  rw [remaining, remaining, h.rest_eq]

theorem eq_iff (h : input.Aligned other i j) (h' : input.Aligned other i' j') :
    i = i' ↔ j = j' := by
  rw [h.left.eq_iff h'.left, h.right.eq_iff h'.right, h.remaining_eq, h'.remaining_eq]

theorem lt_iff (h : input.Aligned other i j) (h' : input.Aligned other i' j') :
    i < i' ↔ j < j' := by
  rw [h.left.lt_iff h'.left, h.right.lt_iff h'.right, h.remaining_eq, h'.remaining_eq]

theorem extent_le_iff (h : input.Aligned other i j) : input.extent ≤ i ↔ other.extent ≤ j := by
  have hends := h.lt_iff (ends input other)
  omega

/-! ## Reading -/

/-- What may be read in one input may be read in the other. -/
theorem reads (h : input.Aligned other i j) {word : List τ} (hreads : input.Reads i word i') :
    other.Reads j word (j + span other.width word) :=
  reads_of_rest (h.rest_eq.symm.trans hreads.rest_eq)

/-- After reading the same, the same remains. -/
theorem after (h : input.Aligned other i j) {word : List τ} (hreads : input.Reads i word i')
    (hreads' : other.Reads j word j') : input.Aligned other i' j' where
  left := hreads.boundary h.left
  right := hreads'.boundary h.right
  rest_eq := by
    have hsame := hreads.rest_eq.symm.trans (h.rest_eq.trans hreads'.rest_eq)
    exact List.append_cancel_left hsame

theorem slice_eq (h : input.Aligned other i j) :
    input.slice i input.extent = other.slice j other.extent := by
  rw [(reads_rest h.left).slice_eq, (reads_rest h.right).slice_eq, h.rest_eq]

theorem max_extent (h : input.Aligned other i j) : max input.extent i = input.extent :=
  Nat.max_eq_left h.left.le_extent

end Aligned

end Input
end LeftRec
