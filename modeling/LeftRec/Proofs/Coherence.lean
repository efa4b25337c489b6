import LeftRec.Proofs.Alignment
import LeftRec.Proofs.Windows

/-!
# Coherence — all that is asked of an input agrees

An input is asked for the token at a position, for the start of the token that ends there, for what
stands between two positions, whether some tokens come next, and how many remain.  Each answer is
about tokens that may be read from one position to another, so all of them agree.  In text the
boundaries are those of its characters among its UTF-8 bytes.
-/

namespace LeftRec
namespace Input

variable {τ : Type} {input : Input τ} {pos stop : Nat}

/-! ## Tokens on and back -/

/-- Something can only be read from a boundary. -/
theorem Reads.starts {word : List τ} (h : input.Reads pos word stop) (hword : word ≠ []) :
    input.Boundary pos := by
  by_cases hpos : input.Boundary pos
  · exact hpos
  · have hrest := h.rest_eq
    rw [rest_of_not_boundary hpos] at hrest
    exact absurd (List.append_eq_nil_iff.1 hrest.symm).1 hword

/-- A word that is read stands behind what lies before it. -/
theorem Reads.exists_append {word : List τ} (h : input.Reads pos word stop) (hword : word ≠ []) :
    ∃ before after, input.tokens = (before ++ word) ++ after ∧ pos = span input.width before := by
  obtain ⟨before, after, htokens, rfl⟩ := h.starts hword
  refine ⟨before, input.rest stop, ?_, rfl⟩
  have hrest := h.rest_eq
  rw [rest_of_append htokens] at hrest
  rw [htokens, hrest, List.append_assoc]

/-- The step back leads from where a token ends to where it starts. -/
theorem prev?_eq_some_iff : input.prev? stop = some pos ↔ ∃ t, input.Reads pos [t] stop := by
  constructor
  · intro h
    obtain ⟨⟨before, after⟩, hcut, hlast⟩ := Option.bind_eq_some_iff.1 h
    obtain ⟨t, ht, hstart⟩ := Option.map_eq_some_iff.1 hlast
    obtain ⟨first, rfl⟩ := List.getLast?_eq_some_iff.1 ht
    obtain ⟨htokens, rfl⟩ := eq_append_of_cut hcut
    have hpos : pos = span input.width first := by
      rw [← hstart, span_append]
      simp [span]
    rw [List.append_assoc] at htokens
    refine ⟨t, ?_⟩
    rw [hpos, span_append]
    exact reads_of_rest (rest_of_append htokens)
  · rintro ⟨t, h⟩
    obtain ⟨before, after, htokens, rfl⟩ := h.exists_append (List.cons_ne_nil t [])
    rw [h.stop_eq, ← span_append]
    exact prev?_concat htokens

/-- Another token comes just where there is a boundary before the end. -/
theorem exists_next?_iff :
    (∃ t stop, input.next? pos = some (t, stop)) ↔ input.Boundary pos ∧ pos < input.extent := by
  constructor
  · rintro ⟨t, stop, h⟩
    have hreads := reads_of_next? h
    have hpos := hreads.starts (List.cons_ne_nil t [])
    have hstop := (hreads.boundary hpos).le_extent
    exact ⟨hpos, Nat.lt_of_lt_of_le (hreads.lt (List.cons_ne_nil t [])) hstop⟩
  · rintro ⟨hpos, hlt⟩
    have hreads := reads_rest hpos
    cases hrest : input.rest pos with
    | nil =>
        rw [hrest] at hreads
        exact absurd hreads.stop_eq (Nat.ne_of_gt hlt)
    | cons t tail =>
        rw [hrest] at hreads
        obtain ⟨stop, hfirst, -⟩ := hreads.split_cons
        exact ⟨t, stop, hfirst.next?⟩

theorem remaining_of_not_boundary (h : ¬ input.Boundary pos) : input.remaining pos = 0 := by
  rw [remaining, rest_of_not_boundary h]
  rfl

/-! ## One token after the other -/

/-- The tokens met by stepping on from a position until no token comes next. -/
def tokensFrom (input : Input τ) (pos : Nat) : List τ :=
  match _hnext : input.next? pos with
  | some (t, after) => t :: input.tokensFrom after
  | none => []
termination_by input.remaining pos
decreasing_by
  -- A token that is stepped over no longer remains.
  rw [(reads_of_next? _hnext).remaining_eq, List.length_singleton]
  exact Nat.lt_add_of_pos_left Nat.one_pos

theorem tokensFrom_eq_rest (pos : Nat) : input.tokensFrom pos = input.rest pos := by
  fun_induction tokensFrom input pos with
  | case1 pos t after hnext ih => rw [ih, (reads_of_next? hnext).rest_eq, List.singleton_append]
  | case2 pos hnone => exact (List.head?_eq_none_iff.1 (Option.map_eq_none_iff.1 hnone)).symm

/-- Stepping on as often as tokens remain leads to the end. -/
theorem forth_remaining (hpos : input.Boundary pos) :
    input.forth (input.remaining pos) pos = input.extent := by
  obtain ⟨before, after, htokens, rfl⟩ := hpos
  rw [remaining, rest_of_append htokens, forth_of_append htokens, List.take_length, extent, htokens]

theorem slice_extent (hpos : input.Boundary pos) : input.slice pos input.extent = input.rest pos :=
  (reads_rest hpos).slice_eq

/-! ## Tokens that come next -/

/-- What stands between two positions may be read, unless nothing stands there. -/
theorem reads_of_slice {word : List τ} (hle : pos ≤ stop) (hstop : stop ≤ input.extent)
    (hslice : input.slice pos stop = word) (hword : word ≠ []) : input.Reads pos word stop := by
  simp only [slice] at hslice
  rw [Nat.min_eq_left hstop, Nat.min_eq_left hle] at hslice
  cases hcut : cut input.width (input.rest pos) (stop - pos) with
  | none =>
      rw [hcut] at hslice
      exact absurd hslice.symm hword
  | some pair =>
      rw [hcut] at hslice
      obtain rfl : pair.1 = word := hslice
      obtain ⟨hrest, hspan⟩ := eq_append_of_cut hcut
      have hreads := reads_of_rest hrest
      rwa [← hspan, Nat.add_sub_cancel' hle] at hreads

/-- Some tokens come next just where they fit in and stand between the position and where they
would end. -/
theorem startsWith_iff [BEq τ] [LawfulBEq τ] {word : List τ} :
    input.startsWith pos word = true ↔
      input.Boundary pos ∧ pos + span input.width word ≤ input.extent ∧
        input.slice pos (pos + span input.width word) = word := by
  constructor
  · intro h
    have hreads := reads_of_startsWith h
    obtain ⟨there, hthere, -⟩ := (Option.any_eq_true _ _).1 h
    obtain ⟨pair, hcut, -⟩ := Option.map_eq_some_iff.1 hthere
    have hpos := boundary_of_cut hcut
    exact ⟨hpos, (hreads.boundary hpos).le_extent, hreads.slice_eq⟩
  · rintro ⟨hpos, hstop, hslice⟩
    by_cases hword : word = []
    · rw [startsWith, hpos.rest?_eq, hword]
      rfl
    · have hle : pos ≤ pos + span input.width word := Nat.le_add_right _ _
      exact (reads_of_slice hle hstop hslice hword).startsWith hword

/-! ## Text as bytes -/

/-- Characters take as many bytes as the text made of them. -/
theorem span_utf8Size (chars : List Char) :
    span Char.utf8Size chars = (String.ofList chars).utf8ByteSize := by
  induction chars with
  | nil => rw [String.ofList_nil]; rfl
  | cons c rest ih =>
      rw [span, ih, String.ofList_cons, String.utf8ByteSize_append, String.utf8ByteSize_singleton]

theorem span_toList (text : String) : span Char.utf8Size text.toList = text.utf8ByteSize := by
  rw [span_utf8Size, String.ofList_toList]

theorem extent_ofText (text : String) : (ofText text).extent = text.utf8ByteSize :=
  span_toList text

/-- The boundaries of a text are the offsets at which its bytes can be divided into two texts. -/
theorem boundary_ofText_iff {text : String} :
    (ofText text).Boundary pos ↔ (⟨pos⟩ : String.Pos.Raw).IsValid text := by
  rw [String.Pos.Raw.isValid_iff_exists_append]
  constructor
  · rintro ⟨before, after, htokens, hpos⟩
    have htext : text = String.ofList (before ++ after) := by
      rw [← htokens]
      exact String.ofList_toList.symm
    refine ⟨String.ofList before, String.ofList after, ?_, ?_⟩
    · rw [htext, String.ofList_append]
    · exact String.Pos.Raw.ext (hpos.trans (span_utf8Size before))
  · rintro ⟨before, after, rfl, hpos⟩
    refine ⟨before.toList, after.toList, String.toList_append, ?_⟩
    have hbytes : pos = before.utf8ByteSize := congrArg String.Pos.Raw.byteIdx hpos
    exact hbytes.trans (span_toList before).symm

/-- In any text and at any offset, a character comes next exactly at a character boundary before the
end.  It then ends as many bytes further on as it takes, the step back from there leads to where it
starts, it alone stands between the two, and one more character remains where it starts than where
it ends.  Where a step back leads, the step on leads back.  Stepping on from a boundary meets the
characters up to the end, as many as remain, and stops there.  A word comes next exactly at a
boundary from which it does not reach past the end, if it stands between there and where it would
end.  Inside a character and past the end no character comes next, and none remain. -/
theorem ofText_coherent (text : String) (p : Nat) :
    let input := ofText text
    let boundary := (⟨p⟩ : String.Pos.Raw).IsValid text
    input.extent = text.utf8ByteSize ∧
    ((∃ c q, input.next? p = some (c, q)) ↔ boundary ∧ p < input.extent) ∧
    (∀ c q, input.next? p = some (c, q) →
      q = p + c.utf8Size ∧ input.prev? q = some p ∧ input.slice p q = [c] ∧
        input.remaining p = input.remaining q + 1) ∧
    (∀ q, input.prev? q = some p → ∃ c, input.next? p = some (c, q)) ∧
    (boundary → input.tokensFrom p = input.slice p input.extent ∧
      (input.tokensFrom p).length = input.remaining p ∧
      input.forth (input.remaining p) p = input.extent ∧ input.next? input.extent = none) ∧
    (∀ word : String, input.startsWith p word.toList = true ↔
      boundary ∧ p + word.utf8ByteSize ≤ input.extent ∧
        input.slice p (p + word.utf8ByteSize) = word.toList) ∧
    (¬ boundary ∨ input.extent < p → input.next? p = none ∧ input.remaining p = 0) := by
  intro input boundary
  have hboundary : input.Boundary p ↔ boundary := boundary_ofText_iff
  refine ⟨extent_ofText text, ?_, fun c q hnext => ?_, fun q hprev => ?_, fun hpos => ?_,
    fun word => ?_, fun hoff => ?_⟩
  · rw [← hboundary]
    exact exists_next?_iff
  · have hreads := reads_of_next? hnext
    refine ⟨hreads.stop_eq, prev?_eq_some_iff.2 ⟨c, hreads⟩, hreads.slice_eq, ?_⟩
    rw [hreads.remaining_eq, List.length_singleton, Nat.add_comm]
  · obtain ⟨c, hreads⟩ := prev?_eq_some_iff.1 hprev
    exact ⟨c, hreads.next?⟩
  · have hstart : input.Boundary p := hboundary.2 hpos
    have hend : input.next? input.extent = none := by
      rw [next?, rest_extent]
      rfl
    rw [tokensFrom_eq_rest, slice_extent hstart]
    exact ⟨rfl, rfl, forth_remaining hstart, hend⟩
  · rw [← hboundary, ← span_toList word]
    exact startsWith_iff
  · have hnot : ¬ input.Boundary p := by
      intro hstart
      rcases hoff with hinside | hpast
      · exact hinside (hboundary.1 hstart)
      · exact absurd hstart.le_extent (Nat.not_le.2 hpast)
    exact ⟨next?_of_not_boundary hnot, remaining_of_not_boundary hnot⟩

/-- A character of two bytes between one of a single byte and one of four. -/
theorem ofText_coherent_wide :
    let input := ofText "aλ𝄞"
    input.next? 1 = some ('λ', 3) ∧ input.prev? 3 = some 1 ∧ input.slice 1 3 = ['λ'] ∧
      input.remaining 1 = input.remaining 3 + 1 ∧ input.tokensFrom 1 = ['λ', '𝄞'] ∧
      input.startsWith 1 "λ𝄞".toList = true ∧ input.next? 2 = none ∧ input.remaining 2 = 0 := by
  intro input
  have hnext : input.next? 1 = some ('λ', 3) := by decide
  have hvalid : (⟨1⟩ : String.Pos.Raw).IsValid "aλ𝄞" := by decide
  have hinvalid : ¬ (⟨2⟩ : String.Pos.Raw).IsValid "aλ𝄞" := by decide
  obtain ⟨-, -, hcharacter, -, hwalk, hword, -⟩ := ofText_coherent "aλ𝄞" 1
  obtain ⟨-, -, -, -, -, -, hnone⟩ := ofText_coherent "aλ𝄞" 2
  obtain ⟨-, hprev, hslice, hremaining⟩ := hcharacter 'λ' 3 hnext
  have hrest : input.slice 1 input.extent = ['λ', '𝄞'] := by decide
  refine ⟨hnext, hprev, hslice, hremaining, ?_, ?_, hnone (.inl hinvalid)⟩
  · exact (hwalk hvalid).1.trans hrest
  · exact (hword "λ𝄞").2 ⟨hvalid, by decide, by decide⟩

end Input
end LeftRec
