import Mathlib.Data.List.TakeDrop
import LeftRec.Regex.Reader

/-!
# Closing — reading an expression with a parenthesis behind it

What is read of an expression from a text is read in the same way if a closing parenthesis stands
behind the text, since no reader that succeeds looks at what follows.  The one exception is a
comment that ends the text, which goes on over the parenthesis.
-/

namespace LeftRec
namespace Regex

variable {α γ : Type}

/-! ## Texts with a parenthesis behind them -/

/-- The second text is the first one with a closing parenthesis behind it, or nothing is left of
both, since a comment went on to the end. -/
inductive Closes : List Char → List Char → Prop
  | behind (rest : List Char) : Closes rest (rest ++ [')'])
  | swallowed : Closes [] []

namespace Closes

variable {rest rest' : List Char}

theorem length_le (h : Closes rest rest') : rest.length ≤ rest'.length := by
  cases h with
  | behind =>
      rw [List.length_append]
      exact Nat.le_add_right _ _
  | swallowed => exact Nat.le_refl _

theorem length_le_succ (h : Closes rest rest') : rest'.length ≤ rest.length + 1 := by
  cases h with
  | behind => exact Nat.le_of_eq List.length_append
  | swallowed => exact Nat.zero_le _

theorem eq_of_cons {c : Char} (h : Closes (c :: rest) rest') : rest' = c :: (rest ++ [')']) := by
  cases h with
  | behind => rfl

/-- Behind no text there is the parenthesis alone, or nothing. -/
theorem eq_of_nil {c : Char} (h : Closes [] (c :: rest)) : c = ')' ∧ rest = [] := by
  cases h with
  | behind => exact ⟨rfl, rfl⟩

/-- Nothing but a parenthesis comes to stand first. -/
theorem ne_cons {c : Char} (h : Closes rest rest') (hc : c ≠ ')')
    (hrest : ¬ ∃ more, rest = c :: more) : ¬ ∃ more, rest' = c :: more := by
  rintro ⟨more, hmore⟩
  cases h with
  | swallowed => cases hmore
  | behind =>
      cases rest with
      | nil => exact hc (List.cons.inj hmore).1.symm
      | cons d rest =>
          obtain rfl := (List.cons.inj hmore).1
          exact hrest ⟨rest, rfl⟩

/-- The two begin with the same words, as far as no parenthesis is among their characters. -/
theorem isPrefixOf {word : List Char} (h : Closes rest rest') (hword : ')' ∉ word) :
    word.isPrefixOf rest' = word.isPrefixOf rest := by
  cases h with
  | swallowed => rfl
  | behind =>
      -- The longer text has one prefix more, all of itself, and there the parenthesis stands.
      refine Bool.eq_iff_iff.2 ?_
      rw [List.isPrefixOf_iff_prefix, List.isPrefixOf_iff_prefix, List.prefix_concat_iff]
      refine ⟨fun h => h.resolve_left ?_, .inr⟩
      rintro rfl
      exact hword (List.mem_append_right _ (List.mem_singleton_self _))

theorem drop {word : List Char} (h : Closes rest rest') (hthere : word.isPrefixOf rest) :
    Closes (rest.drop word.length) (rest'.drop word.length) := by
  cases h with
  | swallowed =>
      rw [List.drop_nil]
      exact .swallowed
  | behind =>
      rw [List.drop_append_of_le_length (List.isPrefixOf_iff_prefix.1 hthere).length_le]
      exact .behind _

/-- Characters that pass a test end no later than at the parenthesis, if it does not. -/
theorem dropWhile {p : Char → Bool} (h : Closes rest rest') (hp : p ')' = false) :
    Closes (rest.dropWhile p) (rest'.dropWhile p) := by
  cases h with
  | swallowed => exact .swallowed
  | behind =>
      have hbehind : (rest ++ [')']).dropWhile p = rest.dropWhile p ++ [')'] := by
        induction rest with
        | nil => simp [hp]
        | cons c rest ih =>
            simp only [List.cons_append, List.dropWhile_cons, ih]
            split <;> rfl
      rw [hbehind]
      exact .behind _

theorem takeWhile {p : Char → Bool} (h : Closes rest rest') (hp : p ')' = false) :
    rest'.takeWhile p = rest.takeWhile p := by
  cases h with
  | swallowed => rfl
  | behind =>
      induction rest with
      | nil => simp [hp]
      | cons c rest ih => simp only [List.cons_append, List.takeWhile_cons, ih]

theorem dropBlanks (h : Closes rest rest') (inComment : Bool) :
    Closes (Regex.dropBlanks inComment rest) (Regex.dropBlanks inComment rest') := by
  cases h with
  | swallowed => exact .swallowed
  | behind =>
      induction rest generalizing inComment with
      | nil =>
          cases inComment with
          -- The comment goes on over the parenthesis, and nothing is left of either text.
          | true => exact .swallowed
          | false => exact .behind []
      | cons c rest ih =>
          simp only [List.cons_append, Regex.dropBlanks]
          split
          · exact ih _
          · split
            · exact ih _
            · split
              · exact ih _
              · exact .behind (c :: rest)

theorem skip (h : Closes rest rest') (flags : Flags) :
    Closes (flags.skip rest) (flags.skip rest') := by
  unfold Flags.skip
  split
  · exact h.dropBlanks false
  · exact h

end Closes

theorem length_dropBlanks_le (inComment : Bool) (rest : List Char) :
    (dropBlanks inComment rest).length ≤ rest.length := by
  induction rest generalizing inComment with
  | nil => exact Nat.le_refl _
  | cons c rest ih =>
      simp only [dropBlanks]
      split
      · exact Nat.le_succ_of_le (ih _)
      · split
        · exact Nat.le_succ_of_le (ih _)
        · split
          · exact Nat.le_succ_of_le (ih _)
          · exact Nat.le_refl _

theorem Flags.length_skip_le (flags : Flags) (rest : List Char) :
    (flags.skip rest).length ≤ rest.length := by
  unfold Flags.skip
  split
  · exact length_dropBlanks_le _ _
  · exact Nat.le_refl _

theorem Flags.length_le_of_skip {flags : Flags} {rest more : List Char}
    (h : flags.skip rest = more) : more.length ≤ rest.length :=
  h ▸ flags.length_skip_le rest

theorem Flags.skip_nil (flags : Flags) : flags.skip [] = [] :=
  List.eq_nil_of_length_eq_zero (Nat.le_zero.1 (flags.length_skip_le []))

/-! ## Readers -/

/-- What the first reader reads from a text, the second one reads from that text with a parenthesis
behind it.  What is left is not longer than what was there, so the text is fuel enough for what
follows, too. -/
def Carries (f f' : List Char → Option (α × List Char)) : Prop :=
  ∀ ⦃rest rest' x left⦄, Closes rest rest' → f rest = some (x, left) →
    left.length ≤ rest.length ∧ ∃ left', f' rest' = some (x, left') ∧ Closes left left'

section Carries

variable {f f' g g' : List Char → Option (α × List Char)}

theorem carries_none : Carries (fun _ => none) f' :=
  fun _ _ _ _ _ hread => nomatch hread

theorem carries_some (x : α) : Carries (fun rest => some (x, rest)) fun rest => some (x, rest) := by
  intro rest rest' y left hcloses hread
  obtain ⟨rfl, rfl⟩ := Prod.mk.inj (Option.some.inj hread)
  exact ⟨Nat.le_refl _, rest', rfl, hcloses⟩

/-- A value that may be missing, with all the rest. -/
theorem carries_option (x : Option γ) (k : γ → α) :
    Carries (fun rest => x.map fun c => (k c, rest)) fun rest => x.map fun c => (k c, rest) := by
  cases x with
  | none => exact carries_none
  | some c => exact carries_some (k c)

theorem Carries.bind {k k' : α × List Char → Option (γ × List Char)} (hf : Carries f f')
    (hk : ∀ x, Carries (fun rest => k (x, rest)) fun rest => k' (x, rest)) :
    Carries (fun rest => (f rest).bind k) fun rest => (f' rest).bind k' := by
  intro rest rest' y left hcloses hread
  obtain ⟨⟨x, middle⟩, hfirst, hsecond⟩ := Option.bind_eq_some_iff.1 hread
  obtain ⟨hless, middle', hfirst', hmiddle⟩ := hf hcloses hfirst
  obtain ⟨hlessen, left', hsecond', hleft⟩ := hk x hmiddle hsecond
  exact ⟨Nat.le_trans hlessen hless, left',
    Option.bind_eq_some_iff.2 ⟨_, hfirst', hsecond'⟩, hleft⟩

theorem Carries.map (hf : Carries f f') (k : α → γ) :
    Carries (fun rest => (f rest).map fun found => (k found.1, found.2))
      fun rest => (f' rest).map fun found => (k found.1, found.2) := by
  intro rest rest' y left hcloses hread
  obtain ⟨⟨x, middle⟩, hfirst, heq⟩ := Option.map_eq_some_iff.1 hread
  obtain ⟨rfl, rfl⟩ := Prod.mk.inj heq
  obtain ⟨hless, left', hfirst', hleft⟩ := hf hcloses hfirst
  exact ⟨hless, left', Option.map_eq_some_iff.2 ⟨_, hfirst', rfl⟩, hleft⟩

/-- A value that is at hand decides how to go on. -/
theorem Carries.choose (x : Option γ) {k k' : γ → List Char → Option (α × List Char)}
    (hk : ∀ c, Carries (k c) (k' c)) :
    Carries (fun rest => x.bind fun c => k c rest) fun rest => x.bind fun c => k' c rest := by
  cases x with
  | none => exact carries_none
  | some c => exact hk c

theorem Carries.ite {P : Prop} [Decidable P] (hf : Carries f f') (hg : Carries g g') :
    Carries (fun rest => if P then f rest else g rest)
      fun rest => if P then f' rest else g' rest := by
  split
  · exact hf
  · exact hg

/-- Blanks are skipped alike. -/
theorem Carries.skip (hf : Carries f f') (flags : Flags) :
    Carries (fun rest => f (flags.skip rest)) fun rest => f' (flags.skip rest) := by
  intro rest rest' x left hcloses hread
  obtain ⟨hless, hrest⟩ := hf (hcloses.skip flags) hread
  exact ⟨Nat.le_trans hless (flags.length_skip_le rest), hrest⟩

/-- A reader that recurs with less fuel, where more fuel is no hindrance. -/
theorem carries_of_fuel {ι : Type} {f : Nat → ι → List Char → Option (α × List Char)}
    (hzero : ∀ i, f 0 i = fun _ => none)
    (hsucc : ∀ fuel fuel', (∀ i, Carries (f fuel i) (f fuel' i)) →
      ∀ i, Carries (f (fuel + 1) i) (f (fuel' + 1) i))
    {fuel fuel' : Nat} (hfuel : fuel ≤ fuel') (i : ι) : Carries (f fuel i) (f fuel' i) := by
  induction fuel generalizing fuel' i with
  | zero =>
      rw [hzero]
      exact carries_none
  | succ fuel ih =>
      cases fuel' with
      | zero => exact absurd hfuel (Nat.not_succ_le_zero fuel)
      | succ fuel' => exact hsucc fuel fuel' (ih (Nat.le_of_succ_le_succ hfuel)) i

/-- The text gives fuel to its own reader. -/
theorem Carries.fuel {f f' : Nat → List Char → Option (α × List Char)}
    (hf : ∀ fuel fuel', fuel ≤ fuel' → Carries (f fuel) (f' fuel')) (more : Nat) :
    Carries (fun rest => f (rest.length + more) rest)
      fun rest => f' (rest.length + more) rest := by
  intro rest rest' x left hcloses hread
  exact hf _ _ (Nat.add_le_add_right hcloses.length_le more) hcloses hread

/-- What is carried behind a character, as seen from before it. -/
theorem Carries.behind (hf : Carries f f') (c : Char) {rest left : List Char} {x : α}
    (hread : f rest = some (x, left)) :
    left.length ≤ (c :: rest).length ∧
      ∃ left', f' (rest ++ [')']) = some (x, left') ∧ Closes left left' := by
  obtain ⟨hless, hrest⟩ := hf (.behind rest) hread
  exact ⟨Nat.le_succ_of_le hless, hrest⟩

/-- How a reader goes on after one character. -/
def onHead (k : Char → List Char → Option (α × List Char)) :
    List Char → Option (α × List Char)
  | [] => none
  | c :: rest => k c rest

theorem Carries.onHead {k k' : Char → List Char → Option (α × List Char)}
    (hk : ∀ c, Carries (k c) (k' c)) :
    Carries (onHead k) (Regex.onHead k') := by
  intro rest rest' x left hcloses hread
  cases rest with
  | nil => cases hread
  | cons c rest =>
      obtain rfl := hcloses.eq_of_cons
      exact (hk c).behind c hread

/-- How a reader goes on after some given characters, and how if something else stands there. -/
def onWord (word : List Char) (f g : List Char → Option (α × List Char)) (rest : List Char) :
    Option (α × List Char) :=
  if word.isPrefixOf rest then f (rest.drop word.length) else g rest

theorem Carries.onWord {word : List Char} (hword : ')' ∉ word) (hf : Carries f f')
    (hg : Carries g g') : Carries (onWord word f g) (Regex.onWord word f' g') := by
  intro rest rest' x left hcloses hread
  unfold Regex.onWord at hread ⊢
  rw [hcloses.isPrefixOf hword]
  split at hread
  next hthere =>
    rw [if_pos hthere]
    obtain ⟨hless, hrest⟩ := hf (hcloses.drop hthere) hread
    rw [List.length_drop] at hless
    exact ⟨Nat.le_trans hless (Nat.sub_le _ _), hrest⟩
  next hthere =>
    rw [if_neg hthere]
    exact hg hcloses hread

theorem onWord_of_not {word rest : List Char} (hrest : ∀ more, rest = word ++ more → False) :
    onWord word f g rest = g rest := by
  refine if_neg fun hthere => ?_
  obtain ⟨more, hmore⟩ := List.isPrefixOf_iff_prefix.1 hthere
  exact hrest more hmore.symm

end Carries

/-! ## Refusal -/

/-- A reader that is not helped by a parenthesis behind the text.  Only of a reader that is tried
before another one does it matter what it refuses. -/
def Refuses (f : List Char → Option (α × List Char)) : Prop :=
  ∀ ⦃rest rest'⦄, Closes rest rest' → f rest = none → f rest' = none

theorem refuses_none : Refuses (fun _ => none : List Char → Option (α × List Char)) :=
  fun _ _ _ _ => rfl

theorem refuses_option (x : Option γ) (k : γ → α) : Refuses fun rest => x.map (k ·, rest) := by
  cases x with
  | none => exact refuses_none
  | some c => exact fun _ _ _ hread => nomatch hread

theorem Refuses.bind {f : List Char → Option (α × List Char)}
    {k : α × List Char → Option (γ × List Char)} (hcarries : Carries f f) (hf : Refuses f)
    (hk : ∀ x, Refuses fun rest => k (x, rest)) : Refuses fun rest => (f rest).bind k := by
  intro rest rest' hcloses hread
  cases hfirst : f rest with
  | none => exact Option.bind_eq_none_iff.2 fun x hx => by simp [hf hcloses hfirst] at hx
  | some found =>
      obtain ⟨-, left', hfirst', hleft⟩ := hcarries hcloses hfirst
      refine (congrArg (·.bind k) hfirst').trans (hk found.1 hleft ?_)
      exact (congrArg (·.bind k) hfirst).symm.trans hread

/-- How to go on after a reader, and which other one reads the text that it refuses. -/
def orElse (f : List Char → Option (γ × List Char)) (k : γ → List Char → Option (α × List Char))
    (g : List Char → Option (α × List Char)) (rest : List Char) : Option (α × List Char) :=
  match f rest with
  | some found => k found.1 found.2
  | none => g rest

theorem Carries.orElse {f : List Char → Option (γ × List Char)}
    {k k' : γ → List Char → Option (α × List Char)} {g g' : List Char → Option (α × List Char)}
    (hf : Carries f f) (hrefuses : Refuses f) (hk : ∀ x, Carries (k x) (k' x))
    (hg : Carries g g') : Carries (orElse f k g) (Regex.orElse f k' g') := by
  intro rest rest' x left hcloses hread
  cases hfirst : f rest with
  | none =>
      have hfirst' := hrefuses hcloses hfirst
      simp only [Regex.orElse, hfirst] at hread
      simp only [Regex.orElse, hfirst']
      exact hg hcloses hread
  | some found =>
      obtain ⟨hless, middle', hfirst', hmiddle⟩ := hf hcloses hfirst
      simp only [Regex.orElse, hfirst] at hread
      simp only [Regex.orElse, hfirst']
      obtain ⟨hlessen, hrest⟩ := hk found.1 hmiddle hread
      exact ⟨Nat.le_trans hlessen hless, hrest⟩

theorem Refuses.onWord {f g : List Char → Option (α × List Char)} {word : List Char}
    (hword : ')' ∉ word) (hf : Refuses f) (hg : Refuses g) : Refuses (onWord word f g) := by
  intro rest rest' hcloses hread
  unfold Regex.onWord at hread ⊢
  rw [hcloses.isPrefixOf hword]
  split at hread
  next hthere =>
    rw [if_pos hthere]
    exact hf (hcloses.drop hthere) hread
  next hthere =>
    rw [if_neg hthere]
    exact hg hcloses hread

/-! ## Characters that pass a test -/

def readWhile (p : Char → Bool) (rest : List Char) : Option (List Char × List Char) :=
  some (rest.takeWhile p, rest.dropWhile p)

theorem carries_readWhile {p : Char → Bool} (hp : p ')' = false) :
    Carries (readWhile p) (readWhile p) := by
  intro rest rest' name left hcloses hread
  obtain ⟨rfl, rfl⟩ := Prod.mk.inj (Option.some.inj hread)
  refine ⟨(List.dropWhile_suffix p).length_le, rest'.dropWhile p, ?_, hcloses.dropWhile hp⟩
  rw [readWhile, hcloses.takeWhile hp]

/-- A name, with all characters up to a given one. -/
def readUpTo (mark : Char) (rest : List Char) : Option (List Char × List Char) :=
  match rest.span (· ≠ mark) with
  | (name, _ :: left) => some (name, left)
  | _ => none

theorem readUpTo_cons (mark c : Char) (rest : List Char) :
    readUpTo mark (c :: rest) =
      if c = mark then some ([], rest)
      else (readUpTo mark rest).map fun found => (c :: found.1, found.2) := by
  unfold readUpTo
  rw [List.span_eq_takeWhile_dropWhile, List.span_eq_takeWhile_dropWhile]
  by_cases hc : c = mark
  · simp [hc]
  · simp only [ne_eq, hc, not_false_eq_true, decide_true, List.takeWhile_cons_of_pos,
      List.dropWhile_cons_of_pos, if_neg]
    cases rest.dropWhile fun d => decide (¬ d = mark) <;> rfl

theorem carries_readUpTo (mark : Char) : Carries (readUpTo mark) (readUpTo mark) := by
  intro rest rest' name left hcloses hread
  induction rest generalizing rest' name with
  | nil => cases hread
  | cons c rest ih =>
      obtain rfl := hcloses.eq_of_cons
      rw [readUpTo_cons] at hread ⊢
      split at hread
      next hc =>
        rw [if_pos hc]
        exact (carries_some _).behind c hread
      next hc =>
        obtain ⟨⟨name, left⟩, hname, heq⟩ := Option.map_eq_some_iff.1 hread
        obtain ⟨rfl, rfl⟩ := Prod.mk.inj heq
        obtain ⟨hless, left', hname', hleft⟩ := ih (.behind rest) hname
        rw [if_neg hc, hname']
        exact ⟨Nat.le_succ_of_le hless, left', rfl, hleft⟩

theorem refuses_readUpTo (mark : Char) (hmark : mark ≠ ')') : Refuses (readUpTo mark) := by
  intro rest rest' hcloses hread
  cases hcloses with
  | swallowed => exact hread
  | behind =>
      induction rest with
      | nil =>
          rw [List.nil_append, readUpTo_cons, if_neg hmark.symm]
          rfl
      | cons c rest ih =>
          rw [readUpTo_cons] at hread
          rw [List.cons_append, readUpTo_cons]
          split at hread
          next => cases hread
          next hc =>
            rw [if_neg hc, ih (Option.map_eq_none_iff.1 hread)]
            rfl

end Regex
end LeftRec
