import LeftRec.Proofs.Closing

/-!
# Readers — atoms and sets with a parenthesis behind them

Each reader of the parts of an expression reads from a text the same with a closing parenthesis
behind it.  A reader is written as a choice of what stands first, and takes over the property from
those that it calls.
-/

namespace LeftRec
namespace Regex

/-! ## Atoms -/

section Atoms

variable (flags : Flags)

/-- What stands up to a closing brace is read character by character. -/
theorem toBrace_eq {α : Type} (f : List Char → Option (α × List Char))
    (k : Char → List Char → Option (α × List Char)) (rest : List Char) :
    (match rest with
      | [] => none
      | '\x7d' :: rest => f rest
      | c :: rest => k c rest) = onWord ['\x7d'] f (onHead k) rest := by
  split
  next => rfl
  next => rfl
  next c rest hc =>
    rw [onWord_of_not fun more hmore => hc (List.cons.inj hmore).1]
    rfl

theorem carries_readHexDigits (count n : Nat) :
    Carries (readHexDigits flags count n) (readHexDigits flags count n) := by
  induction count generalizing n with
  | zero => exact carries_some n
  | succ count ih =>
      have hread : readHexDigits flags (count + 1) n = fun rest => onHead (fun c rest =>
          (hexDigit? c).bind fun d => readHexDigits flags count (16 * n + d) rest)
            (flags.skip rest) := by
        funext rest
        rw [readHexDigits]
        cases flags.skip rest <;> rfl
      rw [hread]
      exact (Carries.onHead fun c => .choose _ fun d => ih _).skip flags

theorem carries_readHexBraced {fuel fuel' : Nat} (hfuel : fuel ≤ fuel') (n : Option Nat) :
    Carries (readHexBraced flags fuel n) (readHexBraced flags fuel' n) := by
  refine carries_of_fuel (f := readHexBraced flags) (fun _ => rfl) ?_ hfuel n
  intro fuel fuel' ih n
  have hread (fuel : Nat) : readHexBraced flags (fuel + 1) n = fun rest =>
      onWord ['\x7d'] (fun rest => n.map (·, rest)) (onHead fun c rest =>
        (hexDigit? c).bind fun d => readHexBraced flags fuel (some (16 * n.getD 0 + d)) rest)
        (flags.skip rest) := by
    funext rest
    exact toBrace_eq _ _ _
  rw [hread, hread]
  refine (Carries.onWord (by decide) (carries_option n id) (.onHead fun c => ?_)).skip flags
  exact .choose _ fun d => ih _

theorem carries_readHex (letter : Char) :
    Carries (readHex flags letter) (readHex flags letter) := by
  have hread : readHex flags letter = fun rest =>
      onWord ['\x7b']
        (fun rest => (readHexBraced flags (rest.length + 1) none rest).bind fun found =>
          (charOf? found.1).bind fun c => some (.char c, found.2))
        (fun rest => (readHexDigits flags
          (if letter = 'x' then 2 else if letter = 'u' then 4 else 8) 0 rest).bind fun found =>
            (charOf? found.1).bind fun c =>
              some (if letter = 'x' then .byte c else .char c, found.2))
        (flags.skip rest) := by
    funext rest
    rw [readHex]
    generalize flags.skip rest = rest
    split
    next => rfl
    next rest hne =>
      rw [onWord_of_not fun more hmore => hne more hmore]
      rfl
  rw [hread]
  refine (Carries.onWord (by decide) ?_ ?_).skip flags
  · exact (Carries.fuel (fun _ _ hfuel => carries_readHexBraced flags hfuel none) 1).bind fun n =>
      Carries.choose (charOf? n) fun c => carries_some _
  · exact (carries_readHexDigits flags _ 0).bind fun n =>
      Carries.choose (charOf? n) fun c => carries_some _

theorem carries_readName {fuel fuel' : Nat} (hfuel : fuel ≤ fuel') :
    Carries (readName flags fuel) (readName flags fuel') := by
  refine carries_of_fuel (f := fun fuel (_ : Unit) => readName flags fuel) (fun _ => rfl) ?_
    hfuel ()
  intro fuel fuel' ih _
  have hread (fuel : Nat) : readName flags (fuel + 1) = fun rest =>
      onWord ['\x7d'] (fun rest => some ([], rest)) (onHead fun c rest =>
        (readName flags fuel rest).map fun found => (c :: found.1, found.2))
        (flags.skip rest) := by
    funext rest
    exact toBrace_eq _ _ _
  rw [hread, hread]
  refine (Carries.onWord (by decide) (carries_some _) (.onHead fun c => ?_)).skip flags
  exact (ih ()).map _

theorem carries_readCondition {fuel fuel' : Nat} (hfuel : fuel ≤ fuel') :
    Carries (readCondition flags fuel) (readCondition flags fuel') := by
  refine carries_of_fuel (f := fun fuel (_ : Unit) => readCondition flags fuel) (fun _ => rfl) ?_
    hfuel ()
  intro fuel fuel' ih _
  have hread (fuel : Nat) : readCondition flags (fuel + 1) = fun rest =>
      onWord ['\x7d'] (fun rest => some ([], rest)) (onHead fun c rest =>
        if c.isAlpha || c = '-' then
          (readCondition flags fuel rest).map fun found => (c :: found.1, found.2)
        else none)
        (flags.skip rest) := by
    funext rest
    exact toBrace_eq _ _ _
  rw [hread, hread]
  refine (Carries.onWord (by decide) (carries_some _) (.onHead fun c => ?_)).skip flags
  exact .ite ((ih ()).map _) carries_none

theorem carries_readProperty (negated : Bool) :
    Carries (readProperty flags negated) (readProperty flags negated) := by
  let finish (s : CharSet) (rest : List Char) : Option (Atom × List Char) :=
    if flags.wide then some (.set ((s.foldIf flags.caseless).negateIf negated), rest) else none
  have hfinish (s : CharSet) : Carries (finish s) (finish s) :=
    .ite (carries_some _) carries_none
  have hread : readProperty flags negated = fun rest =>
      onWord ['\x7b']
        (fun rest => (readName flags (rest.length + 1) rest).bind fun found =>
          (setOfName? found.1).bind fun s => finish s found.2)
        (onHead fun c rest =>
          if c = '\\' then none else (Property.named? [c]).bind fun s => finish s rest)
        (flags.skip rest) := by
    funext rest
    rw [readProperty]
    generalize flags.skip rest = rest
    split
    next => rfl
    next c rest hc =>
      rw [onWord_of_not fun more hmore => hc (List.cons.inj hmore).1]
      simp only [onHead]
      split
      · rfl
      · rfl
    next => rfl
  rw [hread]
  refine (Carries.onWord (by decide) ?_ (.onHead fun c => ?_)).skip flags
  · exact (Carries.fuel (fun _ _ => carries_readName flags) 1).bind fun name =>
      Carries.choose (setOfName? name) hfinish
  · exact .ite carries_none (.choose _ hfinish)

/-- The condition that is named in braces. -/
def namedLook (rest : List Char) : Option (Atom × List Char) :=
  (readCondition flags (rest.length + 1) rest).bind fun found =>
    match String.ofList found.1 with
    | "start" => some (.look .wordStart, found.2)
    | "end" => some (.look .wordEnd, found.2)
    | "start-half" => some (.look .halfStart, found.2)
    | "end-half" => some (.look .halfEnd, found.2)
    | _ => none

theorem carries_namedLook : Carries (namedLook flags) (namedLook flags) := by
  refine (Carries.fuel (fun _ _ => carries_readCondition flags) 1).bind fun name => ?_
  intro rest rest' x left hcloses
  dsimp only
  split
  next => exact carries_some _ hcloses
  next => exact carries_some _ hcloses
  next => exact carries_some _ hcloses
  next => exact carries_some _ hcloses
  next => exact fun hread => nomatch hread

theorem readBoundary_cons {inside more : List Char} {c : Char}
    (hskip : flags.skip inside = c :: more) :
    readBoundary flags ('\x7b' :: inside) =
      if c.isAlpha || c = '-' then namedLook flags (c :: more)
      else some (.look .boundary, '\x7b' :: inside) := by
  simp only [readBoundary, hskip]
  rfl

theorem readBoundary_of_ne {rest : List Char} (hrest : ¬ ∃ more, rest = '\x7b' :: more) :
    readBoundary flags rest = some (.look .boundary, rest) := by
  rw [readBoundary]
  exact fun more hmore => hrest ⟨more, hmore⟩

theorem carries_readBoundary : Carries (readBoundary flags) (readBoundary flags) := by
  intro rest rest' x left hcloses hread
  by_cases hbrace : ∃ inside, rest = '\x7b' :: inside
  · -- The brace is given back unless a letter follows it, so something must follow.
    obtain ⟨inside, rfl⟩ := hbrace
    obtain rfl := hcloses.eq_of_cons
    have hclosed := (Closes.behind inside).skip flags
    cases hskip : flags.skip inside with
    | nil => simp [readBoundary, hskip] at hread
    | cons c more =>
        rw [hskip] at hclosed
        rw [readBoundary_cons flags hskip] at hread
        rw [readBoundary_cons flags hclosed.eq_of_cons]
        split at hread
        next hc =>
          obtain ⟨hless, hrest⟩ := carries_namedLook flags (.behind (c :: more)) hread
          have hmore := Flags.length_le_of_skip hskip
          rw [if_pos hc]
          exact ⟨Nat.le_succ_of_le (Nat.le_trans hless hmore), hrest⟩
        next hc =>
          rw [if_neg hc]
          exact carries_some _ (.behind ('\x7b' :: inside)) hread
  · rw [readBoundary_of_ne flags hbrace] at hread
    rw [readBoundary_of_ne flags (hcloses.ne_cons (by decide) hbrace)]
    exact carries_some _ hcloses hread

theorem carries_readEscape : Carries (readEscape flags) (readEscape flags) := by
  intro rest rest' x left hcloses
  fun_cases readEscape flags rest with
  | case1 => exact fun hread => nomatch hread
  | case2 c rest hc =>
      obtain rfl := hcloses.eq_of_cons
      intro hread
      have hchar : readEscape flags (c :: (rest ++ [')'])) = some (.char c, rest ++ [')']) :=
        if_pos hc
      rw [hchar]
      exact (carries_some (Atom.char c)).behind c hread
  | case3 rest | case4 rest | case5 rest =>
      obtain rfl := hcloses.eq_of_cons
      exact (carries_readHex flags _).behind _
  | case6 rest =>
      obtain rfl := hcloses.eq_of_cons
      exact (carries_readProperty flags false).behind _
  | case7 rest =>
      obtain rfl := hcloses.eq_of_cons
      exact (carries_readProperty flags true).behind _
  | case8 rest | case9 rest | case10 rest =>
      obtain rfl := hcloses.eq_of_cons
      exact (carries_option _ Atom.set).behind _
  | case11 rest | case12 rest | case13 rest =>
      obtain rfl := hcloses.eq_of_cons
      exact (carries_option _ fun s => Atom.set (flags.negateIf true s)).behind _
  | case14 rest | case15 rest | case16 rest | case17 rest | case18 rest | case19 rest
  | case20 rest | case21 rest | case23 rest | case24 rest | case25 rest =>
      obtain rfl := hcloses.eq_of_cons
      exact (carries_some _).behind _
  | case22 rest =>
      obtain rfl := hcloses.eq_of_cons
      exact (carries_readBoundary flags).behind _
  | case26 => exact fun hread => nomatch hread

end Atoms

/-! ## Sets in brackets -/

section Brackets

variable (flags : Flags)

theorem carries_readItem : Carries (readItem flags) (readItem flags) := by
  have hread : readItem flags =
      onWord ['\\'] (readEscape flags) (onHead fun c rest => some (.char c, rest)) := by
    funext rest
    rw [readItem.eq_def]
    split
    next => rfl
    next => rfl
    next c rest hc =>
      rw [onWord_of_not fun more hmore => hc (List.cons.inj hmore).1]
      rfl
  rw [hread]
  exact .onWord (by decide) (carries_readEscape flags) (.onHead fun c => carries_some _)

theorem readHyphens_of_ne (fuel : Nat) (members : Members) {rest : List Char}
    (hrest : ¬ ∃ more, rest = '-' :: more) :
    readHyphens flags fuel members rest = (members, rest) := by
  cases fuel with
  | zero => rfl
  | succ fuel =>
      rw [readHyphens]
      exact fun more hmore => hrest ⟨more, hmore⟩

/-- The hyphens at the start, where there is fuel for all of them.  Without fuel hyphens would be
left over, so here it does not suffice that there is not less of it. -/
theorem closes_readHyphens {fuel fuel' : Nat} {members : Members} {rest rest' : List Char}
    (hcloses : Closes rest rest') (hfuel : rest.length ≤ fuel) (hfuel' : rest'.length ≤ fuel') :
    (readHyphens flags fuel members rest).2.length ≤ rest.length ∧
      (readHyphens flags fuel' members rest').1 = (readHyphens flags fuel members rest).1 ∧
      Closes (readHyphens flags fuel members rest).2 (readHyphens flags fuel' members rest').2 := by
  induction fuel generalizing fuel' members rest rest' with
  | zero =>
      obtain rfl := List.eq_nil_of_length_eq_zero (Nat.le_zero.1 hfuel)
      have hnone : ¬ ∃ more, ([] : List Char) = '-' :: more := fun ⟨_, h⟩ => nomatch h
      rw [readHyphens_of_ne flags fuel' members (hcloses.ne_cons (by decide) hnone)]
      exact ⟨Nat.le_refl _, rfl, hcloses⟩
  | succ fuel ih =>
      by_cases hhyphen : ∃ more, rest = '-' :: more
      · obtain ⟨more, rfl⟩ := hhyphen
        obtain rfl := hcloses.eq_of_cons
        obtain ⟨less, rfl⟩ : ∃ less, fuel' = less + 1 :=
          ⟨fuel' - 1, by rw [List.length_cons] at hfuel'; omega⟩
        rw [List.length_cons] at hfuel hfuel'
        have hskip := flags.length_skip_le more
        have hskip' := flags.length_skip_le (more ++ [')'])
        obtain ⟨hless, hsame, hclosed⟩ := @ih less (members.add ⟨.single '-', 0⟩) _ _
          ((Closes.behind more).skip flags) (by omega) (by omega)
        refine ⟨?_, hsame, hclosed⟩
        rw [List.length_cons]
        exact Nat.le_succ_of_le (Nat.le_trans hless hskip)
      · rw [readHyphens_of_ne flags _ members hhyphen,
          readHyphens_of_ne flags _ members (hcloses.ne_cons (by decide) hhyphen)]
        exact ⟨Nat.le_refl _, rfl, hcloses⟩

/-- The start of a bracket, as a reader. -/
def opened (rest : List Char) : Option ((Bool × Members) × List Char) :=
  some (((openBracket flags rest).1, (openBracket flags rest).2.1), (openBracket flags rest).2.2)

/-- The start of a bracket behind a sign of negation, as a reader. -/
def openedAfter (negated : Bool) : List Char → Option ((Bool × Members) × List Char) :=
  onWord [']'] (fun rest => some ((negated, Members.none.add ⟨.single ']', 0⟩), flags.skip rest))
    fun rest => some ((negated, (readHyphens flags rest.length .none rest).1),
      (readHyphens flags rest.length .none rest).2)

theorem carries_openedAfter (negated : Bool) :
    Carries (openedAfter flags negated) (openedAfter flags negated) := by
  refine .onWord (by decide) ((carries_some _).skip flags) ?_
  intro rest rest' x left hcloses hread
  obtain ⟨rfl, rfl⟩ := Prod.mk.inj (Option.some.inj hread)
  obtain ⟨hless, hsame, hclosed⟩ :=
    closes_readHyphens flags hcloses (Nat.le_refl _) (Nat.le_refl _)
  exact ⟨hless, _, congrArg (fun members => some ((negated, members), _)) hsame, hclosed⟩

theorem carries_opened : Carries (opened flags) (opened flags) := by
  have hread : opened flags = fun rest => onWord ['^']
      (fun rest => openedAfter flags true (flags.skip rest)) (openedAfter flags false)
      (flags.skip rest) := by
    funext rest
    rw [opened, openBracket]
    generalize flags.skip rest = rest
    split
    next negated after hnegated =>
      refine Eq.trans (b := openedAfter flags negated after) ?_ ?_
      · split
        next => rfl
        next hne =>
          rw [openedAfter, onWord_of_not fun more hmore => hne more hmore]
      · split at hnegated
        next =>
          obtain ⟨rfl, rfl⟩ := Prod.mk.inj hnegated
          rfl
        next hne =>
          obtain ⟨rfl, rfl⟩ := Prod.mk.inj hnegated
          rw [onWord_of_not fun more hmore => hne more hmore]
  rw [hread]
  exact (Carries.onWord (by decide) ((carries_openedAfter flags true).skip flags)
    (carries_openedAfter flags false)).skip flags

/-- The second end of a range. -/
def readEnd (first : Atom) (rest : List Char) : Option (CharSet × List Char) :=
  (readItem flags rest).bind fun found =>
    first.char?.bind fun low => found.1.char?.bind fun high =>
      (first.set? flags).bind fun _ => (found.1.set? flags).bind fun _ =>
        if low ≤ high then some (.ranges [(low.toNat, high.toNat)], found.2) else none

theorem carries_readEnd (first : Atom) : Carries (readEnd flags first) (readEnd flags first) := by
  refine (carries_readItem flags).bind fun atom => ?_
  refine .choose _ fun low => .choose atom.char? fun high => .choose _ fun _ => ?_
  exact .choose (atom.set? flags) fun _ => .ite (carries_some _) carries_none

/-- What stands behind the first item: a hyphen and the second end of a range, or something else. -/
def readBehind (first : Atom) (rest : List Char) : Option (CharSet × List Char) :=
  match rest with
  | [] => none
  | '-' :: more =>
      match flags.skip more with
      | [] => none
      | ']' :: _ | '-' :: _ => (first.set? flags).map (·, rest)
      | more => readEnd flags first more
  | _ => (first.set? flags).map (·, rest)

theorem readRange_eq (rest : List Char) :
    readRange flags rest =
      (readItem flags rest).bind fun found => readBehind flags found.1 (flags.skip found.2) :=
  rfl

theorem readBehind_hyphen (first : Atom) {more rest : List Char} {c : Char}
    (hskip : flags.skip more = c :: rest) :
    readBehind flags first ('-' :: more) =
      if c = ']' ∨ c = '-' then (first.set? flags).map (·, '-' :: more)
      else readEnd flags first (c :: rest) := by
  simp only [readBehind, hskip]
  split
  next h => cases h
  next h => rw [if_pos (.inl (List.cons.inj h).1)]
  next h => rw [if_pos (.inr (List.cons.inj h).1)]
  next hbracket hhyphen =>
    rw [if_neg]
    rintro (rfl | rfl)
    · exact hbracket _ rfl
    · exact hhyphen _ rfl

theorem readBehind_other (first : Atom) {c : Char} (hc : c ≠ '-') (rest : List Char) :
    readBehind flags first (c :: rest) = (first.set? flags).map (·, c :: rest) := by
  rw [readBehind]
  · exact fun h => nomatch h
  · exact fun more hmore => hc (List.cons.inj hmore).1

theorem carries_readBehind (first : Atom) :
    Carries (readBehind flags first) (readBehind flags first) := by
  have hitem : Carries (fun rest => (first.set? flags).map (·, rest)) fun rest =>
      (first.set? flags).map (·, rest) := carries_option _ id
  intro rest rest' x left hcloses hread
  cases rest with
  | nil => cases hread
  | cons c more =>
      obtain rfl := hcloses.eq_of_cons
      by_cases hc : c = '-'
      · -- Behind the hyphen one character more is looked at, and it is in the text, too.
        subst hc
        have hclosed := (Closes.behind more).skip flags
        cases hskip : flags.skip more with
        | nil => simp [readBehind, hskip] at hread
        | cons d rest =>
            rw [hskip] at hclosed
            rw [readBehind_hyphen flags first hskip] at hread
            rw [readBehind_hyphen flags first hclosed.eq_of_cons]
            split at hread
            next hd =>
              rw [if_pos hd]
              exact hitem (.behind ('-' :: more)) hread
            next hd =>
              obtain ⟨hless, hrest⟩ := carries_readEnd flags first (.behind (d :: rest)) hread
              have hmore := Flags.length_le_of_skip hskip
              rw [if_neg hd]
              exact ⟨Nat.le_succ_of_le (Nat.le_trans hless hmore), hrest⟩
      · rw [readBehind_other flags first hc] at hread ⊢
        exact hitem (.behind (c :: more)) hread

theorem carries_readRange : Carries (readRange flags) (readRange flags) := by
  have hread : readRange flags = fun rest => (readItem flags rest).bind fun found =>
      readBehind flags found.1 (flags.skip found.2) := funext (readRange_eq flags)
  rw [hread]
  exact (carries_readItem flags).bind fun atom => (carries_readBehind flags atom).skip flags

/-- The set of a name, if a closing bracket stands behind it. -/
def closeClass (negated : Bool) (name : List Char) : List Char → Option (CharSet × List Char) :=
  onWord [']'] (fun left => (CharSet.ofAsciiName? (String.ofList name)).map fun s =>
    (flags.negateIf negated s, left)) fun _ => none

/-- The set of a name up to a colon and a closing bracket. -/
def readClass (negated : Bool) (rest : List Char) : Option (CharSet × List Char) :=
  (readUpTo ':' rest).bind fun found => closeClass flags negated found.1 found.2

theorem readClass_eq (negated : Bool) (rest : List Char) :
    (match rest.span (· ≠ ':') with
      | (name, ':' :: ']' :: rest) =>
          (CharSet.ofAsciiName? (String.ofList name)).map fun s => (flags.negateIf negated s, rest)
      | _ => none) = readClass flags negated rest := by
  rw [readClass, readUpTo]
  split
  next name left hspan =>
    rw [hspan]
    rfl
  next hne =>
    rcases hspan : rest.span (· ≠ ':') with ⟨name, _ | ⟨c, left⟩⟩
    · rfl
    · have hc : c = ':' := by
        rw [List.span_eq_takeWhile_dropWhile] at hspan
        have hhead := List.head?_dropWhile_not (· ≠ ':') rest
        rw [(Prod.mk.inj hspan).2] at hhead
        simpa using hhead
      have hbehind : closeClass flags negated name left = none := by
        rw [closeClass, onWord_of_not]
        rintro more rfl
        exact hne name more (by rw [hspan, hc]; rfl)
      exact hbehind.symm

/-- A named set of ASCII characters, behind the opening bracket. -/
theorem readAsciiName?_eq :
    readAsciiName? flags =
      onWord [':'] (onWord ['^'] (readClass flags true) (readClass flags false)) fun _ => none := by
  funext rest
  rw [readAsciiName?.eq_def]
  split
  next rest =>
    split
    next negated after hnegated =>
      refine Eq.trans (b := readClass flags negated after) ?_ ?_
      · exact readClass_eq flags negated after
      · split at hnegated
        next =>
          obtain ⟨rfl, rfl⟩ := Prod.mk.inj hnegated
          rfl
        next hne =>
          obtain ⟨rfl, rfl⟩ := Prod.mk.inj hnegated
          exact (onWord_of_not fun more hmore => hne more hmore).symm
  next hne =>
    rw [onWord_of_not]
    exact fun more hmore => hne more hmore

theorem carries_closeClass (negated : Bool) (name : List Char) :
    Carries (closeClass flags negated name) (closeClass flags negated name) :=
  .onWord (by decide) (carries_option _ (flags.negateIf negated)) carries_none

theorem carries_readAsciiName? : Carries (readAsciiName? flags) (readAsciiName? flags) := by
  have hclass (negated : Bool) : Carries (readClass flags negated) (readClass flags negated) :=
    (carries_readUpTo ':').bind fun name => carries_closeClass flags negated name
  rw [readAsciiName?_eq]
  exact .onWord (by decide) (.onWord (by decide) (hclass true) (hclass false)) carries_none

theorem refuses_closeClass (negated : Bool) (name : List Char) :
    Refuses (closeClass flags negated name) :=
  .onWord (by decide) (refuses_option _ (flags.negateIf negated)) refuses_none

theorem refuses_readAsciiName? : Refuses (readAsciiName? flags) := by
  have hclass (negated : Bool) : Refuses (readClass flags negated) :=
    .bind (carries_readUpTo ':') (refuses_readUpTo ':' (by decide)) fun name =>
      refuses_closeClass flags negated name
  rw [readAsciiName?_eq]
  exact .onWord (by decide) (.onWord (by decide) (hclass true) (hclass false)) refuses_none

/-- What stands behind a bracket within a set: a name, or else a set of its own. -/
def readNested (fuel : Nat) (members : Members) (bracket : Bracket) (stack : List Bracket) :
    List Char → Option (Part CharSet × List Char) :=
  orElse (readAsciiName? flags)
    (fun item => readSet flags fuel (members.add ⟨item, 0⟩) bracket stack) fun rest =>
      (opened flags rest).bind fun found =>
        readSet flags fuel found.1.2 ⟨members, found.1.1, none⟩ (bracket :: stack) found.2

/-- What follows the end of a set. -/
def readEnded (fuel : Nat) (members : Members) (bracket : Bracket) (stack : List Bracket)
    (rest : List Char) : Option (Part CharSet × List Char) :=
  let whole := bracket.whole flags members
  match stack with
  | [] => some (whole, rest)
  | outer :: stack => readSet flags fuel (bracket.around.add whole) outer stack rest

/-- What follows an operation between sets. -/
def readOp (fuel : Nat) (members : Members) (bracket : Bracket) (stack : List Bracket)
    (op : SetOp) : List Char → Option (Part CharSet × List Char) :=
  readSet flags fuel .none (bracket.wait flags members op) stack

theorem readSet_succ (fuel : Nat) (members : Members) (bracket : Bracket)
    (stack : List Bracket) :
    readSet flags (fuel + 1) members bracket stack = fun rest =>
      onWord ['['] (readNested flags fuel members bracket stack)
        (onWord [']'] (readEnded flags fuel members bracket stack)
          (onWord ['&', '&'] (readOp flags fuel members bracket stack .inter)
            (onWord ['-', '-'] (readOp flags fuel members bracket stack .diff)
              (onWord ['~', '~'] (readOp flags fuel members bracket stack .symmDiff)
                fun rest => (readRange flags rest).bind fun found =>
                  readSet flags fuel (members.add ⟨found.1, 0⟩) bracket stack found.2))))
        (flags.skip rest) := by
  funext rest
  rw [readSet.eq_def]
  dsimp only
  generalize flags.skip rest = rest
  split
  next => rfl
  next rest =>
    refine Eq.trans (b := readNested flags fuel members bracket stack rest) ?_ rfl
    unfold readNested orElse
    cases readAsciiName? flags rest <;> rfl
  next => rfl
  next => rfl
  next => rfl
  next => rfl
  -- None of the words stands there, so each choice goes to what is behind it.
  next hnested hended hinter hdiff hsymm =>
    rw [onWord_of_not fun more hmore => hnested more hmore,
      onWord_of_not fun more hmore => hended more hmore,
      onWord_of_not fun more hmore => hinter more hmore,
      onWord_of_not fun more hmore => hdiff more hmore,
      onWord_of_not fun more hmore => hsymm more hmore]
    rfl

theorem carries_readSet {fuel fuel' : Nat} (hfuel : fuel ≤ fuel') (members : Members)
    (bracket : Bracket) (stack : List Bracket) :
    Carries (readSet flags fuel members bracket stack)
      (readSet flags fuel' members bracket stack) := by
  refine carries_of_fuel (f := fun fuel (i : Members × Bracket × List Bracket) =>
    readSet flags fuel i.1 i.2.1 i.2.2) (fun _ => rfl) ?_ hfuel (members, bracket, stack)
  -- A set within the set is read by recursion, too, with the brackets around it on the stack.
  rintro fuel fuel' ih ⟨members, bracket, stack⟩
  have hrec := fun members bracket stack => ih (members, bracket, stack)
  have hnested : Carries (readNested flags fuel members bracket stack)
      (readNested flags fuel' members bracket stack) := by
    refine .orElse (carries_readAsciiName? flags) (refuses_readAsciiName? flags)
      (fun item => hrec (members.add ⟨item, 0⟩) bracket stack) ?_
    exact (carries_opened flags).bind fun found => hrec found.2 ⟨members, found.1, none⟩ _
  have hended : Carries (readEnded flags fuel members bracket stack)
      (readEnded flags fuel' members bracket stack) := by
    cases stack with
    | nil => exact carries_some _
    | cons outer stack => exact hrec _ _ _
  dsimp only
  rw [readSet_succ, readSet_succ]
  refine (Carries.onWord (by decide) hnested ?_).skip flags
  refine .onWord (by decide) hended ?_
  refine .onWord (by decide) (hrec _ _ _) ?_
  refine .onWord (by decide) (hrec _ _ _) ?_
  refine .onWord (by decide) (hrec _ _ _) ?_
  exact (carries_readRange flags).bind fun item => hrec (members.add ⟨item, 0⟩) bracket stack

theorem carries_readBrackets : Carries (readBrackets flags) (readBrackets flags) := by
  have hread : readBrackets flags = fun rest => (opened flags rest).bind fun found =>
      readSet flags (found.2.length + 1) found.1.2 ⟨.none, found.1.1, none⟩ [] found.2 := rfl
  rw [hread]
  exact (carries_opened flags).bind fun found =>
    Carries.fuel (fun _ _ hfuel => carries_readSet flags hfuel found.2 ⟨.none, found.1, none⟩ []) 1

end Brackets

end Regex
end LeftRec
