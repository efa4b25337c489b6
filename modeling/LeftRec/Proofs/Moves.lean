import LeftRec.Pattern
import LeftRec.Proofs.Readers

/-!
# Moves — what one item of an expression does

To read an item is to read a move, which depends on the flags alone, and then to make it.  What a
text stands for is read in the same way within a group that is opened before the text and closed
behind it, so such a group holds what the text stands for alone.
-/

namespace LeftRec
namespace Regex

/-- What an item does to what has been read. -/
inductive Move
  | push (r : Part Node)
  | opens (opening : Opening)
  | close
  | bar
  | again (least : Nat) (most : Option Nat) (greedy : Bool)

/-! ## Repetitions -/

section Repetitions

variable (flags : Flags)

/-- The number of some digits, if it is not too large; there may be no digits. -/
def numberOf? (digits : List Char) : Option (Option Nat) :=
  let n := digits.foldl (fun n c => 10 * n + (c.toNat - '0'.toNat)) 0
  if digits.isEmpty then some none else if n < 0x100000000 then some (some n) else none

theorem readNumber_eq :
    readNumber = fun rest => (readWhile Text.isBlank rest).bind fun blanks =>
      (readWhile Char.isDigit blanks.2).bind fun digits =>
        (readWhile Text.isBlank digits.2).bind fun found =>
          (numberOf? digits.1).map (·, found.2) := by
  funext rest
  unfold readNumber numberOf?
  rw [List.span_eq_takeWhile_dropWhile]
  dsimp only [readWhile, Option.bind]
  split_ifs <;> rfl

theorem carries_readNumber : Carries readNumber readNumber := by
  have hblanks := carries_readWhile (p := Text.isBlank) (by decide)
  have hnumber (digits : List Char) : Carries
      (fun rest => (readWhile Text.isBlank rest).bind fun found =>
        (numberOf? digits).map (·, found.2))
      fun rest => (readWhile Text.isBlank rest).bind fun found =>
        (numberOf? digits).map (·, found.2) :=
    hblanks.bind fun _ => carries_option (numberOf? digits) id
  rw [readNumber_eq]
  exact hblanks.bind fun _ => (carries_readWhile (by decide)).bind hnumber

/-- The bounds of a repetition as one value. -/
def readPair (rest : List Char) : Option ((Nat × Option Nat) × List Char) :=
  (readBounds flags rest).map fun found => ((found.1, found.2.1), found.2.2)

/-- Both bounds of a repetition, before the closing brace. -/
def endBounds (least most : Option Nat) : List Char → Option ((Nat × Option Nat) × List Char) :=
  onWord ['\x7d'] (fun rest => least.bind fun l => most.bind fun m =>
    if l ≤ m then some ((l, some m), rest) else none) fun _ => none

/-- The larger bound of a repetition, behind the comma. -/
def readMost (least : Option Nat) : List Char → Option ((Nat × Option Nat) × List Char) :=
  onWord ['\x7d'] (fun rest => (least.map (·, none)).map (·, rest)) fun rest =>
    (readNumber rest).bind fun found => endBounds least found.1 found.2

/-- What stands behind the lesser bound. -/
def readRest (least : Option Nat) : List Char → Option ((Nat × Option Nat) × List Char) :=
  onWord ['\x7d'] (fun rest => (least.map fun n => (n, some n)).map (·, rest))
    (onWord [','] (fun rest => readMost least (flags.skip rest)) fun _ => none)

theorem readPair_eq :
    readPair flags = fun rest => (readNumber (flags.skip rest)).bind fun found =>
      readRest flags found.1 found.2 := by
  funext rest
  unfold readPair readBounds
  cases readNumber (flags.skip rest) with
  | none => rfl
  | some found =>
      obtain ⟨least, rest⟩ := found
      dsimp only [bind, Option.bind, readRest]
      split
      next rest => cases least <;> rfl
      next rest =>
        refine Eq.trans (b := readMost least (flags.skip rest)) ?_ rfl
        unfold readMost
        generalize flags.skip rest = rest
        split
        next => cases least <;> rfl
        next hne =>
          rw [onWord_of_not fun more hmore => hne more hmore]
          cases readNumber rest with
          | none => rfl
          | some found =>
              obtain ⟨most, rest⟩ := found
              dsimp only [Option.bind, endBounds]
              split
              next rest =>
                cases least with
                | none => rfl
                | some l =>
                    cases most with
                    | none => rfl
                    | some m => by_cases hle : l ≤ m <;> simp [hle, onWord]
              next hne =>
                rw [onWord_of_not fun more hmore => hne more hmore]
                rfl
      next hbrace hcomma =>
        rw [onWord_of_not fun more hmore => hbrace more hmore,
          onWord_of_not fun more hmore => hcomma more hmore]
        rfl

theorem carries_endBounds (least most : Option Nat) :
    Carries (endBounds least most) (endBounds least most) := by
  refine .onWord (by decide) ?_ carries_none
  exact .choose least fun l => .choose most fun m => .ite (carries_some _) carries_none

theorem carries_readMost (least : Option Nat) : Carries (readMost least) (readMost least) :=
  .onWord (by decide) (carries_option _ id)
    (carries_readNumber.bind fun most => carries_endBounds least most)

theorem carries_readRest (least : Option Nat) :
    Carries (readRest flags least) (readRest flags least) :=
  .onWord (by decide) (carries_option _ id)
    (.onWord (by decide) ((carries_readMost least).skip flags) carries_none)

theorem carries_readPair : Carries (readPair flags) (readPair flags) := by
  rw [readPair_eq]
  exact (carries_readNumber.bind fun least => carries_readRest flags least).skip flags

/-- A repetition, which a question mark behind it makes the other way greedy. -/
def readAgain (least : Nat) (most : Option Nat) : List Char → Option (Move × List Char) :=
  onWord ['?'] (fun rest => some (.again least most (false != flags.swapGreed), rest)) fun rest =>
    some (.again least most (true != flags.swapGreed), rest)

theorem carries_readAgain (least : Nat) (most : Option Nat) :
    Carries (readAgain flags least most) (readAgain flags least most) :=
  .onWord (by decide) (carries_some _) (carries_some _)

end Repetitions

/-! ## Groups -/

section Groups

variable (flags : Flags)

/-- The letters of flags with what ended them as one value. -/
def readLetters (seen : List Char) (rest : List Char) :
    Option ((Flags × Bool × Char) × List Char) :=
  (readFlags flags seen rest).map fun found => ((found.1, found.2.1, found.2.2.1), found.2.2.2)

theorem readLetters_cons (seen : List Char) (c : Char) (rest : List Char) :
    readLetters flags seen (c :: rest) =
      if c = ':' ∨ c = ')' then
        if seen.head? = some '-' then none else some ((flags, !seen.isEmpty, c), rest)
      else if seen.contains c then none
      else if c = '-' then readLetters flags (c :: seen) rest
      else (flags.set? c !(seen.contains '-')).bind fun flags =>
        readLetters flags (c :: seen) rest := by
  unfold readLetters
  rw [readFlags]
  split_ifs
  · rfl
  · rfl
  · rfl
  · rfl
  · exact Option.map_bind

theorem carries_readLetters (seen : List Char) :
    Carries (readLetters flags seen) (readLetters flags seen) := by
  intro rest rest' x left hcloses hread
  induction rest generalizing flags seen rest' with
  | nil => cases hread
  | cons c rest ih =>
      obtain rfl := hcloses.eq_of_cons
      rw [readLetters_cons] at hread ⊢
      split_ifs at hread ⊢
      · exact (carries_some _).behind c hread
      · obtain ⟨hless, hrest⟩ := ih _ _ (.behind rest) hread
        exact ⟨Nat.le_succ_of_le hless, hrest⟩
      · obtain ⟨flags, hflags, hread⟩ := Option.bind_eq_some_iff.1 hread
        obtain ⟨hless, hrest⟩ := ih flags _ (.behind rest) hread
        rw [hflags]
        exact ⟨Nat.le_succ_of_le hless, hrest⟩

/-- The start of a group with some letters of flags. -/
def openingOf? (letters : Flags × Bool × Char) : Option Opening :=
  if letters.2.2 = ':' then some (.plain letters.1)
  else if letters.2.1 then some (.change letters.1)
  else none

/-- The start of a group with flags, behind the question mark. -/
def readFlagged (rest : List Char) : Option (Opening × List Char) :=
  (readLetters flags [] rest).bind fun found => (openingOf? found.1).map (·, found.2)

theorem carries_readFlagged : Carries (readFlagged flags) (readFlagged flags) :=
  (carries_readLetters flags []).bind fun letters => carries_option (openingOf? letters) id

/-- The start of a group with a name. -/
def namedOpening? : List Char → Option Opening
  | [] => none
  | c :: name =>
      if isNameChar true c && name.all (isNameChar false) then some (.kept (some (c :: name)))
      else none

theorem readNamed_eq :
    readNamed = fun rest => (readUpTo '>' rest).bind fun found =>
      (namedOpening? found.1).map (·, found.2) := by
  funext rest
  rw [readNamed, readUpTo]
  rcases rest.span (· ≠ '>') with ⟨_ | ⟨c, name⟩, _ | ⟨d, left⟩⟩
  · rfl
  · rfl
  · rfl
  · dsimp only [Option.bind, namedOpening?]
    split <;> rfl

theorem carries_readNamed : Carries readNamed readNamed := by
  rw [readNamed_eq]
  exact (carries_readUpTo '>').bind fun name => carries_option (namedOpening? name) id

theorem readOpening_eq :
    readOpening flags = fun rest =>
      onWord ['?', 'P', '<'] readNamed
        (onWord ['?', '<', '='] (fun _ => none)
          (onWord ['?', '<', '!'] (fun _ => none)
            (onWord ['?', '<'] readNamed
              (onWord ['?'] (readFlagged flags) fun rest => some (.kept none, rest)))))
        (flags.skip rest) := by
  funext rest
  rw [readOpening]
  generalize flags.skip rest = rest
  split
  next => rfl
  next => rfl
  next => rfl
  next rest hequal hmark =>
    rw [onWord_of_not, onWord_of_not, onWord_of_not]
    · rfl
    · exact fun more hmore => hmark more (by simpa using hmore)
    · exact fun more hmore => hequal more (by simpa using hmore)
    · exact fun more hmore => by simp at hmore
  next rest hnamed hequal hmark hangle =>
    rw [onWord_of_not, onWord_of_not, onWord_of_not, onWord_of_not]
    · refine Eq.trans (b := readFlagged flags rest) ?_ rfl
      unfold readFlagged readLetters
      cases readFlags flags [] rest with
      | none => rfl
      | some found =>
          obtain ⟨flags, any, stop, rest⟩ := found
          dsimp only [bind, Option.bind, Option.map, openingOf?]
          split_ifs <;> rfl
    · exact fun more hmore => hangle more (by simpa using hmore)
    · exact fun more hmore => hmark more (by simpa using hmore)
    · exact fun more hmore => hequal more (by simpa using hmore)
    · exact fun more hmore => hnamed more (by simpa using hmore)
  next hnamed hequal hmark hangle hquestion =>
    rw [onWord_of_not fun more hmore => hnamed more hmore,
      onWord_of_not fun more hmore => hequal more hmore,
      onWord_of_not fun more hmore => hmark more hmore,
      onWord_of_not fun more hmore => hangle more hmore,
      onWord_of_not fun more hmore => hquestion more hmore]

theorem carries_readOpening : Carries (readOpening flags) (readOpening flags) := by
  rw [readOpening_eq]
  refine (Carries.onWord (by decide) carries_readNamed ?_).skip flags
  refine .onWord (by decide) carries_none (.onWord (by decide) carries_none ?_)
  exact .onWord (by decide) carries_readNamed
    (.onWord (by decide) (carries_readFlagged flags) (carries_some _))

end Groups

/-! ## Items -/

/-- The move that adds an expression with so many levels, if it is one. -/
def pushed (r : Option Node) (depth : Nat) : Option Move :=
  r.map fun r => .push ⟨r, depth⟩

/-- The move of an item, of which the first character is given. -/
def readMove (flags : Flags) (c : Char) (rest : List Char) : Option (Move × List Char) :=
  match c with
  | '(' => (readOpening flags rest).map fun found => (.opens found.1, found.2)
  | ')' => some (.close, rest)
  | '|' => some (.bar, rest)
  | '?' => readAgain flags 0 (some 1) rest
  | '*' => readAgain flags 0 none rest
  | '+' => readAgain flags 1 none rest
  | '\x7b' => (readPair flags rest).bind fun found =>
      readAgain flags found.1.1 found.1.2 (flags.skip found.2)
  | '[' => (readBrackets flags rest).bind fun found =>
      (pushed (nodeOfSet? flags found.1.value) found.1.depth).map (·, found.2)
  | '.' => (pushed (Progress.dot? flags) 0).map (·, rest)
  | '^' => some (.push ⟨.look (Progress.startLook flags) true, 0⟩, rest)
  | '$' => some (.push ⟨.look (Progress.endLook flags) true, 0⟩, rest)
  | '\\' => (readEscape flags rest).bind fun found =>
      (pushed (found.1.node? flags) 0).map (·, found.2)
  | c => (pushed (Atom.node? flags (.char c)) 0).map (·, rest)

theorem carries_readMove (flags : Flags) (c : Char) :
    Carries (readMove flags c) (readMove flags c) := by
  intro rest rest' x left hcloses
  fun_cases readMove flags c rest with
  | case1 => exact ((carries_readOpening flags).map Move.opens) hcloses
  | case2 => exact carries_some Move.close hcloses
  | case3 => exact carries_some Move.bar hcloses
  | case4 => exact carries_readAgain flags 0 (some 1) hcloses
  | case5 => exact carries_readAgain flags 0 none hcloses
  | case6 => exact carries_readAgain flags 1 none hcloses
  | case7 =>
      exact ((carries_readPair flags).bind fun pair =>
        (carries_readAgain flags pair.1 pair.2).skip flags) hcloses
  | case8 =>
      exact ((carries_readBrackets flags).bind fun s =>
        carries_option (pushed (nodeOfSet? flags s.value) s.depth) id) hcloses
  | case9 => exact carries_option (pushed (Progress.dot? flags) 0) id hcloses
  | case10 => exact carries_some (Move.push _) hcloses
  | case11 => exact carries_some (Move.push _) hcloses
  | case12 =>
      exact ((carries_readEscape flags).bind fun atom =>
        carries_option (pushed (atom.node? flags) 0) id) hcloses
  | case13 =>
      have hother (rest : List Char) : readMove flags c rest =
          (pushed (Atom.node? flags (.char c)) 0).map (·, rest) := by
        rw [readMove] <;> assumption
      rw [hother]
      exact carries_option (pushed (Atom.node? flags (.char c)) 0) id hcloses

namespace Progress

/-- What has been read after a move. -/
def move? (p : Progress) : Move → Option Progress
  | .push r => some { p with inner := p.inner.push r }
  | .opens opening => p.open? opening
  | .close => p.close?
  | .bar => some { p with inner := p.inner.bar }
  | .again least most greedy =>
      (p.inner.repeatLast? least most greedy).map fun inner => { p with inner }

theorem repeat?_eq (p : Progress) (least : Nat) (most : Option Nat) (rest : List Char) :
    p.repeat? least most rest =
      (readAgain p.flags least most rest).bind fun found => (p.move? found.1).map (·, found.2) := by
  unfold repeat?
  split
  next greedy after hgreedy =>
    split at hgreedy
    next rest =>
      obtain ⟨rfl, rfl⟩ := Prod.mk.inj hgreedy
      have hread : readAgain p.flags least most ('?' :: rest) =
          some (.again least most (false != p.flags.swapGreed), rest) := rfl
      simp only [hread, move?, Option.bind_some, Option.map_map]
      rfl
    next hne =>
      obtain ⟨rfl, rfl⟩ := Prod.mk.inj hgreedy
      rw [readAgain, onWord_of_not fun more hmore => hne more hmore]
      simp only [move?, Option.bind_some, Option.map_map]
      rfl

theorem step_eq (p : Progress) (c : Char) (rest : List Char) :
    p.step c rest =
      (readMove p.flags c rest).bind fun found => (p.move? found.1).map (·, found.2) := by
  fun_cases readMove p.flags c rest with
  | case1 =>
      simp only [step, move?]
      cases readOpening p.flags rest with
      | none => rfl
      | some found => cases h : p.open? found.1 <;> simp [h]
  | case2 => rfl
  | case3 => rfl
  | case4 => exact p.repeat?_eq 0 (some 1) rest
  | case5 => exact p.repeat?_eq 0 none rest
  | case6 => exact p.repeat?_eq 1 none rest
  | case7 =>
      simp only [step, readPair]
      cases readBounds p.flags rest with
      | none => rfl
      | some found => exact p.repeat?_eq _ _ _
  | case8 =>
      simp only [step]
      cases readBrackets p.flags rest with
      | none => rfl
      | some found => cases h : nodeOfSet? p.flags found.1.value <;> simp [h, push?, pushed, move?]
  | case9 => cases h : dot? p.flags <;> simp [step, h, push?, pushed, move?]
  | case10 => rfl
  | case11 => rfl
  | case12 =>
      simp only [step]
      cases readEscape p.flags rest with
      | none => rfl
      | some found => cases h : found.1.node? p.flags <;> simp [h, push?, pushed, move?]
  | case13 =>
      rw [step]
      · cases Atom.node? p.flags (.char c) <;> simp [push?, pushed, move?]
      all_goals assumption

/-- To read an item is to read a move and to make it. -/
theorem step_eq_some_iff {p q : Progress} {c : Char} {rest left : List Char} :
    p.step c rest = some (q, left) ↔
      ∃ m, readMove p.flags c rest = some (m, left) ∧ p.move? m = some q := by
  rw [step_eq]
  constructor
  · intro h
    obtain ⟨⟨m, middle⟩, hread, hmove⟩ := Option.bind_eq_some_iff.1 h
    obtain ⟨_, hmoved, heq⟩ := Option.map_eq_some_iff.1 hmove
    obtain ⟨rfl, rfl⟩ := Prod.mk.inj heq
    exact ⟨m, hread, hmoved⟩
  · rintro ⟨m, hread, hmove⟩
    exact Option.bind_eq_some_iff.2 ⟨_, hread, Option.map_eq_some_iff.2 ⟨q, hmove, rfl⟩⟩

/-- All that has been read stands in one more group. -/
def within (frame : Option Nat × Flags × Open) (p : Progress) : Progress :=
  { p with outer := p.outer ++ [frame] }

/-- A move is the same within a group around all that has been read. -/
theorem move?_within (frame : Option Nat × Flags × Open) {p q : Progress} {m : Move}
    (hmove : p.move? m = some q) : (p.within frame).move? m = some (q.within frame) := by
  cases m with
  | push r =>
      obtain rfl := Option.some.inj hmove
      rfl
  | bar =>
      obtain rfl := Option.some.inj hmove
      rfl
  | opens opening =>
      cases opening with
      | kept name =>
          obtain ⟨hname, hq⟩ := Option.ite_none_left_eq_some.1 hmove
          obtain rfl := Option.some.inj hq
          exact if_neg hname
      | plain flags =>
          obtain rfl := Option.some.inj hmove
          rfl
      | change flags =>
          obtain rfl := Option.some.inj hmove
          rfl
  | close =>
      -- The group that is closed is not the new one, which is the outermost.
      simp only [move?, close?, within] at hmove ⊢
      cases houter : p.outer with
      | nil => simp [houter] at hmove
      | cons first outer =>
          rw [houter] at hmove
          obtain rfl := Option.some.inj hmove
          rfl
  | again least most greedy =>
      obtain ⟨inner, hinner, rfl⟩ := Option.map_eq_some_iff.1 hmove
      exact Option.map_eq_some_iff.2 ⟨inner, hinner, rfl⟩

/-- An item is read in the same way within a group that is closed behind the text. -/
theorem step_within (frame : Option Nat × Flags × Open) {p q : Progress} {c : Char}
    {rest rest' left : List Char} (hcloses : Closes rest rest')
    (hstep : p.step c rest = some (q, left)) :
    left.length ≤ rest.length ∧
      ∃ left', (p.within frame).step c rest' = some (q.within frame, left') ∧
        Closes left left' := by
  obtain ⟨m, hread, hmove⟩ := step_eq_some_iff.1 hstep
  obtain ⟨hless, left', hread', hleft⟩ := carries_readMove p.flags c hcloses hread
  exact ⟨hless, left', step_eq_some_iff.2 ⟨m, hread', move?_within frame hmove⟩, hleft⟩

end Progress

/-! ## Texts -/

namespace Progress

/-- What has been read of a text before it starts. -/
def start : Progress :=
  { flags := {}, inner := .new, outer := [], next := 1, names := [] }

/-- The group around a pattern, which follows the start of the text. -/
def anchor : Option Nat × Flags × Open :=
  (none, {}, Open.new.push ⟨.look .textStart true, 0⟩)

end Progress

theorem readItems_done {fuel : Nat} {p : Progress} {rest : List Char}
    (hrest : p.flags.skip rest = []) : readItems fuel p rest = some p := by
  cases fuel with
  | zero => rfl
  | succ fuel => simp only [readItems, hrest]

theorem readItems_cons {fuel : Nat} {p : Progress} {c : Char} {rest more : List Char}
    (hrest : p.flags.skip rest = c :: more) :
    readItems (fuel + 1) p rest =
      (p.step c more).bind fun found => readItems fuel found.1 found.2 := by
  simp only [readItems, hrest]
  rfl

/-- At the end of a text nothing or a parenthesis is left of the text behind which one stands. -/
theorem closes_of_done {fuel : Nat} {p q : Progress} {rest rest' : List Char}
    (hcloses : Closes rest rest') (hrest : p.flags.skip rest = [])
    (hread : readItems fuel p rest = some q) : q = p ∧ Closes [] (q.flags.skip rest') := by
  rw [readItems_done hrest] at hread
  obtain rfl := Option.some.inj hread
  exact ⟨rfl, hrest ▸ hcloses.skip p.flags⟩

/-- Within a group that is closed behind a text, all of the text is read as it is alone. -/
theorem readItems_within (frame : Option Nat × Flags × Open) {fuel fuel' : Nat} {p q : Progress}
    {rest rest' : List Char} (hcloses : Closes rest rest') (hfuel : rest.length ≤ fuel)
    (hfuel' : rest'.length ≤ fuel') (hread : readItems fuel p rest = some q) :
    ∃ more left, left.length ≤ more ∧ Closes [] (q.flags.skip left) ∧
      readItems fuel' (p.within frame) rest' = readItems more (q.within frame) left := by
  induction fuel generalizing fuel' p rest rest' with
  | zero =>
      obtain rfl := List.eq_nil_of_length_eq_zero (Nat.le_zero.1 hfuel)
      obtain ⟨rfl, hclosed⟩ := closes_of_done hcloses (Flags.skip_nil _) hread
      exact ⟨fuel', rest', hfuel', hclosed, rfl⟩
  | succ fuel ih =>
      cases hskip : p.flags.skip rest with
      | nil =>
          obtain ⟨rfl, hclosed⟩ := closes_of_done hcloses hskip hread
          exact ⟨fuel', rest', hfuel', hclosed, rfl⟩
      | cons c more =>
          have hclosed : Closes (c :: more) (p.flags.skip rest') := hskip ▸ hcloses.skip p.flags
          have hskip' : (p.within frame).flags.skip rest' = c :: (more ++ [')']) :=
            hclosed.eq_of_cons
          rw [readItems_cons hskip] at hread
          obtain ⟨⟨next, left⟩, hstep, hread⟩ := Option.bind_eq_some_iff.1 hread
          obtain ⟨hless, left', hstep', hleft⟩ := Progress.step_within frame (.behind more) hstep
          -- One unit of fuel more than what is left has characters is enough on both sides.
          have hshort := Flags.length_le_of_skip hskip
          have hshort' := Flags.length_le_of_skip hskip'
          rw [List.length_cons] at hshort
          rw [List.length_cons, List.length_append, List.length_singleton] at hshort'
          have hlong := hleft.length_le_succ
          obtain ⟨less, rfl⟩ : ∃ less, fuel' = less + 1 := ⟨fuel' - 1, by omega⟩
          rw [readItems_cons hskip', hstep']
          have hfuel' : left'.length ≤ less := by omega
          exact ih hleft (by omega) hfuel' hread

/-- A group around a text that is closed behind it holds what the text stands for alone. -/
theorem readItems_group (frame : Option Nat × Flags × Open) {fuel fuel' : Nat}
    {p q s : Progress} {rest : List Char} (hfuel : rest.length ≤ fuel)
    (hfuel' : rest.length + 1 ≤ fuel') (hread : readItems fuel p rest = some q)
    (hgroup : readItems fuel' (p.within frame) (rest ++ [')']) = some s) (hs : s.outer = []) :
    (q.within frame).close? = some s := by
  have hlong : (rest ++ [')']).length ≤ fuel' := by
    rwa [List.length_append, List.length_singleton]
  obtain ⟨more, left, hmore, hclosed, heq⟩ :=
    readItems_within frame (.behind rest) hfuel hlong hread
  rw [heq] at hgroup
  cases hskip : (q.within frame).flags.skip left with
  | nil =>
      -- A comment went on over the parenthesis, so the group is still open.
      rw [readItems_done hskip] at hgroup
      obtain rfl := Option.some.inj hgroup
      exact absurd hs (List.append_ne_nil_of_right_ne_nil _ (List.cons_ne_nil _ _))
  | cons c rest =>
      have hshort := Flags.length_le_of_skip hskip
      rw [List.length_cons] at hshort
      obtain ⟨less, rfl⟩ : ∃ less, more = less + 1 := ⟨more - 1, by omega⟩
      have hparenthesis : Closes [] (c :: rest) := hskip ▸ hclosed
      obtain ⟨rfl, rfl⟩ := hparenthesis.eq_of_nil
      rw [readItems_cons hskip] at hgroup
      obtain ⟨⟨next, left⟩, hstep, hread⟩ := Option.bind_eq_some_iff.1 hgroup
      obtain ⟨_, hclose, heq⟩ := Option.map_eq_some_iff.1 hstep
      obtain ⟨rfl, rfl⟩ := Prod.mk.inj heq
      rw [readItems_done (Flags.skip_nil _)] at hread
      rw [hclose, hread]

theorem parse?_eq_some {text : String} {r : Node} (h : parse? text = some r) :
    ∃ p, readItems text.length Progress.start text.toList = some p ∧ p.outer = [] ∧
      p.inner.whole.value = r := by
  obtain ⟨p, hread, h⟩ := Option.bind_eq_some_iff.1 h
  obtain ⟨hp, hr⟩ := Option.ite_none_right_eq_some.1 h
  rw [Bool.and_eq_true, List.isEmpty_iff] at hp
  exact ⟨p, hread, hp.1, Option.some.inj hr⟩

/-- What a text stands for that is an expression comes to stand behind the start of the text. -/
theorem parse?_anchored {source : String} {r s : Node} (hsource : parse? source = some r)
    (hanchored : parse? (Pattern.anchored source) = some s) :
    s = .seq (.look .textStart true) r := by
  obtain ⟨p, hp, houter, rfl⟩ := parse?_eq_some hsource
  obtain ⟨q, hq, hclosed, rfl⟩ := parse?_eq_some hanchored
  have htext : (Pattern.anchored source).toList =
      '\\' :: 'A' :: '(' :: '?' :: ':' :: (source.toList ++ [')']) := by
    simp [Pattern.anchored]
  have hlength : (Pattern.anchored source).length = source.length + 6 := by
    rw [← String.length_toList, htext]
    simp [String.length_toList]
  rw [htext, hlength] at hq
  -- The five characters in front of the pattern check for the start and open a group.
  have hopen : readItems (source.length + 6) Progress.start
      ('\\' :: 'A' :: '(' :: '?' :: ':' :: (source.toList ++ [')'])) =
      readItems (source.length + 4) (Progress.start.within Progress.anchor)
        (source.toList ++ [')']) := rfl
  rw [hopen] at hq
  have hclose := readItems_group Progress.anchor (Nat.le_of_eq String.length_toList)
    (by rw [String.length_toList]; omega) hp hq hclosed
  simp only [Progress.close?, Progress.within, houter, List.nil_append] at hclose
  obtain rfl := Option.some.inj hclose
  rfl

end Regex
end LeftRec
