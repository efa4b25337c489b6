import Mathlib.Data.Finset.Card
import Mathlib.Data.Finset.Range
import LeftRec.Proofs.Thompson
import LeftRec.Regex.Match

/-!
# Searching — the search finds a match where there is one

Every thread of a search goes back to a start of the automaton, so what a thread that is done has
saved is a match.  And whatever the automaton may come to is not lost: of every state that is
reached at a place, the states behind it are reached there, too, or it is a thread, and the threads
take the next character together.
-/

namespace LeftRec
namespace Regex

variable {program : Program} {text : List Char} {start slots : Slots} {place : Place}
variable {state n : Nat} {front : Front}

/-- A place of a text, with the characters around it. -/
def placeOf (text : List Char) (n : Nat) : Place :=
  ⟨n, (text.take n).getLast?, text[n]?⟩

theorem placeOf_append (taken rest : List Char) :
    (⟨taken.length, taken.getLast?, rest.head?⟩ : Place) =
      placeOf (taken ++ rest) taken.length := by
  simp [placeOf, List.head?_eq_getElem?, List.getElem?_append_right]

/-! ## Threads go back to a start -/

/-- A run from a state is the rest of one from the first state, at this place or before it. -/
def Rooted (program : Program) (text : List Char) (start : Slots) (n state : Nat)
    (slots : Slots) : Prop :=
  ∃ j, j ≤ n ∧ ∀ steps z, Accepts program text steps state ⟨n, slots⟩ z →
    ∃ more, Accepts program text more 0 ⟨j, start⟩ z

theorem rooted_start (program : Program) (text : List Char) (start : Slots) (n : Nat) :
    Rooted program text start n 0 start :=
  ⟨n, Nat.le_refl n, fun steps _ hrun => ⟨steps, hrun⟩⟩

theorem Rooted.move (h : Rooted program text start n state slots) {i : Instr} {m k : Nat}
    {slots' : Slots} (hi : program[state]? = some i)
    (hmove : i.Moves text state ⟨n, slots⟩ m ⟨k, slots'⟩) (hk : n ≤ k) :
    Rooted program text start k m slots' := by
  obtain ⟨j, hj, hruns⟩ := h
  exact ⟨j, Nat.le_trans hj hk, fun steps z hrun => hruns _ z (.step hi hmove hrun)⟩

/-- All threads go back to a start. -/
def AllRooted (program : Program) (text : List Char) (start : Slots) (n : Nat)
    (threads : List Thread) : Prop :=
  ∀ thread ∈ threads, Rooted program text start n thread.state thread.slots

theorem AllRooted.cons {threads : List Thread} (h : Rooted program text start n state slots)
    (hthreads : AllRooted program text start n threads) :
    AllRooted program text start n (⟨state, slots⟩ :: threads) := by
  intro thread hthread
  rcases List.mem_cons.1 hthread with rfl | hthread
  · exact h
  · exact hthreads thread hthread

theorem allRooted_follow {fuel : Nat} (h : Rooted program text start n state slots)
    (hfront : AllRooted program text start n front.threads) :
    AllRooted program text start n
      (follow program (placeOf text n) fuel state slots front).threads := by
  induction fuel generalizing state slots front with
  | zero => exact hfront
  | succ fuel ih =>
      rw [follow]
      split
      next => exact hfront
      next =>
      dsimp only
      split
      next => exact hfront
      next => exact .cons h hfront
      next => exact .cons h hfront
      next kind wide hi =>
        split
        next hholds => exact ih (h.move hi ⟨rfl, hholds, rfl⟩ (Nat.le_refl n)) hfront
        next => exact hfront
      next slot hi => exact ih (h.move hi ⟨rfl, rfl⟩ (Nat.le_refl n)) hfront
      next first second hi =>
        have hfirst := h.move hi ⟨.inl rfl, rfl⟩ (Nat.le_refl n)
        have hsecond := h.move hi ⟨.inr rfl, rfl⟩ (Nat.le_refl n)
        exact ih hsecond (ih hfirst hfront)
      next target hi => exact ih (h.move hi ⟨rfl, rfl⟩ (Nat.le_refl n)) hfront

/-- What a thread adds to a front by taking a character. -/
def pass (program : Program) (c : Char) (place : Place) (front : Front) (thread : Thread) : Front :=
  match program[thread.state]? with
  | some (.take s) =>
      if s.contains c then enter program place (thread.state + 1) thread.slots front else front
  | _ => front

theorem advance_eq (program : Program) (c : Char) (place : Place) (threads : List Thread) :
    advance program c place threads = threads.foldl (pass program c place) ⟨[], []⟩ := rfl

theorem allRooted_pass {c : Char} {thread : Thread} (hc : text[n]? = some c)
    (h : Rooted program text start n thread.state thread.slots)
    (hfront : AllRooted program text start (n + 1) front.threads) :
    AllRooted program text start (n + 1)
      (pass program c (placeOf text (n + 1)) front thread).threads := by
  unfold pass
  split
  next s hi =>
    split
    next hs =>
      exact allRooted_follow (h.move hi ⟨rfl, ⟨c, hc, hs⟩, rfl⟩ (Nat.le_succ n)) hfront
    next => exact hfront
  next => exact hfront

/-- What the threads reach by taking the character at their place goes back to a start, too. -/
theorem allRooted_advance {c : Char} {threads : List Thread} (hc : text[n]? = some c)
    (h : AllRooted program text start n threads) :
    AllRooted program text start (n + 1)
      (advance program c (placeOf text (n + 1)) threads).threads := by
  rw [advance_eq]
  have hfront : AllRooted program text start (n + 1) (Front.mk [] []).threads :=
    fun _ hthread => nomatch hthread
  generalize Front.mk [] [] = front at hfront
  induction threads generalizing front with
  | nil => exact hfront
  | cons thread threads ih =>
      have hpass := allRooted_pass hc (h thread List.mem_cons_self) hfront
      exact ih (fun t ht => h t (.tail _ ht)) _ hpass

/-- What the automaton may have saved at its end, started somewhere in the text. -/
def Reached (program : Program) (text : List Char) (start slots : Slots) : Prop :=
  ∃ j steps, j ≤ text.length ∧ Accepts program text steps 0 ⟨j, start⟩ slots

theorem untilDone_reached {threads : List Thread} (hn : n ≤ text.length)
    (h : AllRooted program text start n threads) :
    AllRooted program text start n (untilDone program threads).1 ∧
      ∀ slots ∈ (untilDone program threads).2, Reached program text start slots := by
  induction threads with
  | nil => exact ⟨fun _ hthread => (nomatch hthread), fun _ hslots => (nomatch hslots)⟩
  | cons thread threads ih =>
      obtain ⟨hlive, hfound⟩ := ih fun t ht => h t (.tail _ ht)
      obtain ⟨j, hj, hruns⟩ := h thread List.mem_cons_self
      rw [untilDone]
      split
      next hdone =>
        refine ⟨fun _ hthread => (nomatch hthread), fun slots hslots => ?_⟩
        obtain rfl := Option.some.inj hslots
        obtain ⟨more, hmore⟩ := hruns 0 _ (.done _ hdone)
        exact ⟨j, more, Nat.le_trans hj hn, hmore⟩
      next => exact ⟨.cons ⟨j, hj, hruns⟩ hlive, hfound⟩

/-- The front at a place of a search, where a match may start unless there is one. -/
def frontAt (program : Program) (start : Slots) (place : Place) (front : Front)
    (best : Option Slots) : Front :=
  if best.isSome then front else enter program place 0 start front

/-- The threads that go on from a place of a search, and the best match there. -/
def settle (program : Program) (start : Slots) (place : Place) (front : Front)
    (best : Option Slots) : List Thread × Option Slots :=
  let (live, found) := untilDone program (frontAt program start place front best).threads.reverse
  (live, found.or best)

section Search

variable {best : Option Slots}

theorem search_nil (taken : List Char) :
    search program start [] taken.length taken.getLast? front best =
      (settle program start (placeOf taken taken.length) front best).2 := by
  have hplace := placeOf_append taken []
  rw [List.append_nil] at hplace
  rw [← hplace]
  exact ite_self _

theorem search_cons (taken : List Char) (c : Char) (rest : List Char) :
    search program start (c :: rest) taken.length taken.getLast? front best =
      let settled := settle program start (placeOf (taken ++ c :: rest) taken.length) front best
      if settled.1.isEmpty && settled.2.isSome then settled.2
      else
        search program start rest (taken ++ [c]).length (taken ++ [c]).getLast?
          (advance program c (placeOf (taken ++ c :: rest) (taken.length + 1)) settled.1)
          settled.2 := by
  have hnext : placeOf (taken ++ c :: rest) (taken.length + 1) =
      ⟨taken.length + 1, some c, rest.head?⟩ := by
    have hplace := placeOf_append (taken ++ [c]) rest
    rw [List.append_assoc, List.length_append, List.length_singleton,
      List.getLast?_concat] at hplace
    exact hplace.symm
  rw [hnext, ← placeOf_append, List.length_append, List.length_singleton, List.getLast?_concat]
  rfl

theorem settle_reached (hn : n ≤ text.length)
    (hfront : AllRooted program text start n front.threads)
    (hbest : ∀ slots ∈ best, Reached program text start slots) :
    AllRooted program text start n (settle program start (placeOf text n) front best).1 ∧
      ∀ slots ∈ (settle program start (placeOf text n) front best).2,
        Reached program text start slots := by
  have hthreads : AllRooted program text start n
      (frontAt program start (placeOf text n) front best).threads := by
    unfold frontAt
    split
    · exact hfront
    · exact allRooted_follow (rooted_start program text start n) hfront
  obtain ⟨hlive, hdone⟩ := untilDone_reached hn fun t ht => hthreads t (List.mem_reverse.1 ht)
  refine ⟨hlive, fun slots hslots => ?_⟩
  rcases Option.or_eq_some_iff.1 hslots with hslots | ⟨-, hslots⟩
  · exact hdone slots hslots
  · exact hbest slots hslots

/-- What a search finds is what the automaton may have saved at its end. -/
theorem search_reached (taken rest : List Char)
    (hfront : AllRooted program (taken ++ rest) start taken.length front.threads)
    (hbest : ∀ slots ∈ best, Reached program (taken ++ rest) start slots) :
    ∀ slots ∈ search program start rest taken.length taken.getLast? front best,
      Reached program (taken ++ rest) start slots := by
  induction rest generalizing taken front best with
  | nil =>
      rw [List.append_nil] at hfront hbest ⊢
      rw [search_nil]
      exact (settle_reached (Nat.le_refl _) hfront hbest).2
  | cons c rest ih =>
      have hless : taken.length < (taken ++ c :: rest).length := by
        rw [List.length_append, List.length_cons]
        omega
      obtain ⟨hlive, hbest⟩ := settle_reached (Nat.le_of_lt hless) hfront hbest
      rw [search_cons]
      dsimp only
      split
      · exact hbest
      · have hc : (taken ++ c :: rest)[taken.length]? = some c := by simp
        have hnext := allRooted_advance hc hlive
        have htext : taken ++ c :: rest = taken ++ [c] ++ rest := by simp
        rw [htext] at hnext hbest ⊢
        refine ih _ ?_ hbest
        rwa [List.length_append, List.length_singleton]

end Search

/-! ## Nothing is lost -/

/-- From a state at a place the automaton may come to its end, whatever has been saved. -/
def Alive (program : Program) (text : List Char) (n state : Nat) : Prop :=
  ∃ steps slots z, Accepts program text steps state ⟨n, slots⟩ z

/-- What the front must hold for a state that it has reached: the states that can be reached from
there without taking a character, or else a thread. -/
def Instr.IsHandled (place : Place) (front : Front) (state : Nat) : Instr → Prop
  | .take _ | .done => ∃ slots, ⟨state, slots⟩ ∈ front.threads
  | .look kind wide =>
      kind.holds wide place.before place.after = true → state + 1 ∈ front.seen
  | .save _ => state + 1 ∈ front.seen
  | .split first second => first ∈ front.seen ∧ second ∈ front.seen
  | .jump target => target ∈ front.seen

/-- All is reached that follows a state. -/
def Handled (program : Program) (place : Place) (front : Front) (state : Nat) : Prop :=
  ∀ i, program[state]? = some i → i.IsHandled place front state

theorem handled_of_some {i : Instr} (hi : program[state]? = some i)
    (h : i.IsHandled place front state) : Handled program place front state := by
  intro j hj
  obtain rfl := Option.some.inj (hi.symm.trans hj)
  exact h

/-- Of every state that is reached all is reached that follows it. -/
def Closed (program : Program) (place : Place) (front : Front) : Prop :=
  ∀ state ∈ front.seen, Handled program place front state

/-- The second front has all that the first one has, and for each state that is new in it all that
follows. -/
structure Extends (program : Program) (place : Place) (front front' : Front) : Prop where
  seen : ∀ state ∈ front.seen, state ∈ front'.seen
  threads : ∀ thread ∈ front.threads, thread ∈ front'.threads
  handled : ∀ state ∈ front'.seen, state ∉ front.seen → Handled program place front' state

section Extends

variable {front' front'' : Front}

theorem Handled.mono (h : Handled program place front state)
    (hseen : ∀ state ∈ front.seen, state ∈ front'.seen)
    (hthreads : ∀ thread ∈ front.threads, thread ∈ front'.threads) :
    Handled program place front' state := by
  intro i hi
  have hhandled := h i hi
  cases i with
  | take | done =>
      obtain ⟨slots, hmem⟩ := hhandled
      exact ⟨slots, hthreads _ hmem⟩
  | look => exact fun hholds => hseen _ (hhandled hholds)
  | save => exact hseen _ hhandled
  | split => exact ⟨hseen _ hhandled.1, hseen _ hhandled.2⟩
  | jump => exact hseen _ hhandled

theorem Extends.thread (thread : Thread) :
    Extends program place front ⟨front.seen, thread :: front.threads⟩ :=
  ⟨fun _ h => h, fun _ h => .tail _ h, fun _ h hnot => absurd h hnot⟩

theorem Extends.refl : Extends program place front front :=
  ⟨fun _ h => h, fun _ h => h, fun _ h hnot => absurd h hnot⟩

theorem Extends.trans (h : Extends program place front front')
    (h' : Extends program place front' front'') : Extends program place front front'' where
  seen s hs := h'.seen s (h.seen s hs)
  threads t ht := h'.threads t (h.threads t ht)
  handled s hs hnot := by
    by_cases hmiddle : s ∈ front'.seen
    · exact (h.handled s hmiddle hnot).mono h'.seen h'.threads
    · exact h'.handled s hs hmiddle

theorem Extends.closed (h : Extends program place front front')
    (hclosed : Closed program place front) : Closed program place front' := by
  intro s hs
  by_cases hold : s ∈ front.seen
  · exact (hclosed s hold).mono h.seen h.threads
  · exact h.handled s hs hold

/-- A state is marked as reached, and then all that follows it is reached. -/
theorem Extends.visit (h : Extends program place ⟨state :: front.seen, front.threads⟩ front')
    (hstate : Handled program place front' state) : Extends program place front front' where
  seen s hs := h.seen s (.tail _ hs)
  threads := h.threads
  handled s hs hnot := by
    by_cases heq : s = state
    · exact heq ▸ hstate
    · exact h.handled s hs fun hmem => (List.mem_cons.1 hmem).elim heq hnot

end Extends

/-- The states that have not been reached. -/
def unseen (program : Program) (seen : List Nat) : Finset Nat :=
  (Finset.range program.size).filter (· ∉ seen)

theorem card_unseen_le {seen seen' : List Nat} (h : ∀ s ∈ seen, s ∈ seen') :
    (unseen program seen').card ≤ (unseen program seen).card := by
  refine Finset.card_le_card fun s hs => ?_
  rw [unseen, Finset.mem_filter] at hs ⊢
  exact ⟨hs.1, fun hmem => hs.2 (h s hmem)⟩

theorem card_unseen_cons_lt {seen : List Nat} {i : Instr} (hi : program[state]? = some i)
    (hnot : state ∉ seen) :
    (unseen program (state :: seen)).card < (unseen program seen).card := by
  have hrange : state ∈ Finset.range program.size :=
    Finset.mem_range.2 (Array.getElem?_eq_some_iff.1 hi).1
  refine Finset.card_lt_card (Finset.ssubset_iff_of_subset ?_ |>.2 ⟨state, ?_, ?_⟩)
  · intro s hs
    rw [unseen, Finset.mem_filter] at hs ⊢
    exact ⟨hs.1, fun hmem => hs.2 (.tail _ hmem)⟩
  · rw [unseen, Finset.mem_filter]
    exact ⟨hrange, hnot⟩
  · rw [unseen, Finset.mem_filter]
    exact fun h => h.2 List.mem_cons_self

/-- With fuel for all states that are not reached yet, a state is reached with all that follows. -/
theorem extends_follow {fuel : Nat} (hfuel : (unseen program front.seen).card < fuel) :
    Extends program place front (follow program place fuel state slots front) ∧
      state ∈ (follow program place fuel state slots front).seen := by
  induction fuel generalizing state slots front with
  | zero => exact absurd hfuel (Nat.not_lt_zero _)
  | succ fuel ih =>
      rw [follow]
      split
      next hseen => exact ⟨.refl, List.contains_iff_mem.1 hseen⟩
      next hseen =>
      have hnot : state ∉ front.seen := fun hmem => hseen (List.contains_iff_mem.2 hmem)
      dsimp only
      -- What is left to be reached is less by this state.
      have hless {i : Instr} (hi : program[state]? = some i) :
          (unseen program (state :: front.seen)).card < fuel := by
        have hcard := card_unseen_cons_lt hi hnot
        omega
      have hmarked (front' : Front) (h : Extends program place ⟨state :: front.seen, front.threads⟩
          front') : state ∈ front'.seen := h.seen state List.mem_cons_self
      split
      next hi =>
        refine ⟨.visit .refl fun i hi' => ?_, List.mem_cons_self⟩
        rw [hi] at hi'
        cases hi'
      next s hi =>
        exact ⟨.visit (.thread ⟨state, slots⟩) (handled_of_some hi ⟨slots, List.mem_cons_self⟩),
          List.mem_cons_self⟩
      next hi =>
        exact ⟨.visit (.thread ⟨state, slots⟩) (handled_of_some hi ⟨slots, List.mem_cons_self⟩),
          List.mem_cons_self⟩
      next kind wide hi =>
        split
        next hholds =>
          obtain ⟨hnext, hmem⟩ :=
            @ih slots (state + 1) ⟨state :: front.seen, front.threads⟩ (hless hi)
          exact ⟨.visit hnext (handled_of_some hi fun _ => hmem), hmarked _ hnext⟩
        next hholds =>
          exact ⟨.visit .refl (handled_of_some hi fun h => absurd h hholds), List.mem_cons_self⟩
      next slot hi =>
        obtain ⟨hnext, hmem⟩ := @ih (slots.set slot (some place.number)) (state + 1)
          ⟨state :: front.seen, front.threads⟩ (hless hi)
        exact ⟨.visit hnext (handled_of_some hi hmem), hmarked _ hnext⟩
      next first second hi =>
        obtain ⟨hfirst, hmem⟩ := @ih slots first ⟨state :: front.seen, front.threads⟩ (hless hi)
        have hfewer := Nat.lt_of_le_of_lt (card_unseen_le hfirst.seen) (hless hi)
        obtain ⟨hsecond, hmem'⟩ := @ih slots second _ hfewer
        have hboth := hfirst.trans hsecond
        exact ⟨.visit hboth (handled_of_some hi ⟨hsecond.seen _ hmem, hmem'⟩), hmarked _ hboth⟩
      next target hi =>
        obtain ⟨hnext, hmem⟩ := @ih slots target ⟨state :: front.seen, front.threads⟩ (hless hi)
        exact ⟨.visit hnext (handled_of_some hi hmem), hmarked _ hnext⟩

theorem extends_enter (state : Nat) (slots : Slots) (front : Front) :
    Extends program place front (enter program place state slots front) ∧
      state ∈ (enter program place state slots front).seen := by
  refine extends_follow (Nat.lt_succ_of_le ?_)
  have hle := Finset.card_filter_le (Finset.range program.size) (· ∉ front.seen)
  rwa [Finset.card_range] at hle

/-- A thread that is done, or that takes the next character and may then come to the end. -/
inductive Lives (program : Program) (text : List Char) (n : Nat) (thread : Thread) : Prop
  | done (h : program[thread.state]? = some .done)
  | takes {s : CharSet} {c : Char} (h : program[thread.state]? = some (.take s))
      (hc : text[n]? = some c) (hs : s.contains c) (hnext : Alive program text (n + 1)
        (thread.state + 1))

/-- Where all is reached that follows, a state that may come to the end leads to a thread that
does. -/
theorem exists_lives (hclosed : Closed program (placeOf text n) front)
    (hmem : state ∈ front.seen) (halive : Alive program text n state) :
    ∃ thread ∈ front.threads, Lives program text n thread := by
  obtain ⟨steps, slots, z, hrun⟩ := halive
  -- The run is followed as long as it takes no character, and all that it comes to is reached.
  induction steps generalizing state slots with
  | zero =>
      cases hrun with
      | done _ hdone =>
          obtain ⟨slots, hthread⟩ := hclosed state hmem _ hdone
          exact ⟨_, hthread, .done hdone⟩
  | succ steps ih =>
      cases hrun with
      | @step i _ _ m _ b _ hi hmove hrest =>
          have hhandled := hclosed state hmem i hi
          cases i with
          | take s =>
              obtain ⟨slots, hthread⟩ := hhandled
              obtain ⟨rfl, ⟨c, hc, hs⟩, rfl⟩ := hmove
              exact ⟨_, hthread, .takes hi hc hs ⟨steps, _, z, hrest⟩⟩
          | look kind wide =>
              obtain ⟨rfl, hholds, rfl⟩ := hmove
              exact ih (hhandled hholds) _ hrest
          | save slot =>
              obtain ⟨rfl, rfl⟩ := hmove
              exact ih hhandled _ hrest
          | split first second =>
              obtain ⟨rfl | rfl, rfl⟩ := hmove
              · exact ih hhandled.1 _ hrest
              · exact ih hhandled.2 _ hrest
          | jump target =>
              obtain ⟨rfl, rfl⟩ := hmove
              exact ih hhandled _ hrest
          | done => exact hmove.elim

/-- Where no thread is done, all of them go on. -/
theorem untilDone_of_none {threads : List Thread} (h : (untilDone program threads).2 = none) :
    (untilDone program threads).1 = threads ∧
      ∀ thread ∈ threads, program[thread.state]? ≠ some .done := by
  induction threads with
  | nil => exact ⟨rfl, fun _ hthread => nomatch hthread⟩
  | cons thread threads ih =>
      rw [untilDone] at h ⊢
      split at h
      next => cases h
      next hne =>
        obtain ⟨hlive, hnone⟩ := ih h
        refine ⟨congrArg (thread :: ·) hlive, fun t ht => ?_⟩
        rcases List.mem_cons.1 ht with rfl | ht
        · exact hne
        · exact hnone t ht

theorem extends_pass (c : Char) (thread : Thread) :
    Extends program place front (pass program c place front thread) := by
  unfold pass
  split
  · split
    · exact (extends_enter _ _ front).1
    · exact .refl
  · exact .refl

theorem mem_seen_pass {c : Char} {thread : Thread} {s : CharSet}
    (hi : program[thread.state]? = some (.take s)) (hs : s.contains c) :
    thread.state + 1 ∈ (pass program c place front thread).seen := by
  rw [pass, hi]
  dsimp only
  rw [if_pos hs]
  exact (extends_enter _ _ front).2

theorem extends_foldl_pass (c : Char) (threads : List Thread) :
    Extends program place front (threads.foldl (pass program c place) front) ∧
      ∀ thread ∈ threads, ∀ s, program[thread.state]? = some (.take s) → s.contains c →
        thread.state + 1 ∈ (threads.foldl (pass program c place) front).seen := by
  induction threads generalizing front with
  | nil => exact ⟨.refl, fun _ hthread => nomatch hthread⟩
  | cons thread threads ih =>
      rw [List.foldl_cons]
      obtain ⟨hrest, hmem⟩ := @ih (pass program c place front thread)
      refine ⟨(extends_pass c thread).trans hrest, fun t ht s hi hs => ?_⟩
      rcases List.mem_cons.1 ht with rfl | ht
      · exact hrest.seen _ (mem_seen_pass hi hs)
      · exact hmem t ht s hi hs

theorem closed_nil : Closed program place ⟨[], []⟩ :=
  fun _ hmem => nomatch hmem

/-- What the threads reach by taking the character is closed. -/
theorem closed_advance (c : Char) (place : Place) (threads : List Thread) :
    Closed program place (advance program c place threads) :=
  (extends_foldl_pass c threads).1.closed closed_nil

section Search

variable {best : Option Slots}

theorem isSome_settle (h : best.isSome) :
    (settle program start place front best).2.isSome := by
  show (Option.or _ best).isSome = true
  rw [Option.isSome_or, h, Bool.or_true]

theorem isSome_search (taken rest : List Char) (h : best.isSome) :
    (search program start rest taken.length taken.getLast? front best).isSome := by
  induction rest generalizing taken front best with
  | nil =>
      rw [search_nil]
      exact isSome_settle h
  | cons c rest ih =>
      rw [search_cons]
      dsimp only
      split
      · exact isSome_settle h
      · exact ih _ (isSome_settle h)

/-- What has yet to be found: a state that is reached at this place, or a later start, from which
the automaton may come to its end. -/
def Pending (program : Program) (text : List Char) (n : Nat) (front : Front) : Prop :=
  (∃ state ∈ front.seen, Alive program text n state) ∨
    ∃ j, n ≤ j ∧ j ≤ text.length ∧ Alive program text j 0

/-- What has yet to be found is found at this place, or has yet to be found at the next one. -/
theorem Pending.settle {start : Slots} (h : Pending program text n front)
    (hclosed : Closed program (placeOf text n) front)
    (hnone : (settle program start (placeOf text n) front none).2 = none) :
    ∃ c, text[n]? = some c ∧ Pending program text (n + 1)
      (advance program c (placeOf text (n + 1))
        (settle program start (placeOf text n) front none).1) := by
  let front' := enter program (placeOf text n) 0 start front
  obtain ⟨hextends, hstart⟩ : Extends program (placeOf text n) front front' ∧ 0 ∈ front'.seen :=
    extends_enter 0 start front
  have hdone : (untilDone program front'.threads.reverse).2 = none := by
    rwa [← Option.or_none (o := (untilDone program front'.threads.reverse).2)]
  obtain ⟨hlive, hnone⟩ := untilDone_of_none hdone
  have hsettle : (Regex.settle program start (placeOf text n) front none).1 =
      front'.threads.reverse := hlive
  rw [hsettle]
  -- A thread that may come to the end takes the next character, for none is done.
  have hgo (state : Nat) (hmem : state ∈ front'.seen) (halive : Alive program text n state) :
      ∃ c, text[n]? = some c ∧ Pending program text (n + 1)
        (advance program c (placeOf text (n + 1)) front'.threads.reverse) := by
    obtain ⟨thread, hthread, hlives⟩ := exists_lives (hextends.closed hclosed) hmem halive
    have hreverse := List.mem_reverse.2 hthread
    cases hlives with
    | done h => exact absurd h (hnone thread hreverse)
    | takes h hc hs hnext =>
        exact ⟨_, hc, .inl ⟨_, (extends_foldl_pass _ _).2 thread hreverse _ h hs, hnext⟩⟩
  -- A match may be under way here, start here, or start later.
  rcases h with ⟨state, hmem, halive⟩ | ⟨j, hj, hlength, halive⟩
  · exact hgo state (hextends.seen state hmem) halive
  · rcases Nat.eq_or_lt_of_le hj with rfl | hless
    · exact hgo 0 hstart halive
    · have hlt : n < text.length := Nat.lt_of_lt_of_le hless hlength
      exact ⟨text[n], List.getElem?_eq_getElem hlt, .inr ⟨j, hless, hlength, halive⟩⟩

/-- What has yet to be found is found. -/
theorem isSome_search_of_pending (taken rest : List Char)
    (h : Pending program (taken ++ rest) taken.length front)
    (hclosed : Closed program (placeOf (taken ++ rest) taken.length) front) :
    (search program start rest taken.length taken.getLast? front none).isSome := by
  induction rest generalizing taken front with
  | nil =>
      rw [List.append_nil] at h hclosed
      rw [search_nil, ← Option.ne_none_iff_isSome]
      intro hnone
      obtain ⟨c, hc, -⟩ := h.settle hclosed hnone
      rw [List.getElem?_eq_none (Nat.le_refl _)] at hc
      cases hc
  | cons c rest ih =>
      rw [search_cons]
      dsimp only
      cases hsettle : (settle program start (placeOf (taken ++ c :: rest) taken.length) front
          none).2 with
      | some slots =>
          split
          · rfl
          · exact isSome_search _ _ rfl
      | none =>
          obtain ⟨c', hc', hpending⟩ := h.settle hclosed hsettle
          obtain rfl : c = c' := by simpa using hc'
          rw [Option.isSome_none, Bool.and_false, if_neg Bool.false_ne_true]
          have hclosed : Closed program (placeOf (taken ++ c :: rest) (taken.length + 1)) _ :=
            closed_advance c _
              (settle program start (placeOf (taken ++ c :: rest) taken.length) front none).1
          generalize advance program c _ _ = front' at hpending hclosed ⊢
          have htext : taken ++ c :: rest = taken ++ [c] ++ rest := by simp
          have hlength : taken.length + 1 = (taken ++ [c]).length := by simp
          rw [htext, hlength] at hpending hclosed
          exact ih _ hpending hclosed

end Search

/-! ## Automata as an engine -/

theorem compile?_eq_some {source : String} {r : Node} {e : Automaton}
    (hparse : parse? source = some r) (h : Automaton.compile? source = some e) :
    e = ⟨r.program, r.groups⟩ := by
  rw [Automaton.compile?, hparse, Option.bind_some] at h
  obtain ⟨-, he⟩ := Option.ite_none_right_eq_some.1 h
  exact (Option.some.inj he).symm

instance : LawfulEngine Automaton where
  isSome_parse? h := by
    obtain ⟨r, hr, -⟩ := Option.bind_eq_some_iff.1 h
    exact Option.isSome_of_eq_some hr
  isSome_compile? {source r} hparse hweight := by
    show (Automaton.compile? source).isSome = true
    rw [Automaton.compile?, hparse, Option.bind_some, if_pos hweight]
    rfl
  finds_of_captures {source r e text captures} hparse hcompile h := by
    obtain rfl := compile?_eq_some hparse hcompile
    obtain ⟨slots, hslots, rfl⟩ := Option.map_eq_some_iff.1 h
    have hfront : AllRooted r.program ([] ++ text) (unsaved r.groups) 0 [] :=
      fun _ hthread => nomatch hthread
    obtain ⟨j, steps, hj, hrun⟩ := search_reached [] text hfront
      (fun slots hbest => absurd hbest (Option.not_mem_none slots)) slots hslots
    obtain ⟨b, hmatch, rfl⟩ := exists_accepts_program.1 ⟨steps, hrun⟩
    exact ⟨j, b, hj, hmatch, rfl⟩
  isSome_captures {source r e text captures} hparse hcompile h := by
    obtain rfl := compile?_eq_some hparse hcompile
    obtain ⟨start, b, hstart, hmatch, -⟩ := h
    obtain ⟨steps, hrun⟩ := exists_accepts_program.2 ⟨b, hmatch, rfl⟩
    have hpending : Pending r.program ([] ++ text) 0 ⟨[], []⟩ :=
      .inr ⟨start, Nat.zero_le _, hstart, steps, _, _, hrun⟩
    show (Option.map pairUp _).isSome = true
    rw [Option.isSome_map]
    exact isSome_search_of_pending [] text hpending closed_nil

end Regex
end LeftRec
